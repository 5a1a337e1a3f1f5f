import Elektrine.ActivityPub.ObjectValidator
import Elektrine.Library.Attempts

/-!
# The authors of embedded objects

Two checks look at the authors that an embedded object names.  The containment compares the
first one with the object's id, and the validator asks that the activity's actor be among
them.  No check looks at an author who is neither, and no check ties an object without
authors to the activity's actor.
-/

namespace Elektrine.ActivityPub

open Elektrine.Library Elektrine.Security

def textOf : Json → List String
  | .str text => [text]
  | _ => []

def authorOf : Json → List String
  | .str text => [text]
  | .obj fields => textOf ((Json.obj fields).get "id")
  | _ => []

def namedAuthors : Json → List String
  | .arr values => values.flatMap authorOf
  | value => authorOf value

def objectAuthors (object : Json) : List String :=
  namedAuthors (object.get "actor") ++ namedAuthors (object.get "attributedTo")

def objectNames (object : Json) : List String :=
  textOf (object.get "id") ++ objectAuthors object

def activityNames (activity : Json) : List String :=
  textOf (activity.get "actor") ++ textOf (activity.get "id")

/-- Everything that the object claims is on the host of the activity. -/
def Contained (activity : Json) : Prop :=
  ∀ claimed ∈ objectNames (activity.get "object"), ∀ own ∈ activityNames activity,
    sameOrigin claimed own = true

/-- What the checks leave open: the authors beside the actor, and the id of an object
without authors. -/
def UncheckedContained (activity : Json) : Prop :=
  ∀ actor ∈ textOf (activity.get "actor"),
    (∀ author ∈ objectAuthors (activity.get "object"), author ≠ actor →
      sameOrigin author actor = true) ∧
    ((activity.get "object").has "actor" = false →
      (activity.get "object").has "attributedTo" = false →
        ∀ id ∈ textOf ((activity.get "object").get "id"), sameOrigin id actor = true)

/-- The activity creates or updates an object that it embeds. -/
def Embeds (activity : Json) : Prop :=
  (activity.get "type" = .str "Create" ∨ activity.get "type" = .str "Update") ∧
    (activity.get "object").isMap = true

theorem mem_textOf_iff {value : Json} {text : String} :
    text ∈ textOf value ↔ value = .str text := by
  cases value <;> simp [textOf, eq_comm]

theorem mem_authorOf_of_get_id {value : Json} {id : String} (identified : value.get "id" = .str id) :
    id ∈ authorOf value := by
  cases value with
  | obj fields => exact mem_textOf_iff.mpr identified
  | null => cases identified
  | bool value => cases identified
  | int value => cases identified
  | float mantissa exponent => cases identified
  | str text => cases identified
  | arr items => cases identified

theorem get_id_of_typedActor {item : Json} {actor : String} (typed : typedActor item = some actor) :
    item.get "id" = .str actor := by
  unfold typedActor at typed
  split_ifs at typed with actorType
  exact Json.asString?_eq_some_iff.mp typed

theorem mem_namedAuthors_of_list {items : List Json} {actor : String}
    (read : normalizeActor (.arr items) = some actor) : actor ∈ namedAuthors (.arr items) := by
  have typed : items.findSome? typedActor = some actor → actor ∈ items.flatMap authorOf := by
    intro found
    obtain ⟨item, listed, itemTyped⟩ := List.exists_of_findSome?_eq_some found
    exact List.mem_flatMap.mpr
      ⟨item, listed, mem_authorOf_of_get_id (get_id_of_typedActor itemTyped)⟩
  cases items with
  | nil => exact typed read
  | cons first others =>
      cases first with
      | str text =>
          cases read
          exact List.mem_flatMap.mpr
            ⟨.str actor, List.mem_cons_self, List.mem_singleton.mpr rfl⟩
      | null => exact typed read
      | bool value => exact typed read
      | int value => exact typed read
      | float mantissa exponent => exact typed read
      | arr inner => exact typed read
      | obj fields => exact typed read

theorem mem_namedAuthors_of_normalizeActor {value : Json} {actor : String}
    (read : normalizeActor value = some actor) : actor ∈ namedAuthors value := by
  cases value with
  | str text =>
      cases read
      exact List.mem_singleton.mpr rfl
  | obj fields => exact mem_textOf_iff.mpr (Json.asString?_eq_some_iff.mp read)
  | arr items => exact mem_namedAuthors_of_list read
  | null => cases read
  | bool value => cases read
  | int value => cases read
  | float mantissa exponent => cases read

theorem mem_objectAuthors_of_actorUri {object : Json} {author : String}
    (read : actorUri object = some author)
    (fielded : object.has "actor" = true ∨ object.has "attributedTo" = true) :
    author ∈ objectAuthors object := by
  apply List.mem_append.mpr
  unfold actorUri at read
  split_ifs at read with hasActor hasAttribution
  · exact .inl (mem_namedAuthors_of_normalizeActor read)
  · exact .inr (mem_namedAuthors_of_normalizeActor read)
  · rcases fielded with present | present
    · exact absurd present hasActor
    · exact absurd present hasAttribution

theorem sameOrigin_symm {left right : String} (same : sameOrigin left right = true) :
    sameOrigin right left = true := by
  obtain ⟨leftHost, rightHost, leftParsed, rightParsed, equal⟩ := sameOrigin_iff.mp same
  exact sameOrigin_iff.mpr ⟨rightHost, leftHost, rightParsed, leftParsed, equal.symm⟩

structure Passed (activity : Json) (actor id : String) : Prop where
  performed : activity.get "actor" = .str actor
  identified : activity.get "id" = .str id
  own : sameOrigin actor id = true
  child : containOrigin (activity.get "object") = .ok ()

variable (resolver : Resolver) (other : Json → Except String Json)

theorem validateBasicStructure_eq {activity checked : Json}
    (valid : validateBasicStructure activity = .ok checked) : checked = activity := by
  unfold validateBasicStructure at valid
  simp only at valid
  split_ifs at valid
  cases valid
  rfl

theorem validateActor_eq {activity checked : Json}
    (valid : validateActor resolver activity = .ok checked) : checked = activity := by
  unfold validateActor at valid
  split at valid
  · split at valid
    · split_ifs at valid
      cases valid
      rfl
    · cases valid
  · split_ifs at valid
    cases valid
    rfl

theorem id_of_validateBasicStructure {activity checked : Json}
    (valid : validateBasicStructure activity = .ok checked)
    (kept : activity.get "type" ≠ .str "Delete") :
    ∃ id, activity.get "id" = .str id := by
  have named : (activity.get "type").asString? ≠ some "Delete" := by
    intro deletes
    exact kept (Json.asString?_eq_some_iff.mp deletes)
  unfold validateBasicStructure at valid
  cases identifier : activity.get "id" with
  | str id => exact ⟨id, rfl⟩
  | _ =>
      simp only [identifier, beq_eq_false_iff_ne.mpr named] at valid
      split_ifs at valid
      simp_all

theorem actor_of_validateActor {activity checked : Json}
    (valid : validateActor resolver activity = .ok checked)
    (active : isActorType (activity.get "type") = false) :
    ∃ actor, activity.get "actor" = .str actor := by
  unfold validateActor at valid
  cases performer : activity.get "actor" with
  | str actor => exact ⟨actor, rfl⟩
  | _ => simp [performer, active] at valid

theorem actorUri_of_actor {activity : Json} {actor : String}
    (performed : activity.get "actor" = .str actor) : actorUri activity = some actor := by
  have present : activity.has "actor" = true := by
    cases activity with
    | obj fields =>
        cases found : fields.lookup "actor" with
        | none => simp [Json.get, found] at performed
        | some value => simp [Json.has, found]
    | null => cases performed
    | bool value => cases performed
    | int value => cases performed
    | float mantissa exponent => cases performed
    | str text => cases performed
    | arr items => cases performed
  rw [actorUri, if_pos present, performed]
  rfl

theorem validate_ok_iff {activity accepted : Json} :
    validate resolver other activity = .ok accepted ↔
      activity.isMap = true ∧ validateBasicStructure activity = .ok activity ∧
        validateActor resolver activity = .ok activity ∧ validateActivity activity = .ok () ∧
          validateTypeSpecific resolver other activity = .ok accepted := by
  unfold validate
  constructor
  · intro valid
    split_ifs at valid with absent
    · cases valid
    · obtain ⟨structured, basic, valid⟩ := mapError_bind_ok_iff.mp valid
      obtain ⟨performed, actor, valid⟩ := mapError_bind_ok_iff.mp valid
      obtain ⟨passed, contained, valid⟩ := mapError_bind_ok_iff.mp valid
      cases validateBasicStructure_eq basic
      cases validateActor_eq resolver actor
      exact ⟨by simpa using absent, basic, actor, contained, mapError_ok_iff.mp valid⟩
  · intro valid
    obtain ⟨present, basic, actor, contained, typed⟩ := valid
    rw [present]
    refine mapError_bind_ok_iff.mpr ⟨activity, basic, ?_⟩
    refine mapError_bind_ok_iff.mpr ⟨activity, actor, ?_⟩
    exact mapError_bind_ok_iff.mpr ⟨(), contained, mapError_ok_iff.mpr typed⟩

theorem validateActivity_of_embeds {activity : Json} (embeds : Embeds activity)
    (contained : validateActivity activity = .ok ()) :
    containOrigin activity = .ok () ∧ containOrigin (activity.get "object") = .ok () := by
  obtain ⟨typed, embedded⟩ := embeds
  have both : (containOrigin activity >>= fun _ => containOrigin (activity.get "object") >>=
      fun _ => containChild activity) = .ok () := by
    unfold validateActivity at contained
    rcases typed with typed | typed
    · rw [typed] at contained
      simpa [embedded] using contained
    · rw [typed] at contained
      simpa [embedded] using contained
  cases own : containOrigin activity with
  | error reason =>
      rw [own] at both
      cases both
  | ok passed =>
      cases child : containOrigin (activity.get "object") with
      | error reason =>
          rw [own, child] at both
          cases both
      | ok passed => exact ⟨rfl, rfl⟩

theorem Embeds.kept {activity : Json} (embeds : Embeds activity) :
    activity.get "type" ≠ .str "Delete" := by
  intro deletes
  rcases embeds.1 with typed | typed <;> simp [typed] at deletes

theorem Embeds.active {activity : Json} (embeds : Embeds activity) :
    isActorType (activity.get "type") = false := by
  rcases embeds.1 with typed | typed
  · rw [typed]
    rfl
  · rw [typed]
    rfl

theorem passed_of_validate {activity accepted : Json} (embeds : Embeds activity)
    (valid : validate resolver other activity = .ok accepted) :
    ∃ actor id, Passed activity actor id := by
  obtain ⟨_, structured, performs, contained, _⟩ := (validate_ok_iff resolver other).mp valid
  obtain ⟨id, identified⟩ := id_of_validateBasicStructure structured embeds.kept
  obtain ⟨actor, performed⟩ := actor_of_validateActor resolver performs embeds.active
  obtain ⟨own, child⟩ := validateActivity_of_embeds embeds contained
  obtain ⟨read, actorRead, same⟩ := containOrigin_ok identified own
  rw [actorUri_of_actor performed] at actorRead
  cases actorRead
  exact ⟨actor, id, performed, identified, same, child⟩

namespace Passed

variable {activity : Json} {actor id : String} (passed : Passed activity actor id)

include passed

theorem mem_activityNames_iff {own : String} :
    own ∈ activityNames activity ↔ own = actor ∨ own = id := by
  simp [activityNames, textOf, passed.performed, passed.identified]

theorem contained_iff :
    Contained activity ↔
      ∀ claimed ∈ objectNames (activity.get "object"), sameOrigin claimed actor = true := by
  constructor
  · intro contained claimed claims
    exact contained claimed claims actor (passed.mem_activityNames_iff.mpr (.inl rfl))
  · intro same claimed claims own owned
    rcases passed.mem_activityNames_iff.mp owned with isActor | isId
    · rw [isActor]
      exact same claimed claims
    · rw [isId]
      exact sameOrigin_trans (same claimed claims) passed.own

theorem sameOrigin_self : sameOrigin actor actor = true :=
  sameOrigin_trans passed.own (sameOrigin_symm passed.own)

theorem id_sameOrigin {objectId : String}
    (identified : (activity.get "object").get "id" = .str objectId)
    (fielded : (activity.get "object").has "actor" = true ∨
      (activity.get "object").has "attributedTo" = true)
    (authors : ∀ author ∈ objectAuthors (activity.get "object"),
      sameOrigin author actor = true) : sameOrigin objectId actor = true := by
  obtain ⟨author, read, same⟩ := containOrigin_ok identified passed.child
  exact sameOrigin_trans (sameOrigin_symm same)
    (authors author (mem_objectAuthors_of_actorUri read fielded))

end Passed

/-- The object of an accepted activity is contained exactly when what the checks leave open
is contained. -/
theorem embedded_object_contained_iff {activity accepted : Json} (embeds : Embeds activity)
    (valid : validate resolver other activity = .ok accepted) :
    Contained activity ↔ UncheckedContained activity := by
  obtain ⟨actor, id, passed⟩ := passed_of_validate resolver other embeds valid
  rw [passed.contained_iff]
  constructor
  · intro contained performer performs
    cases passed.performed.symm.trans (mem_textOf_iff.mp performs)
    refine ⟨?_, ?_⟩
    · intro author named _
      exact contained author (List.mem_append_right _ named)
    · intro _ _ objectId identifies
      exact contained objectId (List.mem_append_left _ identifies)
  · intro unchecked
    obtain ⟨others, unattributed⟩ := unchecked actor (mem_textOf_iff.mpr passed.performed)
    have authors : ∀ author ∈ objectAuthors (activity.get "object"),
        sameOrigin author actor = true := by
      intro author named
      by_cases performer : author = actor
      · rw [performer]
        exact passed.sameOrigin_self
      · exact others author named performer
    intro claimed claims
    rcases List.mem_append.mp claims with identifies | named
    · by_cases fielded : (activity.get "object").has "actor" = true ∨
          (activity.get "object").has "attributedTo" = true
      · exact passed.id_sameOrigin (mem_textOf_iff.mp identifies) fielded authors
      · rw [not_or, Bool.not_eq_true, Bool.not_eq_true] at fielded
        exact unattributed fielded.1 fielded.2 claimed identifies
    · exact authors claimed named

def silentResolver : Resolver :=
  { parseAddress := fun _ => none
    lookupA := fun _ => none
    lookupAaaa := fun _ => none }

/-- The note of `https://a.example/m`, with another attribution beside the actor. -/
def attributedNote (author : String) : Json :=
  .obj [("type", .str "Note"), ("id", .str "https://a.example/2"), ("content", .str "hello"),
    ("actor", .str "https://a.example/m"), ("attributedTo", .str author)]

def creation (author : String) : Json :=
  .obj [("type", .str "Create"), ("id", .str "https://a.example/1"),
    ("actor", .str "https://a.example/m"), ("object", attributedNote author)]

theorem creation_embeds (author : String) : Embeds (creation author) :=
  ⟨.inl rfl, rfl⟩

theorem attributedNote_valid (author : String) :
    validateObject silentResolver (normalizeEmbeddedObject (attributedNote author)) =
      .ok (attributedNote author) := by
  rfl

theorem validateObjectAuthorMatchesActivity_ok {activity object : Json} {actor : String}
    (performed : activity.get "actor" = .str actor) (named : actor ∈ objectActors object) :
    validateObjectAuthorMatchesActivity activity object = .ok () := by
  rw [validateObjectAuthorMatchesActivity, performed]
  exact if_pos (Or.inr named)

theorem creation_author_matches (author : String) :
    validateObjectAuthorMatchesActivity (creation author) (attributedNote author) = .ok () := by
  apply validateObjectAuthorMatchesActivity_ok rfl
  exact List.mem_append_left _ (List.mem_singleton.mpr rfl)

theorem creation_embedding (author : String) :
    validateEmbedding silentResolver "Create" (creation author) =
      .ok ((creation author).put "object" (attributedNote author)) := by
  change (validateObject silentResolver (normalizeEmbeddedObject (attributedNote author)) >>=
    fun object => validateObjectAuthorMatchesActivity (creation author) object >>=
      fun _ => validateObjectAddressingMatchesActivity (creation author) object >>=
        fun _ => .ok ((creation author).put "object" object)) = _
  rw [attributedNote_valid]
  change (validateObjectAuthorMatchesActivity (creation author) (attributedNote author) >>=
    fun _ => validateObjectAddressingMatchesActivity (creation author) (attributedNote author) >>=
      fun _ => .ok ((creation author).put "object" (attributedNote author))) = _
  rw [creation_author_matches]
  rfl

theorem creation_accepted (author : String) :
    validate silentResolver .ok (creation author) =
      .ok ((creation author).put "object" (attributedNote author)) := by
  refine (validate_ok_iff silentResolver .ok).mpr ⟨rfl, rfl, ?_, rfl, creation_embedding author⟩
  rfl

theorem embedded_object_contained_iff_creation :
    Contained (creation "https://a.example/m") ↔
      UncheckedContained (creation "https://a.example/m") :=
  embedded_object_contained_iff silentResolver .ok (creation_embeds _) (creation_accepted _)

/-- The note is attributed to an author of another server. -/
theorem foreign_attribution_accepted :
    ¬ ∀ (resolver : Resolver) (other : Json → Except String Json) (activity accepted : Json),
      Embeds activity → validate resolver other activity = .ok accepted →
        Contained activity := by
  intro contained
  have foreign : sameOrigin "https://b.example/v" "https://a.example/m" = true :=
    contained silentResolver .ok (creation "https://b.example/v") _ (creation_embeds _)
      (creation_accepted _) "https://b.example/v"
      (List.mem_append_right _ (List.mem_append_right _ (List.mem_singleton.mpr rfl)))
      "https://a.example/m" (List.mem_append_left _ (List.mem_singleton.mpr rfl))
  revert foreign
  decide

end Elektrine.ActivityPub
