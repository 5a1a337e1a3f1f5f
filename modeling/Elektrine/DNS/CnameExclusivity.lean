import Elektrine.Library.Runs
import Elektrine.DNS.Query
import Elektrine.DNS.RecordWrites

/-!
# A CNAME is alone at its name

What it takes for the writes of a zone to keep a CNAME the only record of its owner
name, over whole runs, and for the check never to refuse a change that keeps it so.
-/

namespace Elektrine.DNS.RecordWrites

open Library

variable {policy : Policy} {zone : Zone} {table : Table}

/-- Neither of two records of one name is a CNAME. -/
def Coexist (first second : Record) : Prop :=
  first.name = second.name → first.type ≠ "CNAME" ∧ second.type ≠ "CNAME"

theorem Coexist.symm {first second : Record} (coexist : Coexist first second) :
    Coexist second first :=
  fun same => (coexist same.symm).symm

def ownerName (zone : Zone) (record : Record) : String :=
  Query.recordName zone (.row none record)

/-- No owner name has a CNAME and another record, or two of them. -/
def Exclusive (zone : Zone) (table : Table) : Prop :=
  ∀ first ∈ table.rows, ∀ second ∈ table.rows, first.id ≠ second.id →
    ownerName zone first = ownerName zone second →
    first.type ≠ "CNAME" ∧ second.type ≠ "CNAME"

structure Relative (zone : Zone) (name : String) : Prop where
  normal : DNS.normalizeName name = name
  nonempty : name ≠ ""
  below : name = "@" ∨ name ≠ zone.domain ∧ endsWith name ("." ++ zone.domain) = false

structure Proper (zone : Zone) : Prop where
  normal : DNS.normalizeName zone.domain = zone.domain
  nonempty : zone.domain ≠ ""

theorem downcase_of_normal {name : String} (normal : DNS.normalizeName name = name) :
    downcase name = name := by
  calc downcase name = downcase (normalizeOwner name) := by
        rw [normalizeOwner_eq_normalizeName, normal]
    _ = normalizeOwner name := downcase_downcase _
    _ = name := by rw [normalizeOwner_eq_normalizeName, normal]

theorem trimTrailingDots_of_normal {name : String}
    (normal : DNS.normalizeName name = name) : trimTrailingDots name = name := by
  calc trimTrailingDots name = trimTrailingDots (DNS.normalizeName name) := by rw [normal]
    _ = DNS.normalizeName name := trimTrailingDots_idempotent _
    _ = name := normal

theorem normalizeName_under {name : String} (folded : DNS.normalizeName name = name)
    (proper : Proper zone) :
    DNS.normalizeName (name ++ "." ++ zone.domain) = name ++ "." ++ zone.domain := by
  have lower : downcase (name ++ "." ++ zone.domain) = name ++ "." ++ zone.domain := by
    apply String.toList_inj.mp
    have left := congrArg String.toList (downcase_of_normal folded)
    have right := congrArg String.toList (downcase_of_normal proper.normal)
    rw [toList_downcase] at left right
    simp only [toList_downcase, String.toList_append, List.map_append, left, right]
    rfl
  have last := congrArg String.toList (trimTrailingDots_of_normal proper.normal)
  rw [trimTrailingDots, String.toList_ofList, List.rdropWhile_eq_self_iff] at last
  have filled : zone.domain.toList ≠ [] := by
    simpa using proper.nonempty
  rw [DNS.normalizeName, lower, trimTrailingDots]
  apply String.toList_inj.mp
  rw [String.toList_ofList, List.rdropWhile_eq_self_iff, String.toList_append]
  intro nonempty
  rw [List.getLast_append_of_ne_nil _ filled]
  exact last filled

theorem ownerName_of_relative (proper : Proper zone) {record : Record}
    (relative : Relative zone record.name) :
    ownerName zone record =
      if record.name = "@" then zone.domain else record.name ++ "." ++ zone.domain := by
  unfold ownerName Query.recordName
  dsimp only
  rw [relative.normal, proper.normal]
  by_cases isApex : record.name = "@"
  · rw [if_pos (.inr isApex), if_pos isApex]
  · rcases relative.below with apex | below
    · exact absurd apex isApex
    · rw [if_neg (not_or.mpr ⟨relative.nonempty, isApex⟩), if_neg below.1,
        if_neg (by simp [below.2]), if_neg isApex,
        normalizeName_under relative.normal proper]

theorem name_eq_of_ownerName (proper : Proper zone) {first second : Record}
    (firstRelative : Relative zone first.name) (secondRelative : Relative zone second.name)
    (same : ownerName zone first = ownerName zone second) : first.name = second.name := by
  have longer : ∀ name : String, name ++ "." ++ zone.domain ≠ zone.domain := by
    intro name equal
    have lengths := congrArg (fun text => text.toList.length) equal
    simp at lengths
    omega
  rw [ownerName_of_relative proper firstRelative,
    ownerName_of_relative proper secondRelative] at same
  split_ifs at same with firstApex secondApex secondApex
  · rw [firstApex, secondApex]
  · exact absurd same.symm (longer _)
  · exact absurd same (longer _)
  · have texts := congrArg String.toList same
    simp only [String.toList_append] at texts
    exact String.toList_inj.mp (List.append_cancel_right (List.append_cancel_right texts))

structure Sound (zone : Zone) (table : Table) : Prop where
  relative : ∀ record ∈ table.rows, Relative zone record.name
  coexist : table.Apart Coexist

theorem Sound.exclusive (proper : Proper zone) (sound : Sound zone table) :
    Exclusive zone table := by
  intro first firstMember second secondMember different same
  exact sound.coexist first firstMember second secondMember different
    (name_eq_of_ownerName proper (sound.relative first firstMember)
      (sound.relative second secondMember) same)

theorem Sound.retain (sound : Sound zone table) (keep : Record → Bool) :
    Sound zone (table.retain keep) where
  relative record member := sound.relative record (KeyedRows.mem_retain.mp member).1
  coexist := sound.coexist.retain keep

theorem Sound.put (sound : Sound zone table) {row : Record}
    (relative : Relative zone row.name)
    (alone : ∀ other ∈ table.rows, other.id ≠ row.id → Coexist row other) :
    Sound zone (table.put row) where
  relative record member := by
    rcases KeyedRows.mem_put.mp member with old | written
    · exact sound.relative record old.1
    · rw [written]
      exact relative
  coexist := sound.coexist.put (fun _ _ => Coexist.symm) alone

section Checks

theorem validateCnameExclusivity_iff {name : String} {type : Option String} :
    validateCnameExclusivity table name type ↔
      ∀ record ∈ table.rows, record.name = name →
        (type = some "CNAME" ↔ record.type = "CNAME") := by
  unfold validateCnameExclusivity
  dsimp only
  simp only [List.any_filter, List.any_eq_true, Bool.and_eq_true, beq_iff_eq, bne_iff_ne]
  by_cases isCname : type = some "CNAME"
  · simp only [isCname, true_and, not_true, ne_eq, false_and, if_false, true_iff]
    split_ifs with mixed
    · obtain ⟨record, member, named, different⟩ := mixed
      constructor
      · intro impossible
        cases impossible
      · intro uniform
        exact absurd (uniform record member named) different
    · refine ⟨fun _ record member named => ?_, fun _ => rfl⟩
      by_contra different
      exact mixed ⟨record, member, named, different⟩
  · simp only [isCname, false_and, if_false, ne_eq, not_false_eq_true, true_and, false_iff]
    split_ifs with mixed
    · obtain ⟨record, member, named, same⟩ := mixed
      constructor
      · intro impossible
        cases impossible
      · intro uniform
        exact absurd same (uniform record member named)
    · refine ⟨fun _ record member named same => ?_, fun _ => rfl⟩
      exact mixed ⟨record, member, named, same⟩

theorem validatedWrite_cases (table : Table) (name : String) (type : Option String)
    (previous row : Option Record) :
    (validateCnameExclusivity table name type = true ∧
        (validatedWrite policy table name type previous row).refusal ≠ some .cname ∧
        ((validatedWrite policy table name type previous row).table = table ∨
          ∃ stored, row = some stored ∧
            (validatedWrite policy table name type previous row).table =
              table.put stored)) ∨
      (validateCnameExclusivity table name type = false ∧
        (validatedWrite policy table name type previous row).table = table) := by
  unfold validatedWrite
  split_ifs with accepted allowed
  · left
    refine ⟨accepted, ?_⟩
    cases row with
    | none => exact ⟨by simp, .inl rfl⟩
    | some stored =>
        simp only [Option.bind_some, writeRow]
        split_ifs
        · exact ⟨by simp, .inr ⟨stored, rfl, rfl⟩⟩
        · exact ⟨by simp, .inl rfl⟩
  · exact .inl ⟨accepted, by simp, .inl rfl⟩
  · exact .inr ⟨Bool.eq_false_iff.mpr accepted, rfl⟩

end Checks

section Conditions

variable (policy : Policy) (zone : Zone) (table : Table)

/-- A creation whose row is checked under the name and type that it is stored with, at
a name without CNAME if it is one. -/
structure CreateFits (attrs : Attrs) (row : Record) : Prop where
  name : createdName zone attrs = row.name
  type : attrs.type.map Record.normalizeType = some row.type
  relative : Relative zone row.name
  single : row.type = "CNAME" →
    ∀ other ∈ table.rows, other.name = row.name → other.type ≠ "CNAME"

/-- An update that, besides, does not turn the only record of its name into a CNAME or
a CNAME into something else. -/
structure UpdateFits (record : Record) (attrs : Attrs) (row : Record) : Prop where
  name : updatedName zone record attrs = row.name
  type : updatedType record attrs = row.type
  relative : Relative zone row.name
  single : row.type = "CNAME" → ∀ other ∈ table.rows, other.id ≠ record.id →
    other.name = row.name → other.type ≠ "CNAME"
  stays : row.name = record.name → (record.type = "CNAME" ↔ row.type ≠ "CNAME") →
    ∃ other ∈ table.rows, other.id ≠ record.id ∧ other.name = record.name

def managedName (attrs : Record) : String := Record.normalizeName attrs.name

def managedType (attrs : Record) : String := Record.normalizeType attrs.type

/-- A row that a service neither deletes nor writes: it is not a stale row of its own,
has none of its keys, and is none of its records. -/
structure Untouched (service : String) (desired : List Record) (record : Record) :
    Prop where
  current : stale service desired record = false
  otherKey : ∀ attrs ∈ desired, attrs.managedKey.isSome →
    record.managedKey ≠ attrs.managedKey
  otherIdentity : ∀ attrs ∈ desired, ¬(record.name = managedName attrs ∧
    record.type = managedType attrs ∧
    record.content = policy.storedContent (managedType attrs) attrs.content)

/-- A service none of whose records shares its name with a CNAME, or as a CNAME with
another record, be it a row that stays or another record of the service. -/
structure ServiceFits (service : String) (desired : List Record) : Prop where
  relative : ∀ attrs ∈ desired, Relative zone (managedName attrs)
  rest : ∀ attrs ∈ desired, ∀ record ∈ table.rows,
    Untouched policy service desired record → record.name = managedName attrs →
    record.type ≠ "CNAME" ∧ managedType attrs ≠ "CNAME"
  pairs : desired.Pairwise fun first second => managedName first = managedName second →
    managedType first ≠ "CNAME" ∧ managedType second ≠ "CNAME"

def Fits : Operation → Prop
  | .create attrs => ∀ row, createdRecord policy zone table attrs = some row →
      CreateFits zone table attrs row
  | .update id attrs => ∀ record, find table id = some record →
      UpdateFits zone table record attrs (updatedRecord policy zone record attrs)
  | .delete _ => True
  | .applyService service managed desired =>
      managed = true → conflicts table desired = false →
        ServiceFits policy zone table service desired

end Conditions

theorem id_of_createdRecord {attrs : Attrs} {row : Record}
    (created : createdRecord policy zone table attrs = some row) : row.id = table.next := by
  unfold createdRecord at created
  split at created
  · cases created
    rfl
  · cases created

theorem find_eq_some {id : Nat} {record : Record} (found : find table id = some record) :
    record ∈ table.rows ∧ record.id = id :=
  ⟨List.mem_of_find?_eq_some found, by simpa using List.find?_some found⟩

/-- A row that goes in at a name whose records are all CNAMEs or all of other types, as
it is, and that is no second CNAME, coexists with them. -/
theorem coexist_of_checked {row : Record}
    (checked : ∀ record ∈ table.rows, record.name = row.name →
      (some row.type = some "CNAME" ↔ record.type = "CNAME"))
    (single : row.type = "CNAME" → ∀ other ∈ table.rows, other.id ≠ row.id →
      other.name = row.name → other.type ≠ "CNAME") :
    ∀ other ∈ table.rows, other.id ≠ row.id → Coexist row other := by
  intro other member different same
  have agree := checked other member same.symm
  have notCname : row.type ≠ "CNAME" := by
    intro isCname
    exact single isCname other member different same.symm
      (agree.mp (congrArg some isCname))
  exact ⟨notCname, fun isCname => notCname (Option.some.inj (agree.mpr isCname))⟩

theorem exists_of_refused {name type : String}
    (refused : validateCnameExclusivity table name (some type) = false) :
    ∃ record ∈ table.rows, record.name = name ∧
      (record.type = "CNAME" ↔ type ≠ "CNAME") := by
  by_contra none
  have accepted : validateCnameExclusivity table name (some type) = true := by
    apply validateCnameExclusivity_iff.mpr
    intro record member named
    by_contra differ
    apply none
    refine ⟨record, member, named, ?_⟩
    rw [Option.some.injEq] at differ
    constructor
    · intro isCname sameToo
      exact differ ⟨fun _ => isCname, fun _ => sameToo⟩
    · intro notCname
      by_contra neither
      exact differ ⟨fun isCname => absurd isCname notCname, fun isCname =>
        absurd isCname neither⟩
  rw [accepted] at refused
  cases refused

theorem not_exclusive {first second : Record}
    (firstMember : first ∈ table.rows) (secondMember : second ∈ table.rows)
    (different : first.id ≠ second.id) (same : first.name = second.name)
    (mixed : first.type = "CNAME" ↔ second.type ≠ "CNAME") : ¬Exclusive zone table := by
  intro exclusive
  have owners : ownerName zone first = ownerName zone second := by
    simp only [ownerName, Query.recordName, same]
  obtain ⟨notFirst, notSecond⟩ :=
    exclusive first firstMember second secondMember different owners
  exact notFirst (mixed.mpr notSecond)

theorem sound_create {attrs : Attrs} (sound : Sound zone table)
    (fits : Fits policy zone table (.create attrs)) :
    Sound zone (step policy zone table (.create attrs)) := by
  change Sound zone (validatedWrite policy table _ _ _ _).table
  rcases validatedWrite_cases table (createdName zone attrs)
    (attrs.type.map Record.normalizeType) none (createdRecord policy zone table attrs)
    with ⟨accepted, _, unchanged | ⟨row, created, written⟩⟩ | ⟨_, unchanged⟩
  · rw [unchanged]
    exact sound
  · rw [written]
    obtain ⟨name, type, relative, single⟩ := fits row created
    rw [name, type] at accepted
    apply sound.put relative
    exact coexist_of_checked (validateCnameExclusivity_iff.mp accepted)
      fun isCname other member _ => single isCname other member
  · rw [unchanged]
    exact sound

theorem perform_update {id : Nat} {record : Record} (attrs : Attrs)
    (found : find table id = some record) :
    perform policy zone table (.update id attrs) =
      updateRecord policy zone table record attrs := by
  simp only [perform, found]

theorem eq_of_id {first second : Record} (firstMember : first ∈ table.rows)
    (secondMember : second ∈ table.rows) (same : first.id = second.id) :
    first = second :=
  List.inj_on_of_nodup_map table.distinct firstMember secondMember same

theorem sound_update {id : Nat} {attrs : Attrs} (sound : Sound zone table)
    (fits : Fits policy zone table (.update id attrs)) :
    Sound zone (step policy zone table (.update id attrs)) := by
  cases found : find table id with
  | none =>
      have gone : step policy zone table (.update id attrs) = table := by
        simp only [step, perform, found]
      rw [gone]
      exact sound
  | some record =>
      rw [step, perform_update attrs found]
      change Sound zone (validatedWrite policy table _ _ _ _).table
      rcases validatedWrite_cases table (updatedName zone record attrs)
        (some (updatedType record attrs)) (some record)
        (some (updatedRecord policy zone record attrs))
        with ⟨accepted, _, unchanged | ⟨row, updated, written⟩⟩ | ⟨_, unchanged⟩
      · rw [unchanged]
        exact sound
      · rw [written]
        cases updated
        obtain ⟨name, type, relative, single, _⟩ := fits record found
        rw [name, type] at accepted
        exact sound.put relative
          (coexist_of_checked (validateCnameExclusivity_iff.mp accepted) single)
      · rw [unchanged]
        exact sound

theorem not_exclusive_of_refused_create {attrs : Attrs} {after : Table}
    (fits : Fits policy zone table (.create attrs))
    (refused : (perform policy zone table (.create attrs)).refusal = some .cname)
    (would : changed policy zone table (.create attrs) = some after) :
    ¬Exclusive zone after := by
  obtain ⟨row, created, rfl⟩ := Option.map_eq_some_iff.mp would
  rcases @validatedWrite_cases policy table (createdName zone attrs)
    (attrs.type.map Record.normalizeType) none (createdRecord policy zone table attrs)
    with ⟨_, other, _⟩ | ⟨rejected, _⟩
  · exact absurd refused other
  · obtain ⟨name, type, _, _⟩ := fits row created
    rw [name, type] at rejected
    obtain ⟨record, member, named, mixed⟩ := exists_of_refused rejected
    have old : record.id ≠ row.id := by
      have fresh := table.fresh record member
      rw [id_of_createdRecord created]
      omega
    exact not_exclusive (KeyedRows.mem_put.mpr (.inl ⟨member, old⟩))
      (KeyedRows.mem_put.mpr (.inr rfl)) old named mixed

theorem not_exclusive_of_refused_update {id : Nat} {attrs : Attrs} {after : Table}
    (sound : Sound zone table) (fits : Fits policy zone table (.update id attrs))
    (refused : (perform policy zone table (.update id attrs)).refusal = some .cname)
    (would : changed policy zone table (.update id attrs) = some after) :
    ¬Exclusive zone after := by
  obtain ⟨record, found, rfl⟩ := Option.map_eq_some_iff.mp would
  rw [perform_update attrs found] at refused
  obtain ⟨name, type, _, _, stays⟩ := fits record found
  rcases @validatedWrite_cases policy table (updatedName zone record attrs)
    (some (updatedType record attrs)) (some record)
    (some (updatedRecord policy zone record attrs))
    with ⟨_, other, _⟩ | ⟨rejected, _⟩
  · exact absurd refused other
  · rw [name, type] at rejected
    have stored : (updatedRecord policy zone record attrs).id = record.id := rfl
    obtain ⟨clash, member, named, mixed⟩ := exists_of_refused rejected
    by_cases itself : clash.id = record.id
    · have same := eq_of_id member (find_eq_some found).1 itself
      subst same
      obtain ⟨other, otherMember, apart, sameName⟩ := stays named.symm mixed
      have coexist := sound.coexist other otherMember clash member apart sameName
      have isCname : (updatedRecord policy zone clash attrs).type = "CNAME" := by
        by_contra notCname
        exact (coexist.2) (mixed.mpr notCname)
      exact not_exclusive (KeyedRows.mem_put.mpr (.inl ⟨otherMember, apart⟩))
        (KeyedRows.mem_put.mpr (.inr rfl)) apart (sameName.trans named)
        ⟨fun isOther => absurd isOther coexist.1, fun notCname => absurd isCname notCname⟩
    · exact not_exclusive (KeyedRows.mem_put.mpr (.inl ⟨member, itself⟩))
        (KeyedRows.mem_put.mpr (.inr rfl)) itself named mixed

section Service

/-- How far a service is: the rows with the ids `written` come from the records that
are `done`, every other row is one of the start that these records leave alone. -/
structure Progress (policy : Policy) (zone : Zone) (start : Table) (done : List Record)
    (table : Table) (written : List Nat) : Prop where
  relative : ∀ record ∈ table.rows, Relative zone record.name
  old : ∀ record ∈ table.rows, record.id ∉ written → record ∈ start.rows ∧
    ∀ attrs ∈ done, (attrs.managedKey.isSome → record.managedKey ≠ attrs.managedKey) ∧
      ¬(record.name = managedName attrs ∧ record.type = managedType attrs ∧
        record.content = policy.storedContent (managedType attrs) attrs.content)
  new : ∀ record ∈ table.rows, record.id ∈ written →
    ∃ attrs ∈ done, record.name = managedName attrs ∧ record.type = managedType attrs
  pairs : ∀ first ∈ table.rows, ∀ second ∈ table.rows, first.id ≠ second.id →
    first.id ∈ written → second.id ∈ written → Coexist first second

theorem unique_iff {row : Record} : unique table row ↔
    ∀ other ∈ table.rows, other.id ≠ row.id →
      ¬(other.name = row.name ∧ other.type = row.type ∧ other.content = row.content) ∧
      (row.managedKey.isSome → other.managedKey ≠ row.managedKey) := by
  simp only [unique, List.all_eq_true, Bool.or_eq_true, Bool.and_eq_true,
    Bool.not_eq_true', Bool.and_eq_false_iff, beq_iff_eq, beq_eq_false_iff_ne]
  constructor
  · intro all other member different
    obtain ⟨identity, key⟩ := (all other member).resolve_left different
    constructor
    · intro same
      rcases identity with (name | type) | content
      · exact name same.1
      · exact type same.2.1
      · exact content same.2.2
    · intro keyed
      exact key.resolve_left (by simp [keyed])
  · intro all other member
    by_cases different : other.id = row.id
    · exact .inl different
    · right
      obtain ⟨identity, key⟩ := all other member different
      constructor
      · by_contra same
        simp only [not_or, ne_eq, not_not] at same
        exact identity ⟨same.1.1, same.1.2, same.2⟩
      · cases keyed : row.managedKey.isSome with
        | false => exact .inl rfl
        | true => exact .inr (key keyed)

theorem eq_put_of_writeRow {previous : Option Record} {row : Record} {after : Table}
    (wrote : writeRow policy table previous row = some after) :
    after = table.put row ∧ unique table row := by
  unfold writeRow at wrote
  split_ifs at wrote with valid
  exact ⟨(Option.some.inj wrote).symm, (Bool.and_eq_true_iff.mp valid).2⟩

variable {start : Table} {done desired : List Record} {written : List Nat}

structure Stores (policy : Policy) (attrs row : Record) : Prop where
  name : row.name = managedName attrs
  type : row.type = managedType attrs
  content : row.content = policy.storedContent (managedType attrs) attrs.content
  key : row.managedKey = attrs.managedKey

theorem stores_managedRecord (policy : Policy) (target attrs : Record) :
    Stores policy attrs (managedRecord policy target attrs) := by
  constructor <;> simp only [managedRecord, managedName, managedType]

theorem Progress.write (progress : Progress policy zone start done table written)
    {attrs row : Record} {previous : Option Record} {after : Table}
    (relative : Relative zone (managedName attrs))
    (pairs : ∀ other ∈ done, managedName other = managedName attrs →
      managedType other ≠ "CNAME" ∧ managedType attrs ≠ "CNAME")
    (stores : Stores policy attrs row)
    (wrote : writeRow policy table previous row = some after) :
    Progress policy zone start (done ++ [attrs]) after (row.id :: written) := by
  obtain ⟨rfl, uniqueRow⟩ := eq_put_of_writeRow wrote
  have others := unique_iff.mp uniqueRow
  rw [stores.name, stores.type, stores.content, stores.key] at others
  have rowCoexists : ∀ other ∈ table.rows, other.id ∈ written → Coexist row other := by
    intro other member inWritten same
    obtain ⟨source, sourceMember, name, type⟩ := progress.new other member inWritten
    have apart := pairs source sourceMember (name.symm.trans (same.symm.trans stores.name))
    rw [type, stores.type]
    exact apart.symm
  have olderWritten : ∀ {id : Nat}, id ∈ row.id :: written → id ≠ row.id →
      id ∈ written := by
    intro id member different
    exact (List.mem_cons.mp member).resolve_left different
  constructor
  · intro record member
    rcases KeyedRows.mem_put.mp member with old | rfl
    · exact progress.relative record old.1
    · rw [stores.name]
      exact relative
  · intro record member notWritten
    rcases KeyedRows.mem_put.mp member with ⟨oldMember, different⟩ | rfl
    · obtain ⟨inStart, leftAlone⟩ := progress.old record oldMember
        fun inWritten => notWritten (List.mem_cons_of_mem _ inWritten)
      refine ⟨inStart, List.forall_mem_append.mpr ⟨leftAlone, ?_⟩⟩
      intro last lastMember
      rw [List.mem_singleton.mp lastMember]
      obtain ⟨identity, key⟩ := others record oldMember different
      exact ⟨key, identity⟩
    · exact absurd List.mem_cons_self notWritten
  · intro record member inWritten
    rcases KeyedRows.mem_put.mp member with ⟨oldMember, different⟩ | rfl
    · obtain ⟨source, sourceMember, same⟩ :=
        progress.new record oldMember (olderWritten inWritten different)
      exact ⟨source, List.mem_append_left _ sourceMember, same⟩
    · exact ⟨attrs, List.mem_append_right _ List.mem_cons_self, stores.name, stores.type⟩
  · intro first firstMember second secondMember different firstWritten secondWritten
    rcases KeyedRows.mem_put.mp firstMember with ⟨firstOld, firstKey⟩ | rfl
    · rcases KeyedRows.mem_put.mp secondMember with ⟨secondOld, secondKey⟩ | rfl
      · exact progress.pairs first firstOld second secondOld different
          (olderWritten firstWritten firstKey) (olderWritten secondWritten secondKey)
      · exact (rowCoexists first firstOld (olderWritten firstWritten firstKey)).symm
    · rcases KeyedRows.mem_put.mp secondMember with ⟨secondOld, secondKey⟩ | rfl
      · exact rowCoexists second secondOld (olderWritten secondWritten secondKey)
      · exact absurd rfl different

theorem Progress.writeDesired {adopted : List Nat} {after : Table}
    (progress : Progress policy zone start done table written)
    (relative : ∀ attrs ∈ desired, Relative zone (managedName attrs))
    (pairs : (done ++ desired).Pairwise fun first second =>
      managedName first = managedName second →
      managedType first ≠ "CNAME" ∧ managedType second ≠ "CNAME")
    (wrote : RecordWrites.writeDesired policy desired table adopted = some after) :
    ∃ written, Progress policy zone start (done ++ desired) after written := by
  induction desired generalizing done table written adopted with
  | nil =>
      cases wrote
      rw [List.append_nil]
      exact ⟨written, progress⟩
  | cons attrs desired ih =>
      obtain ⟨relativeFirst, relativeRest⟩ := List.forall_mem_cons.mp relative
      unfold RecordWrites.writeDesired at wrote
      dsimp only at wrote
      split at wrote
      · cases wrote
      · rename_i middle first
        have earlier : ∀ other ∈ done, managedName other = managedName attrs →
            managedType other ≠ "CNAME" ∧ managedType attrs ≠ "CNAME" :=
          fun other member =>
            (List.pairwise_append.mp pairs).2.2 other member attrs List.mem_cons_self
        have next := progress.write relativeFirst earlier (stores_managedRecord ..) first
        have split : done ++ attrs :: desired = done ++ [attrs] ++ desired := by simp
        rw [split] at pairs ⊢
        exact ih next relativeRest pairs wrote

theorem sound_applyService {service : String} {managed : Bool}
    (sound : Sound zone table)
    (fits : Fits policy zone table (.applyService service managed desired)) :
    Sound zone (step policy zone table (.applyService service managed desired)) := by
  change Sound zone (applyService policy table service managed desired).table
  unfold applyService
  split_ifs with enabled isManaged conflicting
  · exact sound
  · split
    · rename_i after wrote
      obtain ⟨relative, rest, pairs⟩ :=
        fits isManaged (Bool.eq_false_iff.mpr conflicting)
      have started : Progress policy zone (keepCurrent service desired table) []
          (keepCurrent service desired table) [] := by
        refine ⟨(sound.retain _).relative, ?_, ?_, ?_⟩
        · intro record member _
          exact ⟨member, by simp⟩
        · intro record _ impossible
          cases impossible
        · intro first _ second _ _ impossible
          cases impossible
      obtain ⟨written, finished⟩ := started.writeDesired relative pairs wrote
      rw [List.nil_append] at finished
      have beside : ∀ first ∈ after.rows, ∀ second ∈ after.rows, first.id ∉ written →
          second.id ∈ written → Coexist first second := by
        intro first firstMember second secondMember isOld isNew same
        obtain ⟨inStart, leftAlone⟩ := finished.old first firstMember isOld
        obtain ⟨inTable, current⟩ := KeyedRows.mem_retain.mp inStart
        obtain ⟨source, sourceMember, name, type⟩ :=
          finished.new second secondMember isNew
        rw [type]
        apply rest source sourceMember first inTable
        · exact ⟨by simpa using current, fun attrs member => (leftAlone attrs member).1,
            fun attrs member => (leftAlone attrs member).2⟩
        · exact same.trans name
      refine ⟨finished.relative, ?_⟩
      intro first firstMember second secondMember different
      by_cases firstNew : first.id ∈ written
      · by_cases secondNew : second.id ∈ written
        · exact finished.pairs first firstMember second secondMember different firstNew
            secondNew
        · exact (beside second secondMember first firstMember secondNew firstNew).symm
      · by_cases secondNew : second.id ∈ written
        · exact beside first firstMember second secondMember firstNew secondNew
        · exact (sound.retain _).coexist first (finished.old first firstMember firstNew).1
            second (finished.old second secondMember secondNew).1 different
    · exact sound
  · exact sound.retain _
  · exact sound

end Service

theorem sound_step (operation : Operation) (sound : Sound zone table)
    (fits : Fits policy zone table operation) :
    Sound zone (step policy zone table operation) := by
  cases operation with
  | create attrs => exact sound_create sound fits
  | update id attrs => exact sound_update sound fits
  | delete id =>
      simp only [step, perform]
      split
      · rw [deleteRecord]
        split_ifs
        · exact sound.retain _
        · exact sound
      · exact sound
  | applyService service managed desired => exact sound_applyService sound fits

/-- In a run whose operations all fit, a CNAME is alone at its owner name in every
state, and an operation that is refused for a CNAME would have ended that. -/
theorem exclusive_of_run (proper : Proper zone) {start : Table}
    (sound : Sound zone start) {operations : List Operation}
    (fits : Along (step policy zone) (Fits policy zone) start operations) :
    (∀ front back, operations = front ++ back →
      Exclusive zone (front.foldl (step policy zone) start)) ∧
    ∀ front operation back, operations = front ++ operation :: back →
      (perform policy zone (front.foldl (step policy zone) start) operation).refusal =
        some .cname →
      ∀ after, changed policy zone (front.foldl (step policy zone) start) operation =
        some after → ¬Exclusive zone after := by
  have reached : ∀ front back, operations = front ++ back →
      Sound zone (front.foldl (step policy zone) start) := by
    intro front back split
    subst split
    exact fits.prefix_of.invariant
      (fun before operation => @sound_step policy zone before operation)
      sound
  constructor
  · intro front back split
    exact (reached front back split).exclusive proper
  · intro front operation back split refused after would
    have here := reached front (operation :: back) split
    have fit := fits front operation back split
    cases operation with
    | create attrs => exact not_exclusive_of_refused_create fit refused would
    | update id attrs => exact not_exclusive_of_refused_update here fit refused would
    | delete id => cases would
    | applyService service managed desired => cases would

theorem sound_empty : Sound zone (KeyedRows.empty Record Record.id) where
  relative record member := by cases member
  coexist record member := by cases member

def exampleZone : Zone where
  domain := "a.io"
  records := []

theorem proper_exampleZone : Proper exampleZone :=
  ⟨by decide, by decide⟩

def aliasTo (content : String) : Operation :=
  .create { name := some "w", type := some "CNAME", content := some content }

theorem exclusive_after_alias :
    Exclusive exampleZone
      ([aliasTo "b.io"].foldl (step {} exampleZone) (KeyedRows.empty Record Record.id)) := by
  refine (exclusive_of_run proper_exampleZone sound_empty
    (.cons ?_ (.nil _ _ _))).1 [aliasTo "b.io"] [] rfl
  intro row created
  cases created
  refine ⟨by decide, by decide, ⟨by decide, by decide,
    .inr ⟨by decide, by decide⟩⟩, ?_⟩
  intro _ other member
  cases member

/-- A second CNAME with another target is accepted. -/
theorem two_aliases_of_a_name :
    ¬Exclusive exampleZone ([aliasTo "b.io", aliasTo "c.io"].foldl (step {} exampleZone)
      (KeyedRows.empty Record Record.id)) := by
  intro exclusive
  have rows : ([aliasTo "b.io", aliasTo "c.io"].foldl (step {} exampleZone)
      (KeyedRows.empty Record Record.id)).rows.map
        (fun record => (record.id, record.name, record.type)) =
      [(1, "w", "CNAME"), (2, "w", "CNAME")] := by
    decide +kernel
  generalize [aliasTo "b.io", aliasTo "c.io"].foldl (step {} exampleZone)
    (KeyedRows.empty Record Record.id) = table at exclusive rows
  obtain ⟨first, others, split, firstRow, rest⟩ := List.map_eq_cons_iff.mp rows
  obtain ⟨second, _, othersSplit, secondRow, _⟩ := List.map_eq_cons_iff.mp rest
  simp only [Prod.mk.injEq] at firstRow secondRow
  have firstMember : first ∈ table.rows := by
    rw [split]
    exact List.mem_cons_self
  have secondMember : second ∈ table.rows := by
    rw [split, othersSplit]
    exact List.mem_cons_of_mem _ List.mem_cons_self
  have owners : ownerName exampleZone first = ownerName exampleZone second := by
    simp only [ownerName, Query.recordName, firstRow.2.1, secondRow.2.1]
  have apart := exclusive first firstMember second secondMember
    (by rw [firstRow.1, secondRow.1]; decide) owners
  exact apart.1 firstRow.2.2

end Elektrine.DNS.RecordWrites
