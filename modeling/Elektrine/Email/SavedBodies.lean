import Elektrine.Data.Text
import Elektrine.Library.SerialRows
import Elektrine.Library.Runs

/-!
# Bodies of a mailbox with server-side encryption

`create_message` and `save_draft` as far as they store the bodies of a message, and
`decrypt_content`, which reads them back.  All rows belong to one mailbox.  What else can
refuse a save (the storage limit, the required fields, the length limits) is handed in
with it, and so is what `Encryption.encrypt` draws at random.
-/

namespace Elektrine.Email

open Elektrine.Library

/-- `Elektrine.Encryption`.  The first argument of `encrypt` is what it draws. -/
structure Encryption (Cipher : Type) where
  encrypt : Nat → String → Nat → Cipher
  decrypt : Cipher → Nat → Option String
  indexContent : String → Nat → List String
  undoes : ∀ drawn text user, decrypt (encrypt drawn text user) user = some text

structure BodyRow (Cipher : Type) where
  id : Nat
  messageId : String
  status : String
  textBody : Option String
  htmlBody : Option String
  encryptedTextBody : Option Cipher
  encryptedHtmlBody : Option Cipher
  searchIndex : List String
  deriving DecidableEq

abbrev BodyTable (Cipher : Type) := SerialRows (BodyRow Cipher) BodyRow.id

structure BodyAttrs where
  messageId : Option String
  status : Option String
  textBody : Option String
  htmlBody : Option String
  deriving DecidableEq, Repr

/-- The attributes that `encrypt_content` hands on; `none` in the last three is a key
that it does not put. -/
structure StoredAttrs (Cipher : Type) where
  textBody : Option String
  htmlBody : Option String
  encryptedTextBody : Option Cipher
  encryptedHtmlBody : Option Cipher
  searchIndex : Option (List String)

/-- What `Encryption.encrypt` draws for the two bodies. -/
structure Drawn where
  text : Nat
  html : Nat

section

variable {Cipher : Type} (encryption : Encryption Cipher) (user : Nat)

/-- One body in `encrypt_content`: what is left of it, and its ciphertext. -/
def encryptBody (drawn : Nat) : Option String → Option String × Option Cipher
  | none => (none, none)
  | some "" => (some "", none)
  | some body => (none, some (encryption.encrypt drawn body user))

/-- `original_text || original_html || ""`. -/
def searchContent (attrs : BodyAttrs) : String :=
  (attrs.textBody.or attrs.htmlBody).getD ""

def encryptContent (attrs : BodyAttrs) (drawn : Drawn) : StoredAttrs Cipher :=
  let text := encryptBody encryption user drawn.text attrs.textBody
  let html := encryptBody encryption user drawn.html attrs.htmlBody
  { textBody := text.1
    htmlBody := html.1
    encryptedTextBody := text.2
    encryptedHtmlBody := html.2
    searchIndex :=
      if (present (searchContent attrs)).isSome then
        some (encryption.indexContent (searchContent attrs) user)
      else none }

/-- What `cast` makes of a string: the empty one is nil. -/
def castBody : Option String → Option String
  | some "" => none
  | body => body

/-- `Message.changeset` on a new message, as it is inserted. -/
def insertedRow (attrs : BodyAttrs) (messageId : String) (stored : StoredAttrs Cipher)
    (id : Nat) : BodyRow Cipher where
  id := id
  messageId := messageId
  status := attrs.status.getD "received"
  textBody := castBody stored.textBody
  htmlBody := castBody stored.htmlBody
  encryptedTextBody := stored.encryptedTextBody
  encryptedHtmlBody := stored.encryptedHtmlBody
  searchIndex := stored.searchIndex.getD []

theorem insertedRow_id (attrs : BodyAttrs) (messageId : String)
    (stored : StoredAttrs Cipher) (id : Nat) :
    (insertedRow attrs messageId stored id).id = id := rfl

/-- `Message.changeset` on a draft, as it is updated: keys that were not put leave their
columns. -/
def updatedRow (messageId : String) (stored : StoredAttrs Cipher)
    (row : BodyRow Cipher) : BodyRow Cipher where
  id := row.id
  messageId := messageId
  status := "draft"
  textBody := castBody stored.textBody
  htmlBody := castBody stored.htmlBody
  encryptedTextBody := stored.encryptedTextBody.or row.encryptedTextBody
  encryptedHtmlBody := stored.encryptedHtmlBody.or row.encryptedHtmlBody
  searchIndex := stored.searchIndex.getD row.searchIndex

theorem updatedRow_id (messageId : String) (stored : StoredAttrs Cipher)
    (row : BodyRow Cipher) : (updatedRow messageId stored row).id = row.id := rfl

inductive Outcome where
  | saved (id : Nat)
  | duplicate (id : Nat)
  | error
  deriving DecidableEq, Repr

/-- `create_message`. -/
def createBodies (table : BodyTable Cipher) (attrs : BodyAttrs) (drawn : Drawn)
    (refused : Bool) : Outcome × BodyTable Cipher :=
  match attrs.messageId with
  | none => (.error, table)
  | some messageId =>
      if refused then (.error, table)
      else
        match table.rows.find? (·.messageId == messageId) with
        | some row => (.duplicate row.id, table)
        | none =>
            (.saved table.next,
              table.append
                (insertedRow attrs messageId (encryptContent encryption user attrs drawn))
                (insertedRow_id attrs messageId _))

/-- The branch of `save_draft` for an existing draft. -/
def updateDraft (table : BodyTable Cipher) (draftId : Nat) (attrs : BodyAttrs)
    (messageId : String) (drawn : Drawn) (refused : Bool) : Outcome × BodyTable Cipher :=
  match table.find draftId with
  | none => (.error, table)
  | some draft =>
      if draft.status = "draft" then
        if refused || table.rows.any fun row =>
            row.id != draftId && row.messageId == messageId then (.error, table)
        else
          (.saved draftId,
            table.modify draftId
              (updatedRow messageId (encryptContent encryption user attrs drawn))
              (updatedRow_id messageId _))
      else (.error, table)

/-- `save_draft`; `generated` is the message identifier for attributes without one. -/
def saveDraft (table : BodyTable Cipher) (attrs : BodyAttrs) (draftId : Option Nat)
    (generated : String) (drawn : Drawn) (refused : Bool) : Outcome × BodyTable Cipher :=
  let messageId := attrs.messageId.getD generated
  match draftId with
  | some draftId =>
      updateDraft encryption user table draftId attrs messageId drawn refused
  | none =>
      createBodies encryption user table
        { attrs with status := some "draft", messageId := some messageId } drawn refused

/-- One body in `decrypt_content`. -/
def decryptBody (plain : Option String) : Option Cipher → Option String
  | none => plain
  | some encrypted =>
      match encryption.decrypt encrypted user with
      | some body => some body
      | none => some "[Decryption failed]"

/-- `decrypt_content`: the text and the html body. -/
def decryptContent (row : BodyRow Cipher) : Option String × Option String :=
  (decryptBody encryption user row.textBody row.encryptedTextBody,
    decryptBody encryption user row.htmlBody row.encryptedHtmlBody)

end

inductive Save where
  | createMessage (attrs : BodyAttrs) (drawn : Drawn) (refused : Bool)
  | saveDraft (attrs : BodyAttrs) (draftId : Option Nat) (generated : String)
      (drawn : Drawn) (refused : Bool)

def Save.attrs : Save → BodyAttrs
  | .createMessage attrs _ _ => attrs
  | .saveDraft attrs _ _ _ _ => attrs

section

variable {Cipher : Type} (encryption : Encryption Cipher) (user : Nat)

def Save.perform (table : BodyTable Cipher) : Save → Outcome × BodyTable Cipher
  | .createMessage attrs drawn refused =>
      createBodies encryption user table attrs drawn refused
  | .saveDraft attrs draftId generated drawn refused =>
      Email.saveDraft encryption user table attrs draftId generated drawn refused

def Save.step (table : BodyTable Cipher) (save : Save) : BodyTable Cipher :=
  (save.perform encryption user table).2

end

end Elektrine.Email

/-!
## The bodies of the last save

A save replaces the columns of a message only where it has something to put, and reading
prefers the encrypted column.  The message therefore reads as it was last saved just
when no save leaves a body empty that the stored row has encrypted, and every save
either indexes its content or finds the index that it should have.
-/

namespace Elektrine.Email

open Elektrine.Library

section

variable {Cipher : Type} (encryption : Encryption Cipher) (user : Nat)

/-- The search index that belongs to the bodies: that of the text, or of the html when
there is no text. -/
def indexOfBodies (attrs : BodyAttrs) : List String :=
  let content := ((castBody attrs.textBody).or (castBody attrs.htmlBody)).getD ""
  if (present content).isSome then encryption.indexContent content user else []

structure BodyRow.Holds (row : BodyRow Cipher) (attrs : BodyAttrs) : Prop where
  reads : decryptContent encryption user row =
    (castBody attrs.textBody, castBody attrs.htmlBody)
  plainText : row.textBody = none
  plainHtml : row.htmlBody = none
  indexed : row.searchIndex = indexOfBodies encryption user attrs

/-- The step stores these bodies in the message. -/
def SavesIn (id : Nat) (attrs : BodyAttrs)
    (step : Transition (BodyTable Cipher) Save) : Prop :=
  step.action.attrs = attrs ∧
    (step.action.perform encryption user step.before).1 = .saved id

/-- The last save of the message stored these bodies. -/
def LastSaved (id : Nat) (attrs : BodyAttrs)
    (history : List (Transition (BodyTable Cipher) Save)) : Prop :=
  Since (SavesIn encryption user id attrs)
    (fun step => ∃ other, SavesIn encryption user id other step) history

def savedTable (saves : List Save) : BodyTable Cipher :=
  saves.foldl (Save.step encryption user) (.empty _ _)

/-- Every message holds the bodies of its last save. -/
def HoldLastSaved (saves : List Save) : Prop :=
  ∀ row ∈ (savedTable encryption user saves).rows, ∃ attrs,
    LastSaved encryption user row.id attrs
      (transitions (Save.step encryption user) (.empty _ _) saves) ∧
    row.Holds encryption user attrs

end

structure BodyColumns (Cipher : Type) where
  encryptedTextBody : Option Cipher
  encryptedHtmlBody : Option Cipher
  searchIndex : List String
  deriving DecidableEq

def BodyColumns.blank (Cipher : Type) : BodyColumns Cipher := ⟨none, none, []⟩

section

variable {Cipher : Type}

def BodyRow.columns (row : BodyRow Cipher) : BodyColumns Cipher :=
  ⟨row.encryptedTextBody, row.encryptedHtmlBody, row.searchIndex⟩

def insertable (table : BodyTable Cipher) (messageId : Option String) (refused : Bool) :
    Bool :=
  match messageId with
  | none => false
  | some messageId => !refused && !(table.rows.any (·.messageId == messageId))

def updatable (table : BodyTable Cipher) (draftId : Nat) (messageId : String)
    (refused : Bool) (draft : BodyRow Cipher) : Bool :=
  draft.status == "draft" && !refused &&
    !(table.rows.any fun row => row.id != draftId && row.messageId == messageId)

def Save.replaced (table : BodyTable Cipher) : Save → Option (BodyColumns Cipher)
  | .createMessage attrs _ refused =>
      if insertable table attrs.messageId refused then some (.blank Cipher) else none
  | .saveDraft attrs none generated _ refused =>
      if insertable table (some (attrs.messageId.getD generated)) refused then
        some (.blank Cipher)
      else none
  | .saveDraft attrs (some draftId) generated _ refused =>
      ((table.find draftId).filter
        (updatable table draftId (attrs.messageId.getD generated) refused)).map
          BodyRow.columns

variable (encryption : Encryption Cipher) (user : Nat)

/-- The save puts every body that the columns have, and its content is indexed or has
the index that is there. -/
structure BodyColumns.Takes (columns : BodyColumns Cipher) (attrs : BodyAttrs) : Prop where
  text : columns.encryptedTextBody = none ∨ (castBody attrs.textBody).isSome
  html : columns.encryptedHtmlBody = none ∨ (castBody attrs.htmlBody).isSome
  index : (present (searchContent attrs)).isSome ∨
    columns.searchIndex = indexOfBodies encryption user attrs

/-- What a save that is not refused has to meet. -/
def Save.Fits (table : BodyTable Cipher) (save : Save) : Prop :=
  ∀ columns, save.replaced table = some columns →
    columns.Takes encryption user save.attrs

structure Rewritten (columns : BodyColumns Cipher) (attrs : BodyAttrs)
    (row : BodyRow Cipher) : Prop where
  textBody : ∃ drawn,
    row.textBody = castBody (encryptBody encryption user drawn attrs.textBody).1 ∧
    row.encryptedTextBody =
      (encryptBody encryption user drawn attrs.textBody).2.or columns.encryptedTextBody
  htmlBody : ∃ drawn,
    row.htmlBody = castBody (encryptBody encryption user drawn attrs.htmlBody).1 ∧
    row.encryptedHtmlBody =
      (encryptBody encryption user drawn attrs.htmlBody).2.or columns.encryptedHtmlBody
  searchIndex : row.searchIndex =
    if (present (searchContent attrs)).isSome then
      encryption.indexContent (searchContent attrs) user
    else columns.searchIndex

theorem decryptBody_some (plain : Option String) (cipher : Cipher) :
    ∃ body, decryptBody encryption user plain (some cipher) = some body := by
  cases opened : encryption.decrypt cipher user with
  | some body => exact ⟨body, by simp only [decryptBody, opened]⟩
  | none => exact ⟨"[Decryption failed]", by simp only [decryptBody, opened]⟩

/-- One body after a save: no plaintext is left, and it reads as saved just when the save
has put it or there was nothing before. -/
theorem encryptBody_reads (drawn : Nat) (body : Option String) (before : Option Cipher) :
    castBody (encryptBody encryption user drawn body).1 = none ∧
      (decryptBody encryption user none
          ((encryptBody encryption user drawn body).2.or before) = castBody body ↔
        before = none ∨ (castBody body).isSome) := by
  have nothing : decryptBody encryption user none before = none ↔ before = none := by
    cases before with
    | none => simp [decryptBody]
    | some cipher =>
        obtain ⟨text, reads⟩ := decryptBody_some encryption user none cipher
        simp [reads]
  unfold encryptBody
  split
  · simpa [castBody] using nothing
  · simpa [castBody] using nothing
  · rename_i text notEmpty
    have cast : castBody (some text) = some text := by
      unfold castBody
      split
      · rename_i same
        cases same
        exact absurd rfl notEmpty
      · rfl
    refine ⟨rfl, ?_⟩
    rw [cast]
    simp [decryptBody, encryption.undoes]

variable {encryption} {user}

theorem castBody_getD (body : Option String) : (castBody body).getD "" = body.getD "" := by
  unfold castBody
  split
  · rfl
  · rfl

theorem present_empty : present "" = none := by
  decide

theorem indexOfBodies_of_present {attrs : BodyAttrs}
    (visible : (present (searchContent attrs)).isSome) :
    indexOfBodies encryption user attrs =
      encryption.indexContent (searchContent attrs) user := by
  have same : ((castBody attrs.textBody).or (castBody attrs.htmlBody)).getD "" =
      searchContent attrs := by
    unfold searchContent at visible ⊢
    cases given : attrs.textBody with
    | none =>
        simp only [castBody, Option.none_or]
        exact castBody_getD attrs.htmlBody
    | some text =>
        rw [given] at visible
        by_cases empty : text = ""
        · rw [empty] at visible
          simp [present_empty] at visible
        · have cast : castBody (some text) = some text := by
            unfold castBody
            split
            · rename_i other
              cases other
              exact absurd rfl empty
            · rfl
          rw [cast]
          rfl
  unfold indexOfBodies
  rw [same, if_pos visible]

/-- After a save the message holds the bodies just when the save has put every body that
was there, and its content is indexed or has the index that was there. -/
theorem Rewritten.holds_iff {columns : BodyColumns Cipher} {attrs : BodyAttrs}
    {row : BodyRow Cipher} (rewritten : Rewritten encryption user columns attrs row) :
    row.Holds encryption user attrs ↔ columns.Takes encryption user attrs := by
  obtain ⟨⟨textDrawn, plainText, cipherText⟩, ⟨htmlDrawn, plainHtml, cipherHtml⟩, index⟩ :=
    rewritten
  obtain ⟨noText, text_iff⟩ := encryptBody_reads encryption user
    textDrawn attrs.textBody columns.encryptedTextBody
  obtain ⟨noHtml, html_iff⟩ := encryptBody_reads encryption user
    htmlDrawn attrs.htmlBody columns.encryptedHtmlBody
  rw [noText] at plainText
  rw [noHtml] at plainHtml
  have reads_iff : decryptContent encryption user row =
      (castBody attrs.textBody, castBody attrs.htmlBody) ↔
        (columns.encryptedTextBody = none ∨ (castBody attrs.textBody).isSome) ∧
        (columns.encryptedHtmlBody = none ∨ (castBody attrs.htmlBody).isSome) := by
    rw [decryptContent, plainText, plainHtml, cipherText, cipherHtml, Prod.mk.injEq,
      text_iff, html_iff]
  have index_iff : row.searchIndex = indexOfBodies encryption user attrs ↔
      (present (searchContent attrs)).isSome ∨
        columns.searchIndex = indexOfBodies encryption user attrs := by
    rw [index]
    split
    · rename_i visible
      rw [indexOfBodies_of_present visible]
      simp [visible]
    · rename_i blank
      simp [blank]
  constructor
  · intro holds
    obtain ⟨text, html⟩ := reads_iff.mp holds.reads
    exact ⟨text, html, index_iff.mp holds.indexed⟩
  · intro takes
    exact ⟨reads_iff.mpr ⟨takes.text, takes.html⟩, plainText, plainHtml,
      index_iff.mpr takes.index⟩

variable {table : BodyTable Cipher}

theorem rewritten_insertedRow (attrs given : BodyAttrs) (messageId : String)
    (drawn : Drawn) (id : Nat) (text : attrs.textBody = given.textBody)
    (html : attrs.htmlBody = given.htmlBody) :
    Rewritten encryption user (.blank Cipher) given
      (insertedRow attrs messageId (encryptContent encryption user attrs drawn) id) := by
  have content : searchContent attrs = searchContent given := by
    rw [searchContent, searchContent, text, html]
  constructor
  · exact ⟨drawn.text, by rw [← text]; rfl,
      by rw [← text]; exact (Option.or_none).symm⟩
  · exact ⟨drawn.html, by rw [← html]; rfl,
      by rw [← html]; exact (Option.or_none).symm⟩
  · rw [← content]
    simp only [insertedRow, encryptContent]
    split
    · rfl
    · rfl

theorem rewritten_updatedRow (attrs : BodyAttrs) (messageId : String) (drawn : Drawn)
    (row : BodyRow Cipher) :
    Rewritten encryption user row.columns attrs
      (updatedRow messageId (encryptContent encryption user attrs drawn) row) := by
  constructor
  · exact ⟨drawn.text, rfl, rfl⟩
  · exact ⟨drawn.html, rfl, rfl⟩
  · simp only [updatedRow, encryptContent]
    split
    · rfl
    · rfl

variable (encryption) (user)

structure Stores (table after : BodyTable Cipher) (id : Nat)
    (columns : BodyColumns Cipher) (attrs : BodyAttrs) : Prop where
  stored : ∃ row, after.find id = some row ∧ Rewritten encryption user columns attrs row
  others : ∀ other, other ≠ id → after.find other = table.find other

theorem createBodies_cases (table : BodyTable Cipher) (attrs given : BodyAttrs)
    (drawn : Drawn) (refused : Bool) (text : attrs.textBody = given.textBody)
    (html : attrs.htmlBody = given.htmlBody) :
    (insertable table attrs.messageId refused = false ∧
      (createBodies encryption user table attrs drawn refused).2 = table ∧
      ∀ id, (createBodies encryption user table attrs drawn refused).1 ≠ .saved id) ∨
    (insertable table attrs.messageId refused = true ∧
      (createBodies encryption user table attrs drawn refused).1 = .saved table.next ∧
      Stores encryption user table
        (createBodies encryption user table attrs drawn refused).2 table.next
        (.blank Cipher) given) := by
  unfold createBodies insertable
  cases attrs.messageId with
  | none =>
      left
      exact ⟨rfl, rfl, fun _ => Outcome.noConfusion⟩
  | some messageId =>
      cases refused with
      | true =>
          left
          exact ⟨rfl, rfl, fun _ => Outcome.noConfusion⟩
      | false =>
          simp only [Bool.false_eq_true, if_false, Bool.not_false, Bool.true_and]
          cases used : table.rows.find? (·.messageId == messageId) with
          | some row =>
              left
              refine ⟨?_, rfl, fun _ => Outcome.noConfusion⟩
              have member := List.mem_of_find?_eq_some used
              have same := List.find?_some used
              rw [Bool.not_eq_false', List.any_eq_true]
              exact ⟨row, member, same⟩
          | none =>
              right
              refine ⟨?_, rfl, ?_, ?_⟩
              · rw [Bool.not_eq_true', List.any_eq_false]
                exact List.find?_eq_none.mp used
              · refine ⟨_, ?_, rewritten_insertedRow attrs given messageId drawn table.next
                  text html⟩
                dsimp only
                rw [SerialRows.find_append, if_pos rfl]
              · intro other distinct
                dsimp only
                rw [SerialRows.find_append, if_neg distinct]

theorem updateDraft_cases (table : BodyTable Cipher) (draftId : Nat) (attrs : BodyAttrs)
    (messageId : String) (drawn : Drawn) (refused : Bool) :
    ((table.find draftId).filter (updatable table draftId messageId refused) = none ∧
      (updateDraft encryption user table draftId attrs messageId drawn refused).2 = table ∧
      ∀ id, (updateDraft encryption user table draftId attrs messageId drawn refused).1 ≠
        .saved id) ∨
    ∃ draft, (table.find draftId).filter (updatable table draftId messageId refused) =
        some draft ∧
      (updateDraft encryption user table draftId attrs messageId drawn refused).1 =
        .saved draftId ∧
      Stores encryption user table
        (updateDraft encryption user table draftId attrs messageId drawn refused).2 draftId
        draft.columns attrs := by
  unfold updateDraft
  cases found : table.find draftId with
  | none =>
      left
      exact ⟨rfl, rfl, fun _ => Outcome.noConfusion⟩
  | some draft =>
      rw [Option.filter_some]
      unfold updatable
      by_cases drafted : draft.status = "draft"
      · cases blocked : refused || table.rows.any fun row =>
            row.id != draftId && row.messageId == messageId with
        | true =>
            left
            have stops : (draft.status == "draft" && !refused &&
                !(table.rows.any fun row =>
                  row.id != draftId && row.messageId == messageId)) = false := by
              rw [Bool.and_assoc, ← Bool.not_or, blocked]
              simp
            dsimp only
            rw [stops, if_pos drafted, if_pos rfl]
            exact ⟨rfl, rfl, fun _ => Outcome.noConfusion⟩
        | false =>
            right
            have goes : (draft.status == "draft" && !refused &&
                !(table.rows.any fun row =>
                  row.id != draftId && row.messageId == messageId)) = true := by
              rw [Bool.and_assoc, ← Bool.not_or, blocked, drafted]
              rfl
            dsimp only
            rw [goes, if_pos drafted, if_neg Bool.false_ne_true]
            refine ⟨draft, rfl, rfl, ?_, ?_⟩
            · refine ⟨_, ?_, rewritten_updatedRow attrs messageId drawn draft⟩
              rw [SerialRows.find_modify, if_pos rfl, found]
              rfl
            · intro other distinct
              rw [SerialRows.find_modify, if_neg distinct]
      · left
        have stops : (draft.status == "draft") = false := beq_false_of_ne drafted
        dsimp only
        rw [stops, if_neg drafted]
        exact ⟨rfl, rfl, fun _ => Outcome.noConfusion⟩

theorem perform_cases (table : BodyTable Cipher) (save : Save) :
    (save.replaced table = none ∧ save.step encryption user table = table ∧
      ∀ id, (save.perform encryption user table).1 ≠ .saved id) ∨
    ∃ id columns, save.replaced table = some columns ∧
      (save.perform encryption user table).1 = .saved id ∧
      Stores encryption user table
        (save.step encryption user table) id columns save.attrs := by
  cases save with
  | createMessage attrs drawn refused =>
      rcases createBodies_cases encryption user table attrs attrs
        drawn refused rfl rfl with ⟨refuses, kept, unsaved⟩ | ⟨inserts, saved, stores⟩
      · left
        exact ⟨by simp [Save.replaced, refuses], kept, unsaved⟩
      · right
        exact ⟨_, _, by simp only [Save.replaced, inserts, if_true], saved, stores⟩
  | saveDraft attrs draftId generated drawn refused =>
      cases draftId with
      | none =>
          rcases createBodies_cases encryption user table
            { attrs with
              status := some "draft", messageId := some (attrs.messageId.getD generated) }
            attrs drawn refused rfl rfl with ⟨refuses, kept, unsaved⟩ | ⟨inserts, saved, stores⟩
          · left
            dsimp only at refuses
            exact ⟨by simp [Save.replaced, refuses], kept, unsaved⟩
          · right
            dsimp only at inserts
            exact ⟨_, _, by simp only [Save.replaced, inserts, if_true], saved, stores⟩
      | some draftId =>
          rcases updateDraft_cases encryption user table draftId
            attrs (attrs.messageId.getD generated) drawn refused with
            ⟨refuses, kept, unsaved⟩ | ⟨draft, found, saved, stores⟩
          · left
            exact ⟨by simp only [Save.replaced, refuses, Option.map_none], kept, unsaved⟩
          · right
            exact ⟨_, _, by simp only [Save.replaced, found, Option.map_some], saved, stores⟩

variable {encryption} {user}

theorem holdLastSaved_nil : HoldLastSaved encryption user [] := by
  intro row member
  cases member

theorem holdLastSaved_concat {saves : List Save} (save : Save)
    (holds : HoldLastSaved encryption user saves) :
    HoldLastSaved encryption user (saves ++ [save]) ↔
      save.Fits encryption user (savedTable encryption user saves) := by
  have after : savedTable encryption user (saves ++ [save]) =
      save.step encryption user (savedTable encryption user saves) :=
    List.foldl_concat ..
  unfold HoldLastSaved
  rw [after, transitions_concat]
  rcases perform_cases encryption user
    (savedTable encryption user saves) save with
    ⟨refused, kept, unsaved⟩ | ⟨id, columns, replaced, saved, stores⟩
  · constructor
    · intro _ columns replaced
      rw [refused] at replaced
      cases replaced
    · intro _ row member
      rw [kept] at member
      obtain ⟨attrs, last, reads⟩ := holds row member
      refine ⟨attrs, since_concat.mpr (Or.inr ⟨last, ?_⟩), reads⟩
      intro saved
      obtain ⟨other, -, saved⟩ := saved
      exact unsaved _ saved
  · obtain ⟨⟨row, stored, rewritten⟩, others⟩ := stores
    have keyed := (SerialRows.find_eq_some_iff.mp stored).2
    have mine : SavesIn encryption user id save.attrs
        ⟨savedTable encryption user saves, save,
          save.step encryption user (savedTable encryption user saves)⟩ := ⟨rfl, saved⟩
    constructor
    · intro all other same
      rw [replaced] at same
      cases same
      obtain ⟨attrs, last, reads⟩ := all row (SerialRows.find_eq_some_iff.mp stored).1
      rw [keyed] at last
      rcases since_concat.mp last with ⟨same, -⟩ | ⟨-, unsaved⟩
      · have same : save.attrs = attrs := same
        rw [← same] at reads
        exact rewritten.holds_iff.mp reads
      · exact absurd ⟨_, mine⟩ unsaved
    · intro fits other member
      by_cases same : other.id = id
      · have found := SerialRows.find_eq_some_iff.mpr ⟨member, same⟩
        rw [stored] at found
        cases found
        refine ⟨save.attrs, since_concat.mpr (Or.inl ?_), ?_⟩
        · rw [same]
          exact mine
        · exact rewritten.holds_iff.mpr (fits columns replaced)
      · have found := SerialRows.find_eq_some_iff.mpr ⟨member, rfl⟩
        rw [others _ same] at found
        obtain ⟨attrs, last, reads⟩ := holds other (SerialRows.find_eq_some_iff.mp found).1
        refine ⟨attrs, since_concat.mpr (Or.inr ⟨last, ?_⟩), reads⟩
        intro stored_here
        obtain ⟨given, -, saved_here⟩ := stored_here
        have same_outcome : Outcome.saved id = .saved other.id := saved.symm.trans saved_here
        cases same_outcome
        exact same rfl

/-- In every state of a run of saves the messages hold the bodies of their last save, just
when every save fits. -/
theorem holdLastSaved_iff (encryption : Encryption Cipher) (user : Nat)
    (saves : List Save) :
    (∀ front back, saves = front ++ back → HoldLastSaved encryption user front) ↔
      Along (Save.step encryption user) (fun table save => save.Fits encryption user table)
        (.empty _ _) saves :=
  always_iff_along holdLastSaved_nil (fun _ save holds => holdLastSaved_concat save holds)
    saves

end

def besideTheUser : Encryption (Nat × String × Nat) where
  encrypt drawn text user := (drawn, text, user)
  decrypt cipher user := if cipher.2.2 = user then some cipher.2.1 else none
  indexContent text _ := [text]
  undoes _ _ _ := if_pos rfl

def firstDraft : Save :=
  .saveDraft ⟨some "draft-1@example.com", none, some "hello", none⟩ none "" ⟨1, 2⟩ false

def emptiedDraft : Save :=
  .saveDraft ⟨some "draft-1@example.com", none, some "", none⟩ (some 1) "" ⟨3, 4⟩ false

/-- The draft still reads as it was saved first. -/
theorem not_holdLastSaved_emptied :
    ¬ HoldLastSaved besideTheUser 7 [firstDraft, emptiedDraft] := by
  intro holds
  have first : HoldLastSaved besideTheUser 7 [firstDraft] := by
    apply (holdLastSaved_concat firstDraft holdLastSaved_nil).mpr
    intro columns replaced
    have blank : columns = .blank _ := (Option.some.inj replaced).symm
    rw [blank]
    exact ⟨Or.inl rfl, Or.inl rfl, Or.inl (by decide)⟩
  have fits := (holdLastSaved_concat emptiedDraft first).mp holds
  have takes := fits ⟨some (1, "hello", 7), none, ["hello"]⟩ (by decide)
  rcases takes.text with missing | put
  · cases missing
  · cases put

end Elektrine.Email
