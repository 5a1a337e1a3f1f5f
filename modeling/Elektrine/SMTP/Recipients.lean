import Elektrine.Email.RecipientLists
import Elektrine.SMTP.Session

/-!
# Recipients on their way to the sender

The accepted addresses are joined into one text, and the sender reads recipients out of
that text again.  An address comes through as one recipient when the sender would read
it as one by itself, and when no odd quotation mark in it swallows the comma before it.
-/

namespace Elektrine.SMTP

open Elektrine.Email Elektrine.Library

def addressKey (address : String) : String :=
  downcase (trim address)

/-- The sender reads the address, behind these recipients, as one recipient. -/
def Single (recipients : List String) (address : String) : Prop :=
  splitEmailHeaderList address = [address] ∧
    (recipients = [] ∨ address.toList.count '"' % 2 = 0)

def Separate : List String → Prop
  | [] => True
  | recipient :: recipients => Single recipients recipient ∧ Separate recipients

theorem splitEmailHeaderList_joinRecipients {recipients : List String}
    (separate : Separate recipients) :
    splitEmailHeaderList (joinRecipients recipients) = recipients.reverse := by
  induction recipients with
  | nil => decide
  | cons newest older ih =>
      cases older with
      | nil => exact separate.1.1
      | cons next older =>
          have even : newest.toList.count '"' % 2 = 0 := by
            rcases separate.1.2 with none | even
            · cases none
            · exact even
          rw [joinRecipients, splitEmailHeaderList_join even, ih separate.2,
            separate.1.1]
          simp
          exact fun empty => by cases empty

theorem bracketed_eq_none {text : List Char} (closed : '>' ∉ text) :
    bracketed text = none := by
  induction text with
  | nil => rfl
  | cons character rest ih =>
      have later : '>' ∉ rest := fun inside => closed (List.mem_cons_of_mem _ inside)
      have whole : rest.takeWhile (· ≠ '>') = rest := by
        rw [List.takeWhile_eq_self_iff]
        intro other member
        simpa using fun same : other = '>' => later (same ▸ member)
      rw [bracketed, whole, if_neg]
      · exact ih later
      · intro found
        exact Nat.lt_irrefl _ found.2.2

theorem captureRecipient_closed {text address : List Char}
    (captured : captureRecipient text = some address) : '>' ∉ address := by
  have cut : ∀ path : List Char, '>' ∉ path.takeWhile (· != '>') := by
    intro path inside
    simpa using List.mem_takeWhile_imp inside
  intro closing
  simp only [captureRecipient] at captured
  split at captured
  · split at captured
    · rw [← Option.some.inj captured] at closing
      exact cut _ closing
    · rw [← Option.some.inj captured] at closing
      simp at closing
  · split at captured
    · rw [← Option.some.inj captured] at closing
      exact cut _ closing
    · obtain ⟨space, last, same⟩ := Option.map_eq_some_iff.mp captured
      rw [← same, List.mem_singleton] at closing
      have blank := List.mem_takeWhile_imp (List.mem_of_getLast? last)
      rw [← closing] at blank
      simp [isSpace] at blank

theorem findRecipient_closed {text address : List Char}
    (found : findRecipient text = some address) : '>' ∉ address := by
  induction text with
  | nil => cases found
  | cons character rest ih =>
      rw [findRecipient] at found
      cases here : (dropPrefix? "TO:".toList (character :: rest)).bind
          captureRecipient with
      | some captured =>
          rw [here] at found
          obtain ⟨after, -, captures⟩ := Option.bind_eq_some_iff.mp here
          rw [← Option.some.inj found]
          exact captureRecipient_closed captures
      | none =>
          rw [here] at found
          exact ih found

theorem parseRcptTo_closed {text address : String}
    (parsed : parseRcptTo text = some address) :
    '>' ∉ address.toList ∧ trim address = address := by
  obtain ⟨found, finds, rfl⟩ := Option.map_eq_some_iff.mp parsed
  refine ⟨?_, trim_trim _⟩
  intro closing
  apply findRecipient_closed finds
  have member := (toList_trim_sublist (String.ofList found)).subset closing
  rwa [String.toList_ofList] at member

theorem normalizeOrPreserve_of_parsed {address : String} (closed : '>' ∉ address.toList)
    (trimmed : trim address = address) (nonblank : address ≠ "") :
    ∃ kept, normalizeOrPreserve address = some kept ∧
      addressKey kept = addressKey address := by
  rw [normalizeOrPreserve]
  by_cases suspicious : containsSuspiciousContent address
  · rw [if_pos suspicious]
    exact ⟨address, rfl, rfl⟩
  · rw [if_neg suspicious]
    have extracted : extractEmailAddress address = address := by
      rw [extractEmailAddress, bracketed_eq_none closed]
      exact trimmed
    have filled : downcase address ≠ "" := by
      intro empty
      have characters := congrArg String.toList empty
      rw [toList_downcase, String.toList_empty, List.map_eq_nil_iff,
        String.toList_eq_nil_iff] at characters
      exact nonblank characters
    refine ⟨downcase address, ?_, ?_⟩
    · rw [normalizeEmailAddress, extracted, trimmed]
      split
      · rename_i empty
        exact absurd empty filled
      · rfl
    · rw [addressKey, addressKey, trim_downcase, trimmed, downcase_downcase]

theorem Single.nonblank {recipients : List String} {address : String}
    (single : Single recipients address) : address ≠ "" := by
  intro empty
  have entries := single.1
  rw [empty] at entries
  have none : splitEmailHeaderList "" = [] := by decide
  rw [none] at entries
  cases entries

structure Tidy (recipients : List String) : Prop where
  separate : Separate recipients
  closed : ∀ recipient ∈ recipients, '>' ∉ recipient.toList
  trimmed : ∀ recipient ∈ recipients, trim recipient = recipient

theorem Tidy.nil : Tidy [] :=
  ⟨trivial, by simp, by simp⟩

theorem nonblank_of_separate {recipients : List String} (separate : Separate recipients)
    {recipient : String} (member : recipient ∈ recipients) : recipient ≠ "" := by
  induction recipients with
  | nil => cases member
  | cons newest older ih =>
      rcases List.mem_cons.mp member with rfl | later
      · exact separate.1.nonblank
      · exact ih separate.2 later

theorem map_filterMap_of_kept {keep : String → Option String} {entries : List String}
    (kept : ∀ entry ∈ entries, ∃ result, keep entry = some result ∧
      addressKey result = addressKey entry) :
    (entries.filterMap keep).map addressKey = entries.map addressKey := by
  induction entries with
  | nil => rfl
  | cons entry entries ih =>
      obtain ⟨result, keeps, same⟩ := kept entry List.mem_cons_self
      have rest := ih fun other member => kept other (List.mem_cons_of_mem _ member)
      rw [List.filterMap_cons_some keeps, List.map_cons, List.map_cons, same, rest]

theorem parseEmailList_joinRecipients {recipients : List String}
    (tidy : Tidy recipients) :
    (parseEmailList (joinRecipients recipients)).map addressKey =
      (recipients.map addressKey).reverse := by
  rw [parseEmailList, splitEmailHeaderList_joinRecipients tidy.separate,
    ← List.map_reverse]
  apply map_filterMap_of_kept
  intro recipient member
  have inside := List.mem_reverse.mp member
  exact normalizeOrPreserve_of_parsed (tidy.closed recipient inside)
    (tidy.trimmed recipient inside) (nonblank_of_separate tidy.separate inside)

theorem addUniqueRecipient_of_known {recipients : List String} {recipient : String}
    (known : addressKey recipient ∈ recipients.map addressKey) :
    addUniqueRecipient recipients recipient = recipients := by
  rw [addUniqueRecipient, if_pos]
  obtain ⟨other, member, same⟩ := List.mem_map.mp known
  rw [List.any_eq_true]
  exact ⟨other, member, decide_eq_true same⟩

theorem addUniqueRecipient_of_new {recipients : List String} {recipient : String}
    (new : addressKey recipient ∉ recipients.map addressKey) :
    addUniqueRecipient recipients recipient = recipient :: recipients := by
  rw [addUniqueRecipient, if_neg]
  intro known
  obtain ⟨other, member, same⟩ := List.any_eq_true.mp known
  exact new (List.mem_map.mpr ⟨other, member, of_decide_eq_true same⟩)

theorem mem_keys_addUniqueRecipient {recipients : List String} {recipient key : String} :
    key ∈ (addUniqueRecipient recipients recipient).map addressKey ↔
      key = addressKey recipient ∨ key ∈ recipients.map addressKey := by
  by_cases known : addressKey recipient ∈ recipients.map addressKey
  · rw [addUniqueRecipient_of_known known]
    constructor
    · exact .inr
    · intro either
      rcases either with rfl | member
      · exact known
      · exact member
  · rw [addUniqueRecipient_of_new known, List.map_cons, List.mem_cons]

theorem nodup_keys_addUniqueRecipient {recipients : List String} {recipient : String}
    (distinct : (recipients.map addressKey).Nodup) :
    ((addUniqueRecipient recipients recipient).map addressKey).Nodup := by
  by_cases known : addressKey recipient ∈ recipients.map addressKey
  · rwa [addUniqueRecipient_of_known known]
  · rw [addUniqueRecipient_of_new known, List.map_cons]
    exact List.nodup_cons.mpr ⟨known, distinct⟩

theorem mem_keys_gathered {accepted : List String} {key : String} :
    key ∈ (gathered accepted).map addressKey ↔ key ∈ accepted.map addressKey := by
  induction accepted with
  | nil => rfl
  | cons address accepted ih =>
      rw [List.map_cons, List.mem_cons, ← ih]
      exact mem_keys_addUniqueRecipient

theorem nodup_keys_gathered (accepted : List String) :
    ((gathered accepted).map addressKey).Nodup := by
  induction accepted with
  | nil => exact List.nodup_nil
  | cons address accepted ih => exact nodup_keys_addUniqueRecipient ih

theorem Tidy.add {recipients : List String} {text address : String}
    (tidy : Tidy recipients) (parsed : parseRcptTo text = some address)
    (one : addressKey address ∈ recipients.map addressKey ∨ Single recipients address) :
    Tidy (addUniqueRecipient recipients address) := by
  by_cases known : addressKey address ∈ recipients.map addressKey
  · rwa [addUniqueRecipient_of_known known]
  · rw [addUniqueRecipient_of_new known]
    obtain ⟨closed, trimmed⟩ := parseRcptTo_closed parsed
    refine ⟨⟨one.resolve_left known, tidy.separate⟩, ?_, ?_⟩
    · intro other member
      rcases List.mem_cons.mp member with rfl | later
      · exact closed
      · exact tidy.closed other later
    · intro other member
      rcases List.mem_cons.mp member with rfl | later
      · exact trimmed
      · exact tidy.trimmed other later

/-- The condition on a turn: the argument of a `RCPT` command that will be answered 250
names a recipient that is known already, or one that comes through as one. -/
def OneAddress (session : Session) (turn : Turn) : Prop :=
  ∀ state, session.state = some state → turn.name = "RCPT" →
    ∀ text address, turn.args = some text → parseRcptTo text = some address →
      addressKey address ∈ state.recipients.map addressKey ∨
        Single state.recipients address

/-- The recipients in the session's state come through. -/
def Session.Tidy (session : Session) : Prop :=
  ∀ state, session.state = some state → SMTP.Tidy state.recipients

theorem tidy_accept (secure tlsAvailable allowInsecureAuth : Bool) :
    (Session.accept secure tlsAvailable allowInsecureAuth).Tidy := by
  intro state opened
  cases opened
  exact .nil

theorem Session.Tidy.step {session : Session} {turn : Turn} (tidy : session.Tidy)
    (one : OneAddress session turn) : (session.step turn).Tidy := by
  intro next opened
  cases reacts : session.reaction turn with
  | none =>
      rw [step_of_closed reacts] at opened
      exact tidy next opened
  | some reaction =>
      obtain ⟨state, before, -⟩ := Option.map_eq_some_iff.mp reacts
      have kept := tidy state before
      have turned := turned_reaction before reacts
      rw [step_of_reaction reacts] at opened
      have goes := eq_going_of_state opened
      cases turned with
      | accepts text address named given parsed _ _ =>
          cases goes
          exact kept.add parsed (one state before named text address given parsed)
      | ends replies _ => cases goes
      | raises _ _ _ _ => cases goes
      | nobody replies _ _ _ => cases goes
      | stays replies _ =>
          cases goes
          exact kept
      | greets replies _ =>
          cases goes
          exact kept
      | authenticates replies user _ =>
          cases goes
          exact kept
      | _ =>
          cases goes
          exact .nil

theorem tidy_run {session : Session} {turns : List Turn} (tidy : session.Tidy)
    (along : Along Session.step OneAddress session turns) :
    (turns.foldl Session.step session).Tidy :=
  along.invariant (fun _ _ tidy one => tidy.step one) tidy

end Elektrine.SMTP
