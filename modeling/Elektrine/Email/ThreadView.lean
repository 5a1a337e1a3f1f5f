import Mathlib.Data.List.Perm.Basic
import Elektrine.Data.Text
import Elektrine.IMAP.Helpers
import Elektrine.Library.Saturation
import Elektrine.Library.Words

/-!
# The view of a thread

Of the messages with the thread id of the opened message, the view keeps those that the
opened message or a sent one is connected with by identifiers of the headers.
-/

namespace Elektrine.Email.ThreadView

open Elektrine.Library

structure ThreadMessage where
  id : Nat
  status : Option String
  messageId : Option String
  inReplyTo : Option String
  references : Option String
  deriving DecidableEq

/-- `String.replace(~r/^<|>$/, "")` -/
def withoutBrackets (characters : List Char) : List Char :=
  let opened := if characters.head? = some '<' then characters.tail else characters
  if opened.getLast? = some '>' then opened.dropLast else opened

def normalizeMessageId (messageId : Option String) : Option String :=
  messageId.bind fun text =>
    let normalized := String.ofList (withoutBrackets (trim text).toList)
    if normalized = "" then none else some normalized

def blankValue (value : Option String) : Bool :=
  (value.bind present).isNone

/-- `String.split(references, ~r/[\s,]+/, trim: true)`, without the blank pieces; an
angle bracket stays. -/
def parseReferenceIds (references : Option String) : List String :=
  ((wordsBy (fun character => IMAP.isSpace character || character == ',')
    (references.getD "").toList).map String.ofList).filter fun piece => !blankValue (some piece)

def threadIdentitySet (message : ThreadMessage) : Finset String :=
  (([normalizeMessageId message.messageId, normalizeMessageId message.inReplyTo]
    ++ (parseReferenceIds message.references).map some).filterMap
      fun value => if blankValue value then none else value).toFinset

/-- The map from the ids of the messages to their identities, with the order in which
`Enum.reduce` goes through its keys. -/
structure IdentitySets where
  keys : List Nat
  get : Nat → Option (Finset String)

/-- What `connected_to_thread_component?` asks of a connected id and the entry of an id. -/
def IdentitySets.share (identitySets : IdentitySets) (connectedId id : Nat) : Bool :=
  match identitySets.get id, identitySets.get connectedId with
  | some identitySet, some connectedIdentitySet =>
      !decide (Disjoint identitySet connectedIdentitySet)
  | _, _ => false

/-- A pass of `saturate` is the `Enum.reduce`, and it is repeated until the sets are equal. -/
def collectConnectedThreadMessageIds (connectedIds : Finset Nat)
    (identitySets : IdentitySets) : Finset Nat :=
  saturate (fun connectedId id => identitySets.share connectedId id) identitySets.keys
    connectedIds

structure MapOrder where
  arrange : List Nat → List Nat
  perm (ids : List Nat) : (arrange ids).Perm ids

def identitySets (order : MapOrder) (messages : List ThreadMessage) : IdentitySets where
  keys := order.arrange (messages.map ThreadMessage.id)
  get id := (messages.find? fun message => message.id = id).map threadIdentitySet

def filterRelatedThreadMessages (order : MapOrder) (messages : List ThreadMessage)
    (currentMessageId : Nat) : List ThreadMessage :=
  let identitySets := identitySets order messages
  if (identitySets.get currentMessageId).isSome then
    let seedIds := insert currentMessageId
      ((messages.filter fun message => message.status = some "sent").map ThreadMessage.id).toFinset
    let connectedIds := collectConnectedThreadMessageIds seedIds identitySets
    messages.filter fun message => message.id ∈ connectedIds
  else messages

/-- The rows of a query; `id` is the primary key. -/
structure Thread where
  messages : List ThreadMessage
  distinct : (messages.map ThreadMessage.id).Nodup

/-! ## Connected messages -/

/-- The messages share a Message-ID, In-Reply-To or References identifier. -/
def Linked (first second : ThreadMessage) : Prop :=
  ∃ identifier ∈ threadIdentitySet first, identifier ∈ threadIdentitySet second

/-- A chain of linked messages leads from the opened message or a sent one. -/
def Related (messages : List ThreadMessage) (opened message : ThreadMessage) : Prop :=
  ∃ start ∈ messages, (start = opened ∨ start.status = some "sent") ∧
    Relation.ReflTransGen (LinkedIn Linked messages) start message

variable {order : MapOrder} {messages : List ThreadMessage}

theorem get_identitySets (distinct : (messages.map ThreadMessage.id).Nodup)
    {message : ThreadMessage} (member : message ∈ messages) :
    (identitySets order messages).get message.id = some (threadIdentitySet message) := by
  have found : messages.find? (fun other => other.id = message.id) = some message := by
    induction messages with
    | nil => cases member
    | cons first messages ih =>
        obtain ⟨fresh, distinct⟩ := List.nodup_cons.mp distinct
        rcases List.mem_cons.mp member with here | later
        · rw [here, List.find?_cons_of_pos (by simp)]
        · have apart : first.id ≠ message.id := by
            intro same
            apply fresh
            rw [same]
            exact List.mem_map_of_mem later
          rw [List.find?_cons_of_neg (by simpa using apart)]
          exact ih distinct later
  exact congrArg (Option.map threadIdentitySet) found

theorem mem_keys_iff {id : Nat} :
    id ∈ (identitySets order messages).keys ↔ ∃ message ∈ messages, message.id = id := by
  exact (order.perm _).mem_iff.trans List.mem_map

theorem share_iff (distinct : (messages.map ThreadMessage.id).Nodup)
    {first second : ThreadMessage} (inside : first ∈ messages) (also : second ∈ messages) :
    (identitySets order messages).share first.id second.id = true ↔ Linked first second := by
  rw [IdentitySets.share, get_identitySets distinct inside, get_identitySets distinct also]
  simp only [Bool.not_eq_true', decide_eq_false_iff_not, Finset.not_disjoint_iff, Linked]
  constructor
  · intro common
    obtain ⟨identifier, second, first⟩ := common
    exact ⟨identifier, first, second⟩
  · intro common
    obtain ⟨identifier, first, second⟩ := common
    exact ⟨identifier, second, first⟩

theorem related_of_chain (distinct : (messages.map ThreadMessage.id).Nodup)
    {start : ThreadMessage} (inside : start ∈ messages) {id : Nat}
    (chain : Relation.ReflTransGen
      (LinkedIn (fun connectedId id => (identitySets order messages).share connectedId id)
        (identitySets order messages).keys) start.id id) :
    ∃ message ∈ messages, message.id = id ∧
      Relation.ReflTransGen (LinkedIn Linked messages) start message := by
  induction chain with
  | refl => exact ⟨start, inside, rfl, .refl⟩
  | tail _ link ih =>
      obtain ⟨before, known, same, chain⟩ := ih
      obtain ⟨message, member, named⟩ := mem_keys_iff.mp link.2
      refine ⟨message, member, named, chain.tail ⟨?_, member⟩⟩
      have shared := link.1
      rw [← same, ← named] at shared
      exact (share_iff distinct known member).mp shared

theorem chain_of_related (distinct : (messages.map ThreadMessage.id).Nodup)
    {start message : ThreadMessage} (inside : start ∈ messages)
    (chain : Relation.ReflTransGen (LinkedIn Linked messages) start message) :
    message ∈ messages ∧ Relation.ReflTransGen
      (LinkedIn (fun connectedId id => (identitySets order messages).share connectedId id)
        (identitySets order messages).keys) start.id message.id := by
  induction chain with
  | refl => exact ⟨inside, .refl⟩
  | tail _ link ih =>
      obtain ⟨known, chain⟩ := ih
      refine ⟨link.2, chain.tail ⟨?_, mem_keys_iff.mpr ⟨_, link.2, rfl⟩⟩⟩
      exact (share_iff distinct known link.2).mpr link.1

theorem eq_of_id (distinct : (messages.map ThreadMessage.id).Nodup)
    {first second : ThreadMessage} (inside : first ∈ messages) (also : second ∈ messages)
    (same : first.id = second.id) : first = second :=
  List.inj_on_of_nodup_map distinct inside also same

theorem filterRelated_of_mem
    (distinct : (messages.map ThreadMessage.id).Nodup) {opened : ThreadMessage}
    (inside : opened ∈ messages) :
    filterRelatedThreadMessages order messages opened.id =
      messages.filter fun message => message.id ∈ collectConnectedThreadMessageIds
        (insert opened.id ((messages.filter fun message =>
          message.status = some "sent").map ThreadMessage.id).toFinset)
        (identitySets order messages) := by
  have stored : ((identitySets order messages).get opened.id).isSome = true := by
    rw [get_identitySets distinct inside]
    rfl
  exact if_pos stored

theorem mem_seeds_iff {opened : ThreadMessage} {id : Nat} :
    id ∈ insert opened.id ((messages.filter fun message =>
        message.status = some "sent").map ThreadMessage.id).toFinset ↔
      id = opened.id ∨ ∃ start ∈ messages, start.status = some "sent" ∧ start.id = id := by
  simp [and_assoc]

theorem mem_collect_iff (distinct : (messages.map ThreadMessage.id).Nodup)
    {opened message : ThreadMessage} (inside : opened ∈ messages) (member : message ∈ messages) :
    message.id ∈ collectConnectedThreadMessageIds
        (insert opened.id ((messages.filter fun message =>
          message.status = some "sent").map ThreadMessage.id).toFinset)
        (identitySets order messages) ↔
      Related messages opened message := by
  rw [collectConnectedThreadMessageIds, mem_saturate_iff]
  constructor
  · intro reached
    obtain ⟨seed, planted, chain⟩ := reached
    obtain ⟨start, known, begins, same⟩ : ∃ start ∈ messages,
        (start = opened ∨ start.status = some "sent") ∧ start.id = seed := by
      rcases mem_seeds_iff.mp planted with here | sent
      · exact ⟨opened, inside, Or.inl rfl, here.symm⟩
      · obtain ⟨start, known, sent, same⟩ := sent
        exact ⟨start, known, Or.inr sent, same⟩
    rw [← same] at chain
    obtain ⟨last, found, named, chain⟩ := related_of_chain distinct known chain
    rw [eq_of_id distinct found member named] at chain
    exact ⟨start, known, begins, chain⟩
  · intro related
    obtain ⟨start, known, begins, chain⟩ := related
    refine ⟨start.id, mem_seeds_iff.mpr ?_, (chain_of_related distinct known chain).2⟩
    rcases begins with here | sent
    · exact Or.inl (congrArg ThreadMessage.id here)
    · exact Or.inr ⟨start, known, sent, rfl⟩

open Classical in
theorem filterRelated_eq (distinct : (messages.map ThreadMessage.id).Nodup)
    {opened : ThreadMessage} (inside : opened ∈ messages) :
    filterRelatedThreadMessages order messages opened.id =
      messages.filter fun message => Related messages opened message := by
  rw [filterRelated_of_mem distinct inside]
  apply List.filter_congr
  intro message member
  exact decide_eq_decide.mpr (mem_collect_iff distinct inside member)

def keysAsListed : MapOrder where
  arrange ids := ids
  perm _ := .refl _

def question : ThreadMessage where
  id := 1
  status := some "received"
  messageId := some "<q@example>"
  inReplyTo := none
  references := none

def answer : ThreadMessage where
  id := 2
  status := some "received"
  messageId := some "a@example"
  inReplyTo := some "q@example"
  references := none

def twoMessages : Thread where
  messages := [question, answer]
  distinct := by decide

theorem Related.trans {opened message last : ThreadMessage}
    (first : Related messages opened message) (second : Related messages message last) :
    Related messages opened last := by
  obtain ⟨start, known, begins, chain⟩ := second
  rcases begins with here | sent
  · obtain ⟨origin, stored, starts, path⟩ := first
    rw [here] at chain
    exact ⟨origin, stored, starts, path.trans chain⟩
  · exact ⟨start, known, Or.inr sent, chain⟩

open Classical in
/-- What is opened from the view of a message shows nothing else than this view, and all
of it just when it shows the message. -/
theorem view_of_shown (order : MapOrder) (thread : Thread) {opened message : ThreadMessage}
    (inside : opened ∈ thread.messages)
    (shown : message ∈ filterRelatedThreadMessages order thread.messages opened.id) :
    (filterRelatedThreadMessages order thread.messages message.id).Sublist
        (filterRelatedThreadMessages order thread.messages opened.id) ∧
      (filterRelatedThreadMessages order thread.messages message.id =
          filterRelatedThreadMessages order thread.messages opened.id ↔
        opened ∈ filterRelatedThreadMessages order thread.messages message.id) := by
  rw [filterRelated_eq thread.distinct inside] at shown
  obtain ⟨listed, related⟩ := List.mem_filter.mp shown
  have related := of_decide_eq_true related
  rw [filterRelated_eq thread.distinct inside, filterRelated_eq thread.distinct listed]
  constructor
  · apply List.monotone_filter_right
    intro other reached
    exact decide_eq_true (related.trans (of_decide_eq_true reached))
  · constructor
    · intro same
      rw [same]
      have own : Related thread.messages opened opened :=
        ⟨opened, inside, Or.inl rfl, .refl⟩
      exact List.mem_filter.mpr ⟨inside, decide_eq_true own⟩
    · intro back
      have back := of_decide_eq_true (List.mem_filter.mp back).2
      apply List.filter_congr
      intro other _
      exact decide_eq_decide.mpr ⟨related.trans, back.trans⟩

theorem view_of_shown_answer :
    (filterRelatedThreadMessages keysAsListed twoMessages.messages answer.id).Sublist
      (filterRelatedThreadMessages keysAsListed twoMessages.messages question.id) := by
  have linked : Linked question answer := ⟨"q@example", by decide, by decide⟩
  have listed : answer ∈ twoMessages.messages := List.mem_cons_of_mem _ List.mem_cons_self
  have related : Related twoMessages.messages question answer :=
    ⟨question, List.mem_cons_self, Or.inl rfl, .single ⟨linked, listed⟩⟩
  apply (view_of_shown keysAsListed twoMessages List.mem_cons_self _).1
  rw [filterRelated_eq twoMessages.distinct List.mem_cons_self]
  exact List.mem_filter.mpr ⟨listed, by simpa using related⟩

end Elektrine.Email.ThreadView
