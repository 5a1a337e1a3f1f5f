import Elektrine.Data.DateTime
import Elektrine.Data.Json
import Elektrine.Messaging.Federation.Utils

/-!
# Call sessions

The row of a call between a local user and a remote one, and the table of these
rows with its two unique keys: the id, and the call of a user.
-/

namespace Elektrine.Messaging

open Federation (Reason)

inductive CallDirection where
  | inbound
  | outbound
  deriving DecidableEq, Repr

inductive CallStatus where
  | initiated
  | ringing
  | active
  | ended
  | rejected
  | missed
  | failed
  deriving DecidableEq, Repr

/-- The statuses of `@active_statuses`. -/
def CallStatus.live : CallStatus → Bool
  | .initiated | .ringing | .active => true
  | .ended | .rejected | .missed | .failed => false

def CallStatus.connected : CallStatus → Bool
  | .ringing | .active => true
  | .initiated | .ended | .rejected | .missed | .failed => false

theorem CallStatus.live_of_connected {status : CallStatus}
    (connected : status.connected = true) : status.live = true := by
  cases status <;> first | rfl | cases connected

structure FederationCallSession where
  id : Int
  conversationId : Int
  localUserId : Int
  federatedCallId : String
  originDomain : String
  remoteDomain : String
  remoteHandle : String
  remoteActor : Json
  callType : String
  direction : CallDirection
  status : CallStatus
  metadata : Json
  startedAtRemote : Option DateTime
  endedAtRemote : Option DateTime

namespace FederationCallSession

def validCallTypes : List String := ["audio", "video"]

def validText (value : String) (maximum : Nat) : Bool :=
  (present value).isSome && value.length ≤ maximum

def valid (session : FederationCallSession) : Bool :=
  validText session.federatedCallId 500 && validText session.originDomain 255 &&
    validText session.remoteDomain 255 && validText session.remoteHandle 255 &&
    validCallTypes.contains session.callType && session.metadata.isMap

def key (session : FederationCallSession) : Int × Int × String :=
  (session.id, session.localUserId, session.federatedCallId)

end FederationCallSession

abbrev ValidCallSession := {session : FederationCallSession // session.valid = true}

def FederationCallSession.changeset (session : FederationCallSession) :
    Except Reason ValidCallSession :=
  if valid : session.valid = true then .ok ⟨session, valid⟩
  else .error .invalidChangeset

theorem FederationCallSession.changeset_eq_ok_iff
    {session : FederationCallSession} {changed : ValidCallSession} :
    session.changeset = .ok changed ↔ changed.val = session := by
  unfold changeset
  split
  · rename_i valid
    constructor
    · intro same
      rw [← Except.ok.inj same]
    · intro same
      exact congrArg Except.ok (Subtype.ext same.symm)
  · rename_i invalid
    constructor
    · intro impossible
      cases impossible
    · intro same
      exact absurd (same ▸ changed.property) invalid

structure CallTable where
  sessions : List FederationCallSession
  nextId : Int
  valid : ∀ session ∈ sessions, session.valid = true
  fresh : ∀ session ∈ sessions, session.id < nextId
  distinctIds : (sessions.map FederationCallSession.id).Nodup
  distinctCalls : (sessions.map fun session =>
    (session.localUserId, session.federatedCallId)).Nodup

namespace CallTable

def empty : CallTable where
  sessions := []
  nextId := 1
  valid := by simp
  fresh := by simp
  distinctIds := by simp
  distinctCalls := by simp

def findCall (table : CallTable) (localUserId : Int) (callId : String) :
    Option FederationCallSession :=
  table.sessions.find? fun session =>
    session.localUserId == localUserId && session.federatedCallId == callId

def findSession (table : CallTable) (sessionId localUserId : Int) :
    Option FederationCallSession :=
  table.sessions.find? fun session =>
    session.id == sessionId && session.localUserId == localUserId

def replaceRow (row stored : FederationCallSession) : FederationCallSession :=
  if stored.key = row.key then row else stored

@[simp] theorem key_replaceRow (row stored : FederationCallSession) :
    (replaceRow row stored).key = stored.key := by
  unfold replaceRow
  split
  · rename_i same
    exact same.symm
  · rfl

theorem map_replaceRow {α : Type} (row : FederationCallSession)
    (sessions : List FederationCallSession)
    (read : Int × Int × String → α) :
    (sessions.map (replaceRow row)).map (fun session => read session.key) =
      sessions.map fun session => read session.key := by
  rw [List.map_map]
  apply List.map_congr_left
  intro session _
  exact congrArg read (key_replaceRow row session)

def replace (table : CallTable) (row : ValidCallSession) : CallTable where
  sessions := table.sessions.map (replaceRow row)
  nextId := table.nextId
  valid := by
    intro session member
    obtain ⟨stored, present, rfl⟩ := List.mem_map.mp member
    unfold replaceRow
    split
    · exact row.property
    · exact table.valid stored present
  fresh := by
    intro session member
    obtain ⟨stored, present, rfl⟩ := List.mem_map.mp member
    have same : (replaceRow row.val stored).id = stored.id :=
      congrArg Prod.fst (key_replaceRow row.val stored)
    rw [same]
    exact table.fresh stored present
  distinctIds := by
    have same := map_replaceRow row.val table.sessions Prod.fst
    exact same ▸ table.distinctIds
  distinctCalls := by
    have same := map_replaceRow row.val table.sessions Prod.snd
    exact same ▸ table.distinctCalls

def assign (table : CallTable) (row : ValidCallSession) :
    FederationCallSession :=
  { row.val with id := table.nextId }

def insert (table : CallTable) (row : ValidCallSession)
    (unknown : table.findCall row.val.localUserId row.val.federatedCallId = none) :
    CallTable where
  sessions := table.sessions ++ [table.assign row]
  nextId := table.nextId + 1
  valid := by
    intro session member
    rcases List.mem_append.mp member with stored | added
    · exact table.valid session stored
    · rw [List.mem_singleton.mp added]
      exact row.property
  fresh := by
    intro session member
    rcases List.mem_append.mp member with stored | added
    · have below := table.fresh session stored
      omega
    · rw [List.mem_singleton.mp added]
      change table.nextId < table.nextId + 1
      omega
  distinctIds := by
    rw [List.map_append, List.nodup_append]
    refine ⟨table.distinctIds, by simp, ?_⟩
    intro id stored other added
    obtain ⟨session, member, rfl⟩ := List.mem_map.mp stored
    have below := table.fresh session member
    have assigned : other = table.nextId := by simpa [assign] using added
    omega
  distinctCalls := by
    rw [List.map_append, List.nodup_append]
    refine ⟨table.distinctCalls, by simp, ?_⟩
    intro call stored other added same
    obtain ⟨session, member, rfl⟩ := List.mem_map.mp stored
    have assigned : other = (row.val.localUserId, row.val.federatedCallId) := by
      simpa [assign] using added
    have notFound := List.find?_eq_none.mp unknown session member
    rw [assigned] at same
    exact notFound (by simpa using same)

/-- `Repo.insert`; the unique index refuses a second session of the same call. -/
def insertRow (table : CallTable) (row : ValidCallSession) :
    Except Reason CallTable :=
  match unknown : table.findCall row.val.localUserId row.val.federatedCallId with
  | none => .ok (table.insert row unknown)
  | some _ => .error .invalidChangeset

end CallTable

end Elektrine.Messaging
