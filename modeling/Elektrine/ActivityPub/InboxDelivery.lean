import Elektrine.ActivityPub.InboxQueue
import Elektrine.Library.Places
import Mathlib.Data.List.Perm.Basic

/-!
# Delivery of the inbox queue

Every item that was answered `:queued` is in one place: a job, the table, or the hands of the
queue process.  When calls with one id carry one activity of one actor and do not overlap,
the marks keep them apart for sixty seconds.
-/

namespace Elektrine.ActivityPub.InboxQueue

open Elektrine.Library

def Stage.isQueued : Stage → Bool
  | .answered .queued _ => true
  | _ => false

def Call.queued (call : Call) : Bool := call.stage.isQueued

def Flush.items : Flush → List Item
  | .taking batch => batch
  | .inserting chunks => chunks.flatten
  | .returning failed => failed
  | .idle | .cleaning => []

/-- The requests that are jobs, in the table or in the hands of the queue process, with the
calls that they come from. -/
def State.held (state : State) : List (Nat × Request) :=
  (state.jobs.map fun job => (job.call, job.request)) ++
    ((state.queue ++ state.flush.items).map fun item => (item.call, item.request))

structure Delivers (state : State) : Prop where
  conserved : ∀ (index : Nat) (call : Call), state.calls[index]? = some call →
    call.queued = true → state.held.filter (·.1 == index) = [(index, call.request)]
  once : ∀ (i j : Nat) (first second : Call) (activityId : String) (a b : Nat), i ≠ j →
    state.calls[i]? = some first → state.calls[j]? = some second →
    first.id = some activityId → second.id = some activityId →
    first.stage = .answered .queued a → second.stage = .answered .queued b →
    a + 60000 ≤ b ∨ b + 60000 ≤ a
  duplicates : ∀ call ∈ state.calls, ∀ time, call.stage = .answered .duplicate time →
    ∃ other ∈ state.calls, other.queued = true ∧
      other.request.activity = call.request.activity ∧
      other.request.actorUri = call.request.actorUri

def Stage.inProgress : Stage → Bool
  | .lookedUp _ | .passed _ | .marked _ => true
  | _ => false

def Call.inProgress (call : Call) : Bool := call.stage.inProgress

/-- Activities have types, and those of one id are one activity of one actor; a call looks
its id up while no other with the id is in progress, and not in the part of a second by which
a mark of sixty whole seconds is younger than sixty seconds; it does not die with its mark;
and the queue is in use. -/
def Careful (testModeBypass : Bool) (state : State) : Move → Prop
  | .enqueue request =>
      request.activity.type.isSome = true ∧
        ∀ call ∈ state.calls, call.id.isSome = true → call.id = request.activity.id →
          call.request.activity = request.activity ∧ call.request.actorUri = request.actorUri
  | .advance index _ =>
      testModeBypass = false ∧
        ∀ call, state.calls[index]? = some call → call.stage = .requested →
          ∀ activityId, call.id = some activityId →
            ∀ other ∈ state.calls, other.id = some activityId →
              other.inProgress = false ∧
                ∀ time, other.stage = .answered .queued time → state.clock < time + 60000 →
                  ∀ timestamp, state.dedup activityId = some timestamp →
                    state.seconds < timestamp + 60
  | .die index =>
      ∀ call, state.calls[index]? = some call → ∀ time, call.stage ≠ .marked time
  | .take _ | .flush _ | .tick _ => True

def expected (calls : List Call) (index : Nat) : List (Nat × Request) :=
  match calls[index]? with
  | some call => if call.queued then [(index, call.request)] else []
  | none => []

def Placed (held : List (Nat × Request)) (calls : List Call) : Prop :=
  ∀ index, held.filter (·.1 == index) = expected calls index

variable {held after : List (Nat × Request)} {calls : List Call} {index : Nat} {call : Call}
  {stage : Stage}

theorem expected_cases (calls : List Call) (index : Nat) :
    expected calls index = [] ∨ ∃ request, expected calls index = [(index, request)] := by
  unfold expected
  split
  · split
    · exact Or.inr ⟨_, rfl⟩
    · exact Or.inl rfl
  · exact Or.inl rfl

theorem Placed.perm (placed : Placed held calls) (moved : after.Perm held) :
    Placed after calls := by
  intro index
  have same := moved.filter (·.1 == index)
  rw [placed index] at same
  rcases expected_cases calls index with none | ⟨request, one⟩
  · rw [none] at same ⊢
    exact List.perm_nil.mp same
  · rw [one] at same ⊢
    exact List.perm_singleton.mp same

theorem expected_set (found : calls[index]? = some call)
    (same : stage.isQueued = call.queued) :
    expected (calls.set index { call with stage := stage }) = expected calls := by
  funext other
  obtain ⟨bound, -⟩ := List.getElem?_eq_some_iff.mp found
  by_cases here : index = other
  · rw [expected, expected, ← here, List.getElem?_set_self bound, found]
    change (if stage.isQueued = true then _ else _) = _
    rw [same]
  · rw [expected, expected, List.getElem?_set_ne here]

theorem expected_append (calls : List Call) (request : Request) :
    expected (calls ++ [⟨request, .requested⟩]) = expected calls := by
  funext other
  by_cases inside : other < calls.length
  · rw [expected, expected, List.getElem?_append_left inside]
  · have outside := Nat.le_of_not_lt inside
    rw [expected, expected, List.getElem?_append_right outside,
      List.getElem?_eq_none outside]
    split
    · rename_i call found
      rw [List.mem_singleton.mp (List.mem_of_getElem? found)]
      rfl
    · rfl

theorem Placed.insert (placed : Placed held calls) (found : calls[index]? = some call)
    (before : call.queued = false) {time : Nat}
    (inserted : after.Perm ((index, call.request) :: held)) :
    Placed after (calls.set index { call with stage := .answered .queued time }) := by
  have whole : Placed ((index, call.request) :: held)
      (calls.set index { call with stage := .answered .queued time }) := by
    intro other
    obtain ⟨bound, -⟩ := List.getElem?_eq_some_iff.mp found
    by_cases here : index = other
    · have nothing := placed index
      rw [expected, found] at nothing
      simp only [before, Bool.false_eq_true, if_false] at nothing
      rw [← here, List.filter_cons, if_pos (beq_self_eq_true index), nothing, expected,
        List.getElem?_set_self bound]
      rfl
    · have apart : ¬ ((index, call.request).1 == other) = true := by simpa using here
      rw [List.filter_cons, if_neg apart, placed other, expected, expected,
        List.getElem?_set_ne here]
  exact whole.perm inserted

theorem Placed.of_mem (placed : Placed held calls) {request : Request}
    (member : (index, request) ∈ held) :
    ∃ call, calls[index]? = some call ∧ call.request = request := by
  have kept : (index, request) ∈ held.filter (·.1 == index) :=
    List.mem_filter.mpr ⟨member, beq_self_eq_true index⟩
  rw [placed index] at kept
  unfold expected at kept
  split at kept
  · rename_i call found
    split at kept
    · have same := List.mem_singleton.mp kept
      cases same
      exact ⟨call, found, rfl⟩
    · cases kept
  · cases kept

def Stage.lookedUpAt : Stage → Option Nat
  | .lookedUp time | .passed time | .marked time | .answered .queued time => some time
  | _ => none

def Stage.hasMarked : Stage → Bool
  | .marked _ | .answered .queued _ => true
  | _ => false

theorem Stage.isQueued_of_lookedUpAt {time : Nat} (looked : stage.lookedUpAt = some time)
    (quiet : stage.inProgress = false) : stage.isQueued = true := by
  cases stage with
  | answered answer _ =>
      cases answer with
      | queued => rfl
      | duplicate => cases looked
      | shed => cases looked
      | failed => cases looked
  | lookedUp _ => cases quiet
  | passed _ => cases quiet
  | marked _ => cases quiet
  | requested => cases looked
  | died => cases looked

theorem Stage.lookedUpAt_of_hasMarked (hasMarked : stage.hasMarked = true) :
    ∃ time, stage.lookedUpAt = some time := by
  unfold Stage.hasMarked at hasMarked
  split at hasMarked
  · exact ⟨_, rfl⟩
  · exact ⟨_, rfl⟩
  · cases hasMarked

theorem Stage.isQueued_of_hasMarked (hasMarked : stage.hasMarked = true)
    (quiet : stage.inProgress = false) : stage.isQueued = true := by
  obtain ⟨time, looked⟩ := Stage.lookedUpAt_of_hasMarked hasMarked
  exact Stage.isQueued_of_lookedUpAt looked quiet

theorem Stage.not_isQueued_of_not_hasMarked (unmarked : stage.hasMarked = false) :
    stage.isQueued = false := by
  unfold Stage.isQueued
  split
  · cases unmarked
  · rfl

/-- The calls lie apart, the first one being answered `:queued`. -/
def Apart (first second : Stage) : Prop :=
  ∀ a b, first.isQueued = true → first.lookedUpAt = some a → second.lookedUpAt = some b →
    a + 60000 ≤ b ∨ second.isQueued = true ∧ b + 60000 ≤ a

def Remembers (clock : Nat) (dedup : String → Option Nat) (activityId : String) (time : Nat) :
    Prop :=
  (∃ timestamp, dedup activityId = some timestamp ∧ time / 1000 ≤ timestamp) ∨
    time / 1000 + 120 < clock / 1000

/-- Every mark is that of a call. -/
def Marked (dedup : String → Option Nat) (calls : List Call) : Prop :=
  ∀ activityId timestamp, dedup activityId = some timestamp →
    ∃ call ∈ calls, call.id = some activityId ∧ call.stage.hasMarked = true

structure MarksSound (clock : Nat) (dedup : String → Option Nat) (calls : List Call) :
    Prop where
  typed : ∀ call ∈ calls, call.request.activity.type.isSome = true
  same : ∀ first ∈ calls, ∀ second ∈ calls, first.id.isSome = true → first.id = second.id →
    first.request.activity = second.request.activity ∧
      first.request.actorUri = second.request.actorUri
  alone : ∀ (i j : Nat) (first second : Call), i ≠ j → calls[i]? = some first →
    calls[j]? = some second → first.id.isSome = true → first.id = second.id →
    first.inProgress = true → second.inProgress = false
  remembered : ∀ call ∈ calls, ∀ activityId time, call.id = some activityId →
    call.stage.hasMarked = true → call.stage.lookedUpAt = some time →
    Remembers clock dedup activityId time
  past : ∀ call ∈ calls, ∀ time, call.stage.lookedUpAt = some time → time ≤ clock
  apart : ∀ (i j : Nat) (first second : Call), i ≠ j → calls[i]? = some first →
    calls[j]? = some second → first.id.isSome = true → first.id = second.id →
    Apart first.stage second.stage
  duplicates : ∀ call ∈ calls, ∀ time, call.stage = .answered .duplicate time →
    ∃ other ∈ calls, other.queued = true ∧
      other.request.activity = call.request.activity ∧
      other.request.actorUri = call.request.actorUri

variable {clock later : Nat} {dedup : String → Option Nat}

structure Advances (clock : Nat) (dedup : String → Option Nat) (calls : List Call) (index : Nat)
    (call : Call) (stage : Stage) : Prop where
  inProgress : stage.inProgress = true → call.inProgress = true ∨
    ∀ other ∈ calls, other.id.isSome = true → other.id = call.id → other.inProgress = false
  kept : call.stage.hasMarked = true → stage.hasMarked = true
  queued : call.queued = true → stage.isQueued = true
  remembered : ∀ activityId time, call.id = some activityId → stage.hasMarked = true →
    stage.lookedUpAt = some time → Remembers clock dedup activityId time
  past : ∀ time, stage.lookedUpAt = some time → time ≤ clock
  apart : ∀ (other : Nat) (second : Call), other ≠ index → calls[other]? = some second →
    call.id.isSome = true → call.id = second.id →
    Apart stage second.stage ∧ Apart second.stage stage
  duplicate : ∀ time, stage = .answered .duplicate time → ∃ other ∈ calls,
    other.queued = true ∧ other.request.activity = call.request.activity ∧
      other.request.actorUri = call.request.actorUri

theorem MarksSound.set (sound : MarksSound clock dedup calls) (found : calls[index]? = some call)
    (advances : Advances clock dedup calls index call stage) :
    MarksSound clock dedup (calls.set index { call with stage := stage }) := by
  have requests : ∀ other ∈ calls.set index { call with stage := stage },
      ∃ before ∈ calls, other.request = before.request := by
    intro other member
    rcases mem_set_cases member with its | older
    · exact ⟨call, List.mem_of_getElem? found, by rw [its]⟩
    · exact ⟨other, older, rfl⟩
  have stays : ∀ other ∈ calls, other.queued = true →
      ∃ after ∈ calls.set index { call with stage := stage },
        after.queued = true ∧ after.request = other.request := by
    intro other member queued
    rcases mem_set_or_eq found member with kept | its
    · exact ⟨other, kept, queued, rfl⟩
    · rw [its] at queued ⊢
      exact ⟨_, mem_set_self found, advances.queued queued, rfl⟩
  constructor
  case typed =>
    intro other member
    obtain ⟨before, older, its⟩ := requests other member
    rw [its]
    exact sound.typed before older
  case same =>
    intro first ofFirst second ofSecond isId sameId
    obtain ⟨before, older, its⟩ := requests first ofFirst
    obtain ⟨beforeSecond, olderSecond, itsSecond⟩ := requests second ofSecond
    rw [Call.id, its] at isId sameId
    rw [Call.id, itsSecond] at sameId
    rw [its, itsSecond]
    exact sound.same before older beforeSecond olderSecond isId sameId
  case alone =>
    intro i j first second different atFirst atSecond isId sameId progress
    rcases getElem?_set_cases atFirst with ⟨here, its⟩ | ⟨-, before⟩
    · rcases getElem?_set_cases atSecond with ⟨there, -⟩ | ⟨-, beforeSecond⟩
      · exact absurd (here.trans there.symm) different
      · rw [its] at isId sameId progress
        rcases advances.inProgress progress with already | nobody
        · rw [here] at different
          exact sound.alone index j call second different found beforeSecond isId sameId already
        · have someId : second.id.isSome = true := sameId ▸ isId
          exact nobody second (List.mem_of_getElem? beforeSecond) someId sameId.symm
    · rcases getElem?_set_cases atSecond with ⟨there, itsSecond⟩ | ⟨-, beforeSecond⟩
      · rw [itsSecond] at sameId ⊢
        cases running : stage.inProgress with
        | false => exact running
        | true =>
            rcases advances.inProgress running with already | nobody
            · rw [there] at different
              have quiet := sound.alone i index first call different before found isId sameId
                progress
              rw [already] at quiet
              cases quiet
            · have quiet := nobody first (List.mem_of_getElem? before) isId sameId
              rw [progress] at quiet
              cases quiet
      · exact sound.alone i j first second different before beforeSecond isId sameId progress
  case remembered =>
    intro other member activityId time itsId hasMarked looked
    rcases mem_set_cases member with its | older
    · rw [its] at itsId hasMarked looked
      exact advances.remembered activityId time itsId hasMarked looked
    · exact sound.remembered other older activityId time itsId hasMarked looked
  case past =>
    intro other member time looked
    rcases mem_set_cases member with its | older
    · rw [its] at looked
      exact advances.past time looked
    · exact sound.past other older time looked
  case apart =>
    intro i j first second different atFirst atSecond isId sameId
    rcases getElem?_set_cases atFirst with ⟨here, its⟩ | ⟨away, before⟩
    · rcases getElem?_set_cases atSecond with ⟨there, -⟩ | ⟨away, beforeSecond⟩
      · exact absurd (here.trans there.symm) different
      · rw [its] at isId sameId ⊢
        exact (advances.apart j second away beforeSecond isId sameId).1
    · rcases getElem?_set_cases atSecond with ⟨there, itsSecond⟩ | ⟨-, beforeSecond⟩
      · rw [itsSecond] at sameId ⊢
        have someId : call.id.isSome = true := sameId ▸ isId
        exact (advances.apart i first away before someId sameId.symm).2
      · exact sound.apart i j first second different before beforeSecond isId sameId
  case duplicates =>
    intro other member time answered
    have before : ∃ earlier ∈ calls, earlier.queued = true ∧
        earlier.request.activity = other.request.activity ∧
        earlier.request.actorUri = other.request.actorUri := by
      rcases mem_set_cases member with its | older
      · rw [its] at answered ⊢
        exact advances.duplicate time answered
      · exact sound.duplicates other older time answered
    obtain ⟨earlier, isEarlier, queued, activity, actor⟩ := before
    obtain ⟨after, isAfter, still, request⟩ := stays earlier isEarlier queued
    rw [← request] at activity actor
    exact ⟨after, isAfter, still, activity, actor⟩

theorem Marked.set (marked : Marked dedup calls) (found : calls[index]? = some call)
    (kept : call.stage.hasMarked = true → stage.hasMarked = true) :
    Marked dedup (calls.set index { call with stage := stage }) := by
  intro activityId timestamp its
  obtain ⟨marker, member, itsId, hasMarked⟩ := marked activityId timestamp its
  rcases mem_set_or_eq found member with stays | same
  · exact ⟨marker, stays, itsId, hasMarked⟩
  · rw [same] at itsId hasMarked
    exact ⟨_, mem_set_self found, itsId, kept hasMarked⟩

theorem MarksSound.pass (sound : MarksSound clock dedup calls) {renewed : String → Option Nat}
    (passed : clock ≤ later)
    (kept : ∀ activityId timestamp, dedup activityId = some timestamp →
      (∃ newer, renewed activityId = some newer ∧ timestamp ≤ newer) ∨
        timestamp + 120 < later / 1000) : MarksSound later renewed calls where
  typed := sound.typed
  same := sound.same
  alone := sound.alone
  remembered := by
    intro call member activityId time itsId hasMarked looked
    rcases sound.remembered call member activityId time itsId hasMarked looked with
      ⟨timestamp, its, young⟩ | old
    · rcases kept activityId timestamp its with ⟨newer, isNewer, notOlder⟩ | deleted
      · exact Or.inl ⟨newer, isNewer, Nat.le_trans young notOlder⟩
      · exact Or.inr (by omega)
    · exact Or.inr (Nat.lt_of_lt_of_le old (Nat.div_le_div_right passed))
  past := fun call member time looked => Nat.le_trans (sound.past call member time looked) passed
  apart := sound.apart
  duplicates := sound.duplicates

theorem MarksSound.enqueue (sound : MarksSound clock dedup calls) {request : Request}
    (typed : request.activity.type.isSome = true)
    (same : ∀ call ∈ calls, call.id.isSome = true → call.id = request.activity.id →
      call.request.activity = request.activity ∧ call.request.actorUri = request.actorUri) :
    MarksSound clock dedup (calls ++ [⟨request, .requested⟩]) := by
  have members : ∀ call ∈ calls ++ [⟨request, .requested⟩],
      call ∈ calls ∨ call = ⟨request, .requested⟩ := by
    intro call member
    exact (List.mem_append.mp member).imp_right List.mem_singleton.mp
  constructor
  case typed =>
    intro call member
    rcases members call member with older | new
    · exact sound.typed call older
    · rw [new]
      exact typed
  case same =>
    intro first ofFirst second ofSecond isId sameId
    rcases members first ofFirst with older | new
    · rcases members second ofSecond with oldest | newSecond
      · exact sound.same first older second oldest isId sameId
      · rw [newSecond] at sameId ⊢
        exact same first older isId sameId
    · rcases members second ofSecond with oldest | newSecond
      · rw [new] at sameId ⊢
        have someId : second.id.isSome = true := by
          rw [new] at isId
          exact sameId ▸ isId
        obtain ⟨activity, actor⟩ := same second oldest someId sameId.symm
        exact ⟨activity.symm, actor.symm⟩
      · rw [new, newSecond]
        exact ⟨rfl, rfl⟩
  case alone =>
    intro i j first second different atFirst atSecond isId sameId progress
    rcases getElem?_concat_cases atFirst with before | new
    · rcases getElem?_concat_cases atSecond with beforeSecond | newSecond
      · exact sound.alone i j first second different before beforeSecond isId sameId progress
      · rw [newSecond]
        rfl
    · rw [new] at progress
      cases progress
  case remembered =>
    intro call member activityId time itsId hasMarked looked
    rcases members call member with older | new
    · exact sound.remembered call older activityId time itsId hasMarked looked
    · rw [new] at looked
      cases looked
  case past =>
    intro call member time looked
    rcases members call member with older | new
    · exact sound.past call older time looked
    · rw [new] at looked
      cases looked
  case apart =>
    intro i j first second different atFirst atSecond isId sameId
    rcases getElem?_concat_cases atFirst with before | new
    · rcases getElem?_concat_cases atSecond with beforeSecond | newSecond
      · exact sound.apart i j first second different before beforeSecond isId sameId
      · rw [newSecond]
        nofun
    · rw [new]
      nofun
  case duplicates =>
    intro call member time answered
    rcases members call member with older | new
    · obtain ⟨earlier, isEarlier, rest⟩ := sound.duplicates call older time answered
      exact ⟨earlier, List.mem_append_left _ isEarlier, rest⟩
    · rw [new] at answered
      cases answered

variable {time : Nat}

theorem MarksSound.leave (sound : MarksSound clock dedup calls)
    (found : calls[index]? = some call) (unmarked : call.stage.hasMarked = false)
    (ended : stage = .died ∨ ∃ time, stage = .answered .shed time) :
    MarksSound clock dedup (calls.set index { call with stage := stage }) ∧
      stage.isQueued = call.queued := by
  have unqueued : call.queued = false := Stage.not_isQueued_of_not_hasMarked unmarked
  have phases : stage.inProgress = false ∧ stage.hasMarked = false ∧ stage.isQueued = false ∧
      stage.lookedUpAt = none ∧ ∀ time, stage ≠ .answered .duplicate time := by
    rcases ended with its | ⟨time, its⟩
    · rw [its]
      exact ⟨rfl, rfl, rfl, rfl, nofun⟩
    · rw [its]
      exact ⟨rfl, rfl, rfl, rfl, nofun⟩
  obtain ⟨noProgress, noMark, noQueue, noTime, noDuplicate⟩ := phases
  refine ⟨sound.set found ?_, noQueue.trans unqueued.symm⟩
  constructor
  case inProgress =>
    rw [noProgress]
    nofun
  case kept =>
    rw [unmarked]
    nofun
  case queued =>
    rw [unqueued]
    nofun
  case remembered =>
    rw [noMark]
    exact fun _ _ _ => nofun
  case past =>
    rw [noTime]
    nofun
  case apart =>
    intro other second _ _ _ _
    constructor
    · intro a b queued
      rw [noQueue] at queued
      cases queued
    · intro a b _ _ looked
      rw [noTime] at looked
      cases looked
  case duplicate => exact fun time its => absurd its (noDuplicate time)

theorem MarksSound.duplicate (sound : MarksSound clock dedup calls)
    (marked : Marked dedup calls) (found : calls[index]? = some call)
    (requested : call.stage = .requested) {activityId : String} {timestamp : Nat}
    (itsId : call.id = some activityId) (its : dedup activityId = some timestamp)
    (nobody : ∀ other ∈ calls, other.id = some activityId → other.inProgress = false) :
    MarksSound clock dedup
      (calls.set index { call with stage := .answered .duplicate time }) := by
  apply sound.set found
  constructor
  case inProgress => nofun
  case kept =>
    rw [requested]
    nofun
  case queued =>
    rw [Call.queued, requested]
    nofun
  case remembered => exact fun _ _ _ => nofun
  case past => nofun
  case apart => exact fun _ _ _ _ _ _ => ⟨nofun, fun _ _ _ _ => nofun⟩
  case duplicate =>
    intro _ _
    obtain ⟨marker, member, markerId, hasMarked⟩ := marked activityId timestamp its
    have queued : marker.queued = true :=
      Stage.isQueued_of_hasMarked hasMarked (nobody marker member markerId)
    have someId : marker.id.isSome = true := by
      rw [markerId]
      rfl
    have same := sound.same marker member call (List.mem_of_getElem? found) someId
      (markerId.trans itsId.symm)
    exact ⟨marker, member, queued, same⟩

theorem MarksSound.lookUp (sound : MarksSound clock dedup calls)
    (found : calls[index]? = some call) (requested : call.stage = .requested)
    (nobody : ∀ activityId, call.id = some activityId → ∀ other ∈ calls,
      other.id = some activityId → other.inProgress = false)
    (old : ∀ activityId, call.id = some activityId → ∀ other ∈ calls,
      other.id = some activityId → ∀ time, other.stage = .answered .queued time →
      time + 60000 ≤ clock) :
    MarksSound clock dedup (calls.set index { call with stage := .lookedUp clock }) := by
  apply sound.set found
  constructor
  case inProgress =>
    intro _
    right
    intro other member someId sameId
    obtain ⟨activityId, itsId⟩ := Option.isSome_iff_exists.mp someId
    exact nobody activityId (sameId.symm.trans itsId) other member itsId
  case kept =>
    rw [requested]
    nofun
  case queued =>
    rw [Call.queued, requested]
    nofun
  case remembered => exact fun _ _ _ => nofun
  case past =>
    intro time looked
    cases looked
    exact Nat.le_refl _
  case apart =>
    intro other second _ at_other someId sameId
    refine ⟨nofun, ?_⟩
    intro a b queued looked lookedNow
    cases lookedNow
    obtain ⟨activityId, itsId⟩ := Option.isSome_iff_exists.mp someId
    have stage : second.stage = .answered .queued a := by
      unfold Stage.isQueued at queued
      split at queued
      · rename_i its
        rw [its] at looked ⊢
        cases looked
        rfl
      · cases queued
    exact Or.inl (old activityId itsId second (List.mem_of_getElem? at_other)
      (sameId.symm.trans itsId) a stage)
  case duplicate => nofun

theorem MarksSound.goOn (sound : MarksSound clock dedup calls)
    (found : calls[index]? = some call) (running : call.inProgress = true)
    (unqueued : call.queued = false) (progress : stage.inProgress = true)
    (noQueue : stage.isQueued = false) (sameTime : stage.lookedUpAt = call.stage.lookedUpAt)
    (kept : call.stage.hasMarked = true → stage.hasMarked = true)
    (remembered : ∀ activityId time, call.id = some activityId → stage.hasMarked = true →
      stage.lookedUpAt = some time → Remembers clock dedup activityId time) :
    MarksSound clock dedup (calls.set index { call with stage := stage }) := by
  apply sound.set found
  constructor
  case inProgress => exact fun _ => Or.inl running
  case kept => exact kept
  case queued =>
    rw [unqueued]
    nofun
  case remembered => exact remembered
  case past =>
    rw [sameTime]
    exact sound.past call (List.mem_of_getElem? found)
  case apart =>
    intro other second away at_other someId sameId
    constructor
    · intro a b queued
      rw [noQueue] at queued
      cases queued
    · intro a b queued looked lookedNow
      rw [sameTime] at lookedNow
      have secondId : second.id.isSome = true := sameId ▸ someId
      rcases sound.apart other index second call away at_other found secondId sameId.symm a b
        queued looked lookedNow with before | ⟨itself, -⟩
      · exact Or.inl before
      · rw [Call.queued] at unqueued
        rw [unqueued] at itself
        cases itself
  case duplicate =>
    intro time its
    rw [its] at progress
    cases progress

theorem MarksSound.insert (sound : MarksSound clock dedup calls)
    (found : calls[index]? = some call) (marked : call.stage = .marked time) :
    MarksSound clock dedup (calls.set index { call with stage := .answered .queued time }) := by
  have member := List.mem_of_getElem? found
  have running : call.inProgress = true := by
    rw [Call.inProgress, marked]
    rfl
  have looked : call.stage.lookedUpAt = some time := by
    rw [marked]
    rfl
  apply sound.set found
  constructor
  case inProgress => nofun
  case kept => exact fun _ => rfl
  case queued => exact fun _ => rfl
  case remembered =>
    intro activityId other itsId _ lookedNow
    cases lookedNow
    apply sound.remembered call member activityId time itsId _ looked
    rw [marked]
    rfl
  case past =>
    intro other lookedNow
    cases lookedNow
    exact sound.past call member time looked
  case apart =>
    intro other second away at_other someId sameId
    have secondId : second.id.isSome = true := sameId ▸ someId
    have before : ∀ b, second.stage.isQueued = true → second.stage.lookedUpAt = some b →
        b + 60000 ≤ time := by
      intro b queued lookedThen
      rcases sound.apart other index second call away at_other found secondId sameId.symm b time
        queued lookedThen looked with before | ⟨itself, -⟩
      · exact before
      · rw [marked] at itself
        cases itself
    constructor
    · intro a b _ lookedNow lookedThen
      cases lookedNow
      right
      have quiet := sound.alone index other call second (fun same => away same.symm) found
        at_other someId sameId running
      have queued : second.stage.isQueued = true :=
        Stage.isQueued_of_lookedUpAt lookedThen quiet
      exact ⟨queued, before b queued lookedThen⟩
    · intro a b queued lookedThen lookedNow
      cases lookedNow
      exact Or.inl (before a queued lookedThen)
  case duplicate => nofun

theorem MarksSound.renew (sound : MarksSound clock dedup calls) (activityId : Option String) :
    MarksSound clock
      (fun other => if activityId = some other then some (clock / 1000) else dedup other)
      calls where
  typed := sound.typed
  same := sound.same
  alone := sound.alone
  remembered := by
    intro call member other time itsId hasMarked looked
    by_cases renewed : activityId = some other
    · refine Or.inl ⟨_, if_pos renewed, ?_⟩
      exact Nat.div_le_div_right (sound.past call member time looked)
    · rcases sound.remembered call member other time itsId hasMarked looked with
        ⟨timestamp, its, young⟩ | old
      · exact Or.inl ⟨timestamp, (if_neg renewed).trans its, young⟩
      · exact Or.inr old
  past := sound.past
  apart := sound.apart
  duplicates := sound.duplicates

theorem Marked.renew (marked : Marked dedup calls) (found : calls[index]? = some call)
    (timestamp : Nat) (hasMarked : stage.hasMarked = true) :
    Marked (fun other => if call.id = some other then some timestamp else dedup other)
      (calls.set index { call with stage := stage }) := by
  intro activityId other its
  dsimp only at its
  split at its
  · rename_i itsId
    exact ⟨_, mem_set_self found, itsId, hasMarked⟩
  · exact marked.set found (fun _ => hasMarked) activityId other its

structure Sound (state : State) : Prop where
  placed : Placed state.held state.calls
  marks : MarksSound state.clock state.dedup state.calls
  marked : Marked state.dedup state.calls

variable {state : State}

theorem Sound.set (sound : Sound state) (found : state.calls[index]? = some call)
    (marks : MarksSound state.clock state.dedup
      (state.calls.set index { call with stage := stage }))
    (same : stage.isQueued = call.queued)
    (kept : call.stage.hasMarked = true → stage.hasMarked = true) :
    Sound (state.set index call stage) where
  placed := by
    intro other
    rw [State.set, expected_set found same]
    exact sound.placed other
  marks := marks
  marked := sound.marked.set found kept

theorem Sound.lookUp (sound : Sound state) (found : state.calls[index]? = some call)
    (requested : call.stage = .requested)
    (careful : ∀ activityId, call.id = some activityId → ∀ other ∈ state.calls,
      other.id = some activityId → other.inProgress = false ∧
        ∀ time, other.stage = .answered .queued time → state.clock < time + 60000 →
          ∀ timestamp, state.dedup activityId = some timestamp →
            state.seconds < timestamp + 60) :
    Sound (state.lookUp index call) := by
  have unqueued : call.queued = false := by
    rw [Call.queued, requested]
    rfl
  have unmarked : call.stage.hasMarked = true → ∀ stage : Stage, stage.hasMarked = true := by
    rw [requested]
    nofun
  have refuse : ∀ activityId timestamp, call.id = some activityId →
      state.dedup activityId = some timestamp →
      Sound (state.set index call (.answered .duplicate state.clock)) := by
    intro activityId timestamp itsId its
    apply sound.set found
    case same => exact unqueued.symm
    case kept => exact fun hasMarked => unmarked hasMarked _
    case marks =>
      exact sound.marks.duplicate sound.marked found requested itsId its
        (fun other member sameId => (careful activityId itsId other member sameId).1)
  have pass : (∀ activityId, call.id = some activityId →
        alreadyQueued state activityId = false) →
      Sound (state.set index call (.lookedUp state.clock)) := by
    intro unknown
    apply sound.set found
    case same => exact unqueued.symm
    case kept => exact fun hasMarked => unmarked hasMarked _
    apply sound.marks.lookUp found requested
    · intro activityId itsId other member sameId
      exact (careful activityId itsId other member sameId).1
    · intro activityId itsId other member sameId time queued
      have fresh := unknown activityId itsId
      have boundary := (careful activityId itsId other member sameId).2 time queued
      have hasMarked : other.stage.hasMarked = true := by rw [queued]; rfl
      have looked : other.stage.lookedUpAt = some time := by rw [queued]; rfl
      rcases sound.marks.remembered other member activityId time sameId hasMarked looked with
        ⟨timestamp, its, -⟩ | old
      · rw [alreadyQueued, its, decide_eq_false_iff_not] at fresh
        have past : ¬ state.clock < time + 60000 := fun near =>
          fresh (boundary near timestamp its)
        exact Nat.le_of_not_lt past
      · omega
  unfold State.lookUp
  cases itsId : call.id with
  | none =>
      simp only [Bool.false_eq_true, if_false]
      exact pass (by rw [itsId]; nofun)
  | some activityId =>
      dsimp only
      split
      · rename_i fresh
        unfold alreadyQueued at fresh
        split at fresh
        · rename_i timestamp its
          exact refuse activityId timestamp itsId its
        · cases fresh
      · rename_i stale
        apply pass
        intro other same
        rw [itsId] at same
        cases same
        simpa using stale

theorem append_insert_perm {α : Type} (jobs queue hands : List α) (item : α) :
    (jobs ++ (queue ++ [item] ++ hands)).Perm (item :: (jobs ++ (queue ++ hands))) := by
  have middle : jobs ++ (queue ++ [item] ++ hands) = (jobs ++ queue) ++ item :: hands := by simp
  rw [middle, ← List.append_assoc]
  exact List.perm_middle

theorem Sound.insertItem (sound : Sound state) (found : state.calls[index]? = some call)
    (marked : call.stage = .marked time) : Sound (state.insertItem index call time) where
  placed := by
    have unqueued : call.queued = false := by
      rw [Call.queued, marked]
      rfl
    apply sound.placed.insert found unqueued
    unfold State.held State.insertItem
    simp only [List.map_append, List.map_cons, List.map_nil]
    exact append_insert_perm _ _ _ _
  marks := sound.marks.insert found marked
  marked := sound.marked.set found fun _ => rfl

theorem Sound.checkOverload (sound : Sound state) (found : state.calls[index]? = some call)
    (looked : call.stage = .lookedUp time) : Sound (state.checkOverload index call time) := by
  have unmarked : call.stage.hasMarked = false := by
    rw [looked]
    rfl
  have unqueued : call.queued = false := Stage.not_isQueued_of_not_hasMarked unmarked
  have keeps : ∀ stage : Stage, call.stage.hasMarked = true → stage.hasMarked = true := by
    rw [unmarked]
    nofun
  unfold State.checkOverload
  split
  · obtain ⟨marks, same⟩ := sound.marks.leave found unmarked (Or.inr ⟨time, rfl⟩)
    exact sound.set found marks same (keeps _)
  · have running : call.inProgress = true := by
      rw [Call.inProgress, looked]
      rfl
    apply sound.set found
    case same => exact unqueued.symm
    case kept => exact keeps _
    apply sound.marks.goOn found running unqueued rfl rfl
    · rw [looked]
      rfl
    · exact keeps _
    · exact fun _ _ _ hasMarked => nomatch hasMarked

theorem Sound.markQueued (sound : Sound state) (found : state.calls[index]? = some call)
    (passed : call.stage = .passed time) : Sound (state.markQueued index call time) := by
  have running : call.inProgress = true := by
    rw [Call.inProgress, passed]
    rfl
  have unqueued : call.queued = false := by
    rw [Call.queued, passed]
    rfl
  have looked : call.stage.lookedUpAt = some time := by
    rw [passed]
    rfl
  constructor
  case placed =>
    intro other
    have same : (Stage.marked time).isQueued = call.queued := unqueued.symm
    rw [State.markQueued, expected_set found same]
    exact sound.placed other
  case marks =>
    apply (sound.marks.renew call.id).goOn found running unqueued rfl rfl
    · exact looked.symm
    · exact fun _ => rfl
    · intro activityId lookup itsId _ same
      cases same
      refine Or.inl ⟨_, if_pos itsId, ?_⟩
      exact Nat.div_le_div_right (sound.marks.past call (List.mem_of_getElem? found) _ looked)
  case marked => exact sound.marked.renew found state.seconds rfl

theorem Sound.die (sound : Sound state) (found : state.calls[index]? = some call)
    (unmarked : call.stage.hasMarked = false) : Sound (state.set index call .died) := by
  obtain ⟨marks, same⟩ := sound.marks.leave found unmarked (Or.inl rfl)
  apply sound.set found marks same
  rw [unmarked]
  nofun

theorem Sound.advance (sound : Sound state) (found : state.calls[index]? = some call)
    (careful : Careful false state (.advance index true)) (succeeds : Bool) :
    Sound (state.advance false index call succeeds) := by
  unfold State.advance
  split
  · rename_i requested
    exact sound.lookUp found requested (careful.2 call found requested)
  · rename_i looked
    exact sound.checkOverload found looked
  · rename_i passed
    exact sound.markQueued found passed
  · rename_i marked
    exact sound.insertItem found marked
  · exact sound
  · exact sound

theorem buildJob_of_typed {item : Item} (typed : item.request.activity.type.isSome = true) :
    ∃ job, buildJob item = some job ∧ (job.call, job.request) = (item.call, item.request) := by
  obtain ⟨type, its⟩ := Option.isSome_iff_exists.mp typed
  unfold buildJob activityPriority
  rw [its]
  exact ⟨_, rfl, rfl⟩

theorem mapM_buildJob {chunk : List Item}
    (typed : ∀ item ∈ chunk, item.request.activity.type.isSome = true) :
    ∃ jobs, chunk.mapM buildJob = some jobs ∧
      jobs.map (fun job => (job.call, job.request)) =
        chunk.map fun item => (item.call, item.request) := by
  induction chunk with
  | nil => exact ⟨[], rfl, rfl⟩
  | cons item chunk ih =>
      obtain ⟨jobs, built, same⟩ := ih fun other member =>
        typed other (List.mem_cons_of_mem _ member)
      obtain ⟨job, itsJob, its⟩ := buildJob_of_typed (typed item List.mem_cons_self)
      refine ⟨job :: jobs, ?_, ?_⟩
      · rw [List.mapM_cons, itsJob, built]
        rfl
      · rw [List.map_cons, List.map_cons, its, same]

theorem Sound.typed_of_mem (sound : Sound state) {item : Item}
    (member : item ∈ state.queue ++ state.flush.items) :
    item.request.activity.type.isSome = true := by
  have isHeld : (item.call, item.request) ∈ state.held :=
    List.mem_append_right _ (List.mem_map_of_mem member)
  obtain ⟨call, found, its⟩ := sound.placed.of_mem isHeld
  rw [← its]
  exact sound.marks.typed call (List.mem_of_getElem? found)

theorem Sound.move (sound : Sound state) {jobs : List Job} {queue : List Item} {flush : Flush}
    (moved : State.held { state with jobs := jobs, queue := queue, flush := flush } |>.Perm
      state.held) :
    Sound { state with jobs := jobs, queue := queue, flush := flush } where
  placed := sound.placed.perm moved
  marks := sound.marks
  marked := sound.marked

theorem Sound.take (sound : Sound state) (place : Nat) : Sound (state.take place) := by
  unfold State.take
  split
  · rename_i batch item taking found
    split
    · apply sound.move
      apply List.Perm.append_left
      apply List.Perm.map
      rw [taking]
      obtain ⟨bound, its⟩ := List.getElem?_eq_some_iff.mp found
      have kept : (item :: state.queue.eraseIdx place).Perm state.queue := by
        rw [← its]
        exact List.getElem_cons_eraseIdx_perm bound
      calc state.queue.eraseIdx place ++ (batch ++ [item])
        _ = (state.queue.eraseIdx place ++ batch) ++ [item] := (List.append_assoc _ _ _).symm
        _ |>.Perm (item :: (state.queue.eraseIdx place ++ batch)) := List.perm_append_singleton _ _
        _ |>.Perm (state.queue ++ batch) := kept.append_right batch
    · exact sound
  · exact sound

theorem Sound.insertChunk (sound : Sound state) {chunk : List Item} {rest : List (List Item)}
    (inserting : state.flush = .inserting (chunk :: rest)) (succeeds : Bool) :
    Sound (state.insertChunk chunk rest succeeds) := by
  have hands : state.flush.items = chunk ++ rest.flatten := by
    rw [inserting]
    rfl
  have typed : ∀ item ∈ chunk, item.request.activity.type.isSome = true := by
    intro item member
    apply sound.typed_of_mem
    rw [hands]
    exact List.mem_append_right _ (List.mem_append_left _ member)
  obtain ⟨jobs, built, same⟩ := mapM_buildJob typed
  unfold State.insertChunk
  rw [built]
  dsimp only
  split
  · apply sound.move
    unfold State.held
    rw [hands]
    simp only [Flush.items, List.map_append, same, List.append_assoc]
    apply List.Perm.append_left
    exact List.perm_append_comm_assoc _ _ _
  · apply sound.move
    unfold State.held
    rw [hands]
    rfl

theorem Sound.cleanup (sound : Sound state) : Sound state.cleanup where
  placed := sound.placed
  marks := by
    apply sound.marks.pass (Nat.le_refl _)
    intro activityId timestamp its
    by_cases old : timestamp + 120 < state.seconds
    · exact Or.inr old
    · refine Or.inl ⟨timestamp, ?_, Nat.le_refl _⟩
      change (state.dedup activityId).filter _ = some timestamp
      rw [its, Option.filter_some, if_pos]
      simpa using old
  marked := by
    intro activityId timestamp its
    exact sound.marked activityId timestamp (Option.filter_eq_some_iff.mp its).1

theorem Sound.goOn (sound : Sound state) {flush : Flush}
    (same : flush.items = state.flush.items) : Sound { state with flush := flush } := by
  apply sound.move
  unfold State.held
  dsimp only
  rw [same]

theorem Sound.flushStep (sound : Sound state) (chance : Bool) :
    Sound (state.flushStep chance) := by
  unfold State.flushStep
  split
  case h_1 flushing => exact sound.goOn (by rw [flushing]; rfl)
  case h_2 flushing => exact sound.goOn (by rw [flushing]; rfl)
  case h_3 batch _ flushing =>
    apply sound.goOn
    rw [flushing]
    exact flatten_chunkEvery (by decide) batch
  case h_4 flushing => exact sound.goOn (by rw [flushing]; rfl)
  case h_5 flushing => exact sound.insertChunk flushing chance
  case h_6 flushing => exact sound.goOn (by rw [flushing]; rfl)
  case h_7 item failed flushing =>
    apply sound.move
    unfold State.held
    rw [flushing]
    simp only [Flush.items, List.append_assoc, List.singleton_append, List.Perm.refl]
  case h_8 flushing =>
    split
    · exact sound.cleanup.goOn (by
        change _ = state.flush.items
        rw [flushing]
        rfl)
    · exact sound.goOn (by rw [flushing]; rfl)

theorem Sound.enqueue (sound : Sound state) {request : Request}
    (careful : Careful false state (.enqueue request)) :
    Sound { state with calls := state.calls ++ [⟨request, .requested⟩] } where
  placed := by
    intro other
    rw [expected_append]
    exact sound.placed other
  marks := sound.marks.enqueue careful.1 careful.2
  marked := by
    intro activityId timestamp its
    obtain ⟨marker, member, rest⟩ := sound.marked activityId timestamp its
    exact ⟨marker, List.mem_append_left _ member, rest⟩

theorem Sound.tick (sound : Sound state) (milliseconds : Nat) :
    Sound { state with clock := state.clock + milliseconds } where
  placed := sound.placed
  marks := by
    apply sound.marks.pass (Nat.le_add_right _ _)
    exact fun activityId timestamp its => Or.inl ⟨timestamp, its, Nat.le_refl _⟩
  marked := sound.marked

theorem Sound.step {testModeBypass : Bool} (sound : Sound state) {move : Move}
    (careful : Careful testModeBypass state move) : Sound (step testModeBypass state move) := by
  cases move with
  | enqueue request => exact sound.enqueue careful
  | advance index succeeds =>
      simp only [InboxQueue.step]
      split
      · exact sound
      · rename_i call found
        obtain ⟨inUse, looks⟩ := careful
        rw [inUse]
        exact sound.advance found ⟨rfl, looks⟩ succeeds
  | die index =>
      simp only [InboxQueue.step]
      split
      · exact sound
      · rename_i call found
        split
        · exact sound
        · rename_i unanswered
          apply sound.die found
          unfold Stage.hasMarked
          split
          · rename_i time marked
            exact absurd marked (careful call found time)
          · rename_i time queued
            exact absurd queued (unanswered _ _)
          · rfl
  | take place => exact sound.take place
  | flush chance => exact sound.flushStep chance
  | tick milliseconds => exact sound.tick milliseconds

theorem sound_start : Sound start where
  placed := fun _ => rfl
  marks := by
    constructor
    case typed => exact fun _ => nofun
    case same => exact fun _ => nofun
    case alone => exact fun _ _ _ _ _ => nofun
    case remembered => exact fun _ => nofun
    case past => exact fun _ => nofun
    case apart => exact fun _ _ _ _ _ => nofun
    case duplicates => exact fun _ => nofun
  marked := nofun

theorem Sound.delivers (sound : Sound state) : Delivers state where
  conserved := by
    intro index call found queued
    rw [sound.placed index, expected, found]
    exact if_pos queued
  once := by
    intro i j first second activityId a b different atFirst atSecond firstId secondId
      firstQueued secondQueued
    have someId : first.id.isSome = true := by
      rw [firstId]
      rfl
    have apart := sound.marks.apart i j first second different atFirst atSecond someId
      (firstId.trans secondId.symm) a b
    rw [firstQueued, secondQueued] at apart
    rcases apart rfl rfl rfl with before | ⟨-, after⟩
    · exact Or.inl before
    · exact Or.inr after
  duplicates := sound.marks.duplicates

/-- **Careful runs deliver.** -/
theorem delivers_of_careful {testModeBypass : Bool} {moves : List Move}
    (careful : Along (step testModeBypass) (Careful testModeBypass) start moves) :
    Delivers (moves.foldl (step testModeBypass) start) := by
  apply Sound.delivers
  apply careful.invariant _ sound_start
  intro before move sound careful
  exact sound.step careful

def note (actorUri : String) : Request :=
  ⟨⟨some "https://example.org/notes/1", some "Create", some "Note", "Hello"⟩, actorUri, none⟩

def oneNote : List Move :=
  [.enqueue (note "https://example.org/users/ann"), .advance 0 true, .advance 0 true,
    .advance 0 true, .advance 0 true, .flush true, .take 0, .flush true, .flush true]

theorem delivers_oneNote : Delivers (oneNote.foldl (step false) start) := by
  apply delivers_of_careful
  refine .cons ⟨rfl, nofun⟩ (.cons ⟨rfl, ?_⟩ (.cons ⟨rfl, ?_⟩ (.cons ⟨rfl, ?_⟩
    (.cons ⟨rfl, ?_⟩ (.cons trivial (.cons trivial (.cons trivial (.cons trivial
      (.nil _ _ _)))))))))
  · intro call found requested activityId itsId other member sameId
    rw [List.mem_singleton.mp member]
    exact ⟨rfl, nofun⟩
  all_goals
    intro call found requested
    cases found
    cases requested

def overlappingCalls : List Move :=
  [.enqueue (note "https://example.org/users/ann"),
    .enqueue (note "https://example.org/users/ann"),
    .advance 0 true, .advance 1 true, .advance 0 true, .advance 1 true,
    .advance 0 true, .advance 1 true, .advance 0 true, .advance 1 true]

def borrowedId : List Move :=
  [.enqueue (note "https://example.net/users/eve"), .advance 0 true, .advance 0 true,
    .advance 0 true, .advance 0 true,
    .enqueue (note "https://example.org/users/ann"), .advance 1 true]

/-- Both calls are answered `:queued`, and a note of one actor suppresses that of another. -/
theorem not_delivers :
    ¬ Delivers (overlappingCalls.foldl (step false) start) ∧
      ¬ Delivers (borrowedId.foldl (step false) start) := by
  constructor
  · intro delivers
    have apart := delivers.once 0 1 _ _ "https://example.org/notes/1" 0 0 (by decide) rfl rfl
      rfl rfl rfl rfl
    rcases apart with first | second
    · exact absurd first (by decide)
    · exact absurd second (by decide)
  · intro delivers
    obtain ⟨other, member, queued, -, actor⟩ :=
      delivers.duplicates ⟨note "https://example.org/users/ann", .answered .duplicate 0⟩
        (List.mem_of_getElem? (i := 1) rfl) 0 rfl
    rcases List.mem_cons.mp member with its | its
    · rw [its] at actor
      exact absurd actor (by decide)
    · rw [List.mem_singleton.mp its] at queued
      cases queued

end Elektrine.ActivityPub.InboxQueue
