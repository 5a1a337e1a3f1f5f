import Elektrine.Library.Runs
import Elektrine.Messaging.Federation.Ingress

/-!
# Recovery of a stream by replay

A receiver with a gap asks a peer for one page of the stream after the other.  The peer says
whether there are more pages and where the next one begins; the position of the receiver moves
only with the events that it applies.
-/

namespace Elektrine.Messaging.Federation.StreamRecovery

open Elektrine.Library

variable {Projections : Type}

/-- A decoded page; events that are no list are `none`. -/
structure ReplayPayload where
  events : Option (List EventEnvelope)
  hasMore : Bool
  nextAfterSequence : Json

/-- What a request comes to; `none` for a failed one. -/
abbrev Answer := Option ReplayPayload

section
variable (context : IngressContext Projections) (remoteDomain : String)

def importStreamReplayEvents : List EventEnvelope →
    StoreAction Reason (Database Projections) PUnit
  | [] => pure ⟨⟩
  | event :: rest => do
      let _ ← receiveEvent context event remoteDomain
      importStreamReplayEvents rest

inductive Turn (Projections : Type) where
  | ended (recovered : Bool) (database : Database Projections)
  | more (afterSequence : Int) (database : Database Projections)

def replayPage (answer : Answer) (afterSequence : Int) (database : Database Projections) :
    Turn Projections :=
  match answer with
  | none => .ended false database
  | some page =>
      match page.events with
      | none => .ended false database
      | some events =>
          match (importStreamReplayEvents context remoteDomain events).perform database with
          | (.error _, after) => .ended false after
          | (.ok _, after) =>
              if page.hasMore then
                let nextAfterSequence := parseInt page.nextAfterSequence afterSequence
                if nextAfterSequence > afterSequence then .more nextAfterSequence after
                else .ended false after
              else .ended true after

structure Recovery (Projections : Type) where
  recovered : Bool
  requests : Nat
  database : Database Projections

/-- `recover_stream_replay_pages` with these answers; `none` where it asks for another one. -/
def recoverStreamReplayPages : List Answer → Int → Database Projections →
    Option (Recovery Projections)
  | [], _, _ => none
  | answer :: answers, afterSequence, database =>
      match replayPage context remoteDomain answer afterSequence database with
      | .ended recovered after => some ⟨recovered, 1, after⟩
      | .more next after =>
          (recoverStreamReplayPages answers next after).map fun recovery =>
            { recovery with requests := recovery.requests + 1 }

end

/-- `current_stream_sequence`. -/
def position (remoteDomain streamId : String) (database : Database Projections) : Int :=
  lastSequence database.streamPositions ⟨remoteDomain, streamId⟩

def firstAnswers (answers : Nat → Answer) (count : Nat) : List Answer :=
  (List.range count).map answers

/-- The recovery from the current position ends, and there are no more requests than one and
those that moved the position. -/
def Ends (context : IngressContext Projections) (remoteDomain streamId : String)
    (database : Database Projections) (answers : Nat → Answer) : Prop :=
  ∃ count recovery,
    recoverStreamReplayPages context remoteDomain (firstAnswers answers count)
      (position remoteDomain streamId database) database = some recovery ∧
    (recovery.requests : Int) ≤ 1 + (position remoteDomain streamId recovery.database -
      position remoteDomain streamId database)

/-- The recovery goes on with the next page. -/
def Asks (context : IngressContext Projections) (remoteDomain : String)
    (before : Int × Database Projections) (answer : Answer)
    (after : Int × Database Projections) : Prop :=
  replayPage context remoteDomain answer before.1 before.2 = .more after.1 after.2

/-- At its turn, an event of the page is above the position of the stream and was not received
before. -/
def BringsNext (context : IngressContext Projections) (remoteDomain streamId : String)
    (events : List EventEnvelope) (database : Database Projections) : Prop :=
  ∃ front event back, events = front ++ event :: back ∧ event.streamId = streamId ∧
    ¬ Claimed (databaseAfter context remoteDomain front database).federationEvents event
      remoteDomain ∧
    position remoteDomain streamId (databaseAfter context remoteDomain front database) <
      event.incomingSequence

def largestSequence : Int := 9223372036854775807

/-- The events of the stream are numbered within the column, and one of them is new. -/
def Feeds (context : IngressContext Projections) (remoteDomain streamId : String)
    (page : ReplayPayload) (database : Database Projections) : Prop :=
  ∀ events, page.events = some events →
    BringsNext context remoteDomain streamId events database ∧
      ∀ event ∈ events, event.streamId = streamId →
        event.incomingSequence ≤ largestSequence

/-- Every page that promises another one feeds the stream, in the state in which it comes. -/
def Fed (context : IngressContext Projections) (remoteDomain streamId : String)
    (database : Database Projections) (answers : Nat → Answer) : Prop :=
  ∀ count state,
    Run (Asks context remoteDomain) (position remoteDomain streamId database, database)
      (firstAnswers answers count) state →
    ∀ page, answers count = some page → page.hasMore = true →
      Feeds context remoteDomain streamId page state.2

section
variable {context : IngressContext Projections} {remoteDomain streamId : String}
  {before after : Database Projections}

theorem position_withApplied {event : EventEnvelope} {projections : Projections} :
    position remoteDomain streamId (before.withApplied event remoteDomain projections) =
      if event.streamId = streamId then event.incomingSequence
      else position remoteDomain streamId before := by
  by_cases same : event.streamId = streamId
  · subst same
    simp [position, lastSequence, Database.withApplied]
  · have other : (⟨remoteDomain, streamId⟩ : StreamKey) ≠ ⟨remoteDomain, event.streamId⟩ := by
      intro keys
      exact same (congrArg StreamKey.streamId keys).symm
    simp [position, lastSequence, Database.withApplied, Function.update_of_ne other, same]

theorem position_le_of_receives {event : EventEnvelope} {result : ReceiveResult}
    (received : Receives context event remoteDomain before result after) :
    position remoteDomain streamId before ≤ position remoteDomain streamId after := by
  cases received with
  | duplicate known => exact Int.le_refl _
  | stale fresh old => exact Int.le_refl _
  | @applied projections fresh next projects =>
      rw [position_withApplied]
      by_cases same : event.streamId = streamId
      · subst same
        rw [if_pos rfl, next]
        exact Int.le_of_lt (Int.lt_succ _)
      · exact Int.le_of_eq (if_neg same).symm

theorem perform_of_accepted {event : EventEnvelope} {rest : List EventEnvelope}
    {middle : Database Projections} {result : ReceiveResult}
    (performed : (receiveEvent context event remoteDomain).perform before =
      (.ok result, middle)) :
    (importStreamReplayEvents context remoteDomain (event :: rest)).perform before =
      (importStreamReplayEvents context remoteDomain rest).perform middle := by
  rw [importStreamReplayEvents, StoreAction.perform_bind, performed]

theorem perform_of_refused {event : EventEnvelope} {rest : List EventEnvelope}
    {middle : Database Projections} {reason : Reason}
    (performed : (receiveEvent context event remoteDomain).perform before =
      (.error reason, middle)) :
    (importStreamReplayEvents context remoteDomain (event :: rest)).perform before =
      (.error reason, middle) := by
  rw [importStreamReplayEvents, StoreAction.perform_bind, performed]

theorem position_le_of_import {events : List EventEnvelope} {outcome : Except Reason PUnit}
    (imported : (importStreamReplayEvents context remoteDomain events).perform before =
      (outcome, after)) :
    position remoteDomain streamId before ≤ position remoteDomain streamId after := by
  induction events generalizing before with
  | nil =>
      cases imported
      exact Int.le_refl _
  | cons event rest ih =>
      rcases receiveEvent_cases context event remoteDomain before with refused | accepted
      · obtain ⟨reason, performed⟩ := refused
        rw [perform_of_refused performed] at imported
        cases imported
        exact Int.le_refl _
      · obtain ⟨result, middle, performed, received⟩ := accepted
        rw [perform_of_accepted performed] at imported
        exact Int.le_trans (position_le_of_receives received) (ih imported)

theorem position_le_of_bounded {events : List EventEnvelope} {outcome : Except Reason PUnit}
    {bound : Int}
    (imported : (importStreamReplayEvents context remoteDomain events).perform before =
      (outcome, after))
    (bounded : ∀ event ∈ events, event.streamId = streamId → event.incomingSequence ≤ bound)
    (start : position remoteDomain streamId before ≤ bound) :
    position remoteDomain streamId after ≤ bound := by
  induction events generalizing before with
  | nil =>
      cases imported
      exact start
  | cons event rest ih =>
      have later := fun other member => bounded other (List.mem_cons_of_mem event member)
      rcases receiveEvent_cases context event remoteDomain before with refused | accepted
      · obtain ⟨reason, performed⟩ := refused
        rw [perform_of_refused performed] at imported
        cases imported
        exact start
      · obtain ⟨result, middle, performed, received⟩ := accepted
        rw [perform_of_accepted performed] at imported
        apply ih imported later
        cases received with
        | duplicate known => exact start
        | stale fresh old => exact start
        | @applied projections fresh next projects =>
            rw [position_withApplied]
            by_cases same : event.streamId = streamId
            · rw [if_pos same]
              exact bounded event List.mem_cons_self same
            · rw [if_neg same]
              exact start

theorem moved_of_next {event : EventEnvelope} {result : ReceiveResult}
    (received : Receives context event remoteDomain before result after)
    (stream : event.streamId = streamId)
    (fresh : ¬ Claimed before.federationEvents event remoteDomain)
    (above : position remoteDomain streamId before < event.incomingSequence) :
    position remoteDomain streamId before < position remoteDomain streamId after := by
  subst stream
  cases received with
  | duplicate known => exact absurd known fresh
  | stale unclaimed old => exact absurd old (Int.not_le.mpr above)
  | applied unclaimed next projects =>
      rw [position_withApplied, if_pos rfl]
      exact above

theorem brings_of_moved {event : EventEnvelope} {rest : List EventEnvelope}
    {result : ReceiveResult}
    (received : Receives context event remoteDomain before result after)
    (moved : position remoteDomain streamId before < position remoteDomain streamId after) :
    BringsNext context remoteDomain streamId (event :: rest) before := by
  cases received with
  | duplicate known => exact absurd moved (Int.lt_irrefl _)
  | stale unclaimed old => exact absurd moved (Int.lt_irrefl _)
  | applied unclaimed next projects =>
      rw [position_withApplied] at moved
      by_cases same : event.streamId = streamId
      · rw [if_pos same] at moved
        exact ⟨[], event, rest, rfl, same, unclaimed, moved⟩
      · rw [if_neg same] at moved
        exact absurd moved (Int.lt_irrefl _)

theorem position_lt_iff_bringsNext {events : List EventEnvelope}
    (imported : (importStreamReplayEvents context remoteDomain events).perform before =
      (.ok ⟨⟩, after)) :
    position remoteDomain streamId before < position remoteDomain streamId after ↔
      BringsNext context remoteDomain streamId events before := by
  induction events generalizing before with
  | nil =>
      cases imported
      constructor
      · exact fun below => absurd below (Int.lt_irrefl _)
      · intro brings
        obtain ⟨front, event, back, split, -⟩ := brings
        cases front <;> cases split
  | cons event rest ih =>
      rcases receiveEvent_cases context event remoteDomain before with refused | accepted
      · obtain ⟨reason, performed⟩ := refused
        rw [perform_of_refused performed] at imported
        cases imported
      · obtain ⟨result, middle, performed, received⟩ := accepted
        rw [perform_of_accepted performed] at imported
        have behind : ∀ front, databaseAfter context remoteDomain (event :: front) before =
            databaseAfter context remoteDomain front middle := by
          intro front
          rw [databaseAfter, receiveEvents_cons performed]
          rfl
        have rises : position remoteDomain streamId middle ≤
            position remoteDomain streamId after := position_le_of_import imported
        by_cases moved : position remoteDomain streamId before <
            position remoteDomain streamId middle
        · constructor
          · intro below
            exact brings_of_moved received moved
          · exact fun brings => Int.lt_of_lt_of_le moved rises
        · have same : position remoteDomain streamId before =
              position remoteDomain streamId middle :=
            Int.le_antisymm (position_le_of_receives received) (Int.not_lt.mp moved)
          rw [same, ih imported]
          constructor
          · intro brings
            obtain ⟨front, next, back, split, stream, fresh, above⟩ := brings
            refine ⟨event :: front, next, back, congrArg (event :: ·) split, stream, ?_⟩
            rw [behind]
            exact ⟨fresh, above⟩
          · intro brings
            obtain ⟨front, next, back, split, stream, fresh, above⟩ := brings
            cases front with
            | nil =>
                obtain ⟨rfl, rfl⟩ := List.cons.inj split
                exact absurd (moved_of_next received stream fresh above) moved
            | cons first front =>
                obtain ⟨rfl, rest_eq⟩ := List.cons.inj split
                rw [behind] at fresh above
                exact ⟨front, next, back, rest_eq, stream, fresh, above⟩

theorem of_asks {answer : Answer} {cursor next : Int}
    (asks : replayPage context remoteDomain answer cursor before = .more next after) :
    ∃ page events, answer = some page ∧ page.events = some events ∧ page.hasMore = true ∧
      (importStreamReplayEvents context remoteDomain events).perform before =
        (.ok ⟨⟩, after) := by
  cases answer with
  | none => cases asks
  | some page =>
      cases listed : page.events with
      | none =>
          simp only [replayPage, listed] at asks
          cases asks
      | some events =>
          rcases imported : (importStreamReplayEvents context remoteDomain events).perform before
            with ⟨reason | ⟨⟩, reached⟩
          · simp only [replayPage, listed, imported] at asks
            cases asks
          · simp only [replayPage, listed, imported] at asks
            by_cases more : page.hasMore = true
            · rw [if_pos more] at asks
              by_cases above : parseInt page.nextAfterSequence cursor > cursor
              · rw [if_pos above] at asks
                cases asks
                exact ⟨page, events, rfl, listed, more, imported⟩
              · rw [if_neg above] at asks
                cases asks
            · rw [if_neg more] at asks
              cases asks

theorem position_le_of_ended {answer : Answer} {cursor : Int} {recovered : Bool}
    (ended : replayPage context remoteDomain answer cursor before = .ended recovered after) :
    position remoteDomain streamId before ≤ position remoteDomain streamId after := by
  cases answer with
  | none =>
      cases ended
      exact Int.le_refl _
  | some page =>
      cases listed : page.events with
      | none =>
          simp only [replayPage, listed] at ended
          cases ended
          exact Int.le_refl _
      | some events =>
          rcases imported : (importStreamReplayEvents context remoteDomain events).perform before
            with ⟨reason | ⟨⟩, reached⟩
          · simp only [replayPage, listed, imported] at ended
            cases ended
            exact position_le_of_import imported
          · have same : reached = after := by
              simp only [replayPage, listed, imported] at ended
              by_cases more : page.hasMore = true
              · rw [if_pos more] at ended
                by_cases above : parseInt page.nextAfterSequence cursor > cursor
                · rw [if_pos above] at ended
                  cases ended
                · rw [if_neg above] at ended
                  cases ended
                  rfl
              · rw [if_neg more] at ended
                cases ended
                rfl
            subst same
            exact position_le_of_import imported

theorem recover_of_run {answers rest : List Answer} {start reached : Int × Database Projections}
    {recovery : Recovery Projections}
    (run : Run (Asks context remoteDomain) start answers reached)
    (later : recoverStreamReplayPages context remoteDomain rest reached.1 reached.2 =
      some recovery) :
    recoverStreamReplayPages context remoteDomain (answers ++ rest) start.1 start.2 =
      some { recovery with requests := recovery.requests + answers.length } := by
  induction run with
  | nil state => exact later
  | @cons start middle last answer answers asks run ih =>
      rw [List.cons_append, recoverStreamReplayPages, show replayPage context remoteDomain
        answer start.1 start.2 = .more middle.1 middle.2 from asks]
      simp only [ih later, Option.map_some, List.length_cons]
      rfl

theorem firstAnswers_succ (answers : Nat → Answer) (count : Nat) :
    firstAnswers answers (count + 1) = firstAnswers answers count ++ [answers count] := by
  rw [firstAnswers, List.range_succ, List.map_append]
  rfl

theorem length_firstAnswers (answers : Nat → Answer) (count : Nat) :
    (firstAnswers answers count).length = count := by
  rw [firstAnswers, List.length_map, List.length_range]

/-- After any number of answers, the recovery ended, or every one of them moved the position,
which is still within its column. -/
theorem ends_or_run {database : Database Projections} {answers : Nat → Answer} {bound : Int}
    (fed : Fed context remoteDomain streamId database answers)
    (large : largestSequence ≤ bound) (low : position remoteDomain streamId database ≤ bound)
    (count : Nat) :
    Ends context remoteDomain streamId database answers ∨
      ∃ state, Run (Asks context remoteDomain)
          (position remoteDomain streamId database, database)
          (firstAnswers answers count) state ∧
        (count : Int) ≤ position remoteDomain streamId state.2 -
          position remoteDomain streamId database ∧
        position remoteDomain streamId state.2 ≤ bound := by
  induction count with
  | zero =>
      refine .inr ⟨_, .nil _, ?_, low⟩
      rw [Int.sub_self]
      exact Int.le_refl _
  | succ count ih =>
      rcases ih with ended | going
      · exact .inl ended
      · obtain ⟨state, run, moved, within⟩ := going
        cases turn : replayPage context remoteDomain (answers count) state.1 state.2 with
        | ended recovered after =>
            left
            have last : recoverStreamReplayPages context remoteDomain [answers count] state.1
                state.2 = some ⟨recovered, 1, after⟩ := by
              rw [recoverStreamReplayPages, turn]
            have recovery := recover_of_run run last
            rw [← firstAnswers_succ] at recovery
            refine ⟨count + 1, _, recovery, ?_⟩
            have rises : position remoteDomain streamId state.2 ≤
                position remoteDomain streamId after := position_le_of_ended turn
            simp only [length_firstAnswers]
            push_cast
            omega
        | more next after =>
            right
            obtain ⟨page, events, given, listed, more, imported⟩ := of_asks turn
            obtain ⟨brings, bounded⟩ := fed count state run page given more events listed
            have rises := (position_lt_iff_bringsNext imported).mpr brings
            have asked : Run (Asks context remoteDomain) state [answers count] (next, after) :=
              .cons (show Asks context remoteDomain state (answers count) (next, after)
                from turn) (.nil _)
            refine ⟨(next, after), ?_, ?_, ?_⟩
            · rw [firstAnswers_succ]
              exact run.append asked
            · push_cast
              omega
            · apply position_le_of_bounded imported _ within
              exact fun event member stream =>
                Int.le_trans (bounded event member stream) large

/-- A recovery whose pages feed the stream ends, with one request more than the position
moved at the most. -/
theorem recovery_ends {database : Database Projections} {answers : Nat → Answer}
    (fed : Fed context remoteDomain streamId database answers) :
    Ends context remoteDomain streamId database answers := by
  have bound : ∃ bound, largestSequence ≤ bound ∧
      position remoteDomain streamId database ≤ bound := by
    by_cases below : position remoteDomain streamId database ≤ largestSequence
    · exact ⟨_, Int.le_refl _, below⟩
    · exact ⟨_, Int.le_of_lt (Int.not_le.mp below), Int.le_refl _⟩
  obtain ⟨bound, large, low⟩ := bound
  rcases ends_or_run fed large low
    ((bound - position remoteDomain streamId database).toNat + 1) with ended | going
  · exact ended
  · obtain ⟨state, -, moved, within⟩ := going
    push_cast at moved
    omega

def emptyPages (start place : Nat) : Answer :=
  some ⟨some [], true, .int (start + place + 1 : Nat)⟩

theorem recover_emptyPages (database : Database Projections) (count start : Nat) :
    recoverStreamReplayPages context remoteDomain
      (firstAnswers (emptyPages start) count) start database = none := by
  induction count generalizing start with
  | zero => rfl
  | succ count ih =>
      have split : firstAnswers (emptyPages start) (count + 1) =
          emptyPages start 0 :: firstAnswers (emptyPages (start + 1)) count := by
        rw [firstAnswers, List.range_succ_eq_map, List.map_cons, List.map_map]
        refine congrArg (_ :: ·) (List.map_congr_left fun place _ => ?_)
        rw [Function.comp_apply, emptyPages, emptyPages,
          show start + (place + 1) + 1 = start + 1 + place + 1 by omega]
      have turn : replayPage context remoteDomain (emptyPages start 0) start database =
          .more (start + 1 : Nat) database := by
        have above : ((start + 0 + 1 : Nat) : Int) > start := by
          push_cast
          omega
        exact if_pos above
      rw [split, recoverStreamReplayPages, turn]
      simp only [ih (start + 1), Option.map_none]

end

def twoPages : Nat → Answer
  | 0 => some ⟨some [channelEvent "e1" "k1" 1], true, .int 1⟩
  | _ => some ⟨some [], false, .int 1⟩

theorem recovery_ends_two_pages :
    Ends countingContext "remote.example"
      "channel:https://remote.example/_arblarg/channels/7" emptyDatabase twoPages := by
  apply recovery_ends
  intro count state run page given more events listed
  cases count with
  | zero =>
      cases given
      cases listed
      cases run
      refine ⟨⟨[], _, [], rfl, rfl, by decide, by decide⟩, ?_⟩
      intro event member stream
      rw [List.mem_singleton.mp member]
      decide
  | succ count =>
      cases given
      cases more

/-- A peer that sends empty pages is asked for ever. -/
theorem not_recovery_ends_empty_pages :
    ¬ Ends countingContext "remote.example"
      "channel:https://remote.example/_arblarg/channels/7" emptyDatabase (emptyPages 0) := by
  intro ends
  obtain ⟨count, recovery, ended, -⟩ := ends
  have endless := @recover_emptyPages _ countingContext "remote.example" emptyDatabase count 0
  cases ended.symm.trans endless

end Elektrine.Messaging.Federation.StreamRecovery
