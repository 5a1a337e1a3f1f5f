import Elektrine.RateLimiting.Limiter

/-!
# What the limiter admits

The entry of an identifier counts as all its allowed calls do.  The attempts that an entry
holds lie within one largest window, so that an oldest one past twice that window leaves
none that counts.
-/

namespace Elektrine.RateLimiting

open Elektrine.Library

variable {config : Config}

theorem le_foldl_max {windows : List Nat} {first window : Nat}
    (below : window ≤ first ∨ window ∈ windows) : window ≤ windows.foldl max first := by
  induction windows generalizing first with
  | nil =>
      rcases below with least | none
      · exact least
      · cases none
  | cons head tail ih =>
      rw [List.foldl_cons]
      apply ih
      rcases below with least | member
      · exact Or.inl (Nat.le_trans least (Nat.le_max_left _ _))
      · rcases List.mem_cons.mp member with rfl | later
        · exact Or.inl (Nat.le_max_right _ _)
        · exact Or.inr later

theorem le_maxWindow {limit : Limit} (member : limit ∈ config.limits) :
    limit.windowSeconds ≤ config.maxWindow := by
  have listed := List.mem_map_of_mem (f := Limit.windowSeconds) member
  unfold Config.maxWindow
  split
  · rename_i none
    rw [none] at listed
    cases listed
  · rename_i window windows split
    rw [split] at listed
    apply le_foldl_max
    rcases List.mem_cons.mp listed with same | later
    · exact Or.inl (Nat.le_of_eq same)
    · exact Or.inr later

structure AttemptsSound (config : Config) (clock : Nat) (attempts history : List Nat) : Prop where
  counts : CountsAs config.maxWindow clock attempts history
  spread : ∀ first ∈ attempts, ∀ second ∈ attempts, first ≤ second + config.maxWindow
  past : ∀ time ∈ attempts, time ≤ clock

variable {clock now : Nat} {attempts history : List Nat}

theorem attemptsSound_nil (config : Config) (clock : Nat) :
    AttemptsSound config clock [] [] :=
  ⟨countsAs_refl [], List.forall_mem_nil _, List.forall_mem_nil _⟩

theorem AttemptsSound.advance (sound : AttemptsSound config clock attempts history)
    (after : clock ≤ now) : AttemptsSound config now attempts history where
  counts := sound.counts.mono after
  spread := sound.spread
  past time member := Nat.le_trans (sound.past time member) after

theorem AttemptsSound.record (sound : AttemptsSound config now attempts history) :
    AttemptsSound config now (now :: filterRecentAttempts config attempts now)
      (now :: history) := by
  have recent : ∀ time ∈ filterRecentAttempts config attempts now,
      time ∈ attempts ∧ now < time + config.maxWindow := by
    intro time member
    obtain ⟨kept, young⟩ := List.mem_filter.mp member
    exact ⟨kept, of_decide_eq_true young⟩
  have past : ∀ time ∈ now :: filterRecentAttempts config attempts now, time ≤ now := by
    intro time member
    rcases List.mem_cons.mp member with rfl | older
    · exact Nat.le_refl _
    · exact sound.past time (recent time older).1
  refine ⟨?_, ?_, past⟩
  · apply CountsAs.cons
    apply sound.counts.filter
    exact fun _ young => decide_eq_true young
  · intro first member second other
    apply Nat.le_trans (past first member)
    rcases List.mem_cons.mp other with rfl | older
    · exact Nat.le_add_right _ _
    · exact Nat.le_of_lt (recent second older).2

theorem AttemptsSound.clean (sound : AttemptsSound config clock attempts history)
    (before : now ≤ clock) :
    AttemptsSound config clock (cleanedAttempts config attempts now) history where
  counts := by
    apply sound.counts.filter
    intro time young
    apply decide_eq_true
    omega
  spread first member second other :=
    sound.spread first (List.mem_filter.mp member).1 second (List.mem_filter.mp other).1
  past time member := sound.past time (List.mem_filter.mp member).1

theorem AttemptsSound.outlive (sound : AttemptsSound config clock attempts history)
    (before : now ≤ clock) (old : outlived config attempts now = true) :
    AttemptsSound config clock [] history := by
  obtain ⟨oldest, last, beyond⟩ := (Option.any_eq_true _ _).mp old
  have member := List.mem_of_getLast? last
  refine ⟨?_, List.forall_mem_nil _, List.forall_mem_nil _⟩
  apply sound.counts.nil
  intro time kept
  have near := sound.spread time kept oldest member
  have far := of_decide_eq_true beyond
  omega

variable {Identifier : Type} [DecidableEq Identifier] {state : State Identifier}

def attemptsOf (entry : Option Entry) : List Nat :=
  entry.elim [] Entry.attempts

def StageSound (config : Config) (clock : Nat) (history : List Nat) : Stage → Prop
  | .passed => ∀ limit ∈ config.limits,
      countRecent history clock limit.windowSeconds < limit.maxAttempts
  | .recorded time entry =>
      (∀ limit ∈ config.limits,
        countRecent history time limit.windowSeconds < limit.maxAttempts) ∧
      AttemptsSound config clock entry.attempts (time :: history)

structure Sound (config : Config) (state : State Identifier) : Prop where
  entries : ∀ identifier, AttemptsSound config state.clock
    (attemptsOf (lookup state.table identifier)) (timesOf state.allowed identifier)
  calls : ∀ identifier stage, holder state.calls identifier = some stage →
    StageSound config state.clock (timesOf state.allowed identifier) stage
  ended : ∀ identifier stage, holder state.calls identifier = some stage →
    ∀ mark ∈ state.lockouts, mark.identifier = identifier → mark.time ≤ state.clock
  sweep : state.sweepTime ≤ state.clock
  limited : Limited config state

theorem StageSound.advance {stage : Stage} (sound : StageSound config clock history stage)
    (after : clock ≤ now) : StageSound config now history stage := by
  cases stage with
  | passed =>
      intro limit member
      exact Nat.lt_of_le_of_lt (countRecent_anti after) (sound limit member)
  | recorded time entry => exact ⟨sound.1, sound.2.advance after⟩

theorem Sound.advance (sound : Sound config state) (after : state.clock ≤ now) :
    Sound config { state with clock := now } where
  entries identifier := (sound.entries identifier).advance after
  calls identifier stage held := (sound.calls identifier stage held).advance after
  ended identifier stage held mark member its :=
    Nat.le_trans (sound.ended identifier stage held mark member its) after
  sweep := Nat.le_trans sound.sweep after
  limited :=
    { allowed := sound.limited.allowed
      lockouts := fun mark member running =>
        sound.limited.lockouts mark member (Nat.lt_of_le_of_lt after running) }

section Keys

variable {α : Type} (key : α → Identifier) (items : List α) (removed asked : Identifier)

theorem find?_without_key :
    (items.filter fun item => decide (key item ≠ removed)).find?
        (fun item => decide (key item = asked)) =
      if removed = asked then none else items.find? fun item => decide (key item = asked) := by
  rw [List.find?_filter]
  by_cases same : removed = asked
  · subst same
    simp
  · rw [if_neg same]
    congr 1
    funext item
    by_cases its : key item = asked
    · simp [its, Ne.symm same]
    · simp [its]

theorem find?_cons_key (item : α) :
    (item :: items).find? (fun item => decide (key item = asked)) =
      if key item = asked then some item
      else items.find? fun item => decide (key item = asked) := by
  by_cases same : key item = asked
  · rw [if_pos same]
    exact List.find?_cons_of_pos (decide_eq_true same)
  · rw [if_neg same]
    exact List.find?_cons_of_neg (by simpa using same)

end Keys

theorem lookup_remove (table : List (Row Identifier)) (identifier other : Identifier) :
    lookup (remove table identifier) other =
      if identifier = other then none else lookup table other := by
  rw [lookup, remove, find?_without_key, apply_ite (Option.map Row.entry)]
  rfl

theorem lookup_put (table : List (Row Identifier)) (identifier other : Identifier)
    (entry : Entry) :
    lookup (put table identifier entry) other =
      if identifier = other then some entry else lookup table other := by
  rw [lookup, put, find?_cons_key]
  by_cases same : identifier = other
  · rw [if_pos same, if_pos same]
    rfl
  · rw [if_neg same, if_neg same]
    exact (lookup_remove table identifier other).trans (if_neg same)

theorem holder_release (calls : List (Call Identifier)) (identifier other : Identifier) :
    holder (release calls identifier) other =
      if identifier = other then none else holder calls other := by
  rw [holder, release, find?_without_key, apply_ite (Option.map Call.stage)]
  rfl

theorem holder_cons (call : Call Identifier) (calls : List (Call Identifier))
    (other : Identifier) :
    holder (call :: calls) other =
      if call.identifier = other then some call.stage else holder calls other := by
  rw [holder, find?_cons_key, apply_ite (Option.map Call.stage)]
  rfl

theorem timesOf_cons (mark : Mark Identifier) (marks : List (Mark Identifier))
    (identifier : Identifier) :
    timesOf (mark :: marks) identifier =
      if mark.identifier = identifier then mark.time :: timesOf marks identifier
      else timesOf marks identifier := by
  by_cases its : mark.identifier = identifier
  · simp [timesOf, its]
  · simp [timesOf, its]

theorem checkLimits_ok {attempts : List Nat}
    (passed : checkLimits config attempts now = .ok ()) :
    ∀ limit ∈ config.limits,
      countRecent attempts now limit.windowSeconds < limit.maxAttempts := by
  intro limit member
  unfold checkLimits at passed
  split at passed
  · rename_i none
    have below := List.find?_eq_none.mp none limit member
    simpa [reached] using below
  · cases passed

theorem checkEntry_some_ok {entry : Entry}
    (passed : checkEntry config (some entry) now = .ok ()) :
    (∀ last, entry.lockedUntil = some last → last ≤ now) ∧
      ∀ limit ∈ config.limits,
        countRecent entry.attempts now limit.windowSeconds < limit.maxAttempts := by
  unfold checkEntry at passed
  dsimp only at passed
  split at passed
  · rename_i unlocked
    refine ⟨?_, checkLimits_ok passed⟩
    intro last lock
    rw [unlocked] at lock
    cases lock
  · rename_i ending lock
    split at passed
    · cases passed
    · rename_i ended
      refine ⟨?_, checkLimits_ok passed⟩
      intro last same
      cases lock.symm.trans same
      exact Nat.not_lt.mp ended

theorem Sound.passes (sound : Sound config state) {identifier : Identifier}
    (careful : lookup state.table identifier = none →
      ∀ limit ∈ config.limits, 0 < limit.maxAttempts)
    (passed : checkEntry config (lookup state.table identifier) state.clock = .ok ()) :
    (∀ limit ∈ config.limits,
      countRecent (timesOf state.allowed identifier) state.clock limit.windowSeconds <
        limit.maxAttempts) ∧
    ∀ mark ∈ state.lockouts, mark.identifier = identifier → mark.time ≤ state.clock := by
  have counts := (sound.entries identifier).counts
  have standing : ∀ mark ∈ state.lockouts, mark.identifier = identifier →
      state.clock < mark.time →
      (lookup state.table identifier).bind Entry.lockedUntil = some mark.time := by
    intro mark member its running
    rw [← its]
    exact sound.limited.lockouts mark member running
  cases found : lookup state.table identifier with
  | none =>
      rw [found] at counts standing
      refine ⟨?_, ?_⟩
      · intro limit member
        rw [← counts state.clock limit.windowSeconds (Nat.le_refl _) (le_maxWindow member)]
        exact careful found limit member
      · intro mark member its
        apply Nat.not_lt.mp
        intro running
        cases standing mark member its running
  | some entry =>
      rw [found] at counts standing passed
      obtain ⟨unlocked, below⟩ := checkEntry_some_ok passed
      refine ⟨?_, ?_⟩
      · intro limit member
        rw [← counts state.clock limit.windowSeconds (Nat.le_refl _) (le_maxWindow member)]
        exact below limit member
      · intro mark member its
        apply Nat.not_lt.mp
        intro running
        exact Nat.not_le_of_lt running (unlocked mark.time (standing mark member its running))

theorem Sound.check (sound : Sound config state) {identifier : Identifier}
    (after : state.clock ≤ now)
    (careful : Careful config state (.check identifier now)) :
    Sound config (state.check config identifier now) := by
  have later := sound.advance after
  have limited : Limited config { state with clock := now } := later.limited
  unfold State.check
  split
  · rename_i passed
    obtain ⟨below, ended⟩ := later.passes careful passed
    refine ⟨later.entries, ?_, ?_, later.sweep, limited.allowed, limited.lockouts⟩
    · intro other stage held
      rw [holder_cons] at held
      split at held
      · rename_i same
        cases held
        subst same
        exact below
      · exact later.calls other stage held
    · intro other stage held
      rw [holder_cons] at held
      split at held
      · rename_i same
        subst same
        exact ended
      · exact later.ended other stage held
  · exact ⟨later.entries, later.calls, later.ended, later.sweep, limited.allowed,
      limited.lockouts⟩

theorem attemptsSound_recordedEntry {entry : Option Entry}
    (sound : AttemptsSound config now (attemptsOf entry) history) :
    AttemptsSound config now (recordedEntry config entry now).attempts (now :: history) := by
  cases entry with
  | none => exact sound.record
  | some entry => exact sound.record

theorem Sound.record (sound : Sound config state) {identifier : Identifier}
    (after : state.clock ≤ now) (held : holder state.calls identifier = some .passed) :
    Sound config (state.record config identifier now) := by
  have later := sound.advance after
  have below := later.calls identifier .passed held
  have ended := later.ended identifier .passed held
  refine ⟨later.entries, ?_, ?_, later.sweep, later.limited.allowed, later.limited.lockouts⟩
  · intro other stage its
    rw [State.record, holder_cons, holder_release] at its
    split at its
    · rename_i same
      cases its
      subst same
      exact ⟨below, attemptsSound_recordedEntry (later.entries identifier)⟩
    · exact later.calls other stage its
  · intro other stage its
    rw [State.record, holder_cons, holder_release] at its
    split at its
    · rename_i same
      subst same
      exact ended
    · exact later.ended other stage its

theorem Sound.insert (sound : Sound config state) {identifier : Identifier} {time : Nat}
    {entry : Entry} (held : holder state.calls identifier = some (.recorded time entry)) :
    Sound config (state.insert identifier time entry) := by
  obtain ⟨below, recorded⟩ := sound.calls identifier _ held
  have ended := sound.ended identifier _ held
  have others : ∀ other stage, holder (release state.calls identifier) other = some stage →
      identifier ≠ other ∧ holder state.calls other = some stage := by
    intro other stage its
    rw [holder_release] at its
    split at its
    · cases its
    · rename_i apart
      exact ⟨apart, its⟩
  have times : ∀ other, identifier ≠ other →
      timesOf (⟨identifier, time⟩ :: state.allowed) other = timesOf state.allowed other := by
    intro other apart
    rw [timesOf_cons, if_neg apart]
  have lockouts : ∀ mark ∈ (state.insert identifier time entry).lockouts,
      mark.identifier = identifier ∧ entry.lockedUntil = some mark.time ∨
        mark ∈ state.lockouts := by
    intro mark member
    rcases List.mem_append.mp member with new | older
    · rw [Option.mem_toList, Option.map_eq_some_iff] at new
      obtain ⟨last, lock, rfl⟩ := new
      exact Or.inl ⟨rfl, lock⟩
    · exact Or.inr older
  refine ⟨?_, ?_, ?_, sound.sweep, ?_, ?_⟩
  · intro other
    rw [State.insert, lookup_put]
    split
    · rename_i same
      subst same
      rw [timesOf_cons, if_pos rfl]
      exact recorded
    · rename_i apart
      rw [times other apart]
      exact sound.entries other
  · intro other stage its
    obtain ⟨apart, itsStage⟩ := others other stage its
    rw [State.insert, times other apart]
    exact sound.calls other stage itsStage
  · intro other stage its mark member itsMark
    obtain ⟨apart, itsStage⟩ := others other stage its
    rcases lockouts mark member with ⟨own, -⟩ | older
    · exact absurd (own.symm.trans itsMark) apart
    · exact sound.ended other stage itsStage mark older itsMark
  · intro other limit member
    rw [State.insert, timesOf_cons]
    split
    · rename_i same
      subst same
      exact (sound.limited.allowed identifier limit member).cons (below limit member)
    · exact sound.limited.allowed other limit member
  · intro mark member running
    rw [State.insert, lookup_put]
    rcases lockouts mark member with ⟨own, lock⟩ | older
    · rw [if_pos own.symm]
      exact lock
    · by_cases own : identifier = mark.identifier
      · have passed := ended mark older own.symm
        exact absurd running (Nat.not_lt.mpr passed)
      · rw [if_neg own]
        exact sound.limited.lockouts mark older running

theorem cleanupEntry_sound {entry : Entry} {sweepTime : Nat} (before : sweepTime ≤ clock)
    (sound : AttemptsSound config clock entry.attempts history) :
    (cleanupEntry config sweepTime entry = .delete →
      AttemptsSound config clock [] history ∧
        ∀ last, entry.lockedUntil = some last → last ≤ clock) ∧
    ∀ cleaned, cleanupEntry config sweepTime entry = .insert cleaned →
      AttemptsSound config clock cleaned.attempts history ∧
        ∀ last, entry.lockedUntil = some last → clock < last →
          cleaned.lockedUntil = some last := by
  unfold cleanupEntry
  split
  · rename_i old
    rw [Bool.and_eq_true, Bool.not_eq_true'] at old
    refine ⟨fun _ => ⟨sound.outlive before old.1, ?_⟩, nofun⟩
    intro last lock
    have unlocked := old.2
    rw [lock, locked, Option.any_some, decide_eq_false_iff_not] at unlocked
    exact Nat.le_trans (Nat.not_lt.mp unlocked) before
  · dsimp only
    split
    · refine ⟨nofun, ?_⟩
      intro cleaned made
      cases made
      refine ⟨sound.clean before, ?_⟩
      intro last lock running
      have still : locked entry.lockedUntil sweepTime = true := by
        rw [lock]
        exact decide_eq_true (Nat.lt_of_le_of_lt before running)
      rw [if_pos still]
      exact lock
    · exact ⟨nofun, nofun⟩

theorem Sound.cleanNext (sound : Sound config state) {row : Row Identifier}
    {rows : List (Row Identifier)} (next : state.sweep = row :: rows)
    (careful : Careful config state .cleanNext) :
    Sound config
      { state with
        table := (cleanupEntry config state.sweepTime row.entry).perform state.table
          row.identifier
        sweep := rows } := by
  -- The table stays, but for the entry of the copy, which is still the one in the table.
  have outcome : ∀ identifier,
      AttemptsSound config state.clock
        (attemptsOf (lookup ((cleanupEntry config state.sweepTime row.entry).perform state.table
          row.identifier) identifier)) (timesOf state.allowed identifier) ∧
      ∀ last, state.clock < last →
        (lookup state.table identifier).bind Entry.lockedUntil = some last →
        (lookup ((cleanupEntry config state.sweepTime row.entry).perform state.table
          row.identifier) identifier).bind Entry.lockedUntil = some last := by
    intro identifier
    have entries := sound.entries identifier
    cases action : cleanupEntry config state.sweepTime row.entry with
    | keep => exact ⟨entries, fun _ _ lock => lock⟩
    | delete =>
        have current := careful row rows next (by simp [action])
        rw [CleanupAction.perform, lookup_remove]
        split
        · rename_i same
          subst same
          rw [current] at entries ⊢
          obtain ⟨empty, ended⟩ := (cleanupEntry_sound sound.sweep entries).1 action
          refine ⟨empty, ?_⟩
          intro last running lock
          exact absurd running (Nat.not_lt.mpr (ended last lock))
        · exact ⟨entries, fun _ _ lock => lock⟩
    | insert cleaned =>
        have current := careful row rows next (by simp [action])
        rw [CleanupAction.perform, lookup_put]
        split
        · rename_i same
          subst same
          rw [current] at entries ⊢
          obtain ⟨kept, still⟩ := (cleanupEntry_sound sound.sweep entries).2 cleaned action
          exact ⟨kept, fun last running lock => still last lock running⟩
        · exact ⟨entries, fun _ _ lock => lock⟩
  refine ⟨fun identifier => (outcome identifier).1, sound.calls, sound.ended, sound.sweep,
    sound.limited.allowed, ?_⟩
  intro mark member running
  exact (outcome mark.identifier).2 mark.time running
    (sound.limited.lockouts mark member running)

theorem sound_start (config : Config) (clock : Nat) :
    Sound config (start clock : State Identifier) where
  entries _ := attemptsSound_nil config clock
  calls _ _ held := nomatch held
  ended _ _ held := nomatch held
  sweep := Nat.le_refl _
  limited := ⟨fun _ _ _ => atMost_nil _ _, List.forall_mem_nil _⟩

theorem Sound.step (sound : Sound config state) {move : Move Identifier}
    (careful : Careful config state move) : Sound config (step config state move) := by
  cases move with
  | check identifier now =>
      rw [RateLimiting.step]
      split
      · rename_i possible
        exact sound.check possible.1 careful
      · exact sound
  | record identifier now =>
      rw [RateLimiting.step]
      split
      · rename_i possible
        exact sound.record possible.1 possible.2
      · exact sound
  | insert identifier =>
      simp only [RateLimiting.step]
      split
      · rename_i time entry held
        exact sound.insert held
      · exact sound
  | beginCleanup now =>
      rw [RateLimiting.step]
      split
      · rename_i possible
        have later := sound.advance possible.1
        exact ⟨later.entries, later.calls, later.ended, Nat.le_refl _, later.limited.allowed,
          later.limited.lockouts⟩
      · exact sound
  | cleanNext =>
      simp only [RateLimiting.step]
      split
      · exact sound
      · rename_i row rows next
        exact sound.cleanNext next careful

/-- Along careful steps the limiter admits no more than its limits, and no lockout is
lifted. -/
theorem limited_of_careful {clock : Nat} {moves : List (Move Identifier)}
    (along : Along (RateLimiting.step config) (Careful config) (start clock) moves) :
    Limited config (moves.foldl (RateLimiting.step config) (start clock)) := by
  have sound := along.invariant
    (fun _ _ (sound : Sound config _) careful => sound.step careful)
    (sound_start config clock)
  exact sound.limited

def twoAMinute : Config := ⟨[⟨60, 2⟩], some 600⟩

def attempt (identifier : String) (now : Nat) : List (Move String) :=
  [.check identifier now, .record identifier now, .insert identifier]

def lateCleanup : List (Move String) :=
  attempt "ip" 0 ++ [.beginCleanup 130] ++ attempt "ip" 130 ++ attempt "ip" 130 ++
    [.cleanNext] ++ attempt "ip" 130

/-- Three attempts pass in one second, and the lockout is gone. -/
theorem not_limited_lateCleanup :
    ¬ Limited twoAMinute (lateCleanup.foldl (RateLimiting.step twoAMinute) (start 0)) := by
  intro limited
  have most := limited.allowed "ip" ⟨60, 2⟩ List.mem_cons_self 130
  revert most
  decide

def earlyCleanup : List (Move String) :=
  attempt "ip" 0 ++ [.beginCleanup 130, .cleanNext] ++ attempt "ip" 130

theorem limited_earlyCleanup :
    Limited twoAMinute (earlyCleanup.foldl (RateLimiting.step twoAMinute) (start 0)) := by
  have positive : ∀ limit ∈ twoAMinute.limits, 0 < limit.maxAttempts := by decide
  apply limited_of_careful
  refine .cons (fun _ => positive) (.cons trivial (.cons trivial (.cons trivial
    (.cons ?cleans (.cons (fun _ => positive) (.cons trivial (.cons trivial (.nil _ _ _))))))))
  case cleans =>
    intro row rows next _
    cases next
    decide

end Elektrine.RateLimiting
