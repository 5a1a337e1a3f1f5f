import Mathlib.Data.List.Basic
import Mathlib.Order.Basic
import Mathlib.Data.List.Induction

/-!
# Runs of labelled transition relations

A run is a finite sequence of labelled steps.  The rules below are the two ways
a fact about one step becomes a fact about a run: an invariant that every step
keeps holds in the last state, and a value that no step lowers is not lowered by
the run.  Every prefix of a run is a run, so both speak about all states on the
way.
-/

namespace Elektrine.Library

universe u v

variable {State : Type u} {Action : Type v}

inductive Run (Step : State → Action → State → Prop) :
    State → List Action → State → Prop where
  | nil (state : State) : Run Step state [] state
  | cons {start middle last : State} {action : Action} {actions : List Action} :
      Step start action middle → Run Step middle actions last →
      Run Step start (action :: actions) last

/-- The steps of `Step` that are taken while the guard holds. -/
def Guarded (Guard : State → Action → Prop)
    (Step : State → Action → State → Prop) : State → Action → State → Prop :=
  fun before action after => Guard before action ∧ Step before action after

def Performs (step : State → Action → Option State) :
    State → Action → State → Prop :=
  fun before action after => step before action = some after

def execute (step : State → Action → Option State) :
    State → List Action → Option State
  | state, [] => some state
  | state, action :: actions =>
      match step state action with
      | none => none
      | some next => execute step next actions

structure Transition (State : Type u) (Action : Type v) where
  before : State
  action : Action
  after : State

def transitions (step : State → Action → State) :
    State → List Action → List (Transition State Action)
  | _, [] => []
  | state, action :: actions =>
      ⟨state, action, step state action⟩ ::
        transitions step (step state action) actions

theorem mem_transitions {step : State → Action → State} {start : State}
    {actions : List Action} {transition : Transition State Action}
    (member : transition ∈ transitions step start actions) :
    transition.action ∈ actions ∧
      transition.after = step transition.before transition.action := by
  induction actions generalizing start with
  | nil => simp [transitions] at member
  | cons action actions ih =>
      rcases List.mem_cons.mp member with rfl | member
      · exact ⟨List.mem_cons_self, rfl⟩
      · obtain ⟨taken, result⟩ := ih member
        exact ⟨List.mem_cons_of_mem _ taken, result⟩

/-- Every step of the run of a total step function meets the guard. -/
def Along (step : State → Action → State) (Guard : State → Action → Prop)
    (start : State) (actions : List Action) : Prop :=
  ∀ front action back, actions = front ++ action :: back →
    Guard (front.foldl step start) action

namespace Along

variable {step : State → Action → State} {Guard : State → Action → Prop}
  {start : State}

theorem nil (step : State → Action → State) (Guard : State → Action → Prop)
    (start : State) : Along step Guard start [] := by
  intro front action back split
  cases front <;> cases split

theorem cons {action : Action} {actions : List Action}
    (first : Guard start action)
    (rest : Along step Guard (step start action) actions) :
    Along step Guard start (action :: actions) := by
  intro front next back split
  cases front with
  | nil =>
      cases split
      exact first
  | cons head front =>
      cases split
      exact rest front next back rfl

theorem head {action : Action} {actions : List Action}
    (along : Along step Guard start (action :: actions)) : Guard start action :=
  along [] action actions rfl

theorem tail {action : Action} {actions : List Action}
    (along : Along step Guard start (action :: actions)) :
    Along step Guard (step start action) actions := by
  intro front next back split
  exact along (action :: front) next back (congrArg (action :: ·) split)

theorem prefix_of {front back : List Action}
    (along : Along step Guard start (front ++ back)) :
    Along step Guard start front := by
  intro before action after split
  apply along before action (after ++ back)
  rw [split, List.append_assoc, List.cons_append]

theorem suffix_of {front back : List Action}
    (along : Along step Guard start (front ++ back)) :
    Along step Guard (front.foldl step start) back := by
  intro before action after split
  rw [← List.foldl_append]
  apply along (front ++ before) action after
  rw [split, List.append_assoc]

theorem append {front back : List Action}
    (first : Along step Guard start front)
    (second : Along step Guard (front.foldl step start) back) :
    Along step Guard start (front ++ back) := by
  induction front generalizing start with
  | nil => exact second
  | cons action front ih => exact .cons first.head (ih first.tail second)

theorem mono {Weaker : State → Action → Prop} {actions : List Action}
    (along : Along step Guard start actions)
    (weaken : ∀ before action, Guard before action → Weaker before action) :
    Along step Weaker start actions :=
  fun front action back split => weaken _ _ (along front action back split)

theorem invariant {Invariant : State → Prop} {actions : List Action}
    (along : Along step Guard start actions)
    (preserved : ∀ before action, Invariant before → Guard before action →
      Invariant (step before action))
    (initially : Invariant start) :
    Invariant (actions.foldl step start) := by
  induction actions generalizing start with
  | nil => exact initially
  | cons action actions ih =>
      exact ih along.tail (preserved start action initially along.head)

theorem with_invariant {Invariant : State → Prop} {Weaker : State → Action → Prop}
    {actions : List Action} (along : Along step Guard start actions)
    (preserved : ∀ before action, Invariant before → Guard before action →
      Invariant (step before action))
    (initially : Invariant start)
    (weaken : ∀ before action, Invariant before → Guard before action →
      Weaker before action) :
    Along step Weaker start actions := by
  intro front action back split
  have before : Along step Guard start front := by
    rw [split] at along
    exact along.prefix_of
  exact weaken _ _ (before.invariant preserved initially) (along front action back split)

theorem of_mem_transitions {actions : List Action} {transition : Transition State Action}
    (along : Along step Guard start actions)
    (member : transition ∈ transitions step start actions) :
    Guard transition.before transition.action := by
  induction actions generalizing start with
  | nil => cases member
  | cons action actions ih =>
      rcases List.mem_cons.mp member with first | later
      · rw [first]
        exact along.head
      · exact ih along.tail later

/-- A run can be tested step by step. -/
instance decidableAlong [∀ state action, Decidable (Guard state action)] :
    (start : State) → (actions : List Action) → Decidable (Along step Guard start actions)
  | start, [] => .isTrue (nil step Guard start)
  | start, action :: actions =>
      have := decidableAlong (step start action) actions
      decidable_of_iff (Guard start action ∧ Along step Guard (step start action) actions)
        ⟨fun both => cons both.1 both.2, fun along => ⟨along.head, along.tail⟩⟩

end Along

/-- What a run changes is changed by one of its steps. -/
theorem exists_change {Part : Type*} (part : State → Part) {step : State → Action → State}
    {start : State} {actions : List Action}
    (changed : part (actions.foldl step start) ≠ part start) :
    ∃ front action back, actions = front ++ action :: back ∧
      part (step (front.foldl step start) action) ≠ part (front.foldl step start) := by
  by_contra never
  apply changed
  have kept : Along step (fun before action => part (step before action) = part before)
      start actions := by
    intro front action back split
    by_contra other
    exact never ⟨front, action, back, split, other⟩
  exact @Along.invariant _ _ _ _ _ (fun state => part state = part start) _ kept
    (fun _ _ same step => step.trans same) rfl

namespace Run

variable {Step : State → Action → State → Prop}

theorem append {start middle last : State} {front back : List Action}
    (first : Run Step start front middle) (second : Run Step middle back last) :
    Run Step start (front ++ back) last := by
  induction first with
  | nil => exact second
  | cons step _ ih => exact .cons step (ih second)

theorem invariant {Invariant : State → Prop}
    {start last : State} {actions : List Action}
    (run : Run Step start actions last)
    (preserved : ∀ before action after, Invariant before →
      Step before action after → Invariant after)
    (initially : Invariant start) :
    Invariant last := by
  induction run with
  | nil => exact initially
  | cons step _ ih => exact ih (preserved _ _ _ initially step)

theorem monotone {Value : Type*} [Preorder Value] {Invariant : State → Prop}
    {start last : State} {actions : List Action}
    (run : Run Step start actions last) (value : State → Value)
    (preserved : ∀ before action after, Invariant before →
      Step before action after → Invariant after)
    (steps : ∀ before action after, Invariant before →
      Step before action after → value before ≤ value after)
    (initially : Invariant start) :
    value start ≤ value last := by
  induction run with
  | nil => exact le_rfl
  | cons step _ ih =>
      exact (steps _ _ _ initially step).trans
        (ih (preserved _ _ _ initially step))

end Run

theorem run_performs_iff {step : State → Action → Option State}
    {start last : State} {actions : List Action} :
    Run (Performs step) start actions last ↔
      execute step start actions = some last := by
  induction actions generalizing start with
  | nil =>
      constructor
      · intro run
        cases run
        rfl
      · intro executed
        cases executed
        exact .nil _
  | cons action actions ih =>
      rw [execute]
      constructor
      · intro run
        cases run with
        | cons performed rest =>
            have stepped : step start action = some _ := performed
            rw [stepped]
            exact ih.mp rest
      · intro executed
        cases stepped : step start action with
        | none => simp [stepped] at executed
        | some next =>
            rw [stepped] at executed
            exact .cons stepped (ih.mpr executed)

theorem exists_run_of_execute {Observation : Type*}
    {step : State → Action → Option State} {start : State}
    {actions : List Action} (observe : State → Observation)
    {observed : Observation}
    (executed : (execute step start actions).map observe = some observed) :
    ∃ last, Run (Performs step) start actions last ∧ observe last = observed := by
  obtain ⟨last, reached, seen⟩ := Option.map_eq_some_iff.mp executed
  exact ⟨last, run_performs_iff.mpr reached, seen⟩

end Elektrine.Library

/-!
## Runs with their history

What has been asked for in a run is read off the steps taken so far: the last step that
speaks about it decides.  An invariant may mention this history beside the state.
-/

namespace Elektrine.Library

universe u v

section Since

variable {α : Type u} {Marks Undoes : α → Prop}

/-- Some item of the list marks, and no later one undoes it. -/
def Since (Marks Undoes : α → Prop) (items : List α) : Prop :=
  ∃ front item back, items = front ++ item :: back ∧ Marks item ∧
    ∀ later ∈ back, ¬ Undoes later

theorem not_since_nil : ¬ Since Marks Undoes [] := by
  intro since
  obtain ⟨front, item, back, split, -⟩ := since
  exact absurd split (by simp)

theorem since_concat {items : List α} {last : α} :
    Since Marks Undoes (items ++ [last]) ↔
      Marks last ∨ (Since Marks Undoes items ∧ ¬ Undoes last) := by
  constructor
  · intro since
    obtain ⟨front, item, back, split, marks, kept⟩ := since
    induction back using List.reverseRecOn with
    | nil =>
        obtain ⟨-, same⟩ := List.append_inj' split rfl
        cases same
        exact Or.inl marks
    | append_singleton back final _ =>
        rw [← List.cons_append, ← List.append_assoc] at split
        obtain ⟨before, same⟩ := List.append_inj' split rfl
        cases same
        right
        refine ⟨⟨front, item, back, before, marks, ?_⟩, kept last (by simp)⟩
        intro later member
        exact kept later (List.mem_append_left _ member)
  · intro decided
    rcases decided with marks | ⟨⟨front, item, back, split, marks, kept⟩, lasts⟩
    · exact ⟨items, last, [], rfl, marks, List.forall_mem_nil _⟩
    · refine ⟨front, item, back ++ [last], ?_, marks, ?_⟩
      · rw [split, List.append_assoc, List.cons_append]
      · intro later member
        rcases List.mem_append.mp member with old | new
        · exact kept later old
        · rw [List.mem_singleton.mp new]
          exact lasts

end Since

section History

variable {State : Type u} {Action : Type v} {step : State → Action → State}

theorem transitions_concat (start : State) (actions : List Action) (action : Action) :
    transitions step start (actions ++ [action]) =
      transitions step start actions ++
        [⟨actions.foldl step start, action, step (actions.foldl step start) action⟩] := by
  induction actions generalizing start with
  | nil => rfl
  | cons first rest ih =>
      rw [List.cons_append, transitions, ih, transitions, List.cons_append,
        List.foldl_cons]

theorem Along.history_invariant {Guard : State → Action → Prop} {start : State}
    {Invariant : List (Transition State Action) → State → Prop}
    {actions : List Action} (along : Along step Guard start actions)
    (preserved : ∀ history before action, Invariant history before →
      Guard before action →
      Invariant (history ++ [⟨before, action, step before action⟩]) (step before action))
    (initially : Invariant [] start) :
    Invariant (transitions step start actions) (actions.foldl step start) := by
  induction actions using List.reverseRecOn with
  | nil => exact initially
  | append_singleton actions action ih =>
      rw [transitions_concat, List.foldl_concat]
      exact preserved _ _ _ (ih along.prefix_of) (along actions action [] rfl)

/-- A property of runs that each step keeps just when it meets the guard holds all along
the run just when every step meets the guard. -/
theorem always_iff_along {Guard : State → Action → Prop} {start : State}
    {Holds : List Action → Prop} (initially : Holds [])
    (decides : ∀ actions action, Holds actions →
      (Holds (actions ++ [action]) ↔ Guard (actions.foldl step start) action))
    (actions : List Action) :
    (∀ front back, actions = front ++ back → Holds front) ↔
      Along step Guard start actions := by
  constructor
  · intro always front action back split
    apply (decides front action (always front (action :: back) split)).mp
    apply always (front ++ [action]) back
    rw [split, List.append_assoc, List.singleton_append]
  · intro along front
    induction front using List.reverseRecOn with
    | nil =>
        intro _ _
        exact initially
    | append_singleton front action ih =>
        intro back split
        rw [List.append_assoc, List.singleton_append] at split
        exact (decides front action (ih _ split)).mpr (along front action back split)

def checkAlong (step : State → Action → State) (guard : State → Action → Bool) :
    State → List Action → Bool
  | _, [] => true
  | state, action :: actions =>
      guard state action && checkAlong step guard (step state action) actions

theorem along_of_check {guard : State → Action → Bool} {start : State}
    {actions : List Action} (checked : checkAlong step guard start actions = true) :
    Along step (fun state action => guard state action = true) start actions := by
  induction actions generalizing start with
  | nil => exact .nil _ _ _
  | cons action actions ih =>
      rw [checkAlong, Bool.and_eq_true] at checked
      exact .cons checked.1 (ih checked.2)

theorem Along.map {Other : Type*} (reading : Other → Action)
    {Guard : State → Action → Prop} {start : State} {others : List Other}
    (along : Along (fun state other => step state (reading other))
      (fun state other => Guard state (reading other)) start others) :
    Along step Guard start (others.map reading) := by
  induction others generalizing start with
  | nil => exact .nil _ _ _
  | cons other others ih => exact .cons along.head (ih along.tail)

end History

end Elektrine.Library
