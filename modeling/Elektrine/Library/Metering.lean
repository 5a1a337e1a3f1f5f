import Mathlib.Data.List.Basic

/-!
# Metering

A meter reports cumulative readings, and what is counted is what was added from one
reading to the next.  Amounts are stamped with the time they were counted at, so that the
amount since a moment, and the amounts of the periods that a list of moments divides, are
sums over the same entries.
-/

namespace Elektrine.Library

universe u

structure Metered where
  time : Nat
  amount : Nat
deriving DecidableEq, Repr

def metered : List Metered → Nat
  | [] => 0
  | entry :: rest => entry.amount + metered rest

def meteredSince (start : Nat) : List Metered → Nat
  | [] => 0
  | entry :: rest => (if start ≤ entry.time then entry.amount else 0) + meteredSince start rest

def Chained {Link : Type u} {Reading : Type u} (reading : Link → Reading)
    (amount : Link → Nat) (growth : Reading → Reading → Nat) :
    Reading → List Link → Reading → Prop
  | first, [], last => first = last
  | first, link :: rest, last =>
      amount link = growth first (reading link) ∧
        Chained reading amount growth (reading link) rest last

theorem Chained.concat {Link Reading : Type u} {reading : Link → Reading}
    {amount : Link → Nat} {growth : Reading → Reading → Nat} {first last : Reading}
    {links : List Link} (chained : Chained reading amount growth first links last)
    {link : Link} (added : amount link = growth last (reading link)) :
    Chained reading amount growth first (links ++ [link]) (reading link) := by
  induction links generalizing first with
  | nil =>
      cases chained
      exact ⟨added, rfl⟩
  | cons head rest ih => exact ⟨chained.1, ih chained.2⟩

end Elektrine.Library

/-!
## Sliding windows

How many of the times in a list are less than a window old.  Where each new time comes when
there were fewer than a bound, no window of that length ever holds more; and of the times
only those have to be kept that are younger than the largest window.
-/

namespace Elektrine.Library

def countRecent (times : List Nat) (now window : Nat) : Nat :=
  times.countP fun time => decide (now < time + window)

def countWithin (times : List Nat) (last window : Nat) : Nat :=
  times.countP fun time => decide (time ≤ last) && decide (last < time + window)

def AtMost (bound window : Nat) (times : List Nat) : Prop :=
  ∀ last, countWithin times last window ≤ bound

/-- From a time on, and for windows up to the largest, the kept times count as all do. -/
def CountsAs (largest now : Nat) (kept all : List Nat) : Prop :=
  ∀ later window, now ≤ later → window ≤ largest →
    countRecent kept later window = countRecent all later window

variable {times kept all : List Nat} {now later window largest bound : Nat}

theorem countRecent_anti (after : now ≤ later) :
    countRecent times later window ≤ countRecent times now window := by
  apply List.countP_mono_left
  intro time _ recent
  exact decide_eq_true (Nat.lt_of_le_of_lt after (of_decide_eq_true recent))

theorem countWithin_le : countWithin times now window ≤ countRecent times now window := by
  apply List.countP_mono_left
  intro time _ within
  exact ((Bool.and_eq_true _ _).mp within).2

theorem atMost_nil (bound window : Nat) : AtMost bound window [] :=
  fun _ => Nat.zero_le _

theorem AtMost.cons (holds : AtMost bound window times)
    (fewer : countRecent times now window < bound) : AtMost bound window (now :: times) := by
  intro last
  rw [countWithin, List.countP_cons]
  split
  · rename_i within
    have after := of_decide_eq_true ((Bool.and_eq_true _ _).mp within).1
    calc countWithin times last window + 1
        ≤ countRecent times last window + 1 := Nat.succ_le_succ countWithin_le
      _ ≤ countRecent times now window + 1 := Nat.succ_le_succ (countRecent_anti after)
      _ ≤ bound := fewer
  · exact holds last

theorem countsAs_refl (times : List Nat) : CountsAs largest now times times :=
  fun _ _ _ _ => rfl

theorem CountsAs.mono (counts : CountsAs largest now kept all) (after : now ≤ later) :
    CountsAs largest later kept all :=
  fun time window since => counts time window (Nat.le_trans after since)

theorem CountsAs.cons (counts : CountsAs largest now kept all) (time : Nat) :
    CountsAs largest now (time :: kept) (time :: all) := by
  intro later window since within
  have same := counts later window since within
  simp only [countRecent, List.countP_cons] at same ⊢
  rw [same]

theorem CountsAs.filter {keep : Nat → Bool} (counts : CountsAs largest now kept all)
    (keeps : ∀ time, now < time + largest → keep time = true) :
    CountsAs largest now (kept.filter keep) all := by
  intro later window since within
  rw [← counts later window since within, countRecent, List.countP_filter]
  apply List.countP_congr
  intro time _
  constructor
  · intro both
    exact ((Bool.and_eq_true _ _).mp both).1
  · intro recent
    have young : now < time + largest :=
      Nat.lt_of_le_of_lt since (Nat.lt_of_lt_of_le (of_decide_eq_true recent)
        (Nat.add_le_add_left within time))
    exact (Bool.and_eq_true _ _).mpr ⟨recent, keeps time young⟩

theorem CountsAs.nil (counts : CountsAs largest now kept all)
    (past : ∀ time ∈ kept, time + largest ≤ now) : CountsAs largest now [] all := by
  intro later window since within
  rw [← counts later window since within]
  symm
  apply List.countP_eq_zero.mpr
  intro time member recent
  have young := of_decide_eq_true recent
  have old := past time member
  omega

end Elektrine.Library
