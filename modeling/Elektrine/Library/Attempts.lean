import Mathlib.Data.List.Basic

/-!
# Steps that may fail

When a sequence of steps succeeds.
-/

namespace Elektrine.Library

variable {Failure Reported Value Result : Type}

theorem bind_ok_iff {first : Except Failure Value} {next : Value → Except Failure Result}
    {result : Result} :
    (first >>= next) = .ok result ↔ ∃ value, first = .ok value ∧ next value = .ok result := by
  cases first with
  | error reason => simp [Bind.bind, Except.bind]
  | ok value => simp [Bind.bind, Except.bind]

theorem mapError_ok_iff {report : Failure → Reported} {outcome : Except Failure Value}
    {value : Value} : outcome.mapError report = .ok value ↔ outcome = .ok value := by
  cases outcome <;> simp [Except.mapError]

theorem mapError_bind_ok_iff {report : Failure → Reported} {first : Except Failure Value}
    {next : Value → Except Reported Result} {result : Result} :
    (first.mapError report >>= next) = .ok result ↔
      ∃ value, first = .ok value ∧ next value = .ok result := by
  simp only [bind_ok_iff, mapError_ok_iff]

end Elektrine.Library

/-!
## Computations that fail or raise

A computation gives a value, fails with a reason, or raises an exception.  Failures
are values for the caller and exceptions are not: a computation settles when it does
not raise.  What settles is computed along sequences and lists.
-/

