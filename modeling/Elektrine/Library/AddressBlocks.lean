import Mathlib.Algebra.Group.Nat.Defs
import Mathlib.Algebra.Order.Group.Nat

/-!
# Blocks of addresses

A block is given by an address and the number of bits that vary in it; the other bits are
those of the address.  Two blocks are either disjoint or one lies in the other.
-/

namespace Elektrine.Library

structure AddressBlock where
  base : Nat
  hostBits : Nat
  deriving DecidableEq, Repr

namespace AddressBlock

def Contains (block : AddressBlock) (address : Nat) : Prop :=
  address / 2 ^ block.hostBits = block.base / 2 ^ block.hostBits

instance (block : AddressBlock) (address : Nat) : Decidable (block.Contains address) :=
  inferInstanceAs (Decidable (_ = _))

/-- No address lies in both blocks. -/
def Disjoint (first second : AddressBlock) : Prop :=
  ∀ address, ¬ (first.Contains address ∧ second.Contains address)

variable {first second : AddressBlock} {address : Nat}

theorem contains_base (block : AddressBlock) : block.Contains block.base := rfl

theorem disjoint_comm : first.Disjoint second ↔ second.Disjoint first := by
  constructor
  · intro apart address both
    exact apart address ⟨both.2, both.1⟩
  · intro apart address both
    exact apart address ⟨both.2, both.1⟩

theorem contains_of_common (fewer : first.hostBits ≤ second.hostBits) {common : Nat}
    (inFirst : first.Contains common) (inSecond : second.Contains common)
    (inside : first.Contains address) : second.Contains address := by
  unfold Contains at *
  have split : 2 ^ second.hostBits =
      2 ^ first.hostBits * 2 ^ (second.hostBits - first.hostBits) := by
    rw [← Nat.pow_add, Nat.add_sub_cancel' fewer]
  rw [← inSecond, split, ← Nat.div_div_eq_div_mul, ← Nat.div_div_eq_div_mul, inside, inFirst]

theorem disjoint_iff_base (fewer : first.hostBits ≤ second.hostBits) :
    first.Disjoint second ↔ ¬ second.Contains first.base := by
  constructor
  · intro apart inside
    exact apart first.base ⟨first.contains_base, inside⟩
  · intro outside address both
    exact outside (contains_of_common fewer both.1 both.2 first.contains_base)

def network (block : AddressBlock) : Nat :=
  block.base / 2 ^ block.hostBits * 2 ^ block.hostBits

def broadcast (block : AddressBlock) : Nat :=
  block.network + (2 ^ block.hostBits - 1)

theorem contains_iff_between (block : AddressBlock) (address : Nat) :
    block.Contains address ↔ block.network ≤ address ∧ address ≤ block.broadcast := by
  unfold Contains broadcast network
  have positive : 0 < 2 ^ block.hostBits := Nat.two_pow_pos _
  rw [Nat.div_eq_iff positive]
  generalize block.base / 2 ^ block.hostBits * 2 ^ block.hostBits = start
  omega

theorem contains_network (block : AddressBlock) : block.Contains block.network := by
  rw [contains_iff_between]
  exact ⟨Nat.le_refl _, Nat.le_add_right _ _⟩

end AddressBlock

end Elektrine.Library
