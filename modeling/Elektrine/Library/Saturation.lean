import Mathlib.Data.Finset.Card
import Mathlib.Logic.Relation

/-!
# Saturation

A set of nodes is extended by the nodes that are linked to one of its members, pass after
pass, until a pass changes nothing.  A pass goes through the nodes one after the other and
sees what it has already taken in.
-/

namespace Elektrine.Library

variable {Node : Type} [DecidableEq Node] (linked : Node → Node → Prop) [DecidableRel linked]

def visit (taken : Finset Node) (node : Node) : Finset Node :=
  if node ∈ taken ∨ ∃ member ∈ taken, linked member node then insert node taken else taken

def pass (nodes : List Node) (taken : Finset Node) : Finset Node :=
  nodes.foldl (visit linked) taken

theorem mem_visit_iff {taken : Finset Node} {node other : Node} :
    other ∈ visit linked taken node ↔
      other ∈ taken ∨ other = node ∧ ∃ member ∈ taken, linked member node := by
  unfold visit
  split
  case isTrue touches =>
    rw [Finset.mem_insert]
    constructor
    · intro member
      rcases member with here | before
      · rw [here]
        rcases touches with known | found
        · exact Or.inl known
        · exact Or.inr ⟨rfl, found⟩
      · exact Or.inl before
    · intro member
      rcases member with before | here
      · exact Or.inr before
      · exact Or.inl here.1
  case isFalse apart =>
    constructor
    · exact Or.inl
    · intro member
      rcases member with before | here
      · exact before
      · exact absurd (Or.inr here.2) apart

theorem subset_visit (taken : Finset Node) (node : Node) : taken ⊆ visit linked taken node :=
  fun _ member => (mem_visit_iff linked).mpr (Or.inl member)

theorem subset_pass (nodes : List Node) (taken : Finset Node) :
    taken ⊆ pass linked nodes taken := by
  induction nodes generalizing taken with
  | nil => exact Finset.Subset.refl taken
  | cons node nodes ih => exact Finset.Subset.trans (subset_visit linked taken node) (ih _)

theorem mem_of_mem_pass {nodes : List Node} {taken : Finset Node} {node : Node}
    (member : node ∈ pass linked nodes taken) : node ∈ taken ∨ node ∈ nodes := by
  induction nodes generalizing taken with
  | nil => exact Or.inl member
  | cons first nodes ih =>
      rcases ih member with visited | later
      · rcases (mem_visit_iff linked).mp visited with before | here
        · exact Or.inl before
        · exact Or.inr (here.1 ▸ List.mem_cons_self)
      · exact Or.inr (List.mem_cons_of_mem _ later)

theorem missing_lt_of_pass {nodes : List Node} {taken : Finset Node}
    (grown : pass linked nodes taken ≠ taken) :
    (nodes.toFinset \ pass linked nodes taken).card < (nodes.toFinset \ taken).card := by
  have larger : taken ⊂ pass linked nodes taken :=
    (subset_pass linked nodes taken).ssubset_of_ne fun same => grown same.symm
  obtain ⟨node, member, fresh⟩ := Finset.exists_of_ssubset larger
  have listed : node ∈ nodes := (mem_of_mem_pass linked member).resolve_left fresh
  apply Finset.card_lt_card
  apply (Finset.ssubset_iff_of_subset
    (Finset.sdiff_subset_sdiff (Finset.Subset.refl _) larger.1)).mpr
  refine ⟨node, Finset.mem_sdiff.mpr ⟨List.mem_toFinset.mpr listed, fresh⟩, ?_⟩
  intro outside
  exact (Finset.mem_sdiff.mp outside).2 member

def saturate (nodes : List Node) (taken : Finset Node) : Finset Node :=
  if pass linked nodes taken = taken then pass linked nodes taken
  else saturate nodes (pass linked nodes taken)
termination_by (nodes.toFinset \ taken).card
decreasing_by exact missing_lt_of_pass linked (by assumption)

/-- One link inside the nodes. -/
def LinkedIn (nodes : List Node) (first second : Node) : Prop :=
  linked first second ∧ second ∈ nodes

/-- A chain of links leads from one of the seeds to the node. -/
def Reaches (nodes : List Node) (seeds : Finset Node) (node : Node) : Prop :=
  ∃ seed ∈ seeds, Relation.ReflTransGen (LinkedIn linked nodes) seed node

theorem reaches_of_mem_pass {nodes visited : List Node} {seeds taken : Finset Node}
    (sound : ∀ node ∈ taken, Reaches linked nodes seeds node)
    (inside : ∀ node ∈ visited, node ∈ nodes) :
    ∀ node ∈ pass linked visited taken, Reaches linked nodes seeds node := by
  induction visited generalizing taken with
  | nil => exact sound
  | cons first visited ih =>
      apply ih _ fun other member => inside other (List.mem_cons_of_mem _ member)
      intro node member
      rcases (mem_visit_iff linked).mp member with before | here
      · exact sound node before
      · obtain ⟨same, other, known, link⟩ := here
        obtain ⟨seed, planted, chain⟩ := sound other known
        rw [same]
        exact ⟨seed, planted, chain.tail ⟨link, inside first List.mem_cons_self⟩⟩

theorem mem_pass_of_linked {nodes : List Node} {taken : Finset Node} {member node : Node}
    (known : member ∈ taken) (link : LinkedIn linked nodes member node) :
    node ∈ pass linked nodes taken := by
  obtain ⟨link, listed⟩ := link
  induction nodes generalizing taken with
  | nil => cases listed
  | cons first nodes ih =>
      rcases List.mem_cons.mp listed with here | later
      · apply subset_pass linked nodes
        rw [← here]
        exact (mem_visit_iff linked).mpr (Or.inr ⟨rfl, member, known, link⟩)
      · exact ih (subset_visit linked taken first known) later

theorem mem_saturate_iff (nodes : List Node) (seeds : Finset Node) (node : Node) :
    node ∈ saturate linked nodes seeds ↔ Reaches linked nodes seeds node := by
  suffices saturated : ∀ taken : Finset Node, seeds ⊆ taken →
      (∀ node ∈ taken, Reaches linked nodes seeds node) →
      (node ∈ saturate linked nodes taken ↔ Reaches linked nodes seeds node) from
    saturated seeds (Finset.Subset.refl seeds) fun seed planted => ⟨seed, planted, .refl⟩
  intro taken planted sound
  induction taken using saturate.induct linked nodes with
  | case1 taken closed =>
      rw [saturate, if_pos closed, closed]
      constructor
      · exact sound node
      · intro reached
        obtain ⟨seed, member, chain⟩ := reached
        induction chain with
        | refl => exact planted member
        | tail _ link known =>
            rw [← closed]
            exact mem_pass_of_linked linked known link
  | case2 taken grown ih =>
      rw [saturate, if_neg grown]
      apply ih (Finset.Subset.trans planted (subset_pass linked nodes taken))
      exact reaches_of_mem_pass linked sound fun _ member => member

end Elektrine.Library
