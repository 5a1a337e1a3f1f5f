import Mathlib.Data.List.Basic
import Mathlib.Data.List.Nodup
import Mathlib.Data.List.Perm.Subperm

/-!
# Rows that name their parent

A table in which a row may carry the key of another one, its parent.  A row is rooted
if its parents lead to a row without a parent.  The forest that is grown from the rows
without a parent is finite whatever the links are, and it holds exactly the rooted rows,
each of them once.
-/

namespace Elektrine.Library

universe u v

inductive RowTree (Node : Type u) where
  | branch (node : Node) (children : List (RowTree Node))

namespace RowTree

variable {Node : Type u}

mutual

def nodes : RowTree Node → List Node
  | .branch node children => node :: forestNodes children

def forestNodes : List (RowTree Node) → List Node
  | [] => []
  | tree :: trees => tree.nodes ++ forestNodes trees

end

end RowTree

namespace ParentLinks

variable {Node : Type u} {Key : Type v} (key : Node → Key) (parent : Node → Option Key)

section Definitions

variable [DecidableEq Key]

def grow (table : List Node) : Nat → Option Key → Option (List (RowTree Node))
  | 0, _ => none
  | depth + 1, parentKey =>
      (table.filter fun node => parent node = parentKey).mapM fun node =>
        (grow table depth (some (key node))).map fun children => .branch node children

def descendants (table : List Node) : Nat → Option Key → List Node
  | 0, _ => []
  | depth + 1, parentKey =>
      (table.filter fun node => parent node = parentKey).flatMap fun node =>
        node :: descendants table depth (some (key node))

end Definitions

inductive Lineage (table : List Node) : List Node → Prop where
  | nil : Lineage table []
  | cons {node : Node} {line : List Node} (member : node ∈ table)
      (link : parent node = line.head?.map key) (rest : Lineage table line) :
      Lineage table (node :: line)

def Rooted (table : List Node) (node : Node) : Prop :=
  ∃ line, Lineage key parent table (node :: line)

variable {key parent} {table : List Node}

namespace Lineage

theorem suffix (front : List Node) {line : List Node}
    (lineage : Lineage key parent table (front ++ line)) :
    Lineage key parent table line := by
  induction front with
  | nil => exact lineage
  | cons node front ih =>
      cases lineage with
      | cons _ _ rest => exact ih rest

theorem mem {line : List Node} (lineage : Lineage key parent table line) {node : Node}
    (onLine : node ∈ line) : node ∈ table := by
  obtain ⟨front, back, rfl⟩ := List.append_of_mem onLine
  cases lineage.suffix front with
  | cons member _ _ => exact member

theorem transport {other line : List Node} (lineage : Lineage key parent table line)
    (kept : ∀ node ∈ line, node ∈ other) : Lineage key parent other line := by
  induction lineage with
  | nil => exact .nil
  | @cons node line member link rest ih =>
      apply Lineage.cons (kept node List.mem_cons_self) link
      apply ih
      intro other onLine
      exact kept other (List.mem_cons_of_mem _ onLine)

variable (distinct : (table.map key).Nodup)

include distinct

theorem unique {first second : List Node} (one : Lineage key parent table first)
    (two : Lineage key parent table second)
    (same : first.head?.map key = second.head?.map key) : first = second := by
  induction one generalizing second with
  | nil =>
      cases two with
      | nil => rfl
      | cons _ _ _ => simp at same
  | @cons node line member link rest ih =>
      cases two with
      | nil => simp at same
      | @cons other otherLine otherMember otherLink otherRest =>
          have keys : key node = key other := by simpa using same
          cases List.inj_on_of_nodup_map distinct member otherMember keys
          rw [ih otherRest (link.symm.trans otherLink)]

theorem nodup {line : List Node} (lineage : Lineage key parent table line) :
    line.Nodup := by
  induction lineage with
  | nil => exact List.nodup_nil
  | @cons node line member link rest ih =>
      apply List.nodup_cons.mpr
      refine ⟨?_, ih⟩
      intro above
      obtain ⟨front, back, split⟩ := List.append_of_mem above
      have again : Lineage key parent table (node :: back) := by
        apply suffix front
        rw [← split]
        exact rest
      have equal : node :: line = node :: back :=
        unique distinct (.cons member link rest) again rfl
      have lengths := congrArg List.length equal
      rw [split] at lengths
      simp at lengths
      omega

theorem length_le {line : List Node} (lineage : Lineage key parent table line) :
    line.length ≤ table.length :=
  (List.subperm_of_subset (lineage.nodup distinct) fun _ => lineage.mem).length_le

end Lineage

/-- Rows stay rooted in the table of their heirs.  An heir is known to be rooted, or has
the parent of its row, which is not gone. -/
theorem Rooted.inherit {other : List Node} (heir : Node → Node) (gone : Node → Prop)
    (keyed : ∀ node, key (heir node) = key node)
    (inherits : ∀ node ∈ table, ¬ gone node → Rooted key parent other (heir node) ∨
      heir node ∈ other ∧ parent (heir node) = parent node ∧
        ∀ above ∈ table, parent node = some (key above) → ¬ gone above)
    {node : Node} (rooted : Rooted key parent table node) (stays : ¬ gone node) :
    Rooted key parent other (heir node) := by
  obtain ⟨line, lineage⟩ := rooted
  induction line generalizing node with
  | nil =>
      cases lineage with
      | cons member link _ =>
          rcases inherits node member stays with known | ⟨present, same, -⟩
          · exact known
          · exact ⟨[], .cons present (same.trans link) .nil⟩
  | cons above line ih =>
      cases lineage with
      | cons member link rest =>
          rcases inherits node member stays with known | ⟨present, same, open_above⟩
          · exact known
          · have aboveMember := rest.mem List.mem_cons_self
            obtain ⟨higher, lineage⟩ := ih (open_above above aboveMember link) rest
            refine ⟨heir above :: higher, .cons present ?_ lineage⟩
            rw [same, link, List.head?_cons, List.head?_cons, Option.map_some,
              Option.map_some, keyed]

section Grow

variable [DecidableEq Key]

theorem Lineage.child {line : List Node} (lineage : Lineage key parent table line)
    {node : Node}
    (member : node ∈ table.filter fun node => parent node = line.head?.map key) :
    Lineage key parent table (node :: line) := by
  obtain ⟨inTable, link⟩ := List.mem_filter.mp member
  exact .cons inTable (of_decide_eq_true link) lineage

theorem lineage_of_mem_descendants {depth : Nat} {line : List Node}
    (lineage : Lineage key parent table line) {node : Node}
    (under : node ∈ descendants key parent table depth (line.head?.map key)) :
    ∃ front, Lineage key parent table (node :: (front ++ line)) := by
  induction depth generalizing line with
  | zero => exact absurd under List.not_mem_nil
  | succ depth ih =>
      rw [descendants] at under
      obtain ⟨child, member, at_or_under⟩ := List.mem_flatMap.mp under
      have longer := lineage.child member
      rcases List.mem_cons.mp at_or_under with rfl | deeper
      · exact ⟨[], longer⟩
      · obtain ⟨front, whole⟩ := ih longer deeper
        refine ⟨front ++ [child], ?_⟩
        rw [List.append_assoc, List.singleton_append]
        exact whole

theorem Lineage.branch_head {depth : Nat} {line : List Node}
    (lineage : Lineage key parent table line) {child node : Node}
    (member : child ∈ table.filter fun node => parent node = line.head?.map key)
    (inBranch : node ∈ child :: descendants key parent table depth (some (key child))) :
    ∃ front, Lineage key parent table (front ++ child :: line) ∧
      (front ++ child :: line).head? = some node := by
  have longer := lineage.child member
  rcases List.mem_cons.mp inBranch with rfl | deeper
  · exact ⟨[], longer, rfl⟩
  · obtain ⟨front, whole⟩ := lineage_of_mem_descendants longer deeper
    exact ⟨node :: front, whole, rfl⟩

theorem mem_descendants_of_lineage {depth : Nat} {node : Node} (front : List Node)
    {line : List Node} (lineage : Lineage key parent table (node :: (front ++ line)))
    (deep : front.length < depth) :
    node ∈ descendants key parent table depth (line.head?.map key) := by
  induction depth generalizing front line with
  | zero => exact absurd deep (Nat.not_lt_zero _)
  | succ depth ih =>
      rw [descendants]
      apply List.mem_flatMap.mpr
      rcases List.eq_nil_or_concat front with rfl | ⟨shorter, child, rfl⟩
      · cases lineage with
        | cons member link _ =>
            refine ⟨node, ?_, List.mem_cons_self⟩
            exact List.mem_filter.mpr ⟨member, decide_eq_true link⟩
      · rw [List.concat_eq_append, List.append_assoc, List.singleton_append] at lineage
        rw [List.concat_eq_append, List.length_append, List.length_singleton] at deep
        have above : Lineage key parent table (child :: line) := by
          apply Lineage.suffix (node :: shorter)
          exact lineage
        refine ⟨child, ?_, List.mem_cons_of_mem _ ?_⟩
        · cases above with
          | cons member link _ =>
              exact List.mem_filter.mpr ⟨member, decide_eq_true link⟩
        · exact ih shorter lineage (Nat.lt_of_succ_lt_succ deep)

theorem grow_children (depth : Nat) (children : List Node)
    (grown : ∀ child ∈ children, ∃ trees,
      grow key parent table depth (some (key child)) = some trees ∧
        RowTree.forestNodes trees = descendants key parent table depth (some (key child))) :
    ∃ trees, (children.mapM fun node =>
        (grow key parent table depth (some (key node))).map fun children =>
          RowTree.branch node children) = some trees ∧
      RowTree.forestNodes trees = children.flatMap fun node =>
        node :: descendants key parent table depth (some (key node)) := by
  induction children with
  | nil => exact ⟨[], rfl, by rw [RowTree.forestNodes, List.flatMap_nil]⟩
  | cons child children ih =>
      obtain ⟨under, itself, listed⟩ := grown child List.mem_cons_self
      obtain ⟨trees, others, rest⟩ := ih fun other later =>
        grown other (List.mem_cons_of_mem _ later)
      refine ⟨.branch child under :: trees, ?_, ?_⟩
      · rw [List.mapM_cons, itself, others]
        rfl
      · rw [RowTree.forestNodes, RowTree.nodes, listed, rest, List.flatMap_cons]

variable (distinct : (table.map key).Nodup)

include distinct

theorem nodup_descendants (depth : Nat) {line : List Node}
    (lineage : Lineage key parent table line) :
    (descendants key parent table depth (line.head?.map key)).Nodup := by
  induction depth generalizing line with
  | zero => exact List.nodup_nil
  | succ depth ih =>
      rw [descendants]
      apply List.nodup_flatMap.mpr
      constructor
      · intro child member
        have longer := lineage.child member
        apply List.nodup_cons.mpr
        refine ⟨?_, ih longer⟩
        intro under
        obtain ⟨front, whole⟩ := lineage_of_mem_descendants longer under
        have simple := (whole.nodup distinct)
        simp at simple
      · have once : (table.filter fun node =>
            decide (parent node = line.head?.map key)).Nodup :=
          distinct.of_map.filter _
        apply List.Pairwise.imp_of_mem _ once
        intro first second inFirst inSecond apart node underFirst underSecond
        obtain ⟨front, one, oneHead⟩ := lineage.branch_head inFirst underFirst
        obtain ⟨back, two, twoHead⟩ := lineage.branch_head inSecond underSecond
        have equal := one.unique distinct two (by rw [oneHead, twoHead])
        have sizes := congrArg List.length equal
        simp only [List.length_append, List.length_cons, Nat.add_right_cancel_iff]
          at sizes
        have heads := (List.append_inj equal sizes).2
        exact apart (List.cons.inj heads).1

theorem grow_isSome (depth : Nat) {line : List Node}
    (lineage : Lineage key parent table line)
    (enough : table.length < line.length + depth) :
    ∃ trees, grow key parent table depth (line.head?.map key) = some trees ∧
      RowTree.forestNodes trees = descendants key parent table depth (line.head?.map key) := by
  induction depth generalizing line with
  | zero =>
      have bounded := lineage.length_le distinct
      omega
  | succ depth ih =>
      obtain ⟨trees, grown, listed⟩ := grow_children depth
        (table.filter fun node => parent node = line.head?.map key) (by
          intro child member
          apply ih (lineage.child member)
          rw [List.length_cons]
          omega)
      refine ⟨trees, ?_, ?_⟩
      · rw [grow, grown]
      · rw [descendants, listed]

theorem forest_perm (rooted : ∀ node ∈ table, Rooted key parent table node) :
    ∃ trees, grow key parent table (table.length + 1) none = some trees ∧
      (RowTree.forestNodes trees).Perm table := by
  obtain ⟨trees, grown, listed⟩ := grow_isSome distinct (table.length + 1)
    (.nil : Lineage key parent table []) (by
      rw [List.length_nil]
      omega)
  refine ⟨trees, grown, ?_⟩
  rw [listed]
  apply (List.perm_ext_iff_of_nodup (nodup_descendants distinct _ .nil) distinct.of_map).mpr
  intro node
  constructor
  · intro under
    obtain ⟨front, lineage⟩ := lineage_of_mem_descendants .nil under
    exact lineage.mem List.mem_cons_self
  · intro member
    obtain ⟨line, lineage⟩ := rooted node member
    have bounded := lineage.length_le distinct
    rw [List.length_cons] at bounded
    apply mem_descendants_of_lineage line
    · rw [List.append_nil]
      exact lineage
    · omega

end Grow

end ParentLinks

end Elektrine.Library
