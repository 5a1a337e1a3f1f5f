import Mathlib.Data.List.Infix
import Mathlib.Data.Set.Basic

/-!
# Paths that form a tree

A path is below a folder when the folder and a separator stand in front of it.  A table of
folders and a table of files form a tree when no path is in both and all that a path is
below is a folder.
-/

namespace Elektrine.Library

variable {α : Type*} {separator : α}

/-- The folder and a separator stand in front of the path. -/
def Below (separator : α) (folder path : List α) : Prop :=
  folder ++ [separator] <+: path

instance [DecidableEq α] (folder path : List α) : Decidable (Below separator folder path) :=
  inferInstanceAs (Decidable (_ <+: _))

theorem below_append (folder rest : List α) :
    Below separator folder (folder ++ separator :: rest) :=
  ⟨rest, by simp⟩

theorem Below.exists_rest {folder path : List α} (below : Below separator folder path) :
    ∃ rest, path = folder ++ separator :: rest := by
  obtain ⟨rest, split⟩ := below
  exact ⟨rest, by rw [← split]; simp⟩

theorem Below.starts {folder path : List α} (below : Below separator folder path) :
    folder <+: path :=
  (List.prefix_append folder [separator]).trans below

theorem Below.length_lt {folder path : List α} (below : Below separator folder path) :
    folder.length < path.length := by
  have fewer := List.IsPrefix.length_le below
  rw [List.length_append, List.length_singleton] at fewer
  exact fewer

theorem Below.ne {folder path : List α} (below : Below separator folder path) :
    folder ≠ path := by
  intro same
  have shorter := below.length_lt
  rw [same] at shorter
  exact Nat.lt_irrefl _ shorter

theorem Below.trans {first second third : List α} (upper : Below separator first second)
    (lower : Below separator second third) : Below separator first third :=
  List.IsPrefix.trans upper lower.starts

theorem Below.comparable {first second path : List α} (left : Below separator first path)
    (right : Below separator second path) :
    first = second ∨ Below separator first second ∨ Below separator second first := by
  rcases Nat.lt_trichotomy first.length second.length with shorter | same | longer
  · right; left
    apply List.prefix_of_prefix_length_le left right.starts
    rw [List.length_append, List.length_singleton]
    exact shorter
  · left
    exact (List.prefix_of_prefix_length_le left.starts right.starts same.le).eq_of_length same
  · right; right
    apply List.prefix_of_prefix_length_le right left.starts
    rw [List.length_append, List.length_singleton]
    exact longer

structure FolderTree (separator : α) (folders files : Set (List α)) : Prop where
  apart : ∀ path ∈ files, path ∉ folders
  above_folder : ∀ path ∈ folders, ∀ folder, Below separator folder path → folder ∈ folders
  above_file : ∀ path ∈ files, ∀ folder, Below separator folder path → folder ∈ folders

namespace FolderTree

variable {folders files : Set (List α)}

theorem empty : FolderTree separator (∅ : Set (List α)) ∅ where
  apart := fun _ member => member.elim
  above_folder := fun _ member => member.elim
  above_file := fun _ member => member.elim

theorem not_below_file (tree : FolderTree separator folders files) {file path : List α}
    (stored : file ∈ files) (below : Below separator file path) :
    path ∉ folders ∧ path ∉ files := by
  constructor
  · intro member
    exact tree.apart file stored (tree.above_folder path member file below)
  · intro member
    exact tree.apart file stored (tree.above_file path member file below)

theorem addFolders (tree : FolderTree separator folders files) {added : Set (List α)}
    (free : ∀ path ∈ added, path ∉ files)
    (closed : ∀ path ∈ added, ∀ folder, Below separator folder path →
      folder ∈ folders ∨ folder ∈ added) :
    FolderTree separator (folders ∪ added) files where
  apart := by
    intro path file folder
    rcases folder with old | new
    · exact tree.apart path file old
    · exact free path new file
  above_folder := by
    intro path folder upper below
    rcases folder with old | new
    · exact Or.inl (tree.above_folder path old upper below)
    · exact closed path new upper below
  above_file := by
    intro path file upper below
    exact Or.inl (tree.above_file path file upper below)

theorem addFile (tree : FolderTree separator folders files) {path : List α}
    (free : path ∉ folders) (placed : ∀ folder, Below separator folder path → folder ∈ folders) :
    FolderTree separator folders (insert path files) where
  apart := by
    intro other file folder
    rcases file with rfl | old
    · exact free folder
    · exact tree.apart other old folder
  above_folder := tree.above_folder
  above_file := by
    intro other file upper below
    rcases file with rfl | old
    · exact placed upper below
    · exact tree.above_file other old upper below

theorem fewerFiles (tree : FolderTree separator folders files) {fewer : Set (List α)}
    (subset : ∀ path ∈ fewer, path ∈ files) : FolderTree separator folders fewer where
  apart := fun path member => tree.apart path (subset path member)
  above_folder := tree.above_folder
  above_file := fun path member => tree.above_file path (subset path member)

theorem remove (tree : FolderTree separator folders files) {goneFolders goneFiles : Set (List α)}
    (down : ∀ folder ∈ goneFolders, ∀ path, Below separator folder path →
      path ∈ goneFolders ∧ path ∈ goneFiles) :
    FolderTree separator (folders \ goneFolders) (files \ goneFiles) where
  apart := fun path file folder => tree.apart path file.1 folder.1
  above_folder := by
    intro path folder upper below
    refine ⟨tree.above_folder path folder.1 upper below, ?_⟩
    intro gone
    exact folder.2 (down upper gone path below).1
  above_file := by
    intro path file upper below
    refine ⟨tree.above_file path file.1 upper below, ?_⟩
    intro gone
    exact file.2 (down upper gone path below).2

end FolderTree

section Relocation

variable [DecidableEq α] {source target : List α}

def relocate (separator : α) (source target path : List α) : List α :=
  if path = source then target
  else if Below separator source path then
    target ++ [separator] ++ path.drop (source.length + 1)
  else path

@[simp] theorem relocate_self : relocate separator source target source = target :=
  if_pos rfl

theorem relocate_below (rest : List α) :
    relocate separator source target (source ++ separator :: rest) =
      target ++ separator :: rest := by
  have differs : source ++ separator :: rest ≠ source := by
    intro same
    have inside : Below separator source (source ++ separator :: rest) :=
      below_append source rest
    exact inside.ne same.symm
  have dropped : (source ++ separator :: rest).drop (source.length + 1) = rest := by
    rw [List.append_cons, List.drop_left']
    simp
  rw [relocate, if_neg differs, if_pos (below_append source rest), dropped]
  simp

theorem relocate_outside {path : List α} (differs : path ≠ source)
    (outside : ¬ Below separator source path) :
    relocate separator source target path = path := by
  rw [relocate, if_neg differs, if_neg outside]

theorem relocate_cases (separator : α) (source path : List α) :
    path = source ∨ (∃ rest, path = source ++ separator :: rest) ∨
      (path ≠ source ∧ ¬ Below separator source path) := by
  by_cases same : path = source
  · exact Or.inl same
  · by_cases below : Below separator source path
    · exact Or.inr (Or.inl below.exists_rest)
    · exact Or.inr (Or.inr ⟨same, below⟩)

theorem at_target_of_moved {path : List α}
    (moves : relocate separator source target path ≠ path) :
    relocate separator source target path = target ∨
      Below separator target (relocate separator source target path) := by
  rcases relocate_cases separator source path with same | below | away
  · rw [same]
    exact Or.inl relocate_self
  · obtain ⟨rest, split⟩ := below
    rw [split, relocate_below]
    exact Or.inr (below_append target rest)
  · exact absurd (relocate_outside away.1 away.2) moves

theorem relocate_inj {first second : List α}
    (free_first : first ≠ target ∧ ¬ Below separator target first)
    (free_second : second ≠ target ∧ ¬ Below separator target second)
    (same : relocate separator source target first = relocate separator source target second) :
    first = second := by
  rcases relocate_cases separator source first with at_first | below | away
  · rw [at_first, relocate_self] at same
    rcases relocate_cases separator source second with at_second | below' | away'
    · rw [at_first, at_second]
    · obtain ⟨rest, split⟩ := below'
      rw [split, relocate_below] at same
      exact absurd same (below_append target rest).ne
    · rw [relocate_outside away'.1 away'.2] at same
      exact absurd same.symm free_second.1
  · obtain ⟨rest, split⟩ := below
    rw [split, relocate_below] at same
    rcases relocate_cases separator source second with at_second | below' | away'
    · rw [at_second, relocate_self] at same
      exact absurd same.symm (below_append target rest).ne
    · obtain ⟨rest', split'⟩ := below'
      rw [split', relocate_below, List.append_cancel_left_eq, List.cons.injEq] at same
      rw [split, split', same.2]
    · rw [relocate_outside away'.1 away'.2] at same
      exact absurd (same ▸ below_append target rest) free_second.2
  · rw [relocate_outside away.1 away.2] at same
    rcases relocate_cases separator source second with at_second | below' | away'
    · rw [at_second, relocate_self] at same
      exact absurd same free_first.1
    · obtain ⟨rest', split'⟩ := below'
      rw [split', relocate_below] at same
      exact absurd (same ▸ below_append target rest') free_first.2
    · rw [relocate_outside away'.1 away'.2] at same
      exact same

theorem outside_of_same_relocation {other path : List α} (different : source ≠ other)
    (differs : target ≠ source)
    (same : relocate separator source target path = relocate separator other target path) :
    path ≠ source ∧ ¬ Below separator source path := by
  rcases relocate_cases separator source path with at_source | below | away
  · exfalso
    rw [at_source, relocate_self] at same
    rcases relocate_cases separator other source with here | below' | away'
    · exact different here
    · obtain ⟨rest, split⟩ := below'
      rw [split, relocate_below] at same
      exact (below_append target rest).ne same
    · rw [relocate_outside away'.1 away'.2] at same
      exact differs same
  · exfalso
    obtain ⟨rest, split⟩ := below
    rw [split, relocate_below] at same
    rcases relocate_cases separator other (source ++ separator :: rest) with here | below' | away'
    · rw [here, relocate_self] at same
      exact (below_append target rest).ne same.symm
    · obtain ⟨rest', split'⟩ := below'
      rw [split', relocate_below, List.append_cancel_left_eq, List.cons.injEq] at same
      rw [same.2, List.append_left_inj] at split'
      exact different split'
    · rw [relocate_outside away'.1 away'.2, List.append_left_inj] at same
      exact differs same
  · exact away

theorem FolderTree.relocate {folders files : Set (List α)}
    (tree : FolderTree separator folders files)
    (free_folder : ∀ path ∈ folders, path ≠ target ∧ ¬ Below separator target path)
    (free_file : ∀ path ∈ files, path ≠ target ∧ ¬ Below separator target path)
    (placed : ∀ folder, Below separator folder target → folder ∈ folders)
    (outside : target ≠ source ∧ ¬ Below separator source target) :
    FolderTree separator
      ({path | ∃ folder ∈ folders, relocate separator source target folder = path} ∪ {target})
      {path | ∃ file ∈ files,
        (if file = source then file else relocate separator source target file) = path} := by
  have kept : ∀ path ∈ folders, path ≠ source → ¬ Below separator source path →
      ∃ folder ∈ folders, Library.relocate separator source target folder = path :=
    fun path member differs apart => ⟨path, member, relocate_outside differs apart⟩
  have above_target : ∀ folder, Below separator folder target →
      ∃ other ∈ folders, Library.relocate separator source target other = folder := by
    intro folder below
    apply kept folder (placed folder below)
    · intro same
      exact outside.2 (same ▸ below)
    · intro inside
      exact outside.2 (inside.trans below)
  have above_moved : ∀ rest folder, Below separator folder (target ++ separator :: rest) →
      (∀ upper, Below separator upper (source ++ separator :: rest) → upper ∈ folders) →
      (∃ other ∈ folders, Library.relocate separator source target other = folder) ∨
        folder = target := by
    intro rest folder below stored
    rcases below.comparable (below_append target rest) with same | upper | lower
    · exact Or.inr same
    · exact Or.inl (above_target folder upper)
    · obtain ⟨between, rfl⟩ := lower.exists_rest
      left
      refine ⟨source ++ separator :: between, stored _ ?_, relocate_below between⟩
      obtain ⟨back, split⟩ := below.exists_rest
      rw [List.append_assoc, List.cons_append, List.append_cancel_left_eq,
        List.cons.injEq] at split
      rw [split.2]
      exact ⟨back, by simp⟩
  have above_kept : ∀ path folder, ¬ Below separator source path →
      Below separator folder path → folder ∈ folders →
      ∃ other ∈ folders, Library.relocate separator source target other = folder := by
    intro path folder apart below member
    apply kept folder member
    · intro same
      exact apart (same ▸ below)
    · intro inside
      exact apart (inside.trans below)
  constructor
  · intro path file folder
    obtain ⟨old, stored, rfl⟩ := file
    have not_target : (if old = source then old
        else Library.relocate separator source target old) ≠ target := by
      rcases relocate_cases separator source old with same | below | away
      · rw [if_pos same]
        exact (free_file old stored).1
      · obtain ⟨rest, split⟩ := below
        rw [split, relocate_below, if_neg (below_append source rest).ne.symm]
        exact (below_append target rest).ne.symm
      · rw [if_neg away.1, relocate_outside away.1 away.2]
        exact (free_file old stored).1
    rcases folder with moved | here
    · obtain ⟨upper, member, same⟩ := moved
      rcases relocate_cases separator source upper with at_source | inside | away
      · rw [at_source, relocate_self] at same
        exact not_target same.symm
      · obtain ⟨rest, split⟩ := inside
        rw [split, relocate_below] at same
        rcases relocate_cases separator source old with here | below | apart
        · rw [if_pos here] at same
          exact (free_file old stored).2 (same ▸ below_append target rest)
        · obtain ⟨other, split'⟩ := below
          rw [split', relocate_below, if_neg (below_append source other).ne.symm,
            List.append_cancel_left_eq, List.cons.injEq] at same
          rw [split', ← same.2] at stored
          exact tree.apart _ stored (split ▸ member)
        · rw [if_neg apart.1, relocate_outside apart.1 apart.2] at same
          exact (free_file old stored).2 (same ▸ below_append target rest)
      · rw [relocate_outside away.1 away.2] at same
        rcases relocate_cases separator source old with here | below | apart
        · rw [if_pos here, here] at same
          exact away.1 same
        · obtain ⟨other, split⟩ := below
          rw [split, relocate_below, if_neg (below_append source other).ne.symm] at same
          exact (free_folder upper member).2 (same ▸ below_append target other)
        · rw [if_neg apart.1, relocate_outside apart.1 apart.2] at same
          exact tree.apart old stored (same ▸ member)
    · exact not_target here
  · intro path folder upper below
    rcases folder with moved | here
    · obtain ⟨old, member, rfl⟩ := moved
      rcases relocate_cases separator source old with same | inside | away
      · rw [same, relocate_self] at below
        exact Or.inl (above_target upper below)
      · obtain ⟨rest, split⟩ := inside
        rw [split, relocate_below] at below
        exact above_moved rest upper below (tree.above_folder _ (split ▸ member))
      · rw [relocate_outside away.1 away.2] at below
        exact Or.inl (above_kept old upper away.2 below (tree.above_folder old member upper below))
    · rw [here] at below
      exact Or.inl (above_target upper below)
  · intro path file upper below
    obtain ⟨old, stored, rfl⟩ := file
    rcases relocate_cases separator source old with same | inside | away
    · rw [if_pos same, same] at below
      apply Or.inl
      apply above_kept source upper (fun inside => inside.ne rfl) below
      exact tree.above_file source (same ▸ stored) upper below
    · obtain ⟨rest, split⟩ := inside
      rw [if_neg (split ▸ (below_append source rest).ne.symm), split, relocate_below] at below
      exact above_moved rest upper below (tree.above_file _ (split ▸ stored))
    · rw [if_neg away.1, relocate_outside away.1 away.2] at below
      exact Or.inl (above_kept old upper away.2 below (tree.above_file old stored upper below))

end Relocation

end Elektrine.Library
