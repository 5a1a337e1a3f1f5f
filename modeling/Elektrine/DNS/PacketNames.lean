import Elektrine.DNS.Packet

/-!
# Names in packets

How a name stands in a packet: fragments of labels, each of which ends at the root or
at a pointer to the next one.  The decoder follows these fragments, and it raises
just where a fragment ends with the first byte of a pointer at the end of the packet.
-/

namespace Elektrine.DNS.Packet

open Elektrine.Library

inductive LabelsTo : Bytes → List Bytes → Bytes → Prop where
  | here (data : Bytes) : LabelsTo data [] data
  | label {len : UInt8} {rest behind : Bytes} {labels : List Bytes} :
      len ≠ 0 → len < 64 → len.toNat ≤ rest.length →
      LabelsTo (rest.drop len.toNat) labels behind →
      LabelsTo (len :: rest) (rest.take len.toNat :: labels) behind

/-- The name at a position, read through at most so many fragments, comes to a byte
that announces a pointer and is the last one. -/
inductive RunsOut (packet : Bytes) : Nat → Bytes → Prop where
  | here {depth : Nat} {data : Bytes} {labels : List Bytes} {last : UInt8} :
      LabelsTo data labels [last] → 192 ≤ last → RunsOut packet (depth + 1) data
  | pointer {depth : Nat} {data rest : Bytes} {labels : List Bytes}
      {high low : UInt8} :
      LabelsTo data labels (high :: low :: rest) → 192 ≤ high →
      pointerOffset high low < packet.length →
      RunsOut packet depth (packet.drop (pointerOffset high low)) →
      RunsOut packet (depth + 1) data

inductive Fragments (packet : Bytes) : Bytes → List (List Bytes) → Prop where
  | root {data rest : Bytes} {labels : List Bytes} :
      LabelsTo data labels (0 :: rest) → Fragments packet data [labels]
  | pointer {data rest : Bytes} {labels : List Bytes} {high low : UInt8}
      {fragments : List (List Bytes)} :
      LabelsTo data labels (high :: low :: rest) → 192 ≤ high →
      Fragments packet (packet.drop (pointerOffset high low)) fragments →
      Fragments packet data (labels :: fragments)

def nameOf : List (List Bytes) → Bytes
  | [] => []
  | labels :: fragments => join (labels ++ labelsOf (nameOf fragments))

/-! ## Labels -/

def Halts : Bytes → Prop
  | [] => True
  | len :: rest => ¬ (len ≠ 0 ∧ len < 64 ∧ len.toNat ≤ rest.length)

theorem halts_root (rest : Bytes) : Halts (0 :: rest) := by
  intro label
  exact label.1 rfl

theorem halts_pointer {high : UInt8} (pointer : 192 ≤ high) (rest : Bytes) :
    Halts (high :: rest) := by
  intro label
  have below : high.toNat < 64 := UInt8.lt_iff_toNat_lt.mp label.2.1
  have above : 192 ≤ high.toNat := UInt8.le_iff_toNat_le.mp pointer
  omega

theorem labelsTo_readLabels (fuel : Nat) (data : Bytes) :
    LabelsTo data (readLabels fuel data).1 (readLabels fuel data).2 := by
  induction fuel generalizing data with
  | zero => exact .here data
  | succ fuel ih =>
      cases data with
      | nil => exact .here []
      | cons len rest =>
          rw [readLabels]
          split
          · rename_i label
            exact .label label.1 label.2.1 label.2.2 (ih _)
          · exact .here _

theorem readLabels_of_labelsTo {data behind : Bytes} {labels : List Bytes}
    (read : LabelsTo data labels behind) (halts : Halts behind) {fuel : Nat}
    (enough : data.length ≤ fuel) : readLabels fuel data = (labels, behind) := by
  induction read generalizing fuel with
  | here data =>
      cases data with
      | nil => cases fuel <;> rfl
      | cons len rest =>
          cases fuel with
          | zero => rfl
          | succ fuel => rw [readLabels, if_neg halts]
  | @label len rest behind labels nonzero small fits _ ih =>
      cases fuel with
      | zero => exact absurd enough (Nat.not_succ_le_zero _)
      | succ fuel =>
          have shorter : (rest.drop len.toNat).length ≤ fuel := by
            rw [List.length_drop]
            rw [List.length_cons] at enough
            omega
          rw [readLabels, if_pos ⟨nonzero, small, fits⟩, ih halts shorter]

theorem LabelsTo.unique {data behind behind' : Bytes} {labels labels' : List Bytes}
    (first : LabelsTo data labels behind) (halts : Halts behind)
    (second : LabelsTo data labels' behind') (halts' : Halts behind') :
    labels = labels' ∧ behind = behind' := by
  have one := readLabels_of_labelsTo first halts (Nat.le_refl _)
  rw [readLabels_of_labelsTo second halts' (Nat.le_refl _)] at one
  exact ⟨(Prod.mk.inj one).1.symm, (Prod.mk.inj one).2.symm⟩

theorem LabelsTo.bounds {data behind : Bytes} {labels : List Bytes}
    (read : LabelsTo data labels behind) :
    ∀ label ∈ labels, label ≠ [] ∧ label.length ≤ 63 := by
  induction read with
  | here => intro label member; cases member
  | @label len rest _ _ nonzero small fits _ ih =>
      intro label member
      rcases List.mem_cons.mp member with here | later
      · have length : label.length = len.toNat := by
          rw [here, List.length_take]
          omega
        have positive : len.toNat ≠ 0 := fun zero =>
          nonzero (UInt8.toNat_inj.mp zero)
        have below : len.toNat < 64 := UInt8.lt_iff_toNat_lt.mp small
        refine ⟨?_, by omega⟩
        intro empty
        rw [empty] at length
        exact positive length.symm
      · exact ih label later

/-! ## What the decoder reads -/

section

variable {packet data rest : Bytes} {labels : List Bytes} {high low : UInt8}

theorem decodeName_root (depth : Nat) (read : LabelsTo data labels (0 :: rest)) :
    decodeName (depth + 1) packet data =
      if (join labels).length ≤ 253 then .ok (join labels, rest)
      else .error .nameTooLong := by
  rw [decodeName, readLabels_of_labelsTo read (halts_root rest) (Nat.le_refl _)]
  exact if_pos rfl

theorem ne_zero_of_pointer (pointer : 192 ≤ high) : high ≠ 0 := by
  intro zero
  rw [zero] at pointer
  exact absurd pointer (by decide)

theorem decodeName_lastByte (depth : Nat) (read : LabelsTo data labels [high])
    (pointer : 192 ≤ high) : decodeName (depth + 1) packet data = .raised := by
  rw [decodeName, readLabels_of_labelsTo read (halts_pointer pointer _) (Nat.le_refl _)]
  dsimp only
  rw [if_neg (ne_zero_of_pointer pointer), if_pos pointer]

theorem decodeName_pointer (depth : Nat)
    (read : LabelsTo data labels (high :: low :: rest)) (pointer : 192 ≤ high) :
    decodeName (depth + 1) packet data =
      if pointerOffset high low < packet.length then
        match decodeName depth packet (packet.drop (pointerOffset high low)) with
        | .ok (pointed, _) => .ok (join (labels ++ labelsOf pointed), rest)
        | .error _ => .error .badPointer
        | .raised => .raised
      else .error .badPointer := by
  rw [decodeName, readLabels_of_labelsTo read (halts_pointer pointer _) (Nat.le_refl _)]
  dsimp only
  rw [if_neg (ne_zero_of_pointer pointer), if_pos pointer]
  all_goals rfl

end

inductive NameAt (data : Bytes) : Prop where
  | root {labels : List Bytes} {rest : Bytes} :
      LabelsTo data labels (0 :: rest) → NameAt data
  | pointer {labels : List Bytes} {high low : UInt8} {rest : Bytes} :
      LabelsTo data labels (high :: low :: rest) → 192 ≤ high → NameAt data
  | lastByte {labels : List Bytes} {last : UInt8} :
      LabelsTo data labels [last] → 192 ≤ last → NameAt data
  | malformed :
      (∀ (depth : Nat) (packet : Bytes),
        ∃ reason, decodeName depth packet data = .error reason) →
      NameAt data

theorem nameAt (data : Bytes) : NameAt data := by
  have read := labelsTo_readLabels data.length data
  cases stop : readLabels data.length data with
  | mk labels behind =>
      rw [stop] at read
      cases behind with
      | nil =>
          apply NameAt.malformed
          intro depth packet
          cases depth with
          | zero => exact ⟨_, rfl⟩
          | succ depth => exact ⟨.badName, by rw [decodeName, stop]⟩
      | cons high rest =>
          by_cases root : high = 0
          · subst root
            exact .root read
          · by_cases pointer : 192 ≤ high
            · cases rest with
              | nil => exact .lastByte read pointer
              | cons low rest => exact .pointer read pointer
            · apply NameAt.malformed
              intro depth packet
              cases depth with
              | zero => exact ⟨_, rfl⟩
              | succ depth =>
                  rw [decodeName, stop]
                  dsimp only
                  rw [if_neg root, if_neg pointer]
                  by_cases reserved : 64 ≤ high
                  · exact ⟨_, if_pos reserved⟩
                  · exact ⟨_, if_neg reserved⟩

theorem decodeName_eq_raised_iff {depth : Nat} {packet data : Bytes} :
    decodeName depth packet data = .raised ↔ RunsOut packet depth data := by
  induction depth generalizing data with
  | zero =>
      constructor
      · intro raised
        cases raised
      · intro runs
        cases runs
  | succ depth ih =>
      constructor
      · intro raised
        cases nameAt data with
        | root read =>
            rw [decodeName_root depth read] at raised
            split at raised <;> cases raised
        | lastByte read pointer => exact .here read pointer
        | malformed never =>
            obtain ⟨reason, error⟩ := never (depth + 1) packet
            rw [error] at raised
            cases raised
        | pointer read pointer =>
            rw [decodeName_pointer depth read pointer] at raised
            split at raised
            · rename_i inside
              apply RunsOut.pointer read pointer inside
              apply ih.mp
              split at raised
              · cases raised
              · cases raised
              · assumption
            · cases raised
      · intro runs
        cases runs with
        | here read pointer => exact decodeName_lastByte depth read pointer
        | pointer read pointer inside deeper =>
            rw [decodeName_pointer depth read pointer, if_pos inside, ih.mpr deeper]

theorem fragments_of_decodeName {depth : Nat} {packet data name rest : Bytes}
    (decoded : decodeName depth packet data = .ok (name, rest)) :
    ∃ fragments, Fragments packet data fragments ∧ name = nameOf fragments := by
  induction depth generalizing data name rest with
  | zero => cases decoded
  | succ depth ih =>
      cases nameAt data with
      | @root labels _ read =>
          rw [decodeName_root depth read] at decoded
          split at decoded
          · cases decoded
            refine ⟨[labels], .root read, ?_⟩
            rw [nameOf, show labelsOf (nameOf []) = [] from rfl, List.append_nil]
          · cases decoded
      | lastByte read pointer =>
          rw [decodeName_lastByte depth read pointer] at decoded
          cases decoded
      | malformed never =>
          obtain ⟨reason, error⟩ := never (depth + 1) packet
          rw [error] at decoded
          cases decoded
      | @pointer labels _ _ _ read pointer =>
          rw [decodeName_pointer depth read pointer] at decoded
          split at decoded
          · split at decoded
            · rename_i pointed _ deeper
              obtain ⟨fragments, more, same⟩ := ih deeper
              cases decoded
              exact ⟨labels :: fragments, .pointer read pointer more, by rw [nameOf, same]⟩
            · cases decoded
            · cases decoded
          · cases decoded

/-! ## Fragments -/

theorem Fragments.unique {packet data : Bytes} {first second : List (List Bytes)}
    (one : Fragments packet data first) (two : Fragments packet data second) :
    first = second := by
  induction one generalizing second with
  | root read =>
      cases two with
      | root read' =>
          rw [(read.unique (halts_root _) read' (halts_root _)).1]
      | pointer read' pointer _ =>
          obtain ⟨-, behind⟩ := read.unique (halts_root _) read' (halts_pointer pointer _)
          exact absurd (List.cons.inj behind).1.symm (ne_zero_of_pointer pointer)
  | pointer read pointer _ ih =>
      cases two with
      | root read' =>
          obtain ⟨-, behind⟩ := read.unique (halts_pointer pointer _) read' (halts_root _)
          exact absurd (List.cons.inj behind).1 (ne_zero_of_pointer pointer)
      | pointer read' pointer' more =>
          obtain ⟨labels, behind⟩ :=
            read.unique (halts_pointer pointer _) read' (halts_pointer pointer' _)
          cases behind
          rw [labels, ih more]

theorem Fragments.bounds {packet data : Bytes} {fragments : List (List Bytes)}
    (read : Fragments packet data fragments) :
    ∀ labels ∈ fragments, ∀ label ∈ labels, label ≠ [] ∧ label.length ≤ 63 := by
  induction read with
  | root labels =>
      intro first member
      rw [List.mem_singleton.mp member]
      exact labels.bounds
  | pointer labels _ _ ih =>
      intro first member
      rcases List.mem_cons.mp member with here | later
      · rw [here]
        exact labels.bounds
      · exact ih first later

theorem length_le_of_mem_labelsOf_nameOf {fragments : List (List Bytes)} {bound : Nat}
    (bounded : ∀ labels ∈ fragments, ∀ label ∈ labels, label.length ≤ bound) :
    ∀ label ∈ labelsOf (nameOf fragments), label.length ≤ bound := by
  induction fragments with
  | nil => intro label member; cases member
  | cons labels fragments ih =>
      intro label member
      rw [nameOf, labelsOf, join, pieces_intercalate, List.mem_flatMap] at member
      obtain ⟨part, among, member⟩ := member
      have shorter := length_le_of_mem_pieces member
      rcases List.mem_append.mp among with own | pointed
      · exact Nat.le_trans shorter (bounded labels List.mem_cons_self part own)
      · exact Nat.le_trans shorter
          (ih (fun others later => bounded others (List.mem_cons_of_mem _ later))
            part pointed)

theorem join_eq_nil_iff {labels : List Bytes} (full : ∀ label ∈ labels, label ≠ []) :
    join labels = [] ↔ labels = [] := by
  constructor
  · intro empty
    cases labels with
    | nil => rfl
    | cons label rest =>
        have below : label.length ≤ (join (label :: rest)).length :=
          length_le_of_mem_intercalate List.mem_cons_self
        rw [empty] at below
        exact absurd (List.eq_nil_of_length_eq_zero (Nat.le_zero.mp below))
          (full label List.mem_cons_self)
  · intro empty
    rw [empty]
    rfl

theorem join_labelsOf_nameOf_iff {labels : List Bytes} {fragments : List (List Bytes)}
    (full : ∀ label ∈ labels, label ≠ []) :
    join (labelsOf (nameOf (labels :: fragments))) = nameOf (labels :: fragments) ↔
      ∀ label ∈ labels, [] ∉ label.splitOn 46 := by
  have every : ∀ label ∈ labels ++ labelsOf (nameOf fragments), label ≠ [] := by
    intro label member
    rcases List.mem_append.mp member with own | pointed
    · exact full label own
    · exact ne_nil_of_mem_pieces pointed
  by_cases empty : labels ++ labelsOf (nameOf fragments) = []
  · have none_own := (List.append_eq_nil_iff.mp empty).1
    have root : nameOf (labels :: fragments) = [] := by
      rw [nameOf, empty]
      rfl
    rw [root, none_own]
    constructor
    · intro _ label member
      cases member
    · intro _
      rfl
  · have some_byte : nameOf (labels :: fragments) ≠ [] := by
      intro root
      exact empty ((join_eq_nil_iff every).mp root)
    rw [join, labelsOf, intercalate_pieces_eq_iff some_byte, nameOf, join,
      splitOn_intercalate_flatMap empty, List.mem_flatMap]
    constructor
    · intro absent label own inside
      exact absent ⟨label, List.mem_append_left _ own, inside⟩
    · intro proper present
      obtain ⟨label, among, inside⟩ := present
      rcases List.mem_append.mp among with own | pointed
      · exact proper label own inside
      · rw [List.splitOn_eq_singleton (not_mem_of_mem_pieces pointed),
          List.mem_singleton] at inside
        exact ne_nil_of_mem_pieces pointed inside.symm

/-! ## Names that are written -/

theorem labelsOf_trimDots (name : Bytes) : labelsOf (trimDots name) = labelsOf name :=
  pieces_rdropWhile name

theorem join_labelsOf_length_le (name : Bytes) :
    (join (labelsOf name)).length ≤ (trimDots name).length := by
  rw [← labelsOf_trimDots]
  exact length_intercalate_pieces_le _

theorem trimDots_of_join_labelsOf {name : Bytes} (same : join (labelsOf name) = name) :
    trimDots name = name := by
  have below := join_labelsOf_length_le name
  rw [same] at below
  exact (List.rdropWhile_prefix _ name).eq_of_length_le below

theorem encodeName_eq_some_iff {name bytes : Bytes} :
    encodeName name = some bytes ↔
      (trimDots name).length ≤ 253 ∧ (∀ label ∈ labelsOf name, label.length ≤ 63) ∧
        bytes = encodeLabels (labelsOf name) ++ [0] := by
  rw [encodeName, labelsOf_trimDots]
  split
  · rename_i long
    constructor
    · intro never
      cases never
    · intro ⟨short, small, _⟩
      rcases long with long | long
      · omega
      · obtain ⟨label, member, exceeds⟩ := List.any_eq_true.mp long
        have fits := small label member
        have wide := of_decide_eq_true exceeds
        omega
  · rename_i short
    rw [not_or, Nat.not_lt, Bool.not_eq_true, List.any_eq_false] at short
    constructor
    · intro encoded
      refine ⟨short.1, ?_, (Option.some.inj encoded).symm⟩
      intro label member
      have fits := short.2 label member
      simpa using fits
    · intro ⟨_, _, same⟩
      rw [same]

theorem length_join_cons (label : Bytes) (rest : List Bytes) (more : rest ≠ []) :
    (join (label :: rest)).length = label.length + 1 + (join rest).length := by
  rw [join, List.intercalate_cons_of_ne_nil more, List.length_append, List.length_append,
    List.length_singleton]
  rfl

theorem length_encodeLabels_le (labels : List Bytes) :
    (encodeLabels labels).length ≤ (join labels).length + 1 := by
  induction labels with
  | nil => exact Nat.zero_le _
  | cons label rest ih =>
      have here : (encodeLabels (label :: rest)).length =
          1 + label.length + (encodeLabels rest).length := by
        rw [encodeLabels, List.flatMap_cons, List.length_append, List.length_append]
        rfl
      by_cases more : rest = []
      · subst more
        rw [here, show join [label] = label from List.intercalate_singleton]
        simp only [encodeLabels, List.flatMap_nil, List.length_nil]
        omega
      · rw [here, length_join_cons label rest more]
        omega

theorem length_encodeName_le {name bytes : Bytes} (encoded : encodeName name = some bytes) :
    bytes.length ≤ 255 := by
  obtain ⟨short, -, same⟩ := encodeName_eq_some_iff.mp encoded
  have labels := length_encodeLabels_le (labelsOf name)
  have joined := join_labelsOf_length_le name
  rw [same, List.length_append, List.length_singleton]
  omega

theorem labelsTo_encodeLabels {labels : List Bytes}
    (bounds : ∀ label ∈ labels, label ≠ [] ∧ label.length ≤ 63) (behind : Bytes) :
    LabelsTo (encodeLabels labels ++ behind) labels behind := by
  induction labels with
  | nil => exact .here behind
  | cons label rest ih =>
      obtain ⟨full, small⟩ := bounds label List.mem_cons_self
      have length : (lowByte label.length).toNat = label.length := by
        rw [toNat_lowByte]
        omega
      have positive : label.length ≠ 0 := fun zero =>
        full (List.eq_nil_of_length_eq_zero zero)
      have more := ih fun other member => bounds other (List.mem_cons_of_mem _ member)
      have written : encodeLabels (label :: rest) ++ behind =
          lowByte label.length :: (label ++ (encodeLabels rest ++ behind)) := by
        rw [encodeLabels, List.flatMap_cons, ← encodeLabels, byte, List.append_assoc,
          List.append_assoc]
        rfl
      have nonzero : lowByte label.length ≠ 0 := by
        intro zero
        rw [zero] at length
        exact positive length.symm
      have below : lowByte label.length < 64 := by
        apply UInt8.lt_iff_toNat_lt.mpr
        rw [length]
        exact Nat.lt_succ_of_le small
      have fits : (lowByte label.length).toNat ≤
          (label ++ (encodeLabels rest ++ behind)).length := by
        rw [length, List.length_append]
        omega
      have behind_label : LabelsTo
          ((label ++ (encodeLabels rest ++ behind)).drop (lowByte label.length).toNat)
          rest behind := by
        rw [length, List.drop_left]
        exact more
      have read := LabelsTo.label nonzero below fits behind_label
      rw [length, List.take_left] at read
      rw [written]
      exact read

theorem decodeName_encodeName {name bytes : Bytes} (encoded : encodeName name = some bytes)
    (depth : Nat) (packet behind : Bytes) :
    decodeName (depth + 1) packet (bytes ++ behind) =
      .ok (join (labelsOf name), behind) := by
  obtain ⟨short, small, same⟩ := encodeName_eq_some_iff.mp encoded
  have bounds : ∀ label ∈ labelsOf name, label ≠ [] ∧ label.length ≤ 63 :=
    fun label member => ⟨ne_nil_of_mem_pieces member, small label member⟩
  have joined := join_labelsOf_length_le name
  rw [same, List.append_assoc, List.singleton_append,
    decodeName_root depth (labelsTo_encodeLabels bounds (0 :: behind)),
    if_pos (by omega)]

end Elektrine.DNS.Packet
