import Mathlib.Data.Rat.Cast.Order
import Mathlib.Data.String.Basic
import Elektrine.Library.Places
import Elektrine.Messaging.ArblargSDK.EventSignatures

/-!
# The canonical text of a JSON value

Signatures and digests are made over the canonical text.  Two values have the same one
just when they are equal up to the order of their keys.
-/

namespace Elektrine

def Json.decimal (mantissa exponent : Int) : ℚ :=
  mantissa * 10 ^ exponent

inductive Json.SameValue : Json → Json → Prop
  | null : Json.SameValue .null .null
  | bool (value : Bool) : Json.SameValue (.bool value) (.bool value)
  | int (value : Int) : Json.SameValue (.int value) (.int value)
  | float {mantissa exponent mantissa' exponent' : Int}
      (equal : Json.decimal mantissa exponent = Json.decimal mantissa' exponent') :
      Json.SameValue (.float mantissa exponent) (.float mantissa' exponent')
  | str (value : String) : Json.SameValue (.str value) (.str value)
  | arr {items others : List Json} (length : items.length = others.length)
      (each : ∀ (place : Nat) item other, items[place]? = some item →
        others[place]? = some other → Json.SameValue item other) :
      Json.SameValue (.arr items) (.arr others)
  | obj {fields others : List (String × Json)}
      (names : ∀ name, (fields.lookup name).isSome = (others.lookup name).isSome)
      (each : ∀ name value other, fields.lookup name = some value →
        others.lookup name = some other → Json.SameValue value other) :
      Json.SameValue (.obj fields) (.obj others)

namespace Json

def isNumber : Json → Bool
  | .int _ | .float _ _ => true
  | _ => false

def isScalar : Json → Bool
  | .arr _ | .obj _ => false
  | _ => true

end Json

end Elektrine

namespace Elektrine.Messaging.ArblargSDK

open Elektrine.Library

def jsonMarks : Marks Char where
  opening character := character == '[' || character == '\x7b'
  closing character := character == ']' || character == '\x7d'
  quote := '"'
  escape := '\\'

def structural (character : Char) : Bool :=
  character == '[' || character == ']' || character == '\x7b' || character == '\x7d' ||
    character == ',' || character == ':'

/-- What the canonical text relies on in the JSON library: the encoders of texts and of
numbers are injective and have no structural character outside quotes. -/
structure Faithful (encoding : TextEncoding) : Prop where
  null_text : encoding.encode .null = "null"
  true_text : encoding.encode (.bool true) = "true"
  false_text : encoding.encode (.bool false) = "false"
  text_starts : ∀ text, (encoding.encode (.str text)).toList.head? = some '"'
  number_starts : ∀ value, value.isNumber = true →
    ∃ first, (encoding.encode value).toList.head? = some first ∧
      (first = '-' ∨ first.isDigit = true)
  flat : ∀ value, value.isScalar = true →
    Flat jsonMarks structural .plain (encoding.encode value).toList
  text_inj : ∀ first second, encoding.encode (.str first) = encoding.encode (.str second) →
    first = second
  number_iff : ∀ first second, first.isNumber = true → second.isNumber = true →
    (encoding.encode first = encoding.encode second ↔ first.SameValue second)

def sortedFields (encoding : TextEncoding) (fields : List (String × Json)) :
    List (String × String) :=
  (distinctFields (canonicalFields encoding fields)).insertionSort
    fun left right => left.1 ≤ right.1

def fieldText (encoding : TextEncoding) (field : String × String) : String :=
  encoding.encode (.str field.1) ++ ":" ++ field.2

section
variable {encoding : TextEncoding}

theorem canonicalJson_obj (fields : List (String × Json)) :
    (canonicalJson encoding (.obj fields)).toList =
      '\x7b' :: [','].intercalate
        ((sortedFields encoding fields).map fun field => (fieldText encoding field).toList) ++
        ['\x7d'] := by
  rw [canonicalJson, String.toList_append, String.toList_append, String.toList_intercalate,
    List.map_map]
  rfl

theorem canonicalItems_eq (items : List Json) :
    canonicalItems encoding items = items.map (canonicalJson encoding) := by
  induction items with
  | nil => rfl
  | cons item items ih => rw [canonicalItems, ih, List.map_cons]

theorem canonicalJson_arr (items : List Json) :
    (canonicalJson encoding (.arr items)).toList =
      '[' :: [','].intercalate (items.map fun item => (canonicalJson encoding item).toList) ++
        [']'] := by
  rw [canonicalJson, String.toList_append, String.toList_append, String.toList_intercalate,
    canonicalItems_eq, List.map_map]
  rfl

theorem lookup_canonicalFields (fields : List (String × Json)) (name : String) :
    (canonicalFields encoding fields).lookup name =
      (fields.lookup name).map (canonicalJson encoding) := by
  induction fields with
  | nil => rfl
  | cons field fields ih =>
      obtain ⟨key, value⟩ := field
      rw [canonicalFields, List.lookup_cons, List.lookup_cons]
      split
      · rfl
      · exact ih

theorem mem_distinctFields {fields : List (String × String)} {field : String × String} :
    field ∈ distinctFields fields ↔ fields.lookup field.1 = some field.2 := by
  induction fields with
  | nil => simp [distinctFields]
  | cons head fields ih =>
      obtain ⟨key, value⟩ := field
      have unfolded : distinctFields (head :: fields) =
          head :: (distinctFields fields).filter fun other => other.1 != head.1 := rfl
      rw [unfolded, List.mem_cons, List.mem_filter, ih, List.lookup_cons]
      by_cases same : key = head.1
      · subst same
        simp only [bne_self_eq_false, Bool.false_eq_true, and_false, or_false, BEq.rfl,
          Option.some.injEq]
        constructor
        · intro equal
          rw [← equal]
        · intro equal
          rw [← equal]
      · have apart : (key == head.1) = false := beq_false_of_ne same
        rw [apart]
        constructor
        · intro member
          rcases member with equal | ⟨member, -⟩
          · rw [← equal] at same
            exact absurd rfl same
          · exact member
        · intro found
          exact Or.inr ⟨found, bne_iff_ne.mpr same⟩

theorem distinctFields_apart (fields : List (String × String)) :
    (distinctFields fields).Pairwise fun first second => first.1 ≠ second.1 := by
  induction fields with
  | nil => exact List.Pairwise.nil
  | cons head fields ih =>
      apply List.Pairwise.cons _ (ih.filter _)
      intro other member
      have apart := (List.mem_filter.mp member).2
      exact (bne_iff_ne.mp apart).symm

theorem mem_sortedFields {fields : List (String × Json)} {field : String × String} :
    field ∈ sortedFields encoding fields ↔
      (fields.lookup field.1).map (canonicalJson encoding) = some field.2 := by
  rw [sortedFields, List.mem_insertionSort, mem_distinctFields, lookup_canonicalFields]

theorem sortedFields_ascend (fields : List (String × Json)) :
    (sortedFields encoding fields).Pairwise fun first second => first.1 < second.1 := by
  have apart : (sortedFields encoding fields).Pairwise
      fun first second => first.1 ≠ second.1 := by
    apply (List.Perm.pairwise_iff _ (List.perm_insertionSort _ _)).mpr
    · exact distinctFields_apart _
    · exact fun different => different.symm
  have ordered : (sortedFields encoding fields).Pairwise
      fun first second => first.1 ≤ second.1 := by
    have total : Std.Total fun (left right : String × String) => left.1 ≤ right.1 :=
      ⟨fun left right => le_total left.1 right.1⟩
    have transitive : IsTrans _ fun (left right : String × String) => left.1 ≤ right.1 :=
      ⟨fun _ _ _ first second => le_trans first second⟩
    exact List.pairwise_insertionSort _ _
  exact (ordered.and apart).imp fun both => lt_of_le_of_ne both.1 both.2

theorem sortedFields_eq_iff {fields others : List (String × Json)} :
    sortedFields encoding fields = sortedFields encoding others ↔
      ∀ name, (fields.lookup name).map (canonicalJson encoding) =
        (others.lookup name).map (canonicalJson encoding) := by
  constructor
  · intro same name
    apply Option.ext
    intro text
    have member : (name, text) ∈ sortedFields encoding fields ↔
        (name, text) ∈ sortedFields encoding others := by
      rw [same]
    rwa [mem_sortedFields, mem_sortedFields] at member
  · intro same
    apply eq_of_pairwise (fun (first second : String × String) (below : first.1 < second.1) =>
      lt_asymm below) (sortedFields_ascend fields) (sortedFields_ascend others)
    intro field
    rw [mem_sortedFields, mem_sortedFields, same]

end

inductive Shape where
  | null
  | truth
  | falsehood
  | number
  | text
  | list
  | map

def shape : Json → Shape
  | .null => .null
  | .bool true => .truth
  | .bool false => .falsehood
  | .int _ | .float _ _ => .number
  | .str _ => .text
  | .arr _ => .list
  | .obj _ => .map

def leadingShape (character : Char) : Shape :=
  if character = 'n' then .null
  else if character = 't' then .truth
  else if character = 'f' then .falsehood
  else if character = '"' then .text
  else if character = '[' then .list
  else if character = '\x7b' then .map
  else .number

theorem leadingShape_number {character : Char}
    (numeric : character = '-' ∨ character.isDigit = true) :
    leadingShape character = .number := by
  rcases numeric with rfl | digit
  · rfl
  · unfold leadingShape
    have apart : ∀ {other : Char}, other.isDigit = false → character ≠ other := by
      intro other not_digit same
      rw [same, not_digit] at digit
      cases digit
    rw [if_neg (apart rfl), if_neg (apart rfl), if_neg (apart rfl), if_neg (apart rfl),
      if_neg (apart rfl), if_neg (apart rfl)]

section
variable {encoding : TextEncoding}

theorem head_canonicalJson (faithful : Faithful encoding) (value : Json) :
    ∃ first, (canonicalJson encoding value).toList.head? = some first ∧
      leadingShape first = shape value := by
  cases value with
  | null =>
      refine ⟨'n', ?_, rfl⟩
      change (encoding.encode .null).toList.head? = _
      rw [faithful.null_text]
      rfl
  | bool value =>
      cases value with
      | true =>
          refine ⟨'t', ?_, rfl⟩
          change (encoding.encode (.bool true)).toList.head? = _
          rw [faithful.true_text]
          rfl
      | false =>
          refine ⟨'f', ?_, rfl⟩
          change (encoding.encode (.bool false)).toList.head? = _
          rw [faithful.false_text]
          rfl
  | int value =>
      obtain ⟨first, starts, numeric⟩ := faithful.number_starts (.int value) rfl
      exact ⟨first, starts, leadingShape_number numeric⟩
  | float mantissa exponent =>
      obtain ⟨first, starts, numeric⟩ :=
        faithful.number_starts (.float mantissa exponent) rfl
      exact ⟨first, starts, leadingShape_number numeric⟩
  | str text => exact ⟨'"', faithful.text_starts text, rfl⟩
  | arr items =>
      refine ⟨'[', ?_, rfl⟩
      rw [canonicalJson_arr]
      rfl
  | obj fields =>
      refine ⟨'\x7b', ?_, rfl⟩
      rw [canonicalJson_obj]
      rfl

theorem shape_eq_of_canonicalJson_eq (faithful : Faithful encoding) {first second : Json}
    (same : canonicalJson encoding first = canonicalJson encoding second) :
    shape first = shape second := by
  obtain ⟨left, starts, leftShape⟩ := head_canonicalJson faithful first
  obtain ⟨right, starts', rightShape⟩ := head_canonicalJson faithful second
  rw [same, starts'] at starts
  rw [← leftShape, ← rightShape, Option.some.inj starts]

theorem canonicalJson_ne_nil (faithful : Faithful encoding) (value : Json) :
    (canonicalJson encoding value).toList ≠ [] := by
  obtain ⟨first, starts, -⟩ := head_canonicalJson faithful value
  intro empty
  rw [empty] at starts
  cases starts

theorem balanced_of_flat {separator : Char} {text : List Char}
    (separates : separator = ',' ∨ separator = ':')
    (flat : Flat jsonMarks structural .plain text) :
    Balanced jsonMarks separator text := by
  intro depth rest
  apply flat.beyond_eq
  · intro character opens
    rcases (Bool.or_eq_true _ _).mp opens with bracket | brace
    · rw [eq_of_beq bracket]
      rfl
    · rw [eq_of_beq brace]
      rfl
  · intro character closes
    rcases (Bool.or_eq_true _ _).mp closes with bracket | brace
    · rw [eq_of_beq bracket]
      rfl
    · rw [eq_of_beq brace]
      rfl
  · rcases separates with rfl | rfl
    · rfl
    · rfl
  · rcases separates with rfl | rfl
    · decide
    · decide
  · rfl
  · rfl

theorem inner_comma : Inner jsonMarks ',' [','] :=
  inner_separator rfl rfl (by decide)

theorem balanced_fieldText (faithful : Faithful encoding) {field : String × String}
    (balanced : Balanced jsonMarks ',' field.2.toList) :
    Balanced jsonMarks ',' (fieldText encoding field).toList := by
  have key := balanced_of_flat (.inl rfl) (faithful.flat (.str field.1) rfl)
  have colon : Balanced jsonMarks ',' [':'] :=
    balanced_singleton (by decide) rfl rfl (by decide)
  rw [fieldText, String.toList_append, String.toList_append]
  exact (key.append colon).append balanced

mutual

theorem balanced_canonicalJson (faithful : Faithful encoding) :
    (value : Json) → Balanced jsonMarks ',' (canonicalJson encoding value).toList
  | .obj fields => by
      have each := balanced_canonicalFields faithful fields
      rw [canonicalJson_obj]
      apply balanced_bracketed (by decide) (by decide) rfl rfl rfl
      apply inner_intercalate inner_comma
      intro part member
      obtain ⟨field, sorted, rfl⟩ := List.mem_map.mp member
      have written := (distinctFields_sublist _).subset (List.mem_insertionSort _ |>.mp sorted)
      exact (balanced_fieldText faithful (each field written)).inner
  | .arr items => by
      have each := balanced_canonicalItems faithful items
      rw [canonicalJson_arr]
      apply balanced_bracketed (by decide) (by decide) rfl rfl rfl
      apply inner_intercalate inner_comma
      intro part member
      obtain ⟨item, listed, rfl⟩ := List.mem_map.mp member
      exact (each item listed).inner
  | .null => balanced_of_flat (.inl rfl) (faithful.flat .null rfl)
  | .bool value => balanced_of_flat (.inl rfl) (faithful.flat (.bool value) rfl)
  | .int value => balanced_of_flat (.inl rfl) (faithful.flat (.int value) rfl)
  | .float mantissa exponent =>
      balanced_of_flat (.inl rfl) (faithful.flat (.float mantissa exponent) rfl)
  | .str text => balanced_of_flat (.inl rfl) (faithful.flat (.str text) rfl)

theorem balanced_canonicalFields (faithful : Faithful encoding) :
    (fields : List (String × Json)) →
      ∀ field ∈ canonicalFields encoding fields, Balanced jsonMarks ',' field.2.toList
  | [] => by
      intro field member
      cases member
  | (key, value) :: rest => by
      have first := balanced_canonicalJson faithful value
      have others := balanced_canonicalFields faithful rest
      intro field member
      rcases List.mem_cons.mp member with rfl | member
      · exact first
      · exact others field member

theorem balanced_canonicalItems (faithful : Faithful encoding) :
    (items : List Json) →
      ∀ item ∈ items, Balanced jsonMarks ',' (canonicalJson encoding item).toList
  | [] => by
      intro item member
      cases member
  | value :: rest => by
      have first := balanced_canonicalJson faithful value
      have others := balanced_canonicalItems faithful rest
      intro item member
      rcases List.mem_cons.mp member with rfl | member
      · exact first
      · exact others item member

end

theorem items_eq_of_canonicalJson_eq (faithful : Faithful encoding) {items others : List Json}
    (same : canonicalJson encoding (.arr items) = canonicalJson encoding (.arr others)) :
    items.map (canonicalJson encoding) = others.map (canonicalJson encoding) := by
  have characters := congrArg String.toList same
  rw [canonicalJson_arr, canonicalJson_arr] at characters
  have joined := List.append_cancel_right (List.cons.inj characters).2
  have parts : ∀ values : List Json,
      ∀ part ∈ values.map fun value => (canonicalJson encoding value).toList,
        part ≠ [] ∧ Balanced jsonMarks ',' part := by
    intro values part member
    obtain ⟨value, -, rfl⟩ := List.mem_map.mp member
    exact ⟨canonicalJson_ne_nil faithful value, balanced_canonicalJson faithful value⟩
  have lists := intercalate_inj_of_balanced (parts items) (parts others) joined
  have texts := congrArg (List.map String.ofList) lists
  simpa [List.map_map, Function.comp_def] using texts

theorem fieldText_inj (faithful : Faithful encoding) {field other : String × String}
    (same : (fieldText encoding field).toList = (fieldText encoding other).toList) :
    field = other := by
  have split : ∀ field : String × String, (fieldText encoding field).toList =
      (encoding.encode (.str field.1)).toList ++ ':' :: field.2.toList := by
    intro field
    rw [fieldText, String.toList_append, String.toList_append, List.append_assoc]
    rfl
  rw [split, split] at same
  obtain ⟨keys, values⟩ := balanced_inj
    (balanced_of_flat (.inr rfl) (faithful.flat (.str field.1) rfl))
    (balanced_of_flat (.inr rfl) (faithful.flat (.str other.1) rfl))
    (Or.inr ⟨_, rfl⟩) (Or.inr ⟨_, rfl⟩) same
  apply Prod.ext
  · exact faithful.text_inj _ _ (String.toList_inj.mp keys)
  · exact String.toList_inj.mp (List.cons.inj values).2

theorem sortedFields_eq_of_canonicalJson_eq (faithful : Faithful encoding)
    {fields others : List (String × Json)}
    (same : canonicalJson encoding (.obj fields) = canonicalJson encoding (.obj others)) :
    sortedFields encoding fields = sortedFields encoding others := by
  have characters := congrArg String.toList same
  rw [canonicalJson_obj, canonicalJson_obj] at characters
  have joined := List.append_cancel_right (List.cons.inj characters).2
  have parts : ∀ values : List (String × Json),
      ∀ part ∈ (sortedFields encoding values).map fun field =>
          (fieldText encoding field).toList,
        part ≠ [] ∧ Balanced jsonMarks ',' part := by
    intro values part member
    obtain ⟨field, sorted, rfl⟩ := List.mem_map.mp member
    have written := (distinctFields_sublist _).subset (List.mem_insertionSort _ |>.mp sorted)
    constructor
    · rw [fieldText, String.toList_append, String.toList_append]
      simp
    · exact balanced_fieldText faithful (balanced_canonicalFields faithful values field written)
  have lists := intercalate_inj_of_balanced (parts fields) (parts others) joined
  exact List.map_injective_iff.mpr (fun _ _ equal => fieldText_inj faithful equal) lists

mutual

theorem sameValue_of_canonicalJson_eq (faithful : Faithful encoding) :
    (first : Json) → ∀ second,
      canonicalJson encoding first = canonicalJson encoding second → first.SameValue second
  | .arr items => by
      have inside := sameValue_of_items faithful items
      intro second same
      have shapes := shape_eq_of_canonicalJson_eq faithful same
      cases second with
      | arr others =>
          have texts := items_eq_of_canonicalJson_eq faithful same
          apply Json.SameValue.arr
          · simpa using congrArg List.length texts
          · intro place item other here there
            have at_place := congrArg (fun texts : List String => texts[place]?) texts
            simp only [List.getElem?_map, here, there, Option.map_some] at at_place
            exact inside item (List.mem_of_getElem? here) other (Option.some.inj at_place)
      | bool value => cases value <;> cases shapes
      | _ => cases shapes
  | .obj fields => by
      have inside := sameValue_of_fields faithful fields
      intro second same
      have shapes := shape_eq_of_canonicalJson_eq faithful same
      cases second with
      | obj others =>
          have texts := sortedFields_eq_iff.mp
            (sortedFields_eq_of_canonicalJson_eq faithful same)
          apply Json.SameValue.obj
          · intro name
            simpa using congrArg Option.isSome (texts name)
          · intro name value other here there
            have of_name := texts name
            rw [here, there, Option.map_some, Option.map_some] at of_name
            exact inside name value here other (Option.some.inj of_name)
      | bool value => cases value <;> cases shapes
      | _ => cases shapes
  | .null => by
      intro second same
      have shapes := shape_eq_of_canonicalJson_eq faithful same
      cases second with
      | null => exact .null
      | bool value => cases value <;> cases shapes
      | _ => cases shapes
  | .bool value => by
      intro second same
      have shapes := shape_eq_of_canonicalJson_eq faithful same
      cases second with
      | bool other =>
          cases value <;> cases other <;> first | exact .bool _ | cases shapes
      | _ => cases value <;> cases shapes
  | .int value => by
      intro second same
      have shapes := shape_eq_of_canonicalJson_eq faithful same
      cases second with
      | int other => exact (faithful.number_iff _ _ rfl rfl).mp same
      | float mantissa exponent => exact (faithful.number_iff _ _ rfl rfl).mp same
      | bool value => cases value <;> cases shapes
      | _ => cases shapes
  | .float mantissa exponent => by
      intro second same
      have shapes := shape_eq_of_canonicalJson_eq faithful same
      cases second with
      | int other => exact (faithful.number_iff _ _ rfl rfl).mp same
      | float mantissa exponent => exact (faithful.number_iff _ _ rfl rfl).mp same
      | bool value => cases value <;> cases shapes
      | _ => cases shapes
  | .str text => by
      intro second same
      have shapes := shape_eq_of_canonicalJson_eq faithful same
      cases second with
      | str other =>
          rw [faithful.text_inj text other same]
          exact .str other
      | bool value => cases value <;> cases shapes
      | _ => cases shapes

theorem sameValue_of_items (faithful : Faithful encoding) :
    (items : List Json) → ∀ item ∈ items, ∀ second,
      canonicalJson encoding item = canonicalJson encoding second → item.SameValue second
  | [] => by
      intro item member
      cases member
  | value :: rest => by
      have first := sameValue_of_canonicalJson_eq faithful value
      have others := sameValue_of_items faithful rest
      intro item member
      rcases List.mem_cons.mp member with rfl | member
      · exact first
      · exact others item member

theorem sameValue_of_fields (faithful : Faithful encoding) :
    (fields : List (String × Json)) → ∀ name value, fields.lookup name = some value →
      ∀ second, canonicalJson encoding value = canonicalJson encoding second →
        value.SameValue second
  | [] => by
      intro name value found
      cases found
  | (key, value) :: rest => by
      have first := sameValue_of_canonicalJson_eq faithful value
      have others := sameValue_of_fields faithful rest
      intro name sought found
      rw [List.lookup_cons] at found
      split at found
      · rw [← Option.some.inj found]
        exact first
      · exact others name sought found

end

theorem canonicalJson_eq_of_sameValue (faithful : Faithful encoding) {first second : Json}
    (same : first.SameValue second) :
    canonicalJson encoding first = canonicalJson encoding second := by
  induction same with
  | null => rfl
  | bool value => rfl
  | int value => rfl
  | float equal => exact (faithful.number_iff _ _ rfl rfl).mpr (.float equal)
  | str value => rfl
  | @arr items others length each ih =>
      have texts : items.map (canonicalJson encoding) = others.map (canonicalJson encoding) := by
        apply List.ext_getElem?
        intro place
        rw [List.getElem?_map, List.getElem?_map]
        cases here : items[place]? with
        | none =>
            rw [List.getElem?_eq_none_iff, length, ← List.getElem?_eq_none_iff] at here
            rw [here]
        | some item =>
            cases there : others[place]? with
            | none =>
                rw [List.getElem?_eq_none_iff, ← length, ← List.getElem?_eq_none_iff, here]
                  at there
                cases there
            | some other =>
                rw [Option.map_some, Option.map_some, ih place item other here there]
      simp only [canonicalJson, canonicalItems_eq, texts]
  | @obj fields others names each ih =>
      have texts : sortedFields encoding fields = sortedFields encoding others := by
        apply sortedFields_eq_iff.mpr
        intro name
        cases here : fields.lookup name with
        | none =>
            have missing := names name
            rw [here, Option.isSome_none, eq_comm, Option.isSome_eq_false_iff,
              Option.isNone_iff_eq_none] at missing
            rw [missing]
        | some value =>
            have there := names name
            rw [here, Option.isSome_some, eq_comm, Option.isSome_iff_exists] at there
            obtain ⟨other, there⟩ := there
            rw [there, Option.map_some, Option.map_some, ih name value other here there]
      apply String.toList_inj.mp
      rw [canonicalJson_obj, canonicalJson_obj, texts]

end

theorem toList_toString_int (number : Int) :
    (toString number).toList =
      if 0 ≤ number then Nat.toDigits 10 number.toNat
      else '-' :: Nat.toDigits 10 (-number).toNat := by
  rw [Int.toString_eq_repr, Int.repr_eq_if]
  split
  · rw [Nat.toList_repr]
  · rw [String.toList_append, Nat.toList_repr]
    rfl

theorem toDigits_inj {first second : Nat}
    (same : Nat.toDigits 10 first = Nat.toDigits 10 second) : first = second := by
  have numbers := congrArg (fun digits => Nat.ofDigitChars 10 digits 0) same
  simpa only [Nat.ofDigitChars_ten_toDigits] using numbers

theorem isDigit_of_mem_toDigits {number : Nat} {character : Char}
    (member : character ∈ Nat.toDigits 10 number) : character.isDigit = true :=
  Nat.isDigit_of_mem_toDigits (by decide) (by decide) member

theorem numeric_of_mem_toString {number : Int} {character : Char}
    (member : character ∈ (toString number).toList) :
    character = '-' ∨ character.isDigit = true := by
  rw [toList_toString_int] at member
  split at member
  · exact Or.inr (isDigit_of_mem_toDigits member)
  · rcases List.mem_cons.mp member with sign | digit
    · exact Or.inl sign
    · exact Or.inr (isDigit_of_mem_toDigits digit)

theorem toString_int_inj {first second : Int} (same : toString first = toString second) :
    first = second := by
  have characters := congrArg String.toList same
  rw [toList_toString_int, toList_toString_int] at characters
  have sign : ∀ number, '-' ∉ Nat.toDigits 10 number := by
    intro number member
    cases isDigit_of_mem_toDigits member
  split at characters
  · split at characters
    · have numbers := toDigits_inj characters
      omega
    · have here := sign first.toNat
      rw [characters] at here
      exact absurd List.mem_cons_self here
  · split at characters
    · have there := sign second.toNat
      rw [← characters] at there
      exact absurd List.mem_cons_self there
    · have numbers := toDigits_inj (List.cons.inj characters).2
      omega

theorem head_toString_int (number : Int) :
    ∃ first, (toString number).toList.head? = some first ∧
      (first = '-' ∨ first.isDigit = true) := by
  cases text : (toString number).toList with
  | nil =>
      rw [toList_toString_int] at text
      split at text
      · exact absurd text Nat.toDigits_ne_nil
      · cases text
  | cons first rest =>
      refine ⟨first, rfl, ?_⟩
      apply numeric_of_mem_toString
      rw [text]
      exact List.mem_cons_self

theorem escapeCharacter_append_inj {character other : Char} {rest others : List Char}
    (same : escapeCharacter character ++ rest = escapeCharacter other ++ others) :
    character = other ∧ rest = others := by
  unfold escapeCharacter at same
  grind

theorem flatMap_escapeCharacter_inj {first second : List Char}
    (same : first.flatMap escapeCharacter = second.flatMap escapeCharacter) :
    first = second := by
  have nonempty : ∀ character, escapeCharacter character ≠ [] := by
    intro character
    unfold escapeCharacter
    split_ifs
    all_goals exact List.cons_ne_nil _ _
  induction first generalizing second with
  | nil =>
      cases second with
      | nil => rfl
      | cons character rest =>
          have empty := (List.append_eq_nil_iff.mp same.symm).1
          exact absurd empty (nonempty character)
  | cons character rest ih =>
      cases second with
      | nil =>
          have empty := (List.append_eq_nil_iff.mp same).1
          exact absurd empty (nonempty character)
      | cons other others =>
          rw [List.flatMap_cons, List.flatMap_cons] at same
          obtain ⟨characters, rests⟩ := escapeCharacter_append_inj same
          rw [characters, ih rests]

theorem flat_of_unmarked {text : List Char}
    (unmarked : ∀ character ∈ text,
      character ≠ '"' ∧ structural character = false) :
    Flat jsonMarks structural .plain text := by
  induction text with
  | nil => trivial
  | cons character text ih =>
      obtain ⟨unquoted, here⟩ := unmarked character List.mem_cons_self
      unfold Flat
      rw [if_neg (show ¬character = jsonMarks.quote from unquoted)]
      exact ⟨here, ih fun other member => unmarked other (List.mem_cons_of_mem _ member)⟩

theorem unmarked_of_alphanum {character : Char} (plain : character.isAlphanum = true) :
    character ≠ '"' ∧ structural character = false := by
  have apart : ∀ {other : Char}, other.isAlphanum = false → character ≠ other := by
    intro other marked same
    rw [same, marked] at plain
    cases plain
  refine ⟨apart rfl, ?_⟩
  have none_of : ∀ {other : Char}, other.isAlphanum = false → (character == other) = false :=
    fun marked => beq_false_of_ne (apart marked)
  rw [structural, none_of rfl, none_of rfl, none_of rfl, none_of rfl, none_of rfl,
    none_of rfl]
  rfl

theorem unmarked_of_numeric {character : Char}
    (numeric : character = '-' ∨ character.isDigit = true) :
    character ≠ '"' ∧ structural character = false := by
  rcases numeric with rfl | digit
  · decide
  · apply unmarked_of_alphanum
    rw [Char.isAlphanum, digit, Bool.or_true]

theorem flat_of_alphanum {text : List Char} (plain : text.all Char.isAlphanum = true) :
    Flat jsonMarks structural .plain text :=
  flat_of_unmarked fun character member =>
    unmarked_of_alphanum (List.all_eq_true.mp plain character member)

theorem flat_escaped (text rest : List Char)
    (flat : Flat jsonMarks structural .plain rest) :
    Flat jsonMarks structural .quoted (text.flatMap escapeCharacter ++ '"' :: rest) := by
  induction text with
  | nil =>
      rw [List.flatMap_nil, List.nil_append]
      unfold Flat
      rwa [if_pos (show '"' = jsonMarks.quote from rfl)]
  | cons character text ih =>
      rw [List.flatMap_cons, List.append_assoc]
      unfold escapeCharacter
      split_ifs with quote slash line
      · exact ih
      · exact ih
      · exact ih
      · rw [List.cons_append, List.nil_append]
        unfold Flat
        rwa [if_neg (show ¬character = jsonMarks.quote from quote),
          if_neg (show ¬character = jsonMarks.escape from slash)]

def exactEncoding : TextEncoding where
  encode
    | .int value => toString value
    | .float mantissa exponent =>
        toString (Json.decimal mantissa exponent).num ++ "." ++
          toString (Int.ofNat (Json.decimal mantissa exponent).den)
    | value => plainEncoding.encode value
  encode_singleLine value := by
    have numeric : ∀ number : Int, '\n' ∉ (toString number).toList := by
      intro number member
      rcases numeric_of_mem_toString member with sign | digit
      · cases sign
      · cases digit
    cases value with
    | int value => exact numeric value
    | float mantissa exponent =>
        simp only [String.toList_append, List.mem_append, not_or]
        exact ⟨⟨numeric _, by decide⟩, numeric _⟩
    | _ => exact plainEncoding.encode_singleLine _
  toText _ := ""

theorem toList_encode_str (text : String) :
    (exactEncoding.encode (.str text)).toList =
      '"' :: (text.toList.flatMap escapeCharacter ++ ['"']) := by
  change (String.ofList _).toList = _
  rw [String.toList_ofList]
  rfl

theorem toList_encode_float (mantissa exponent : Int) :
    (exactEncoding.encode (.float mantissa exponent)).toList =
      (toString (Json.decimal mantissa exponent).num).toList ++
        '.' :: (toString (Int.ofNat (Json.decimal mantissa exponent).den)).toList := by
  change (_ ++ _ ++ _ : String).toList = _
  rw [String.toList_append, String.toList_append, List.append_assoc]
  rfl

theorem point_not_mem_toString (number : Int) : '.' ∉ (toString number).toList := by
  intro member
  rcases numeric_of_mem_toString member with sign | digit
  · cases sign
  · cases digit

theorem exactEncoding_number_iff (first second : Json) (number : first.isNumber = true)
    (number' : second.isNumber = true) :
    exactEncoding.encode first = exactEncoding.encode second ↔ first.SameValue second := by
  cases first with
  | int value =>
      cases second with
      | int other =>
          constructor
          · intro same
            rw [toString_int_inj same]
            exact .int other
          · intro same
            cases same
            rfl
      | float mantissa exponent =>
          constructor
          · intro same
            have point := point_not_mem_toString value
            have characters : (toString value).toList = _ :=
              (congrArg String.toList same).trans (toList_encode_float mantissa exponent)
            rw [characters] at point
            simp at point
          · intro same
            cases same
      | _ => cases number'
  | float mantissa exponent =>
      cases second with
      | int value =>
          constructor
          · intro same
            have point := point_not_mem_toString value
            have characters : (toString value).toList = _ :=
              (congrArg String.toList same.symm).trans (toList_encode_float mantissa exponent)
            rw [characters] at point
            simp at point
          · intro same
            cases same
      | float mantissa' exponent' =>
          constructor
          · intro same
            have characters := congrArg String.toList same
            rw [toList_encode_float, toList_encode_float] at characters
            obtain ⟨numerators, denominators⟩ := append_separator_inj
              (by
                rw [List.count_eq_zero.mpr (point_not_mem_toString _),
                  List.count_eq_zero.mpr (point_not_mem_toString _)])
              characters
            have num := toString_int_inj (String.toList_inj.mp numerators)
            have den := Int.ofNat.inj (toString_int_inj (String.toList_inj.mp denominators))
            exact .float (Rat.ext num den)
          · intro same
            cases same with
            | float equal =>
                apply String.toList_inj.mp
                rw [toList_encode_float, toList_encode_float, equal]
      | _ => cases number'
  | _ => cases number

theorem flat_toString (number : Int) :
    Flat jsonMarks structural .plain (toString number).toList :=
  flat_of_unmarked fun _ member => unmarked_of_numeric (numeric_of_mem_toString member)

theorem exactEncoding_flat (value : Json) (scalar : value.isScalar = true) :
    Flat jsonMarks structural .plain (exactEncoding.encode value).toList := by
  cases value with
  | null => exact flat_of_alphanum rfl
  | bool value =>
      cases value with
      | true => exact flat_of_alphanum rfl
      | false => exact flat_of_alphanum rfl
  | int value => exact flat_toString value
  | float mantissa exponent =>
      rw [toList_encode_float]
      apply flat_of_unmarked
      intro character member
      rcases List.mem_append.mp member with first | rest
      · exact unmarked_of_numeric (numeric_of_mem_toString first)
      · rcases List.mem_cons.mp rest with rfl | last
        · decide
        · exact unmarked_of_numeric (numeric_of_mem_toString last)
  | str text =>
      rw [toList_encode_str]
      unfold Flat
      rw [if_pos (show '"' = jsonMarks.quote from rfl)]
      exact flat_escaped text.toList [] trivial
  | arr items => cases scalar
  | obj fields => cases scalar

theorem exactEncoding_faithful : Faithful exactEncoding where
  null_text := rfl
  true_text := rfl
  false_text := rfl
  text_starts text := by
    rw [toList_encode_str]
    rfl
  number_starts value number := by
    cases value with
    | int value => exact head_toString_int value
    | float mantissa exponent =>
        obtain ⟨first, starts, numeric⟩ :=
          head_toString_int (Json.decimal mantissa exponent).num
        refine ⟨first, ?_, numeric⟩
        rw [toList_encode_float, List.head?_append, starts]
        rfl
    | _ => cases number
  flat := exactEncoding_flat
  text_inj first second same := by
    have characters := congrArg String.toList same
    rw [toList_encode_str, toList_encode_str] at characters
    have escaped := List.append_cancel_right (List.cons.inj characters).2
    exact String.toList_inj.mp (flatMap_escapeCharacter_inj escaped)
  number_iff := exactEncoding_number_iff

/-- The canonical text tells values apart just up to the order of their keys. -/
theorem canonicalJson_eq_iff (encoding : TextEncoding) (faithful : Faithful encoding)
    (first second : Json) :
    canonicalJson encoding first = canonicalJson encoding second ↔ first.SameValue second :=
  ⟨sameValue_of_canonicalJson_eq faithful first second,
    canonicalJson_eq_of_sameValue faithful⟩

theorem canonicalJson_eq_iff_reordered :
    canonicalJson exactEncoding
        (.obj [("b", .int 1), ("a", .arr [.bool true, .str "x"])]) =
      canonicalJson exactEncoding
        (.obj [("a", .arr [.bool true, .str "x"]), ("b", .int 1)]) ↔
    Json.SameValue (.obj [("b", .int 1), ("a", .arr [.bool true, .str "x"])])
      (.obj [("a", .arr [.bool true, .str "x"]), ("b", .int 1)]) :=
  canonicalJson_eq_iff exactEncoding exactEncoding_faithful _ _

end Elektrine.Messaging.ArblargSDK
