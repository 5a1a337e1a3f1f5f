import Elektrine.DNS.NameMeaning
import Elektrine.DNS.Packet
import Elektrine.DNS.ServiceBinding
import Elektrine.Library.Words
import Mathlib.Data.List.TakeDrop

/-!
# Contents of service bindings

The normal form of a content and the data that is encoded from it.  Both keep what was parsed
where no parameter is given twice, no number exceeds its field and no white space outside
ASCII stands at the end of a name or a value.
-/

namespace Elektrine.DNS.ServiceBinding

open Elektrine.IMAP (isSpace trimCharacter)
open Elektrine.Library
open NameMeaning (tidy)

theorem mem_of_mem_downcase {text : String} {character : Char} (low : character.toNat < 97)
    (member : character ∈ (downcase text).toList) : character ∈ text.toList := by
  rw [toList_downcase] at member
  obtain ⟨source, inside, lower⟩ := List.mem_map.mp member
  have number := congrArg Char.toNat lower
  rw [toNat_toLower] at number
  have same : source.toNat = character.toNat := by
    split_ifs at number with upper
    · omega
    · exact number
  exact Char.toNat_inj.mp same ▸ inside

theorem toNat_lt_of_isSpace {character : Char} (space : isSpace character = true) :
    character.toNat < 97 := by
  have member := List.contains_iff_mem.mp space
  simp only [List.mem_cons, List.not_mem_nil, or_false] at member
  rcases member with rfl | rfl | rfl | rfl | rfl | rfl
  all_goals decide

theorem plain_downcase {text : String}
    (plain : ∀ character ∈ text.toList, isSpace character = false) :
    ∀ character ∈ (downcase text).toList, isSpace character = false := by
  intro character member
  cases space : isSpace character with
  | false => rfl
  | true =>
      have inside := mem_of_mem_downcase (toNat_lt_of_isSpace space) member
      rw [plain character inside] at space
      cases space

theorem plain_of_sublist {text other : List Char} (sub : other.Sublist text)
    (plain : ∀ character ∈ text, isSpace character = false) :
    ∀ character ∈ other, isSpace character = false :=
  fun character member => plain character (sub.subset member)

theorem dropWhile_trimmed {α : Type} (drops : α → Bool) (text : List α) :
    ((text.dropWhile drops).rdropWhile drops).dropWhile drops =
      (text.dropWhile drops).rdropWhile drops := by
  have first := List.head?_dropWhile_not drops text
  obtain ⟨rest, split⟩ := List.rdropWhile_prefix drops (text.dropWhile drops)
  cases cut : (text.dropWhile drops).rdropWhile drops with
  | nil => rfl
  | cons character others =>
      rw [cut, List.cons_append] at split
      rw [← split] at first
      exact List.dropWhile_cons_of_neg (by simpa using first)

theorem toList_trimCharacter (character : Char) (text : String) :
    (trimCharacter character text).toList =
      (text.toList.dropWhile (· == character)).rdropWhile (· == character) :=
  String.toList_ofList

theorem toList_trimCharacter_sublist (character : Char) (text : String) :
    (trimCharacter character text).toList.Sublist text.toList := by
  rw [toList_trimCharacter]
  exact (List.rdropWhile_prefix _ _).sublist.trans (List.dropWhile_sublist _)

theorem trimCharacter_trimCharacter (character : Char) (text : String) :
    trimCharacter character (trimCharacter character text) = trimCharacter character text := by
  apply String.toList_inj.mp
  rw [toList_trimCharacter, toList_trimCharacter, dropWhile_trimmed, List.rdropWhile_idempotent]

theorem toList_normalizeParamValue_sublist (value : String) :
    (normalizeParamValue value).toList.Sublist value.toList :=
  (toList_trimCharacter_sublist _ _).trans (toList_trim_sublist value)

theorem trimmed_of_length_le_value {value : String}
    (long : value.toList.length ≤ (normalizeParamValue value).toList.length) :
    trim (normalizeParamValue value) = normalizeParamValue value := by
  have same : normalizeParamValue value = value :=
    String.toList_inj.mp ((toList_normalizeParamValue_sublist value).eq_of_length_le long)
  have shorter := (toList_trimCharacter_sublist '"' (trim value)).length_le
  have trimmed : trim value = value :=
    String.toList_inj.mp
      ((toList_trim_sublist value).eq_of_length_le (Nat.le_trans long shorter))
  rw [same, trimmed]

theorem length_normalizeParamKey_le (key : String) :
    (normalizeParamKey key).toList.length ≤ key.toList.length := by
  rw [normalizeParamKey, toList_downcase, List.length_map]
  exact (toList_trim_sublist key).length_le

theorem trim_normalizeParamKey (key : String) :
    trim (normalizeParamKey key) = normalizeParamKey key := by
  rw [normalizeParamKey, trim_downcase, trim_trim]

theorem span_of_apart {text : List Char} (apart : '=' ∉ text) (rest : List Char) :
    (text ++ '=' :: rest).span (· != '=') = (text, '=' :: rest) := by
  have differs : ∀ character ∈ text, (character != '=') = true := by
    intro character member
    rw [bne_iff_ne]
    intro same
    exact apart (same ▸ member)
  rw [List.span_eq_takeWhile_dropWhile, List.takeWhile_append_of_pos differs,
    List.dropWhile_append_of_pos differs]
  simp

theorem parseParam_lone {token : List Char} (apart : '=' ∉ token) :
    parseParam token =
      if normalizeParamKey (String.ofList token) = "no-default-alpn" then
        .ok (normalizeParamKey (String.ofList token), none)
      else .error ("parameter " ++ String.ofList token ++ " must use key=value format") := by
  have differs : ∀ character ∈ token, (character != '=') = true := by
    intro character member
    rw [bne_iff_ne]
    intro same
    exact apart (same ▸ member)
  have front : token.span (· != '=') = (token, []) := by
    rw [List.span_eq_takeWhile_dropWhile, List.takeWhile_eq_self_iff.mpr differs,
      List.dropWhile_eq_nil_iff.mpr differs]
  rw [parseParam, front]

theorem parseParam_given {key value : List Char} (apart : '=' ∉ key) :
    parseParam (key ++ '=' :: value) =
      if normalizeParamKey (String.ofList key) = "" then
        .error "parameter names cannot be empty"
      else if normalizeParamKey (String.ofList key) = "no-default-alpn" ∧
          trim (String.ofList value) ≠ "" then
        .error "no-default-alpn does not take a value"
      else
        .ok (normalizeParamKey (String.ofList key),
          some (normalizeParamValue (String.ofList value))) := by
  rw [parseParam, span_of_apart apart]

inductive Shaped : Param → Prop
  | lone : Shaped ("no-default-alpn", none)
  | given {key value : String} (named : key ≠ "") (apart : '=' ∉ key.toList)
      (keyPlain : ∀ character ∈ key.toList, isSpace character = false)
      (trimmed : trim key = key) (lower : downcase key = key)
      (valuePlain : ∀ character ∈ value.toList, isSpace character = false)
      (unquoted : trimCharacter '"' value = value)
      (empty : key = "no-default-alpn" → value = "") : Shaped (key, some value)

/-- The value has no white space at its ends. -/
def Trimmed (param : Param) : Prop :=
  ∀ value, param.2 = some value → trim value = value

theorem toList_paramText (key value : String) :
    (paramText (key, some value)).toList = key.toList ++ '=' :: value.toList := by
  rw [paramText, String.toList_append, String.toList_append, List.append_assoc]
  rfl

/-- The text of a parsed parameter is not longer than what was parsed, and shorter where a
value keeps white space at an end. -/
theorem of_parseParam {token : List Char} {param : Param} (proper : IsWord isSpace token)
    (parsed : parseParam token = .ok param) :
    Shaped param ∧ (paramText param).toList.length ≤ token.length ∧
      (token.length ≤ (paramText param).toList.length → Trimmed param) := by
  by_cases given : '=' ∈ token
  · obtain ⟨key, value, rfl, apart⟩ := List.eq_append_cons_of_mem given
    have key_length := length_normalizeParamKey_le (String.ofList key)
    have value_length :=
      (toList_normalizeParamValue_sublist (String.ofList value)).length_le
    have key_plain : ∀ character ∈ (String.ofList key).toList, isSpace character = false := by
      intro character member
      rw [String.toList_ofList] at member
      exact proper.2 character (List.mem_append_left _ member)
    have value_plain : ∀ character ∈ (String.ofList value).toList,
        isSpace character = false := by
      intro character member
      rw [String.toList_ofList] at member
      exact proper.2 character (List.mem_append_right _ (List.mem_cons_of_mem _ member))
    rw [parseParam_given apart] at parsed
    by_cases named : normalizeParamKey (String.ofList key) = ""
    · rw [if_pos named] at parsed
      cases parsed
    · rw [if_neg named] at parsed
      by_cases refused : normalizeParamKey (String.ofList key) = "no-default-alpn" ∧
          trim (String.ofList value) ≠ ""
      · rw [if_pos refused] at parsed
        cases parsed
      · rw [if_neg refused] at parsed
        have same := Except.ok.inj parsed
        subst same
        rw [toList_paramText, List.length_append, List.length_append, List.length_cons,
          List.length_cons]
        rw [String.toList_ofList] at key_length value_length
        refine ⟨?_, by omega, ?_⟩
        · refine .given named ?_ ?_ (trim_normalizeParamKey _) (downcase_downcase _) ?_
            (trimCharacter_trimCharacter _ _) ?_
          · intro member
            have inside := mem_of_mem_downcase (by decide) member
            have source := (toList_trim_sublist _).subset inside
            rw [String.toList_ofList] at source
            exact apart source
          · exact plain_downcase (plain_of_sublist (toList_trim_sublist _) key_plain)
          · exact plain_of_sublist (toList_normalizeParamValue_sublist _) value_plain
          · intro lone
            have blank : trim (String.ofList value) = "" :=
              Decidable.not_not.mp fun filled => refused ⟨lone, filled⟩
            rw [normalizeParamValue, blank]
            rfl
        · intro long other same
          rw [← Option.some.inj same]
          apply trimmed_of_length_le_value
          rw [String.toList_ofList]
          omega
  · rw [parseParam_lone given] at parsed
    by_cases lone : normalizeParamKey (String.ofList token) = "no-default-alpn"
    · have key_length := length_normalizeParamKey_le (String.ofList token)
      rw [if_pos lone, lone] at parsed
      rw [lone, @String.toList_ofList token] at key_length
      cases parsed
      refine ⟨.lone, key_length, ?_⟩
      intro long value same
      cases same
    · rw [if_neg lone] at parsed
      cases parsed

theorem parseParam_paramText {param : Param} (shaped : Shaped param) (trimmed : Trimmed param) :
    parseParam (paramText param).toList = .ok param := by
  cases shaped with
  | lone =>
      have apart : '=' ∉ (paramText ("no-default-alpn", none)).toList := by decide
      rw [parseParam_lone apart]
      rfl
  | @given key value named apart keyPlain keyTrimmed lower valuePlain unquoted empty =>
      have same : trim value = value := trimmed value rfl
      rw [toList_paramText, parseParam_given apart, String.ofList_toList, String.ofList_toList,
        normalizeParamKey, keyTrimmed, lower, if_neg named, normalizeParamValue, same, unquoted,
        if_neg]
      intro refused
      exact refused.2 (empty refused.1)

theorem Shaped.isWord {param : Param} (shaped : Shaped param) :
    IsWord isSpace (paramText param).toList := by
  cases shaped with
  | lone =>
      have plain : "no-default-alpn".toList.all (fun character => !isSpace character) = true := by
        decide
      exact ⟨by decide, fun character member => by
        simpa using List.all_eq_true.mp plain character member⟩
  | @given key value named apart keyPlain keyTrimmed lower valuePlain unquoted empty =>
      rw [toList_paramText]
      refine ⟨by simp, ?_⟩
      intro character member
      rcases List.mem_append.mp member with inKey | behind
      · exact keyPlain character inKey
      · rcases List.mem_cons.mp behind with rfl | inValue
        · rfl
        · exact valuePlain character inValue

structure Host (target : String) : Prop where
  word : IsWord isSpace target.toList
  lower : downcase target = target
  dots : target = "." ∨ trimTrailingDots target = target

theorem normalizeTarget_of_ne_root {target : String} (named : target ≠ ".") :
    normalizeTarget target = tidy target := by
  rw [normalizeTarget, if_neg named]
  rfl

theorem length_normalizeTarget_le (target : String) :
    (normalizeTarget target).toList.length ≤ target.toList.length := by
  by_cases root : target = "."
  · rw [normalizeTarget, if_pos root, root]
  · rw [normalizeTarget_of_ne_root root, String.length_toList, String.length_toList]
    exact NameMeaning.length_tidy_le target

theorem trimmed_of_length_le_target {target : String}
    (long : target.toList.length ≤ (normalizeTarget target).toList.length) :
    trim target = target := by
  by_cases root : target = "."
  · rw [root]
    decide
  · rw [normalizeTarget_of_ne_root root, String.length_toList, String.length_toList] at long
    exact (NameMeaning.trimmed_of_length_le_tidy long).1

theorem of_validateTarget {word : List Char} {target : String} (proper : IsWord isSpace word)
    (valid : validateTarget (String.ofList word) = .ok target) :
    Host target ∧ target.toList.length ≤ word.length := by
  by_cases root : String.ofList word = "."
  · rw [validateTarget, if_pos root] at valid
    have same := Except.ok.inj valid
    subst same
    have length := congrArg (fun text => text.toList.length) root
    simp only [String.toList_ofList] at length
    have plain : ∀ character ∈ ".".toList, isSpace character = false := by
      intro character member
      rw [List.mem_singleton.mp member]
      rfl
    exact ⟨⟨⟨by decide, plain⟩, by decide, .inl rfl⟩, length.ge⟩
  · have length := length_normalizeTarget_le (String.ofList word)
    rw [@String.toList_ofList word] at length
    rw [validateTarget, if_neg root] at valid
    by_cases blank : normalizeTarget (String.ofList word) = ""
    · rw [if_pos blank] at valid
      cases valid
    · rw [if_neg blank] at valid
      have same := Except.ok.inj valid
      subst same
      refine ⟨?_, length⟩
      rw [normalizeTarget_of_ne_root root] at blank ⊢
      refine ⟨⟨by simpa using blank, ?_⟩, NameMeaning.downcase_tidy _,
        .inr (NameMeaning.trimTrailingDots_tidy _)⟩
      have kept : (trimTrailingDots (trim (String.ofList word))).toList.Sublist word := by
        rw [trimTrailingDots, String.toList_ofList]
        have trimmed := toList_trim_sublist (String.ofList word)
        rw [@String.toList_ofList word] at trimmed
        exact (List.rdropWhile_prefix _ _).sublist.trans trimmed
      exact plain_downcase (plain_of_sublist kept proper.2)

theorem normalizeTarget_of_trimmed {target : String} (host : Host target)
    (trimmed : trim target = target) : normalizeTarget target = target := by
  by_cases root : target = "."
  · rw [normalizeTarget, if_pos root, root]
  · rw [normalizeTarget_of_ne_root root]
    exact NameMeaning.tidy_of_trimmed trimmed (host.dots.resolve_left root) host.lower

theorem validateTarget_of_trimmed {target : String} (host : Host target)
    (trimmed : trim target = target) : validateTarget target = .ok target := by
  have normal := normalizeTarget_of_trimmed host trimmed
  have filled : target ≠ "" := by
    intro empty
    exact host.word.1 (by rw [empty]; rfl)
  rw [validateTarget, normal, if_neg filled]
  by_cases root : target = "."
  · rw [if_pos root, root]
  · rw [if_neg root]

def normalText (binding : Binding) : String :=
  trim (normalizeTarget binding.target ++ " " ++
    " ".intercalate (binding.params.map paramText))

theorem normalizeContent_of_parsed {content : String} {binding : Binding}
    (parsed : parseContent content = .ok binding) :
    normalizeContent content = .ok (normalText binding) := by
  rw [normalizeContent, parsed]
  rfl

def texts (params : List Param) : List (List Char) :=
  params.map fun param => (paramText param).toList

theorem of_parseContent {content : String} {binding : Binding}
    (parsed : parseContent content = .ok binding) :
    ∃ word tokens, wordsBy isSpace (trim content).toList = word :: tokens ∧
      validateTarget (String.ofList word) = .ok binding.target ∧
      List.Forall₂ (fun token param => parseParam token = .ok param) tokens
        binding.params := by
  rw [parseContent] at parsed
  cases cut : words (trim content).toList with
  | nil =>
      rw [cut] at parsed
      cases parsed
  | cons word tokens =>
      rw [cut] at parsed
      cases valid : validateTarget (String.ofList word) with
      | error reason =>
          simp only [valid] at parsed
          cases parsed
      | ok target =>
          cases collected : collect parseParam tokens with
          | error reason =>
              simp only [valid, collected] at parsed
              cases parsed
          | ok params =>
              simp only [valid, collected] at parsed
              cases parsed
              exact ⟨word, tokens, cut, valid, collect_eq_ok_iff.mp collected⟩

theorem of_parsedParams {tokens : List (List Char)} {params : List Param}
    (proper : ∀ token ∈ tokens, IsWord isSpace token)
    (parsed : List.Forall₂ (fun token param => parseParam token = .ok param) tokens params) :
    (∀ param ∈ params, Shaped param) ∧
      (texts params).flatten.length ≤ tokens.flatten.length ∧
      (tokens.flatten.length ≤ (texts params).flatten.length →
        ∀ param ∈ params, Trimmed param) := by
  induction parsed with
  | nil =>
      refine ⟨?_, Nat.le_refl _, ?_⟩
      · intro param member
        exact absurd member List.not_mem_nil
      · intro long param member
        exact absurd member List.not_mem_nil
  | @cons token param tokens params first others ih =>
      obtain ⟨shaped, length, trimmed⟩ := of_parseParam (proper token List.mem_cons_self) first
      obtain ⟨all_shaped, lengths, all_trimmed⟩ :=
        ih fun other member => proper other (List.mem_cons_of_mem token member)
      rw [texts, List.map_cons, List.flatten_cons, List.flatten_cons, List.length_append,
        List.length_append]
      rw [texts] at lengths all_trimmed
      refine ⟨List.forall_mem_cons.mpr ⟨shaped, all_shaped⟩, by omega, ?_⟩
      intro long
      exact List.forall_mem_cons.mpr ⟨trimmed (by omega), all_trimmed (by omega)⟩

theorem toList_normalText_sublist (binding : Binding) :
    (normalText binding).toList.Sublist ((normalizeTarget binding.target).toList ++
      ' ' :: [' '].intercalate (texts binding.params)) := by
  have kept := toList_trim_sublist (normalizeTarget binding.target ++ " " ++
    " ".intercalate (binding.params.map paramText))
  rw [String.toList_append, String.toList_append, String.toList_intercalate, List.map_map,
    List.append_assoc] at kept
  exact kept

/-- The characters of a normal form are too few for a content that has white space at the end
of its target or of a value. -/
theorem trimmed_of_reparsed {binding : Binding}
    (again : parseContent (normalText binding) = .ok binding) :
    trim binding.target = binding.target ∧ ∀ param ∈ binding.params, Trimmed param := by
  obtain ⟨word, tokens, cut, valid, parsed⟩ := of_parseContent again
  have proper : ∀ token ∈ word :: tokens, IsWord isSpace token :=
    fun token member => isWord_of_mem_wordsBy (cut ▸ member)
  obtain ⟨-, target_length⟩ := of_validateTarget (proper word List.mem_cons_self) valid
  obtain ⟨-, lengths, trimmed⟩ := of_parsedParams
    (fun token member => proper token (List.mem_cons_of_mem word member)) parsed
  have cut_length : (word :: tokens).flatten.length ≤
      (normalizeTarget binding.target).toList.length +
        (texts binding.params).flatten.length := by
    have characters := (toList_trim_sublist (normalText binding)).trans
      (toList_normalText_sublist binding)
    have kept := (characters.filter fun character => !isSpace character).length_le
    rw [← flatten_wordsBy, cut, List.filter_append, List.length_append,
      List.filter_cons_of_neg (by decide), filter_intercalate (by decide)] at kept
    have front := List.length_filter_le (fun character => !isSpace character)
      (normalizeTarget binding.target).toList
    have back := List.length_filter_le (fun character => !isSpace character)
      (texts binding.params).flatten
    omega
  have normal_length := length_normalizeTarget_le binding.target
  rw [List.flatten_cons, List.length_append] at cut_length
  exact ⟨trimmed_of_length_le_target (by omega), trimmed (by omega)⟩

theorem solid_of_trimmed {text : String} (trimmed : trim text = text) (filled : text ≠ "") :
    Solid text.toList :=
  solid_of_present (present_eq_some_iff.mpr ⟨trimmed, filled⟩)

theorem Solid.joined {front back : List Char} (first : Solid front) (last : Solid back)
    (between : List Char) : Solid (front ++ (between ++ back)) := by
  refine ⟨by simp [first.nonempty], ?_, ?_⟩
  · have visible := first.front
    cases front with
    | nil => exact absurd rfl first.nonempty
    | cons character others =>
        have kept := List.head?_dropWhile_not isWhiteSpace (character :: others)
        rw [visible] at kept
        exact List.dropWhile_cons_of_neg (by simpa using kept)
  · rw [List.rdropWhile_eq_self_iff, ← List.append_assoc]
    intro nonempty
    rw [List.getLast_append_of_ne_nil _ last.nonempty]
    exact (List.rdropWhile_eq_self_iff.mp last.back) last.nonempty

theorem solid_intercalate {parts : List (List Char)} (some_part : parts ≠ [])
    (solid : ∀ part ∈ parts, Solid part) : Solid ([' '].intercalate parts) := by
  induction parts with
  | nil => exact absurd rfl some_part
  | cons part parts ih =>
      have here := solid part List.mem_cons_self
      cases parts with
      | nil =>
          rw [List.intercalate_singleton]
          exact here
      | cons next parts =>
          have later := ih (List.cons_ne_nil _ _)
            fun other member => solid other (List.mem_cons_of_mem part member)
          rw [List.intercalate_cons_of_ne_nil (List.cons_ne_nil _ _), List.append_assoc]
          exact Solid.joined here later [' ']

theorem Shaped.solid {param : Param} (shaped : Shaped param) (trimmed : Trimmed param) :
    Solid (paramText param).toList := by
  cases shaped with
  | lone => exact ⟨by decide, by decide, by decide⟩
  | @given key value named apart keyPlain keyTrimmed lower valuePlain unquoted empty =>
      have behind : Solid ('=' :: value.toList) := by
        by_cases blank : value = ""
        · rw [blank]
          exact ⟨by decide, by decide, by decide⟩
        · exact (solid_of_trimmed (trimmed value rfl) blank).cons rfl
      rw [toList_paramText]
      exact Solid.joined (solid_of_trimmed keyTrimmed named) behind []

theorem toList_normalText {binding : Binding} (host : Host binding.target)
    (trimmed : trim binding.target = binding.target)
    (shaped : ∀ param ∈ binding.params, Shaped param)
    (values : ∀ param ∈ binding.params, Trimmed param) :
    (normalText binding).toList =
      [' '].intercalate (binding.target.toList :: texts binding.params) := by
  have filled : binding.target ≠ "" := by
    intro empty
    exact host.word.1 (by rw [empty]; rfl)
  have front := solid_of_trimmed trimmed filled
  rw [normalText, normalizeTarget_of_trimmed host trimmed]
  cases params : binding.params with
  | nil =>
      rw [toList_trim]
      have cut : (binding.target ++ " " ++ " ".intercalate ([].map paramText)).toList =
          binding.target.toList ++ [' '] := by
        rw [List.map_nil, String.toList_append, String.toList_append]
        exact List.append_nil _
      have kept : (binding.target.toList ++ [' ']).dropWhile isWhiteSpace =
          binding.target.toList ++ [' '] := by
        rw [List.dropWhile_append, front.front, if_neg (by simp [filled])]
      rw [cut, kept, List.rdropWhile_concat_pos _ _ _ (by decide), front.back]
      exact List.intercalate_singleton.symm
  | cons param params' =>
      have joined : (binding.target ++ " " ++
          " ".intercalate ((param :: params').map paramText)).toList =
          [' '].intercalate (binding.target.toList :: texts (param :: params')) := by
        have some_text : texts (param :: params') ≠ [] := List.cons_ne_nil _ _
        rw [String.toList_append, String.toList_append, String.toList_intercalate,
          List.map_map, List.intercalate_cons_of_ne_nil some_text]
        rfl
      have solid : Solid (binding.target ++ " " ++
          " ".intercalate ((param :: params').map paramText)).toList := by
        rw [joined]
        apply solid_intercalate (List.cons_ne_nil _ _)
        intro part member
        rcases List.mem_cons.mp member with rfl | later
        · exact front
        · obtain ⟨one, inside, rfl⟩ := List.mem_map.mp later
          rw [← params] at inside
          exact (shaped one inside).solid (values one inside)
      rw [(present_eq_some_iff.mp (present_of_solid solid)).1, joined]

theorem reparsed_of_trimmed {binding : Binding} (host : Host binding.target)
    (trimmed : trim binding.target = binding.target)
    (shaped : ∀ param ∈ binding.params, Shaped param)
    (values : ∀ param ∈ binding.params, Trimmed param) :
    parseContent (normalText binding) = .ok binding := by
  have cut : words (trim (normalText binding)).toList =
      binding.target.toList :: texts binding.params := by
    have again : trim (normalText binding) = normalText binding := trim_trim _
    rw [again, toList_normalText host trimmed shaped values]
    apply wordsBy_intercalate (by decide)
    intro word member
    rcases List.mem_cons.mp member with rfl | later
    · exact host.word
    · obtain ⟨one, inside, rfl⟩ := List.mem_map.mp later
      exact (shaped one inside).isWord
  have collected : collect parseParam (texts binding.params) = .ok binding.params := by
    rw [collect_eq_ok_iff, texts, List.forall₂_map_left_iff, List.forall₂_same]
    exact fun param member => parseParam_paramText (shaped param member) (values param member)
  rw [parseContent, cut]
  simp only [String.ofList_toList, validateTarget_of_trimmed host trimmed, collected]
  rfl

/-- The numbers and lengths of a written parameter are within their fields. -/
def Fitting (written : Nat × Meaning) : Prop :=
  written.1 < 65536 ∧ written.2.Fits ∧ written.2.bytes.length < 65536

theorem readAll_entries {written : List (Nat × Meaning)}
    (fit : ∀ one ∈ written, Fitting one) :
    paramCodec.readAll (paramCodec.writeAll (entries written)) = some (entries written) := by
  apply paramCodec.readAll_writeAll
  intro value member
  rw [entries, List.mem_insertionSort, List.mem_reverse] at member
  obtain ⟨one, inside, rfl⟩ := List.mem_map.mp member
  obtain ⟨code, -, length⟩ := fit one inside
  exact ⟨code, length⟩

theorem entries_perm (written : List (Nat × Meaning)) :
    (entries written).Perm (written.map entry) :=
  (List.perm_insertionSort _ _).trans (List.reverse_perm _)

theorem pairwise_entries {written : List (Nat × Meaning)}
    (distinct : (written.map Prod.fst).Nodup) :
    (entries written).Pairwise (·.1 < ·.1) := by
  have codes : ((entries written).map Prod.fst).Nodup := by
    apply ((entries_perm written).map Prod.fst).nodup_iff.mpr
    rw [List.map_map]
    exact distinct
  have sorted := List.pairwise_insertionSort
    (fun one other : Nat × Bytes => one.1 ≤ other.1) (written.map entry).reverse
  have apart := List.pairwise_map.mp codes
  exact (sorted.and apart).imp fun both => Nat.lt_of_le_of_ne both.1 both.2

theorem decoded_entries {inet : AddressParser} {params : List Param}
    {written : List (Nat × Meaning)} (wrote : List.Forall₂ (Wrote inet) params written)
    (fit : ∀ one ∈ written, Fitting one) :
    ((entries written).map fun one => (one.1, decodeValue one.1 one.2)).Perm
      (written.map fun one => (one.1, some one.2)) := by
  have decoded : (written.map entry).map (fun one => (one.1, decodeValue one.1 one.2)) =
      written.map fun one => (one.1, some one.2) := by
    rw [List.map_map]
    induction wrote with
    | nil => rfl
    | @cons param one params written here others ih =>
        rw [List.map_cons, List.map_cons,
          ih fun other member => fit other (List.mem_cons_of_mem one member)]
        have value := decodeValue_bytes here.2 (fit one List.mem_cons_self).2.1
        exact congrArg (fun meaning => (one.1, meaning) :: _) value
  rw [← decoded]
  exact (entries_perm written).map _

section
variable (inet : AddressParser) (encodeName : String → Option Bytes)

/-- The normal form is a normal form and is parsed as the content was, and the data has the
parameters in the order of their keys, from which their values are decoded. -/
structure Faithful (priority : Int) (content : String) (binding : Binding) : Prop where
  normal : ∃ text, normalizeContent content = .ok text ∧ normalizeContent text = .ok text ∧
    parseContent text = .ok binding
  data : ∃ name encoded raw written,
    encodeName binding.target = some name ∧
    encodeRdata inet encodeName priority content =
      .ok (some (word priority ++ (name ++ encoded))) ∧
    List.Forall₂ (Wrote inet) binding.params written ∧
    (∀ one ∈ written, Fitting one) ∧
    paramCodec.readAll encoded = some raw ∧
    raw.Pairwise (·.1 < ·.1) ∧
    (raw.map fun one => (one.1, decodeValue one.1 one.2)).Perm
      (written.map fun one => (one.1, some one.2))

/-- No end of a name or of a value is white space, the target can be encoded, and the
parameters are valid, within their fields and with different keys. -/
structure Regular (binding : Binding) : Prop where
  target : trim binding.target = binding.target
  values : ∀ param ∈ binding.params, Trimmed param
  named : (encodeName binding.target).isSome
  params : ∃ written, List.Forall₂ (Wrote inet) binding.params written ∧
    (∀ one ∈ written, Fitting one) ∧ (written.map Prod.fst).Nodup

end

section
variable {inet : AddressParser} {encodeName : String → Option Bytes} {priority : Int}
  {content : String} {binding : Binding}

theorem host_and_shaped (parsed : parseContent content = .ok binding) :
    Host binding.target ∧ ∀ param ∈ binding.params, Shaped param := by
  obtain ⟨word, tokens, cut, valid, params⟩ := of_parseContent parsed
  have proper : ∀ token ∈ word :: tokens, IsWord isSpace token :=
    fun token member => isWord_of_mem_wordsBy (cut ▸ member)
  exact ⟨(of_validateTarget (proper word List.mem_cons_self) valid).1,
    (of_parsedParams (fun token member => proper token (List.mem_cons_of_mem word member))
      params).1⟩

theorem Shaped.lone_key {param : Param} (shaped : Shaped param) :
    param.2 = none → param.1 = "no-default-alpn" := by
  intro alone
  cases shaped with
  | lone => rfl
  | given => cases alone

theorem regular_of_faithful (parsed : parseContent content = .ok binding)
    (kept : Faithful inet encodeName priority content binding) :
    Regular inet encodeName binding := by
  obtain ⟨text, normal, -, again⟩ := kept.normal
  rw [normalizeContent_of_parsed parsed] at normal
  rw [← Except.ok.inj normal] at again
  obtain ⟨target, values⟩ := trimmed_of_reparsed again
  obtain ⟨name, encoded, raw, written, named, -, wrote, fit, -, sorted, decoded⟩ := kept.data
  refine ⟨target, values, by rw [named]; rfl, written, wrote, fit, ?_⟩
  have codes := decoded.map Prod.fst
  rw [List.map_map, List.map_map] at codes
  apply codes.nodup_iff.mp
  exact List.pairwise_map.mpr (sorted.imp fun below => Nat.ne_of_lt below)

theorem faithful_of_regular (parsed : parseContent content = .ok binding)
    (regular : Regular inet encodeName binding) :
    Faithful inet encodeName priority content binding := by
  obtain ⟨host, shaped⟩ := host_and_shaped parsed
  have again := reparsed_of_trimmed host regular.target shaped regular.values
  obtain ⟨written, wrote, fit, distinct⟩ := regular.params
  obtain ⟨name, named⟩ := Option.isSome_iff_exists.mp regular.named
  have encoded := (encodeParams_eq_ok_iff fun param member => (shaped param member).lone_key).mpr
    ⟨written, wrote, rfl⟩
  refine ⟨⟨normalText binding, normalizeContent_of_parsed parsed,
    normalizeContent_of_parsed again, again⟩, name, paramCodec.writeAll (entries written),
    entries written, written, named, ?_, wrote, fit, readAll_entries fit,
    pairwise_entries distinct, decoded_entries wrote fit⟩
  rw [encodeRdata, parsed]
  simp only [encoded, named, Except.map, Option.map_some]

/-- Exactly the regular contents are kept by the normal form and by the data. -/
theorem faithful_iff_regular (parsed : parseContent content = .ok binding) :
    Faithful inet encodeName priority content binding ↔ Regular inet encodeName binding :=
  ⟨regular_of_faithful parsed, faithful_of_regular parsed⟩

end

def noAddresses : AddressParser where
  parse _ := none
  bytes := by
    intro text address found
    cases found
  words := by
    intro text address found
    cases found

def packetName (target : String) : Option Bytes :=
  Packet.encodeName (utf8 target)

theorem faithful_iff_regular_web :
    Faithful noAddresses packetName 1 "Svc.example. alpn=h2 port=443"
      { target := "svc.example", params := [("alpn", some "h2"), ("port", some "443")] } := by
  apply (faithful_iff_regular (by decide)).mpr
  refine ⟨by decide, ?_, by decide,
    [(1, .protocols ((splitCsvValues "h2").map utf8)), (3, .port 443)], ?_, ?_, by decide⟩
  · intro param member value same
    rcases List.mem_cons.mp member with rfl | later
    · cases same
      decide
    · rw [List.mem_singleton.mp later] at same
      cases same
      decide
  · exact .cons ⟨by decide, .alpn "h2"⟩
      (.cons ⟨by decide, .port (by decide) (by decide)⟩ .nil)
  · intro one member
    rcases List.mem_cons.mp member with rfl | later
    · have names : ∀ name ∈ (splitCsvValues "h2").map utf8, name.length < 256 := by decide
      exact ⟨by decide, names, by decide⟩
    · have small : 443 < 65536 := by decide
      rw [List.mem_singleton.mp later]
      exact ⟨by decide, small, by decide⟩

/-- A port that is given twice is encoded twice. -/
theorem not_faithful_twice :
    ¬ ∀ content binding, parseContent content = .ok binding →
      Faithful noAddresses packetName 1 content binding := by
  intro all
  have parsed : parseContent "svc.example. port=1 port=2" =
      .ok { target := "svc.example", params := [("port", some "1"), ("port", some "2")] } := by
    decide
  obtain ⟨written, wrote, -, distinct⟩ := (regular_of_faithful parsed (all _ _ parsed)).params
  cases wrote with
  | @cons param one params rest first others =>
      cases others with
      | @cons param other params rest second none_left =>
          have same : one.1 = other.1 := Except.ok.inj (first.1.symm.trans second.1)
          rw [List.map_cons, List.map_cons] at distinct
          exact (List.nodup_cons.mp distinct).1 (same ▸ List.mem_cons_self)

end Elektrine.DNS.ServiceBinding
