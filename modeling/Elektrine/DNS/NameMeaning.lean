import Elektrine.Data.Text
import Elektrine.DNS.Query
import Elektrine.DNS.RecordWrites
import Elektrine.Library.Separated
import Mathlib.Data.List.Induction

/-!
# What a record name means

A user enters a name relative to a zone or with the domain of the zone.  The stored name
means what was entered unless the entry has white space or dots in front of the domain, or
what is in front of the domain would be taken for the zone or as ending in its domain itself.
-/

namespace Elektrine.DNS.NameMeaning

open Elektrine.Library RecordWrites

/-! ## Entries -/

def tidy (entry : String) : String := downcase (trimTrailingDots (trim entry))

def apexNames : List String := ["", "@", "\\@"]

/-- The name that an entry means: the entry where it is in the zone, else the entry followed
by the domain of the zone. -/
def denoted (domain entry : String) : String :=
  let name := tidy entry
  if apexNames.contains name then domain
  else if name = domain ∨ endsWith name ("." ++ domain) then name
  else name ++ "." ++ domain

def relativePart (domain name : String) : String :=
  if endsWith name ("." ++ domain) then
    String.ofList (name.toList.take (name.length - ("." ++ domain).length))
  else name

structure Relative (domain name : String) : Prop where
  notApex : name ∉ apexNames
  notDomain : name ≠ domain
  outside : endsWith name ("." ++ domain) = false
  trimmed : trim name = name
  noDots : trimTrailingDots name = name

/-- The entry stands for the zone, or for a name in front of its domain. -/
def Plain (domain entry : String) : Prop :=
  tidy entry ∈ apexNames ∨ tidy entry = domain ∨
    Relative domain (relativePart domain (tidy entry))

inductive Stores (zone : Zone) (entry : String) : Record → Prop where
  | created {policy : Policy} {table : Table} {attrs : Attrs} {row : Record} :
      attrs.name = some entry → createdRecord policy zone table attrs = some row →
      Stores zone entry row
  | updated {policy : Policy} {attrs : Attrs} {record : Record} :
      attrs.name = some entry → Stores zone entry (updatedRecord policy zone record attrs)

structure KeepsMeaning (zone : Zone) (entry : String) (row : Record) : Prop where
  query : Query.recordName zone (.row none row) = denoted zone.domain entry
  proxy : recordFqdn zone row = denoted zone.domain entry
  stable : normalizeRecordName zone row.name = row.name

/-! ## Tidy texts -/

theorem toList_tidy (entry : String) :
    (tidy entry).toList =
      (((trim entry).toList.rdropWhile (· == '.')).map Char.toLower) := by
  rw [tidy, toList_downcase, trimTrailingDots, String.toList_ofList]

theorem length_tidy_le (entry : String) : (tidy entry).length ≤ entry.length := by
  rw [← String.length_toList, ← String.length_toList, toList_tidy, List.length_map]
  exact Nat.le_trans (List.rdropWhile_prefix _ _).length_le (toList_trim_sublist entry).length_le

theorem downcase_append (first second : String) :
    downcase (first ++ second) = downcase first ++ downcase second := by
  apply String.toList_inj.mp
  simp only [toList_downcase, String.toList_append, List.map_append]

theorem downcase_tidy (entry : String) : downcase (tidy entry) = tidy entry := by
  rw [tidy, downcase_downcase]

theorem trimTrailingDots_tidy (entry : String) :
    trimTrailingDots (tidy entry) = tidy entry := by
  apply String.toList_inj.mp
  rw [trimTrailingDots, String.toList_ofList, toList_tidy, rdropWhile_dot_map_toLower,
    List.rdropWhile_idempotent]

theorem trimmed_of_length_le_tidy {entry : String} (long : entry.length ≤ (tidy entry).length) :
    trim entry = entry ∧ trimTrailingDots entry = entry := by
  have dots := List.rdropWhile_prefix (· == '.') (trim entry).toList
  rw [← String.length_toList, ← String.length_toList, toList_tidy, List.length_map] at long
  have trimmed : trim entry = entry := by
    apply String.toList_inj.mp
    apply (toList_trim_sublist entry).eq_of_length_le
    exact Nat.le_trans long dots.length_le
  rw [trimmed] at dots long
  refine ⟨trimmed, ?_⟩
  apply String.toList_inj.mp
  rw [trimTrailingDots, String.toList_ofList]
  exact dots.eq_of_length_le long

theorem tidy_of_trimmed {name : String} (trimmed : trim name = name)
    (noDots : trimTrailingDots name = name) (lower : downcase name = name) :
    tidy name = name := by
  rw [tidy, trimmed, noDots, lower]

/-! ## Domains -/

structure Settled (domain : String) : Prop where
  characters : ∀ character ∈ domain.toList, character = '.' ∨ hostCharacter character = true
  last : ∃ front character, domain.toList = front ++ [character] ∧ character ≠ '.'

theorem hostCharacter_facts {character : Char} (host : hostCharacter character = true) :
    character.toLower = character ∧ isWhiteSpace character = false ∧ character ≠ ':' ∧
      character ≠ '.' := by
  have codes : (97 ≤ character.toNat ∧ character.toNat ≤ 122) ∨
      (48 ≤ character.toNat ∧ character.toNat ≤ 57) ∨ character.toNat = 45 := by
    simp only [hostCharacter, lowerAlphanumeric, Bool.or_eq_true, Bool.and_eq_true,
      decide_eq_true_eq, beq_iff_eq] at host
    rcases host with (letter | digit) | dash
    · exact Or.inl ⟨UInt32.le_iff_toNat_le.mp letter.1, UInt32.le_iff_toNat_le.mp letter.2⟩
    · exact Or.inr (Or.inl
        ⟨UInt32.le_iff_toNat_le.mp digit.1, UInt32.le_iff_toNat_le.mp digit.2⟩)
    · exact Or.inr (Or.inr (by rw [dash]; rfl))
  refine ⟨?_, ?_, ?_, ?_⟩
  · apply Char.toNat_inj.mp
    rw [toNat_toLower, if_neg (by omega)]
  · unfold isWhiteSpace
    simp
    omega
  · intro colon
    have code : character.toNat = 58 := by rw [colon]; rfl
    omega
  · intro dot
    have code : character.toNat = 46 := by rw [dot]; rfl
    omega

theorem settled_of_validDomain {domain : String} (valid : Zone.validDomain domain = true) :
    Settled domain := by
  simp only [Zone.validDomain, Bool.and_eq_true, decide_eq_true_eq, List.all_eq_true,
    Option.any_eq_true] at valid
  obtain ⟨⟨-, front⟩, last, isLast, long, letters⟩ := valid
  have lastHost : ∀ character ∈ last, hostCharacter character = true := by
    intro character member
    have letter := letters character member
    simp [hostCharacter, lowerAlphanumeric, letter]
  have split : domain.toList.splitOn '.' = (domain.toList.splitOn '.').dropLast ++ [last] :=
    (List.dropLast_append_getLast? last isLast).symm
  constructor
  case characters =>
    intro character member
    rw [← @List.intercalate_splitOn _ domain.toList _ _ '.'] at member
    rcases mem_intercalate member with dot | ⟨label, isLabel, inside⟩
    · exact Or.inl (List.mem_singleton.mp dot)
    · right
      rw [split] at isLabel
      rcases List.mem_append.mp isLabel with before | itself
      · exact (front label before).2 character inside
      · rw [List.mem_singleton.mp itself] at inside
        exact lastHost character inside
  case last =>
    have filled : last ≠ [] := List.ne_nil_of_length_pos (by omega)
    cases characters : domain.toList using List.reverseRecOn with
    | nil =>
        rw [characters, List.splitOn_nil, List.getLast?_singleton] at isLast
        exact absurd (Option.some.inj isLast).symm filled
    | append_singleton before character =>
        refine ⟨before, character, rfl, ?_⟩
        intro dot
        rw [characters, dot, List.splitOn_append_cons_self, List.splitOn_nil,
          List.getLast?_concat] at isLast
        exact filled (Option.some.inj isLast).symm

/-! ## Names as they are stored -/

theorem normalizeName_eq (name : String) :
    Record.normalizeName name =
      if tidy name = "" ∨ tidy name = "\\@" then "@" else tidy name := by
  have fold : downcase (trimTrailingDots (trim name)) = tidy name := rfl
  unfold Record.normalizeName
  rw [fold]
  split
  · rename_i empty
    rw [if_pos (Or.inl empty)]
  · rename_i escaped
    rw [if_pos (Or.inr escaped)]
  · rename_i filled plain
    rw [if_neg]
    intro special
    rcases special with empty | escaped
    · exact filled empty
    · exact plain escaped

variable {zone : Zone} {domain entry name : String}

theorem mem_apexNames_iff : name ∈ apexNames ↔ name = "" ∨ name = "@" ∨ name = "\\@" := by
  simp [apexNames]

def stripped (domain name : String) : String :=
  String.ofList (trimTrailingSuffix ("." ++ domain).toList name.length name.toList)

theorem normalizeRecordName_apex (apex : tidy name ∈ apexNames ∨ tidy name = tidy zone.domain) :
    normalizeRecordName zone name = "@" := by
  have fold : ∀ text, downcase (trimTrailingDots (trim text)) = tidy text := fun _ => rfl
  unfold normalizeRecordName
  dsimp only
  rw [fold name, fold zone.domain]
  split
  · exact if_pos (Or.inr rfl)
  · rename_i plain
    rcases apex with special | isDomain
    · rcases mem_apexNames_iff.mp special with empty | sign | escaped
      · exact if_pos (Or.inl empty)
      · exact if_pos (Or.inr sign)
      · exact absurd escaped plain
    · split
      · rfl
      · rfl

theorem normalizeRecordName_inside (notApex : tidy name ∉ apexNames)
    (notDomain : tidy name ≠ tidy zone.domain)
    (inside : endsWith (tidy name) ("." ++ tidy zone.domain) = true) :
    normalizeRecordName zone name =
      if stripped (tidy zone.domain) (tidy name) = "" then "@"
      else stripped (tidy zone.domain) (tidy name) := by
  have fold : ∀ text, downcase (trimTrailingDots (trim text)) = tidy text := fun _ => rfl
  rw [mem_apexNames_iff, not_or, not_or] at notApex
  obtain ⟨filled, noSign, unescaped⟩ := notApex
  unfold normalizeRecordName
  dsimp only
  rw [fold name, fold zone.domain]
  split
  · rename_i escaped
    exact absurd escaped unescaped
  · have its : String.ofList (trimTrailingSuffix ("." ++ tidy zone.domain).toList
        (tidy name).length (tidy name).toList) = stripped (tidy zone.domain) (tidy name) := rfl
    rw [if_neg, if_neg notDomain, if_pos inside, its]
    · split
      · rename_i empty
        rw [if_pos empty]
      · rename_i more
        rw [if_neg more]
    · intro either
      rcases either with empty | sign
      · exact filled empty
      · exact noSign sign

theorem normalizeRecordName_outside (notApex : tidy name ∉ apexNames)
    (notDomain : tidy name ≠ tidy zone.domain)
    (outside : endsWith (tidy name) ("." ++ tidy zone.domain) = false) :
    normalizeRecordName zone name = tidy name := by
  have fold : ∀ text, downcase (trimTrailingDots (trim text)) = tidy text := fun _ => rfl
  rw [mem_apexNames_iff, not_or, not_or] at notApex
  obtain ⟨filled, noSign, unescaped⟩ := notApex
  unfold normalizeRecordName
  dsimp only
  rw [fold name, fold zone.domain]
  split
  · rename_i escaped
    exact absurd escaped unescaped
  · rw [if_neg, if_neg notDomain, if_neg]
    · rw [outside]
      exact Bool.false_ne_true
    · intro either
      rcases either with empty | sign
      · exact filled empty
      · exact noSign sign

/-! ## Suffixes -/

theorem endsWith_iff {suffix : String} :
    endsWith name suffix = true ↔ ∃ front : String, name = front ++ suffix := by
  rw [endsWith, List.isSuffixOf_iff_suffix]
  constructor
  · intro isSuffix
    obtain ⟨front, split⟩ := isSuffix
    refine ⟨String.ofList front, ?_⟩
    apply String.toList_inj.mp
    rw [String.toList_append, String.toList_ofList, split]
  · intro split
    obtain ⟨front, its⟩ := split
    rw [its, String.toList_append]
    exact List.suffix_append _ _

theorem relativePart_append (front domain : String) :
    relativePart domain (front ++ ("." ++ domain)) = front := by
  rw [relativePart, if_pos (endsWith_iff.mpr ⟨front, rfl⟩)]
  apply String.toList_inj.mp
  rw [String.toList_ofList, String.length_append, Nat.add_sub_cancel, String.toList_append,
    ← String.length_toList, List.take_left]

theorem relativePart_outside (outside : endsWith name ("." ++ domain) = false) :
    relativePart domain name = name := by
  rw [relativePart, outside]
  exact if_neg Bool.false_ne_true

theorem length_trimTrailingSuffix_le (suffix : List Char) (fuel : Nat) (characters : List Char) :
    (trimTrailingSuffix suffix fuel characters).length ≤ characters.length := by
  induction fuel generalizing characters with
  | zero => exact Nat.le_refl _
  | succ fuel ih =>
      rw [trimTrailingSuffix]
      split
      · apply Nat.le_trans (ih _)
        rw [List.length_take]
        exact Nat.min_le_right _ _
      · exact Nat.le_refl _

theorem trimTrailingSuffix_append (suffix front : List Char) (fuel : Nat) :
    trimTrailingSuffix suffix (fuel + 1) (front ++ suffix) =
      trimTrailingSuffix suffix fuel front := by
  have isSuffix : suffix.isSuffixOf (front ++ suffix) = true :=
    List.isSuffixOf_iff_suffix.mpr (List.suffix_append _ _)
  rw [trimTrailingSuffix, if_pos isSuffix, List.length_append, Nat.add_sub_cancel, List.take_left]

theorem trimTrailingSuffix_outside {suffix characters : List Char}
    (outside : suffix.isSuffixOf characters = false) (fuel : Nat) :
    trimTrailingSuffix suffix fuel characters = characters := by
  cases fuel with
  | zero => rfl
  | succ fuel =>
      rw [trimTrailingSuffix, outside]
      exact if_neg Bool.false_ne_true

theorem stripped_eq (front : String) : ∃ fuel,
    stripped domain (front ++ ("." ++ domain)) =
      String.ofList (trimTrailingSuffix ("." ++ domain).toList fuel front.toList) := by
  have dot : (".").length = 1 := rfl
  have positive : (front ++ ("." ++ domain)).length ≠ 0 := by
    rw [String.length_append, String.length_append, dot]
    omega
  obtain ⟨fuel, isFuel⟩ := Nat.exists_eq_succ_of_ne_zero positive
  have characters : (front ++ ("." ++ domain)).toList =
      front.toList ++ ("." ++ domain).toList := String.toList_append
  refine ⟨fuel, ?_⟩
  rw [stripped, isFuel, characters, trimTrailingSuffix_append]

theorem length_stripped_le (front : String) :
    (stripped domain (front ++ ("." ++ domain))).length ≤ front.length := by
  obtain ⟨fuel, its⟩ := @stripped_eq domain front
  rw [its, ← String.length_toList, String.toList_ofList, ← String.length_toList]
  exact length_trimTrailingSuffix_le _ _ _

theorem stripped_append (front : String) (outside : endsWith front ("." ++ domain) = false) :
    stripped domain (front ++ ("." ++ domain)) = front := by
  obtain ⟨fuel, its⟩ := @stripped_eq domain front
  rw [its, trimTrailingSuffix_outside outside, String.ofList_toList]

/-! ## Domains that are stored -/

theorem Settled.visible (settled : Settled domain) :
    ∀ character ∈ domain.toList, isWhiteSpace character = false ∧
      character.toLower = character ∧ character ≠ ':' := by
  intro character member
  rcases settled.characters character member with dot | host
  · rw [dot]
    exact ⟨rfl, by decide, by decide⟩
  · obtain ⟨lower, white, noColon, -⟩ := hostCharacter_facts host
    exact ⟨white, lower, noColon⟩

theorem Settled.lower (settled : Settled domain) : downcase domain = domain := by
  apply String.toList_inj.mp
  rw [toList_downcase]
  calc domain.toList.map Char.toLower
    _ = domain.toList.map id := List.map_congr_left fun character member =>
        (settled.visible character member).2.1
    _ = domain.toList := List.map_id _

theorem Settled.trimTrailingDots_append (settled : Settled domain) (front : String) :
    trimTrailingDots (front ++ domain) = front ++ domain := by
  obtain ⟨before, last, split, noDot⟩ := settled.last
  apply String.toList_inj.mp
  have characters : (front ++ domain).toList = front.toList ++ before ++ [last] := by
    rw [String.toList_append, split, List.append_assoc]
  rw [trimTrailingDots, String.toList_ofList, characters, List.rdropWhile_concat, if_neg]
  simpa using noDot

theorem Settled.noDots (settled : Settled domain) : trimTrailingDots domain = domain := by
  have whole := settled.trimTrailingDots_append ""
  rwa [String.empty_append] at whole

theorem Settled.tidy (settled : Settled domain) : tidy domain = domain :=
  tidy_of_trimmed (trim_of_visible fun character member =>
    (settled.visible character member).1) settled.noDots settled.lower

theorem Settled.proxyHost (settled : Settled domain) : normalizeProxyHost domain = domain := by
  have host : normalizeProxyHost domain =
      String.ofList ((NameMeaning.tidy domain).toList.takeWhile (· != ':')) := rfl
  rw [host, settled.tidy]
  apply String.toList_inj.mp
  rw [String.toList_ofList, List.takeWhile_eq_self_iff]
  intro character member
  simpa using (settled.visible character member).2.2

theorem Settled.length_pos (settled : Settled domain) : 0 < domain.length := by
  obtain ⟨before, last, split, -⟩ := settled.last
  rw [← String.length_toList, split, List.length_append, List.length_singleton]
  omega

/-! ## Looking names up -/

def qualify (domain name : String) : String :=
  if name = "" ∨ name = "@" then domain
  else if name = domain then domain
  else if endsWith name ("." ++ domain) then name
  else name ++ "." ++ domain

structure Normal (name : String) : Prop where
  filled : name ≠ ""
  unescaped : name ≠ "\\@"
  lower : downcase name = name
  noDots : trimTrailingDots name = name

theorem normal_normalizeName (name : String) : Normal (Record.normalizeName name) := by
  rw [normalizeName_eq]
  split
  · exact ⟨by decide, by decide, by decide, by decide⟩
  · rename_i plain
    rw [not_or] at plain
    exact ⟨plain.1, plain.2, downcase_tidy name, trimTrailingDots_tidy name⟩

theorem recordName_eq (settled : Settled zone.domain) {row : Record} (normal : Normal row.name) :
    Query.recordName zone (.row none row) = qualify zone.domain row.name := by
  have domain : normalizeName zone.domain = zone.domain := by
    rw [normalizeName, settled.lower, settled.noDots]
  have name : normalizeName row.name = row.name := by
    rw [normalizeName, normal.lower, normal.noDots]
  have whole : normalizeName (row.name ++ "." ++ zone.domain) = row.name ++ "." ++ zone.domain := by
    have lower : downcase (row.name ++ "." ++ zone.domain) = row.name ++ "." ++ zone.domain := by
      rw [downcase_append, downcase_append, normal.lower, settled.lower]
      rfl
    rw [normalizeName, lower, settled.trimTrailingDots_append]
  rw [Query.recordName, domain, name, whole, qualify]

theorem recordFqdn_eq (settled : Settled zone.domain) (row : Record) :
    recordFqdn zone row = qualify zone.domain (normalizeProxyHost row.name) := by
  unfold recordFqdn qualify
  rw [settled.proxyHost]

theorem qualify_eq_iff {front : String} (filled : name ≠ "")
    (short : name.length < (front ++ "." ++ domain).length) :
    qualify domain name = front ++ "." ++ domain ↔
      name = front ∧ name ≠ "@" ∧ name ≠ domain ∧ endsWith name ("." ++ domain) = false := by
  have dot : (".").length = 1 := rfl
  have longer : domain ≠ front ++ "." ++ domain := by
    intro same
    have lengths := congrArg String.length same
    rw [String.length_append, String.length_append, dot] at lengths
    omega
  have shorter : name ≠ front ++ "." ++ domain := by
    intro same
    rw [← same] at short
    exact Nat.lt_irrefl _ short
  have appended : name ++ "." ++ domain = front ++ "." ++ domain ↔ name = front := by
    rw [String.append_left_inj, String.append_left_inj]
  unfold qualify
  constructor
  · intro qualified
    split at qualified
    · exact absurd qualified longer
    · rename_i notApex
      split at qualified
      · exact absurd qualified longer
      · rename_i notDomain
        split at qualified
        · exact absurd qualified shorter
        · rename_i outside
          rw [not_or] at notApex
          exact ⟨appended.mp qualified, notApex.2, notDomain, Bool.eq_false_iff.mpr outside⟩
  · intro relative
    obtain ⟨same, notSign, notDomain, outside⟩ := relative
    rw [if_neg, if_neg notDomain, outside, if_neg Bool.false_ne_true, same]
    intro either
    rcases either with empty | sign
    · exact filled empty
    · exact notSign sign

/-! ## Names in front of the domain -/

theorem length_normalizeRecordName_le (settled : Settled zone.domain) (name : String) :
    (normalizeRecordName zone name).length ≤ max 1 (relativePart zone.domain (tidy name)).length := by
  have sign : ("@").length = 1 := rfl
  by_cases apex : tidy name ∈ apexNames ∨ tidy name = tidy zone.domain
  · rw [normalizeRecordName_apex apex, sign]
    exact Nat.le_max_left _ _
  · rw [not_or] at apex
    cases inside : endsWith (tidy name) ("." ++ tidy zone.domain) with
    | true =>
        rw [normalizeRecordName_inside apex.1 apex.2 inside, settled.tidy]
        rw [settled.tidy] at inside
        obtain ⟨front, split⟩ := endsWith_iff.mp inside
        rw [split, relativePart_append]
        split
        · rw [sign]
          exact Nat.le_max_left _ _
        · exact Nat.le_trans (length_stripped_le front) (Nat.le_max_right _ _)
    | false =>
        rw [normalizeRecordName_outside apex.1 apex.2 inside]
        rw [settled.tidy] at inside
        rw [relativePart_outside inside]
        exact Nat.le_max_right _ _

theorem length_relativePart_le (domain name : String) :
    (relativePart domain name).length ≤ name.length := by
  unfold relativePart
  split
  · rw [← String.length_toList, String.toList_ofList, List.length_take, ← String.length_toList]
    exact Nat.min_le_right _ _
  · exact Nat.le_refl _

theorem length_normalizeRecordName_twice_le (settled : Settled zone.domain) (entry : String) :
    (normalizeRecordName zone (normalizeRecordName zone entry)).length ≤
      max 1 (relativePart zone.domain (tidy entry)).length := by
  have once := length_normalizeRecordName_le settled entry
  have again := length_normalizeRecordName_le settled (normalizeRecordName zone entry)
  have part := length_relativePart_le zone.domain (tidy (normalizeRecordName zone entry))
  have shorter := length_tidy_le (normalizeRecordName zone entry)
  omega

theorem denoted_eq (notApex : tidy entry ∉ apexNames) (notDomain : tidy entry ≠ domain) :
    denoted domain entry = relativePart domain (tidy entry) ++ "." ++ domain := by
  unfold denoted
  dsimp only
  rw [if_neg (by simpa using notApex)]
  cases inside : endsWith (tidy entry) ("." ++ domain) with
  | true =>
      obtain ⟨front, split⟩ := endsWith_iff.mp inside
      rw [if_pos (Or.inr rfl), split, relativePart_append, String.append_assoc]
  | false =>
      rw [if_neg, relativePart_outside inside]
      intro either
      rcases either with same | never
      · exact notDomain same
      · cases never

theorem denoted_apex (apex : tidy entry ∈ apexNames ∨ tidy entry = domain) :
    denoted domain entry = domain := by
  unfold denoted
  dsimp only
  by_cases special : tidy entry ∈ apexNames
  · rw [if_pos (by simpa using special)]
  · rw [if_neg (by simpa using special), if_pos]
    · exact apex.resolve_left special
    · exact Or.inl (apex.resolve_left special)

theorem Relative.stable (settled : Settled zone.domain) (relative : Relative zone.domain name)
    (lower : downcase name = name) : normalizeRecordName zone name = name := by
  have same := tidy_of_trimmed relative.trimmed relative.noDots lower
  rw [normalizeRecordName_outside, same]
  · rw [same]
    exact relative.notApex
  · rw [same, settled.tidy]
    exact relative.notDomain
  · rw [same, settled.tidy]
    exact relative.outside

theorem Relative.normalizeName_eq (relative : Relative domain name) (lower : downcase name = name) :
    Record.normalizeName name = name := by
  rw [NameMeaning.normalizeName_eq, tidy_of_trimmed relative.trimmed relative.noDots lower, if_neg]
  intro either
  apply relative.notApex
  rw [mem_apexNames_iff]
  rcases either with empty | escaped
  · exact Or.inl empty
  · exact Or.inr (Or.inr escaped)

theorem Relative.normalizeRecordName_eq (settled : Settled zone.domain)
    (notApex : tidy entry ∉ apexNames) (notDomain : tidy entry ≠ zone.domain)
    (relative : Relative zone.domain (relativePart zone.domain (tidy entry))) :
    normalizeRecordName zone entry = relativePart zone.domain (tidy entry) := by
  have notTidy : tidy entry ≠ tidy zone.domain := by rwa [settled.tidy]
  cases inside : endsWith (tidy entry) ("." ++ tidy zone.domain) with
  | true =>
      rw [normalizeRecordName_inside notApex notTidy inside, settled.tidy]
      rw [settled.tidy] at inside
      obtain ⟨front, split⟩ := endsWith_iff.mp inside
      rw [split, relativePart_append] at relative ⊢
      rw [stripped_append front relative.outside, if_neg]
      intro empty
      exact relative.notApex (mem_apexNames_iff.mpr (Or.inl empty))
  | false =>
      rw [normalizeRecordName_outside notApex notTidy inside]
      rw [settled.tidy] at inside
      rw [relativePart_outside inside]

theorem downcase_relativePart (domain entry : String) :
    downcase (relativePart domain (tidy entry)) = relativePart domain (tidy entry) := by
  unfold relativePart
  split
  · have lower := congrArg String.toList (downcase_tidy entry)
    rw [toList_downcase] at lower
    apply String.toList_inj.mp
    rw [toList_downcase, String.toList_ofList, List.map_take, lower]
  · exact downcase_tidy entry

/-! ## Rows -/

theorem Stores.cases {row : Record} (stores : Stores zone entry row) :
    row.name = Record.normalizeName (normalizeRecordName zone entry) ∨
      row.name =
        Record.normalizeName (normalizeRecordName zone (normalizeRecordName zone entry)) := by
  cases stores with
  | @created policy _ attrs _ named stored =>
      right
      unfold createdRecord at stored
      split at stored
      · rw [← Option.some.inj stored]
        unfold storedRecord
        simp only [named, Option.map_some, Option.getD_some]
      · exact absurd stored.symm (Option.some_ne_none _)
  | updated named =>
      left
      unfold updatedRecord storedRecord relativeAttrs
      simp only [named, Option.map_some, Option.getD_some]

theorem trim_normalizeName (notSign : Record.normalizeName name ≠ "@")
    (whole : name.length ≤ (Record.normalizeName name).length) :
    trim (Record.normalizeName name) = Record.normalizeName name := by
  have same : Record.normalizeName name = tidy name := by
    rw [normalizeName_eq]
    apply if_neg
    intro special
    apply notSign
    rw [normalizeName_eq, if_pos special]
  rw [same] at whole ⊢
  obtain ⟨trimmed, noDots⟩ := trimmed_of_length_le_tidy whole
  rw [tidy, trimmed, noDots, trim_downcase, trimmed]

theorem mem_beforeNewline {characters : List Char} {character : Char}
    (member : character ∈ characters) :
    character = '\n' ∨ character ∈ beforeNewline characters := by
  unfold beforeNewline
  split
  · rename_i ends
    rw [← List.dropLast_append_getLast? _ ends] at member
    rcases List.mem_append.mp member with before | last
    · exact Or.inr before
    · exact Or.inl (List.mem_singleton.mp last)
  · exact Or.inr member

theorem noColon_of_validLabel {label : List Char} (valid : Record.validLabel label = true) :
    ':' ∉ label := by
  have noColon : ∀ rest : List Char,
      (∀ character ∈ beforeNewline rest, character = '_' ∨ hostCharacter character = true) →
      ':' ∉ rest := by
    intro rest characters member
    rcases mem_beforeNewline member with newline | before
    · exact absurd newline (by decide)
    · rcases characters ':' before with underscore | host
      · exact absurd underscore (by decide)
      · exact absurd host (by decide)
  unfold Record.validLabel at valid
  split at valid
  · rename_i rest
    simp only [Record.validServiceLabel, Bool.and_eq_true, List.all_eq_true, Bool.or_eq_true,
      beq_iff_eq] at valid
    intro member
    rcases List.mem_cons.mp member with underscore | later
    · exact absurd underscore (by decide)
    · exact noColon rest (fun character inside => (valid.2 character inside).symm) later
  · simp only [Bool.and_eq_true, List.all_eq_true] at valid
    exact noColon label fun character inside => Or.inr (valid.2 character inside)

theorem noColon_of_validName (valid : Record.validName name = true) : ':' ∉ name.toList := by
  unfold Record.validName at valid
  split at valid
  · cases valid
  · split at valid
    · rename_i sign
      rw [sign]
      decide
    · have labels : (Record.nonWildcardLabels name).all Record.validLabel = true := by
        split at valid
        · cases valid
        · split at valid
          · cases valid
          · split at valid
            · cases valid
            · exact valid
      rw [List.all_eq_true] at labels
      rw [← @List.intercalate_splitOn _ name.toList _ _ '.']
      apply not_mem_intercalate
      · decide
      · intro label isLabel
        unfold Record.nonWildcardLabels at labels
        split at labels
        · rename_i rest split
          rw [split] at isLabel
          rcases List.mem_cons.mp isLabel with wildcard | later
          · rw [wildcard]
            decide
          · exact noColon_of_validLabel (labels label later)
        · exact noColon_of_validLabel (labels label isLabel)

theorem Stores.short (settled : Settled zone.domain) {row : Record}
    (stores : Stores zone entry row) :
    ∃ name, row.name = Record.normalizeName name ∧
      name.length ≤ max 1 (relativePart zone.domain (tidy entry)).length := by
  rcases stores.cases with once | twice
  · exact ⟨_, once, length_normalizeRecordName_le settled entry⟩
  · exact ⟨_, twice, length_normalizeRecordName_twice_le settled entry⟩

theorem length_normalizeName_le (name : String) :
    (Record.normalizeName name).length ≤ max 1 name.length := by
  rw [normalizeName_eq]
  split
  · exact Nat.le_max_left _ _
  · exact Nat.le_trans (length_tidy_le name) (Nat.le_max_right _ _)

theorem Stores.relative (settled : Settled zone.domain) {row : Record}
    (stores : Stores zone entry row)
    (found : qualify zone.domain row.name =
      relativePart zone.domain (tidy entry) ++ "." ++ zone.domain) :
    Relative zone.domain (relativePart zone.domain (tidy entry)) := by
  obtain ⟨name, isName, short⟩ := stores.short settled
  have dot : (".").length = 1 := rfl
  have normal : Normal row.name := by
    rw [isName]
    exact normal_normalizeName name
  have bounded := length_normalizeName_le name
  rw [← isName] at bounded
  have positive := settled.length_pos
  have within : row.name.length <
      (relativePart zone.domain (tidy entry) ++ "." ++ zone.domain).length := by
    rw [String.length_append, String.length_append, dot]
    omega
  obtain ⟨same, notSign, notDomain, outside⟩ := (qualify_eq_iff normal.filled within).mp found
  rw [← same] at short ⊢
  have nonempty : row.name.length ≠ 0 := fun empty =>
    normal.filled (String.length_eq_zero_iff.mp empty)
  constructor
  case notApex =>
    intro apex
    rcases mem_apexNames_iff.mp apex with empty | sign | escaped
    · exact normal.filled empty
    · exact notSign sign
    · exact normal.unescaped escaped
  case notDomain => exact notDomain
  case outside => exact outside
  case trimmed =>
    rw [isName] at notSign short nonempty ⊢
    apply trim_normalizeName notSign
    omega
  case noDots => exact normal.noDots

theorem Stores.apex (settled : Settled zone.domain) {row : Record}
    (stores : Stores zone entry row)
    (apex : tidy entry ∈ apexNames ∨ tidy entry = zone.domain) : row.name = "@" := by
  have sign : tidy "@" ∈ apexNames := by decide
  have once : normalizeRecordName zone entry = "@" := by
    apply normalizeRecordName_apex
    rwa [settled.tidy]
  have again : normalizeRecordName zone "@" = "@" := normalizeRecordName_apex (Or.inl sign)
  have stored : Record.normalizeName "@" = "@" := by decide
  rcases stores.cases with isOnce | isTwice
  · rw [isOnce, once, stored]
  · rw [isTwice, once, again, stored]

theorem keepsMeaning_of_sign (settled : Settled zone.domain) {row : Record}
    (apex : tidy entry ∈ apexNames ∨ tidy entry = zone.domain) (sign : row.name = "@") :
    KeepsMeaning zone entry row := by
  have normal : Normal row.name := by
    rw [sign]
    exact ⟨by decide, by decide, by decide, by decide⟩
  have zoneItself : qualify zone.domain "@" = zone.domain := if_pos (Or.inr rfl)
  have host : normalizeProxyHost "@" = "@" := by decide
  constructor
  case query => rw [recordName_eq settled normal, sign, zoneItself, denoted_apex apex]
  case proxy => rw [recordFqdn_eq settled, sign, host, zoneItself, denoted_apex apex]
  case stable =>
    rw [sign]
    exact normalizeRecordName_apex (Or.inl (by decide))

theorem keepsMeaning_of_relative (settled : Settled zone.domain) {row : Record}
    (notApex : tidy entry ∉ apexNames) (notDomain : tidy entry ≠ zone.domain)
    (relative : Relative zone.domain (relativePart zone.domain (tidy entry)))
    (stores : Stores zone entry row) (accepted : Record.validName row.name = true) :
    KeepsMeaning zone entry row := by
  have lower := downcase_relativePart zone.domain entry
  have denotes := denoted_eq notApex notDomain
  have once := relative.normalizeRecordName_eq settled notApex notDomain
  have stable := relative.stable settled lower
  have stored := relative.normalizeName_eq lower
  generalize relativePart zone.domain (tidy entry) = front at *
  have name : row.name = front := by
    rcases stores.cases with isOnce | isTwice
    · rw [isOnce, once, stored]
    · rw [isTwice, once, stable, stored]
  have notSpecial := relative.notApex
  rw [mem_apexNames_iff, not_or, not_or] at notSpecial
  obtain ⟨filled, notSign, unescaped⟩ := notSpecial
  have longer : front.length < (front ++ "." ++ zone.domain).length := by
    have dot : (".").length = 1 := rfl
    rw [String.length_append, String.length_append, dot]
    omega
  have found : qualify zone.domain front = front ++ "." ++ zone.domain :=
    (qualify_eq_iff filled longer).mpr ⟨rfl, notSign, relative.notDomain, relative.outside⟩
  have host : normalizeProxyHost front = front := by
    have cut : normalizeProxyHost front =
        String.ofList ((tidy front).toList.takeWhile (· != ':')) := rfl
    rw [name] at accepted
    rw [cut, tidy_of_trimmed relative.trimmed relative.noDots lower]
    apply String.toList_inj.mp
    rw [String.toList_ofList, List.takeWhile_eq_self_iff]
    intro character member
    have noColon := noColon_of_validName accepted
    have different : character ≠ ':' := fun colon => noColon (colon ▸ member)
    simpa using different
  constructor
  case query =>
    have normal : Normal row.name := by
      rw [name]
      exact ⟨filled, unescaped, lower, relative.noDots⟩
    rw [recordName_eq settled normal, name, found, denotes]
  case proxy => rw [recordFqdn_eq settled, name, host, found, denotes]
  case stable => rw [name, stable]

/-- **The meaning of a name is kept exactly for plain entries.** -/
theorem keepsMeaning_iff {row : Record} (valid : Zone.validDomain zone.domain = true)
    (stores : Stores zone entry row) (accepted : Record.validName row.name = true) :
    KeepsMeaning zone entry row ↔ Plain zone.domain entry := by
  have settled := settled_of_validDomain valid
  by_cases apex : tidy entry ∈ apexNames ∨ tidy entry = zone.domain
  · constructor
    · intro _
      rcases apex with special | isDomain
      · exact Or.inl special
      · exact Or.inr (Or.inl isDomain)
    · intro _
      exact keepsMeaning_of_sign settled apex (stores.apex settled apex)
  · rw [not_or] at apex
    obtain ⟨notApex, notDomain⟩ := apex
    constructor
    · intro keeps
      right
      right
      apply stores.relative settled
      have normal : Normal row.name := by
        obtain ⟨name, isName, -⟩ := stores.short settled
        rw [isName]
        exact normal_normalizeName name
      rw [← recordName_eq settled normal, keeps.query, denoted_eq notApex notDomain]
    · intro plain
      rcases plain with special | isDomain | relative
      · exact absurd special notApex
      · exact absurd isDomain notDomain
      · exact keepsMeaning_of_relative settled notApex notDomain relative stores accepted

def exampleZone : Zone := { domain := "a.io", records := [] }

def www : Record := { name := "www", type := "A", content := "192.0.2.1" }

def renamed (entry : String) : Record :=
  updatedRecord {} exampleZone www { name := some entry }

theorem stores_renamed (entry : String) : Stores exampleZone entry (renamed entry) :=
  @Stores.updated exampleZone entry {} { name := some entry } www rfl

theorem keepsMeaning_www : KeepsMeaning exampleZone "Www.A.io." (renamed "Www.A.io.") := by
  have valid : Zone.validDomain exampleZone.domain = true := by decide
  have accepted : Record.validName (renamed "Www.A.io.").name = true := by decide
  apply (keepsMeaning_iff valid (stores_renamed "Www.A.io.") accepted).mpr
  right
  right
  have part : relativePart exampleZone.domain (tidy "Www.A.io.") = "www" := by decide
  rw [part]
  exact ⟨by decide, by decide, by decide, by decide, by decide⟩

/-- Both domains at the end of the name are taken away. -/
theorem not_keepsMeaning_repeated :
    ¬ ∀ (zone : Zone) (entry : String) (row : Record), Zone.validDomain zone.domain = true →
      Stores zone entry row → Record.validName row.name = true →
      KeepsMeaning zone entry row := by
  intro every
  have keeps := every exampleZone "www.a.io.a.io" (renamed "www.a.io.a.io") (by decide)
    (stores_renamed "www.a.io.a.io") (by decide)
  exact absurd keeps.query (by decide)

end Elektrine.DNS.NameMeaning
