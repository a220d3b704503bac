import DiagramMigrations.Proofs.Naming.Collision
import Mathlib

/-!
Identifiers of ASCII names. They are groups of small letters and digits between single underscores,
and without the underscores they are the letters and digits of the name, made small. Where the words
of a name end can be told from its identifier, so that both come to the same class name.
-/

set_option autoImplicit false
set_option relaxedAutoImplicit false

namespace DiagramMigrations.Naming

open Text

/-- Whether a text is made of groups of small ASCII letters and digits, joined by single underscores.
Without a group it is empty. -/
def IsSnakeCase (cs : List Char) : Prop :=
  ∃ groups : List (List Char), cs = ['_'].intercalate groups ∧
    ∀ group ∈ groups, group ≠ [] ∧ ∀ c ∈ group, c.isLower = true ∨ c.isDigit = true

variable {c : Char} {w rest group : List Char} {name : String}

/-! ### Words in ASCII -/

theorem toLower_lt (hc : c.toNat < 128) : c.toLower.toNat < 128 :=
  forall_ascii (p := fun c ↦ c.toLower.toNat < 128) (by decide) hc

theorem isLower_or_isDigit_toLower (hc : c.toNat < 128) (h : c.isAlphanum = true) :
    c.toLower.isLower = true ∨ c.toLower.isDigit = true :=
  forall_ascii (p := fun c ↦ c.isAlphanum = true →
    c.toLower.isLower = true ∨ c.toLower.isDigit = true) (by decide) hc h

theorem lowerWord_of_ascii (hw : ∀ c ∈ w, c.toNat < 128) : lowerWord w = w.map Char.toLower := by
  have hsigma : 'Σ' ∉ w := fun h ↦ absurd (hw 'Σ' h) (by decide)
  have hlower : ∀ c ∈ w, lower c = [c.toLower] := fun c hc ↦ lower_of_ascii (hw c hc)
  rw [lowerWord_eq_flatMap hsigma, List.flatMap_def, List.map_congr_left hlower, ← List.flatMap_def,
    List.map_eq_flatMap]

theorem capitalWord_of_ascii (hc : c.toNat < 128) (hrest : ∀ d ∈ rest, d.toNat < 128) :
    capitalWord (c :: rest) = c.toUpper :: rest.map Char.toLower := by
  rw [capitalWord, upper_of_ascii hc, lowerWord_of_ascii hrest, List.singleton_append]

/-- A word comes to the same capitalised word after it is lowered. -/
theorem capitalWord_lowerWord (hw : ∀ c ∈ w, c.toNat < 128) :
    capitalWord (lowerWord w) = capitalWord w := by
  cases w with
  | nil => rfl
  | cons c rest =>
    obtain ⟨hc, hrest⟩ := List.forall_mem_cons.mp hw
    have hlowered : ∀ d ∈ rest.map Char.toLower, d.toNat < 128 := by
      intro d hd
      obtain ⟨e, he, rfl⟩ := List.mem_map.mp hd
      exact toLower_lt (hrest e he)
    have htwice : (rest.map Char.toLower).map Char.toLower = rest.map Char.toLower := by
      rw [List.map_map]
      exact List.map_congr_left fun d _ ↦ Char.toLower_toLower_eq_toLower d
    rw [lowerWord_of_ascii hw, List.map_cons, capitalWord_of_ascii (toLower_lt hc) hlowered, htwice,
      Char.toUpper_toLower_eq_toUpper, capitalWord_of_ascii hc hrest]

/-! ### Names in ASCII -/

section Ascii

variable (h : ∀ c ∈ name.toList, c.toNat < 128)
include h

theorem mem_words_of_ascii (hw : w ∈ words name.toList) :
    w ≠ [] ∧ ∀ c ∈ w, c.toNat < 128 ∧ c.isAlphanum = true := by
  obtain ⟨hne, hchars⟩ := mem_words hw
  refine ⟨hne, fun c hc ↦ ?_⟩
  have hascii : c.toNat < 128 := h c (hchars c hc).2
  exact ⟨hascii, isAlphanum_of_isAlphanumeric (hchars c hc).1 hascii⟩

theorem map_lowerWord_words :
    (words name.toList).map lowerWord = (words name.toList).map (List.map Char.toLower) :=
  List.map_congr_left fun _ hw ↦
    lowerWord_of_ascii fun c hc ↦ ((mem_words_of_ascii h hw).2 c hc).1

theorem mem_lowered_words (hgroup : group ∈ (words name.toList).map lowerWord) :
    group ≠ [] ∧ ∀ c ∈ group, c.isLower = true ∨ c.isDigit = true := by
  rw [map_lowerWord_words h] at hgroup
  obtain ⟨w, hw, rfl⟩ := List.mem_map.mp hgroup
  obtain ⟨hne, hchars⟩ := mem_words_of_ascii h hw
  refine ⟨fun hnil ↦ hne (List.map_eq_nil_iff.mp hnil), fun d hd ↦ ?_⟩
  obtain ⟨c, hc, rfl⟩ := List.mem_map.mp hd
  exact isLower_or_isDigit_toLower (hchars c hc).1 (hchars c hc).2

theorem isSnakeCase_identifier : IsSnakeCase (identifier name).toList :=
  ⟨_, toList_identifier name, fun _ ↦ mem_lowered_words h⟩

/-- The words together are the letters and digits of the name, and the underscores are all that stands
between them in the identifier. -/
theorem filter_identifier : (identifier name).toList.filter (· ≠ '_') =
    (name.toList.filter Char.isAlphanum).map Char.toLower := by
  have hgroups : ∀ group ∈ (words name.toList).map lowerWord,
      group ≠ [] ∧ ∀ c ∈ group, decide (c ≠ '_') = true := by
    intro group hgroup
    obtain ⟨hne, hchars⟩ := mem_lowered_words h hgroup
    refine ⟨hne, fun c hc ↦ decide_eq_true ?_⟩
    rintro rfl
    exact absurd (hchars '_' hc) (by decide)
  have hruns : runsOf (· ≠ '_') (identifier name).toList = (words name.toList).map lowerWord := by
    rw [toList_identifier]
    exact runsOf_intercalate (by decide) hgroups
  have hletters : name.toList.filter isAlphanumeric = name.toList.filter Char.isAlphanum :=
    List.filter_congr fun c hc ↦ isAlphanumeric_of_ascii (h c hc)
  calc (identifier name).toList.filter (· ≠ '_')
      = (runsOf (· ≠ '_') (identifier name).toList).flatten := (flatten_runsOf _ _).symm
    _ = ((words name.toList).map lowerWord).flatten := by rw [hruns]
    _ = (words name.toList).flatten.map Char.toLower := by
        rw [map_lowerWord_words h, List.map_flatten]
    _ = (name.toList.filter Char.isAlphanum).map Char.toLower := by rw [flatten_words, hletters]

/-- Only a name without letters and digits has an empty identifier. -/
theorem identifier_eq_empty_iff : identifier name = "" ↔ ∀ c ∈ name.toList, c.isAlphanum = false := by
  constructor
  · intro hempty
    have hnone := filter_identifier h
    rw [hempty] at hnone
    have hfilter : name.toList.filter Char.isAlphanum = [] := List.map_eq_nil_iff.mp hnone.symm
    exact fun c hc ↦ Bool.eq_false_iff.mpr (List.filter_eq_nil_iff.mp hfilter c hc)
  · intro hnone
    have hwords : words name.toList = [] := by
      rw [List.eq_nil_iff_forall_not_mem]
      intro w hw
      obtain ⟨hne, hchars⟩ := mem_words_of_ascii h hw
      obtain ⟨c, hc⟩ := List.exists_mem_of_ne_nil w hne
      have hmem : c ∈ name.toList := ((mem_words hw).2 c hc).2
      exact Bool.false_ne_true ((hnone c hmem).symm.trans (hchars c hc).2)
    rw [identifier, snakeCase, hwords]
    rfl

/-- The words of the identifier are those of the name, so that the capitals are the same. -/
theorem className_identifier : className (identifier name) = className name := by
  have hplain : ∀ group ∈ (words name.toList).map lowerWord, IsPlainWord group := by
    intro group hgroup
    obtain ⟨w, hw, rfl⟩ := List.mem_map.mp hgroup
    obtain ⟨hne, hchars⟩ := mem_words hw
    exact isPlainWord_lowerWord hne fun c hc ↦ ⟨h c (hchars c hc).2, (hchars c hc).1⟩
  have hcapitals : ∀ w ∈ words name.toList, capitalWord (lowerWord w) = capitalWord w :=
    fun w hw ↦ capitalWord_lowerWord fun c hc ↦ ((mem_words_of_ascii h hw).2 c hc).1
  rw [← String.toList_inj, toList_className (toList_identifier name) hplain, List.flatMap_map,
    className, String.toList_ofList, pascalCase]
  exact List.flatMap_congr hcapitals

end Ascii

/-- The identifier of an ASCII name holds the letters and digits of the name, made small, in groups
between single underscores, and leads to the class name that the name itself leads to. -/
theorem identifier_canonical (h : ∀ c ∈ name.toList, c.toNat < 128) :
    IsSnakeCase (identifier name).toList ∧
      (identifier name).toList.filter (· ≠ '_') =
        (name.toList.filter Char.isAlphanum).map Char.toLower ∧
      (identifier name = "" ↔ ∀ c ∈ name.toList, c.isAlphanum = false) ∧
      className (identifier name) = className name ∧
      migrationClass name = "Create" ++ className name ++ "Table" := by
  refine ⟨isSnakeCase_identifier h, filter_identifier h, identifier_eq_empty_iff h,
    className_identifier h, ?_⟩
  rw [migrationClass, className_identifier h]

theorem request_name_canonical :
    (∀ c ∈ "HTTPRequest (to-URL) 2".toList, c.toNat < 128) ∧
      identifier "HTTPRequest (to-URL) 2" = "http_request_to_url_2" ∧
      IsSnakeCase "http_request_to_url_2".toList ∧
      className "http_request_to_url_2" = className "HTTPRequest (to-URL) 2" := by
  have hascii : ∀ c ∈ "HTTPRequest (to-URL) 2".toList, c.toNat < 128 := by simp
  have hname : identifier "HTTPRequest (to-URL) 2" = "http_request_to_url_2" := by decide
  obtain ⟨hgroups, -, -, hclass, -⟩ := identifier_canonical hascii
  rw [hname] at hgroups hclass
  exact ⟨hascii, hname, hgroups, hclass⟩

end DiagramMigrations.Naming
