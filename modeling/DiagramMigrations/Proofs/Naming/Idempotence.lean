import DiagramMigrations.Proofs.Naming.Characters
import DiagramMigrations.Proofs.Text.Boundaries

/-!
Identifiers of identifiers. The identifier of a name is its own identifier unless the words that it
is made of are cut once more. There are two ways to that: the small form of the dotted capital I ends
in a mark that is no letter, and some capitals have no small form, so that they stand in an
identifier among the small letters.
-/

set_option autoImplicit false
set_option relaxedAutoImplicit false

namespace DiagramMigrations.Naming

open Text LetterCase

/-- The case of a character in an identifier: a capital stays one only without a small form. -/
def loweredCase (c : Char) : LetterCase :=
  if lower c = [c] then caseOf c else small

/-- Whether a word of a name remains one word in the identifier: it has no dotted capital I, and the
capitals that remain are not where words are cut. -/
structure Settles (w : List Char) : Prop where
  undotted : 'İ' ∉ w
  uncut : Uncut (w.map loweredCase)

variable {c d : Char} {w : List Char} {vs : List (List Char)} {name : String}

/-! ### Words that are lowered twice -/

theorem lower_of_mem_lowerWord (h : d ∈ lowerWord w) : lower d = [d] := by
  rcases mem_lowerWord h with rfl | ⟨c, -, hd⟩
  · rfl
  · exact lower_of_mem_lower hd

/-- Lowering leaves letters and digits, but for the dotted capital I. -/
theorem isAlphanumeric_of_mem_lowerWord (hdotted : 'İ' ∉ w)
    (hw : ∀ c ∈ w, isAlphanumeric c = true) (h : d ∈ lowerWord w) : isAlphanumeric d = true := by
  rcases mem_lowerWord h with rfl | ⟨c, hc, hd⟩
  · rfl
  · obtain ⟨e, he, hkept⟩ := exists_lower (ne_of_mem_of_not_mem hc hdotted)
    rw [he, List.mem_singleton] at hd
    subst d
    exact hkept.elim (fun h ↦ h ▸ hw c hc) isAlphanumeric_of_isLowercase

theorem map_caseOf_lower (h : c ≠ 'İ') : (lower c).map caseOf = [loweredCase c] := by
  obtain ⟨d, hd, hkept⟩ := exists_lower h
  by_cases hdc : d = c
  · rw [loweredCase, if_pos (by rw [hd, hdc]), hd, hdc, List.map_singleton]
  · have hsmall := isLowercase_iff.mp (hkept.resolve_left hdc)
    rw [loweredCase, if_neg (by simpa [hd] using hdc), hd, List.map_singleton, hsmall]

theorem map_caseOf_lowerWord (h : 'İ' ∉ w) : (lowerWord w).map caseOf = w.map loweredCase := by
  induction w using lowerWord.induct with
  | case1 => rfl
  | case2 => rfl
  | case3 c hc =>
    rw [lowerWord, if_neg hc, map_caseOf_lower (List.ne_of_not_mem_cons h).symm, List.map_singleton]
  | case4 c rest hrest ih =>
    rw [lowerWord, List.map_append, map_caseOf_lower (List.ne_of_not_mem_cons h).symm,
      ih (List.not_mem_of_not_mem_cons h)]
    · rfl
    · exact hrest

theorem mem_lowerWord_of_mem_lower (hc : c ∈ w) (hsigma : c ≠ 'Σ') (h : d ∈ lower c) :
    d ∈ lowerWord w := by
  induction w using lowerWord.induct with
  | case1 => cases hc
  | case2 => exact absurd (List.mem_singleton.mp hc) hsigma
  | case3 e he =>
    rw [lowerWord, if_neg he, ← List.mem_singleton.mp hc]
    exact h
  | case4 e rest hrest ih =>
    rw [lowerWord]
    · rcases List.mem_cons.mp hc with rfl | hlater
      · exact List.mem_append_left _ h
      · exact List.mem_append_right _ (ih hlater)
    · exact hrest

/-- A lowered word has a letter or digit, whatever becomes of the others. -/
theorem exists_alphanumeric_mem_lowerWord (hne : w ≠ []) (hw : ∀ c ∈ w, isAlphanumeric c = true) :
    ∃ d ∈ lowerWord w, isAlphanumeric d = true := by
  by_cases hdotted : 'İ' ∈ w
  · have hmem : 'i' ∈ lowerWord w :=
      mem_lowerWord_of_mem_lower hdotted (by decide) List.mem_cons_self
    exact ⟨'i', hmem, rfl⟩
  · have hsome : lowerWord w ≠ [] := by
      intro hnil
      have hcases := map_caseOf_lowerWord hdotted
      rw [hnil] at hcases
      exact hne (List.map_eq_nil_iff.mp hcases.symm)
    obtain ⟨d, hd⟩ := List.exists_mem_of_ne_nil _ hsome
    exact ⟨d, hd, isAlphanumeric_of_mem_lowerWord hdotted hw hd⟩

/-- A word is one word again after it is lowered exactly if it settles. -/
theorem words_lowerWord_eq_singleton_iff (hne : w ≠ []) (hw : ∀ c ∈ w, isAlphanumeric c = true) :
    words (lowerWord w) = [lowerWord w] ↔ Settles w := by
  rw [words_eq_singleton_iff]
  constructor
  · rintro ⟨-, halnum, huncut⟩
    -- the dotted capital I leaves a mark that is neither letter nor digit
    have hdotted : 'İ' ∉ w := fun h ↦ by
      have hmark : Char.ofNat 0x307 ∈ lowerWord w :=
        mem_lowerWord_of_mem_lower h (by decide) (List.mem_cons_of_mem _ List.mem_cons_self)
      exact absurd (halnum _ hmark) Bool.false_ne_true
    exact ⟨hdotted, map_caseOf_lowerWord hdotted ▸ huncut⟩
  · rintro ⟨hdotted, huncut⟩
    obtain ⟨d, hd, -⟩ := exists_alphanumeric_mem_lowerWord hne hw
    exact ⟨List.ne_nil_of_mem hd, fun d ↦ isAlphanumeric_of_mem_lowerWord hdotted hw,
      (map_caseOf_lowerWord hdotted).symm ▸ huncut⟩

/-! ### Identifiers that are derived twice -/

/-- Words in lower case are an identifier of their own exactly if none of them is cut. -/
theorem identifier_eq_self_iff (hname : name.toList = ['_'].intercalate vs)
    (hvs : ∀ v ∈ vs, words v ≠ [] ∧ ∀ c ∈ v, lower c = [c] ∧ c ≠ '_') :
    identifier name = name ↔ ∀ v ∈ vs, words v = [v] := by
  have hsome : ∀ v ∈ vs, words v ≠ [] := fun v hv ↦ (hvs v hv).1
  have hchars : ∀ u ∈ vs.flatMap words, ∀ c ∈ u, lower c = [c] ∧ c ≠ '_' := by
    intro u hu c hc
    obtain ⟨v, hv, huv⟩ := List.mem_flatMap.mp hu
    exact (hvs v hv).2 c ((mem_words huv).2 c hc).2
  have hkept : (vs.flatMap words).map lowerWord = vs.flatMap words :=
    map_eq_self_iff.mpr fun u hu ↦ lowerWord_of_kept fun c hc ↦ (hchars u hu c hc).1
  rw [← flatMap_eq_self_iff hsome, ← String.toList_inj, toList_identifier, hname,
    words_intercalate_eq, hkept]
  refine ⟨fun h ↦ ?_, congrArg _⟩
  by_cases hempty : vs = []
  · subst hempty
    rfl
  · have hwords : vs.flatMap words ≠ [] := List.length_pos_iff.mp
      ((List.length_pos_iff.mpr hempty).trans_le (length_le_length_flatMap hsome))
    rw [← List.splitOn_intercalate '_' (fun u hu hmem ↦ (hchars u hu _ hmem).2 rfl) hwords, h,
      List.splitOn_intercalate '_' (fun v hv hmem ↦ ((hvs v hv).2 _ hmem).2 rfl) hempty]

/-- The identifier of a name is its own identifier exactly if all words of the name settle. -/
theorem identifier_idempotent_iff (name : String) :
    identifier (identifier name) = identifier name ↔ ∀ w ∈ words name.toList, Settles w := by
  have hlowered : ∀ v ∈ (words name.toList).map lowerWord,
      words v ≠ [] ∧ ∀ c ∈ v, lower c = [c] ∧ c ≠ '_' := by
    intro v hv
    obtain ⟨w, hw, rfl⟩ := List.mem_map.mp hv
    obtain ⟨hne, hchars⟩ := mem_words hw
    have halnum : ∀ c ∈ w, isAlphanumeric c = true := fun c hc ↦ (hchars c hc).1
    refine ⟨words_ne_nil (exists_alphanumeric_mem_lowerWord hne halnum), fun c hc ↦
      ⟨lower_of_mem_lowerWord hc, ?_⟩⟩
    rintro rfl
    exact absurd (isAlphanum_of_mem_lowerWord halnum hc (by decide)) (by decide)
  rw [identifier_eq_self_iff (toList_identifier name) hlowered, List.forall_mem_map]
  refine forall₂_congr fun w hw ↦ ?_
  obtain ⟨hne, hchars⟩ := mem_words hw
  exact words_lowerWord_eq_singleton_iff hne fun c hc ↦ (hchars c hc).1

/-- If every capital of a name has a small form, of one character, its identifier is settled. -/
theorem identifier_idempotent_of_small
    (h : ∀ c ∈ name.toList, c ≠ 'İ' ∧ (isUppercase c = true → lower c ≠ [c])) :
    identifier (identifier name) = identifier name := by
  rw [identifier_idempotent_iff]
  intro w hw
  have hchars : ∀ c ∈ w, c ≠ 'İ' ∧ (isUppercase c = true → lower c ≠ [c]) :=
    fun c hc ↦ h c ((mem_words hw).2 c hc).2
  refine ⟨fun hdotted ↦ (hchars _ hdotted).1 rfl, uncut_of_notMem fun hcapital ↦ ?_⟩
  obtain ⟨c, hc, hcase⟩ := List.mem_map.mp hcapital
  rw [loweredCase] at hcase
  split_ifs at hcase with hkept
  exact (hchars c hc).2 (isUppercase_iff.mpr hcase) hkept

/-- The small form of the dotted capital I is cut behind its first character, and a capital without a
small form begins a word once it stands behind a small letter. -/
theorem identifier_cut_again :
    identifier "İstanbul" = "i\u0307stanbul" ∧
      identifier (identifier "İstanbul") ≠ identifier "İstanbul" ∧
      identifier "A𝐀" = "a𝐀" ∧ identifier (identifier "A𝐀") ≠ identifier "A𝐀" := by
  decide +kernel

end DiagramMigrations.Naming
