import DiagramMigrations.Naming
import DiagramMigrations.Proofs.Lists
import DiagramMigrations.Proofs.Text.CaseMapping
import DiagramMigrations.Proofs.Text.Words

/-!
The ASCII characters of names. Whatever a display name holds, class names come without separators,
and identifiers have no separator but the underscore.
-/

set_option autoImplicit false
set_option relaxedAutoImplicit false

namespace DiagramMigrations.Naming

open Text

variable {w : List Char} {d : Char} {name : String}

/-- A lowered word has the lower case of its characters, and perhaps a final sigma. -/
theorem mem_lowerWord (h : d ∈ lowerWord w) : d = 'ς' ∨ ∃ c ∈ w, d ∈ lower c := by
  induction w using lowerWord.induct with
  | case1 => simp [lowerWord] at h
  | case2 =>
    rw [lowerWord, if_pos rfl, List.mem_singleton] at h
    exact Or.inl h
  | case3 c hc =>
    rw [lowerWord, if_neg hc] at h
    exact Or.inr ⟨c, List.mem_cons_self, h⟩
  | case4 c rest hrest ih =>
    rw [lowerWord] at h
    · rcases List.mem_append.mp h with hfirst | hlater
      · exact Or.inr ⟨c, List.mem_cons_self, hfirst⟩
      · exact (ih hlater).imp_right fun ⟨e, he, hd⟩ ↦ ⟨e, List.mem_cons_of_mem _ he, hd⟩
    · exact hrest

theorem lowerWord_of_kept (h : ∀ c ∈ w, lower c = [c]) : lowerWord w = w := by
  induction w using lowerWord.induct with
  | case1 => rfl
  | case2 => exact absurd (h 'Σ' List.mem_cons_self) (by decide)
  | case3 c hc =>
    rw [lowerWord, if_neg hc]
    exact h c List.mem_cons_self
  | case4 c rest hrest ih =>
    rw [lowerWord, h c List.mem_cons_self, ih fun d hd ↦ h d (List.mem_cons_of_mem _ hd)]
    · rfl
    · exact hrest

theorem isAlphanum_of_mem_lowerWord (hw : ∀ c ∈ w, isAlphanumeric c = true) (h : d ∈ lowerWord w)
    (hd : d.toNat < 128) : d.isAlphanum = true := by
  rcases mem_lowerWord h with rfl | ⟨c, hc, hmem⟩
  · exact absurd hd (by decide)
  · rcases eq_or_isAlpha_of_mem_lower hmem hd with rfl | halpha
    · exact isAlphanum_of_isAlphanumeric (hw _ hc) hd
    · rw [Char.isAlphanum, halpha, Bool.true_or]

theorem isAlphanum_of_mem_capitalWord (hw : ∀ c ∈ w, isAlphanumeric c = true)
    (h : d ∈ capitalWord w) (hd : d.toNat < 128) : d.isAlphanum = true := by
  cases w with
  | nil => exact absurd h List.not_mem_nil
  | cons c rest =>
    rcases List.mem_append.mp h with hfirst | hlater
    · rcases eq_or_isAlpha_of_mem_upper hfirst hd with rfl | halpha
      · exact isAlphanum_of_isAlphanumeric (hw _ List.mem_cons_self) hd
      · rw [Char.isAlphanum, halpha, Bool.true_or]
    · exact isAlphanum_of_mem_lowerWord (fun e he ↦ hw e (List.mem_cons_of_mem _ he)) hlater hd

/-- The ASCII characters of a class name are letters and digits. -/
theorem isAlphanum_of_mem_className (h : d ∈ (className name).toList) (hd : d.toNat < 128) :
    d.isAlphanum = true := by
  rw [className, String.toList_ofList, pascalCase] at h
  obtain ⟨w, hw, hmem⟩ := List.mem_flatMap.mp h
  exact isAlphanum_of_mem_capitalWord (fun c hc ↦ ((mem_words hw).2 c hc).1) hmem hd

/-- An identifier is made of the lowered words, with underscores between them. -/
theorem toList_identifier (name : String) :
    (identifier name).toList = ['_'].intercalate ((words name.toList).map lowerWord) := by
  rw [identifier, String.toList_ofList, snakeCase]
  refine List.filter_eq_self.mpr fun d hd ↦ decide_eq_true ?_
  rintro rfl
  rcases mem_of_mem_intercalate hd with hunderscore | ⟨v, hv, hmem⟩
  · exact absurd (List.mem_singleton.mp hunderscore) (by decide)
  · obtain ⟨w, hw, rfl⟩ := List.mem_map.mp hv
    have hblank := isAlphanum_of_mem_lowerWord (fun c hc ↦ ((mem_words hw).2 c hc).1) hmem
    exact absurd (hblank (by decide)) (by decide)

/-- The ASCII characters of an identifier are letters, digits and underscores. -/
theorem isAlphanum_of_mem_identifier (h : d ∈ (identifier name).toList) (hd : d.toNat < 128)
    (hne : d ≠ '_') : d.isAlphanum = true := by
  rw [toList_identifier] at h
  rcases mem_of_mem_intercalate h with hunderscore | ⟨v, hv, hmem⟩
  · exact absurd (List.mem_singleton.mp hunderscore) hne
  · obtain ⟨w, hw, rfl⟩ := List.mem_map.mp hv
    exact isAlphanum_of_mem_lowerWord (fun c hc ↦ ((mem_words hw).2 c hc).1) hmem hd

theorem notMem_className (hd : d.toNat < 128) (hsep : d.isAlphanum = false) :
    d ∉ (className name).toList := fun h ↦
  Bool.false_ne_true (hsep.symm.trans (isAlphanum_of_mem_className h hd))

theorem slash_notMem_identifier (name : String) : '/' ∉ (identifier name).toList := fun h ↦
  absurd (isAlphanum_of_mem_identifier h (by decide) (by decide)) (by decide)

end DiagramMigrations.Naming
