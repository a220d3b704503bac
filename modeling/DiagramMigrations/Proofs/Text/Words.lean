import DiagramMigrations.Proofs.Text.Runs
import DiagramMigrations.Text.Words

/-!
The words of a text. A word is never empty, and all words together are the letters and digits of the
text, in order. An underscore parts the words before it from those behind it.
-/

set_option autoImplicit false
set_option relaxedAutoImplicit false

namespace DiagramMigrations.Text

variable {cs run word : List Char} {mode : LetterCase}

/-- A run is cut into words that together are the run. -/
theorem flatten_cutRun (hne : cs ≠ []) : (cutRun mode word cs).flatten = word.reverse ++ cs := by
  induction mode, word, cs using cutRun.induct with
  | case1 => exact absurd rfl hne
  | case2 => simp [cutRun]
  | case3 mode word c next rest hcut ih => simp [cutRun, hcut, ih]
  | case4 mode word c next rest hcut hlast ih =>
    rw [cutRun, if_neg hcut, if_pos hlast]
    simp [ih]
  | case5 mode word c next rest hcut hlast ih =>
    rw [cutRun, if_neg hcut, if_neg hlast]
    simp [ih]

/-- No word is empty: after a capital there is one to be ended. -/
theorem ne_nil_of_mem_cutRun (hmode : mode = .capital → word ≠ [])
    (h : run ∈ cutRun mode word cs) : run ≠ [] := by
  induction mode, word, cs using cutRun.induct with
  | case1 => simp [cutRun] at h
  | case2 => simp_all [cutRun]
  | case3 mode word c next rest hcut ih =>
    rw [cutRun, if_pos hcut] at h
    rcases List.mem_cons.mp h with rfl | h
    · simp
    · exact ih (by simp) h
  | case4 mode word c next rest hcut hlast ih =>
    rw [cutRun, if_neg hcut, if_pos hlast] at h
    rcases List.mem_cons.mp h with rfl | h
    · simpa using hmode hlast.1
    · exact ih (by simp) h
  | case5 mode word c next rest hcut hlast ih =>
    rw [cutRun, if_neg hcut, if_neg hlast] at h
    exact ih (by simp) h

/-- The words together have all letters and digits of the text, in order. -/
theorem flatten_words (cs : List Char) : (words cs).flatten = cs.filter isAlphanumeric := by
  have hcut : ∀ run ∈ runsOf isAlphanumeric cs, (cutRun .fresh [] run).flatten = run :=
    fun run hrun ↦ flatten_cutRun (mem_runsOf hrun).1
  rw [words, List.flatMap_def, List.flatten_flatten, List.map_map, ← flatten_runsOf]
  exact congrArg List.flatten ((List.map_congr_left hcut).trans (List.map_id _))

/-- A word is made of letters and digits of the text, and there is one at least. -/
theorem mem_words (h : word ∈ words cs) :
    word ≠ [] ∧ ∀ c ∈ word, isAlphanumeric c = true ∧ c ∈ cs := by
  obtain ⟨run, hrun, hword⟩ := List.mem_flatMap.mp h
  refine ⟨ne_nil_of_mem_cutRun (by simp) hword, fun c hc ↦ ?_⟩
  have hmem : c ∈ cs.filter isAlphanumeric := flatten_words cs ▸ List.mem_flatten_of_mem h hc
  exact (List.mem_filter.mp hmem).symm

theorem words_ne_nil (h : ∃ c ∈ cs, isAlphanumeric c = true) : words cs ≠ [] := by
  intro hnil
  have hnone : cs.filter isAlphanumeric = [] := by rw [← flatten_words, hnil, List.flatten_nil]
  obtain ⟨c, hc, halnum⟩ := h
  exact List.filter_eq_nil_iff.mp hnone c hc halnum

/-- The words of a text of parts between underscores are those of its parts. -/
theorem words_intercalate_eq (parts : List (List Char)) :
    words (['_'].intercalate parts) = parts.flatMap words := by
  induction parts with
  | nil => rfl
  | cons part parts ih =>
    cases parts with
    | nil => rw [List.intercalate_singleton, List.flatMap_singleton]
    | cons next parts =>
      rw [List.intercalate_cons_cons, List.append_assoc, List.singleton_append, words,
        runsOf_append_cons (by decide), List.flatMap_append, ← words, ← words, ih,
        ← List.flatMap_cons]

end DiagramMigrations.Text
