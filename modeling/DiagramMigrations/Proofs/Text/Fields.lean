import DiagramMigrations.Proofs.Text.Blank
import DiagramMigrations.Proofs.Text.Runs

/-!
The fields of a text, the runs without white space. The first field is what stands before the first
white space of a text that does not begin with any, and a text has a single field exactly if
trimming it leaves no white space. The fields joined by blanks are the text with every run of white
space replaced by a blank, and none at its ends.
-/

set_option autoImplicit false
set_option relaxedAutoImplicit false

namespace DiagramMigrations.Text

variable {c : Char} {cs word rest : List Char}

theorem fields_eq (cs : List Char) :
    fields cs = (cs.splitOnP isBlank).filter fun run ↦ !run.isEmpty := by
  simp only [fields, runsOf, Bool.not_not]

theorem fields_nil : fields [] = [] := rfl

theorem fields_cons_of_blank (h : isBlank c = true) : fields (c :: cs) = fields cs := by
  rw [fields_eq, fields_eq, List.splitOnP_cons_eq_if_modifyHead, if_pos h]
  rfl

theorem fields_trimStart (cs : List Char) : fields (trimStart cs) = fields cs := by
  induction cs with
  | nil => rfl
  | cons c cs ih =>
    by_cases hblank : isBlank c = true
    · rw [fields_cons_of_blank hblank, ← ih, trimStart, List.dropWhile_cons_of_pos hblank]
      rfl
    · rw [trimStart, List.dropWhile_cons_of_neg hblank]

/-- What stands before the first white space is a field. -/
theorem fields_append (hword : ∀ c ∈ word, isBlank c = false) (hne : word ≠ [])
    (hrest : ∀ c ∈ rest.head?, isBlank c = true) : fields (word ++ rest) = word :: fields rest := by
  have hkept : (!word.isEmpty) = true := by simpa using hne
  cases rest with
  | nil =>
    rw [List.append_nil, fields_eq, List.splitOnP_eq_singleton hword, fields_nil]
    exact List.filter_cons_of_pos hkept
  | cons c rest =>
    have hc := hrest c rfl
    rw [fields_cons_of_blank hc, fields_eq, fields_eq,
      List.splitOnP_append_cons_of_forall_mem hword _ hc]
    exact List.filter_cons_of_pos hkept

/-- A text that is not blank begins, behind the white space at its front, with its first field. -/
theorem exists_first_field (h : trimStart cs ≠ []) :
    ∃ word rest, trimStart cs = word ++ rest ∧ word ≠ [] ∧ (∀ c ∈ word, isBlank c = false) ∧
      (∀ c ∈ rest.head?, isBlank c = true) ∧ fields cs = word :: fields rest := by
  let word := (trimStart cs).takeWhile fun c ↦ !isBlank c
  let rest := (trimStart cs).dropWhile fun c ↦ !isBlank c
  have hsplit : trimStart cs = word ++ rest := List.takeWhile_append_dropWhile.symm
  have hword : ∀ c ∈ word, isBlank c = false := fun c hc ↦ by
    simpa using List.mem_takeWhile_imp hc
  have hrest : ∀ c ∈ rest.head?, isBlank c = true := by
    intro c hc
    have hfound := List.head?_dropWhile_not (fun c ↦ !isBlank c) (trimStart cs)
    rw [show (trimStart cs).dropWhile (fun c ↦ !isBlank c) = rest from rfl,
      Option.mem_def.mp hc] at hfound
    simpa using hfound
  have hne : word ≠ [] := by
    intro hnil
    obtain ⟨c, tail, hcons⟩ := List.exists_cons_of_ne_nil h
    have hfalse := isBlank_head?_trimStart c (by rw [hcons]; rfl)
    have htrue := hrest c (by rw [← List.nil_append rest, ← hnil, ← hsplit, hcons]; rfl)
    exact absurd (hfalse.symm.trans htrue) (by decide)
  refine ⟨word, rest, hsplit, hne, hword, hrest, ?_⟩
  rw [← fields_trimStart, hsplit, fields_append hword hne hrest]

theorem fields_eq_nil_iff : fields cs = [] ↔ ∀ c ∈ cs, isBlank c = true := by
  rw [← List.dropWhile_eq_nil_iff]
  constructor
  · intro hnil
    by_contra hne
    obtain ⟨word, rest, -, -, -, -, hfields⟩ := exists_first_field hne
    exact absurd (hfields.symm.trans hnil) (List.cons_ne_nil _ _)
  · intro hblank
    rw [← fields_trimStart, trimStart, hblank, fields_nil]

/-- Behind the first field of a text stand the others. -/
theorem exists_rest_of_fields {others : List (List Char)} (h : fields cs = word :: others) :
    ∃ rest, trimStart cs = word ++ rest ∧ (∀ c ∈ word, isBlank c = false) ∧
      (∀ c ∈ rest.head?, isBlank c = true) ∧ fields rest = others := by
  have hsome : trimStart cs ≠ [] := by
    intro hnil
    rw [← fields_trimStart, hnil, fields_nil] at h
    exact absurd h (List.cons_ne_nil _ _).symm
  obtain ⟨first, rest, hsplit, -, hword, hhead, hfirst⟩ := exists_first_field hsome
  obtain ⟨rfl, hothers⟩ := List.cons_eq_cons.mp (hfirst.symm.trans h)
  exact ⟨rest, hsplit, hword, hhead, hothers⟩

/-- A word without white space is the only field of exactly the texts that trimming leaves it of. -/
theorem fields_eq_singleton_iff (hword : ∀ c ∈ word, isBlank c = false) (hne : word ≠ []) :
    fields cs = [word] ↔ trim cs = word := by
  constructor
  · intro hfields
    obtain ⟨rest, hsplit, -, -, hrest⟩ := exists_rest_of_fields hfields
    rw [trim, hsplit, trimEnd_append_of_blank hword (fields_eq_nil_iff.mp hrest)]
  · intro htrim
    obtain ⟨rest, hsplit, hrest⟩ := exists_trimEnd_append (trimStart cs)
    have hhead : ∀ c ∈ rest.head?, isBlank c = true := fun c hc ↦
      hrest c (List.mem_of_mem_head? hc)
    rw [← fields_trimStart, hsplit, show trimEnd (trimStart cs) = word from htrim,
      fields_append hword hne hhead, fields_eq_nil_iff.mpr hrest]

theorem mem_fields (h : word ∈ fields cs) : word ≠ [] ∧ ∀ c ∈ word, isBlank c = false := by
  obtain ⟨hne, hchars⟩ := mem_runsOf h
  exact ⟨hne, fun c hc ↦ by simpa using (hchars c hc).1⟩

/-- Words without white space are the fields of the text that joins them by blanks. -/
theorem fields_intercalate {words : List (List Char)}
    (hwords : ∀ word ∈ words, word ≠ [] ∧ ∀ c ∈ word, isBlank c = false) :
    fields ([' '].intercalate words) = words := by
  refine runsOf_intercalate (by decide) fun word hword ↦ ⟨(hwords word hword).1, fun c hc ↦ ?_⟩
  rw [(hwords word hword).2 c hc, Bool.not_false]

/-! ### Runs of white space -/

/-- A text with a single blank in the place of every run of white space. -/
def squeeze : List Char → List Char
  | [] => []
  | c :: rest =>
    if isBlank c then if rest.head?.any isBlank then squeeze rest else ' ' :: squeeze rest
    else c :: squeeze rest

theorem squeeze_append (hword : ∀ c ∈ word, isBlank c = false) (rest : List Char) :
    squeeze (word ++ rest) = word ++ squeeze rest := by
  induction word with
  | nil => rfl
  | cons c word ih =>
    rw [List.cons_append, squeeze, if_neg (by simp [hword c List.mem_cons_self]),
      ih fun d hd ↦ hword d (List.mem_cons_of_mem _ hd), List.cons_append]

/-- The white space at the front of a text becomes one blank. -/
theorem squeeze_cons_of_blank (h : isBlank c = true) :
    squeeze (c :: cs) = ' ' :: squeeze (trimStart cs) := by
  induction cs generalizing c with
  | nil => simp [squeeze, h, trimStart]
  | cons d cs ih =>
    rw [squeeze, if_pos h, List.head?_cons, Option.any_some]
    by_cases hd : isBlank d = true
    · rw [if_pos hd, ih hd, trimStart, trimStart, List.dropWhile_cons_of_pos hd]
    · rw [if_neg hd, trimStart, List.dropWhile_cons_of_neg hd]

theorem trimStart_squeeze (cs : List Char) : trimStart (squeeze cs) = squeeze (trimStart cs) := by
  induction cs with
  | nil => rfl
  | cons c cs ih =>
    by_cases hc : isBlank c = true
    · have hblank : isBlank ' ' = true := by decide
      have hidem : trimStart (trimStart (squeeze cs)) = trimStart (squeeze cs) :=
        List.dropWhile_idempotent ..
      rw [squeeze_cons_of_blank hc, ← ih, trimStart, List.dropWhile_cons_of_pos hblank,
        show trimStart (c :: cs) = trimStart cs from List.dropWhile_cons_of_pos hc, ← ih]
      exact hidem
    · rw [squeeze, if_neg hc, trimStart, List.dropWhile_cons_of_neg hc, trimStart,
        List.dropWhile_cons_of_neg hc, squeeze, if_neg hc]

theorem mem_squeeze (h : c ∈ squeeze cs) : c = ' ' ∨ c ∈ cs := by
  induction cs with
  | nil => exact absurd h List.not_mem_nil
  | cons d cs ih =>
    have hlater (h : c ∈ squeeze cs) : c = ' ' ∨ c ∈ d :: cs :=
      (ih h).imp_right (List.mem_cons_of_mem d)
    rw [squeeze] at h
    split_ifs at h
    · exact hlater h
    · exact (List.mem_cons.mp h).elim Or.inl hlater
    · exact (List.mem_cons.mp h).elim (fun heq ↦ Or.inr (heq ▸ List.mem_cons_self)) hlater

/-- The fields of a text, joined by blanks, are the text with every run of white space replaced by
a blank, trimmed. -/
theorem intercalate_fields (cs : List Char) :
    [' '].intercalate (fields cs) = trim (squeeze cs) := by
  rw [trim, trimStart_squeeze]
  induction hfields : fields cs generalizing cs with
  | nil =>
    have hstart : trimStart cs = [] := List.dropWhile_eq_nil_iff.mpr (fields_eq_nil_iff.mp hfields)
    rw [hstart]
    rfl
  | cons word others ih =>
    obtain ⟨rest, hsplit, hword, hhead, hothers⟩ := exists_rest_of_fields hfields
    rw [hsplit, squeeze_append hword]
    have hrest := ih rest hothers
    rcases others with - | ⟨next, others⟩
    · have hblank : ∀ c ∈ squeeze rest, isBlank c = true := by
        intro c hc
        rcases mem_squeeze hc with rfl | hc
        · rfl
        · exact fields_eq_nil_iff.mp hothers c hc
      rw [List.intercalate_singleton, trimEnd_append_of_blank hword hblank]
    · have hne : trimEnd (squeeze (trimStart rest)) ≠ [] := by
        have hnext : next ≠ [] := (mem_fields (hothers ▸ List.mem_cons_self)).1
        rw [← hrest]
        cases others <;> simp [hnext]
      obtain ⟨c, rest, rfl⟩ := List.exists_cons_of_ne_nil fun hnil : rest = [] ↦
        absurd (hnil ▸ hothers) (List.cons_ne_nil _ _).symm
      have hc : isBlank c = true := hhead c rfl
      rw [show trimStart (c :: rest) = trimStart rest from List.dropWhile_cons_of_pos hc] at hrest hne
      rw [squeeze_cons_of_blank hc, List.intercalate_cons_cons, hrest,
        List.append_cons word ' ' (squeeze _), trimEnd_append_of_ne_nil _ hne]

end DiagramMigrations.Text
