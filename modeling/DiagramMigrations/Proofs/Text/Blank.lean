import DiagramMigrations.Text.Blank
import Mathlib.Data.List.DropRight

/-!
Trimmed texts. What is left of a text between the white space at its ends is not blank, unless there
is nothing left.
-/

set_option autoImplicit false
set_option relaxedAutoImplicit false

namespace DiagramMigrations.Text

variable {c : Char} {cs word rest : List Char}

/-- The characters that break a line: the line feed and its relatives up to the carriage return, the
next line, and the separators of lines and of paragraphs. -/
def isLineBreak (c : Char) : Bool :=
  let n := c.toNat
  (10 ≤ n && n ≤ 13) || n == 0x85 || n == 0x2028 || n == 0x2029

theorem isBlank_of_isLineBreak (h : isLineBreak c = true) : isBlank c = true := by
  simp only [isLineBreak, isBlank, Bool.or_eq_true, Bool.and_eq_true, decide_eq_true_eq,
    beq_iff_eq] at h ⊢
  omega

theorem trimEnd_eq_rdropWhile (cs : List Char) : trimEnd cs = cs.rdropWhile isBlank := rfl

/-- Of nothing but white space, nothing is left. -/
theorem trimEnd_eq_nil_iff : trimEnd cs = [] ↔ ∀ c ∈ cs, isBlank c = true := by
  rw [trimEnd_eq_rdropWhile, List.rdropWhile_eq_nil_iff]

theorem isBlank_head?_trimStart : ∀ c ∈ (trimStart cs).head?, isBlank c = false := by
  intro c hc
  have hfound := List.head?_dropWhile_not isBlank cs
  rw [show cs.dropWhile isBlank = trimStart cs from rfl, Option.mem_def.mp hc] at hfound
  exact hfound

theorem trimEnd_append_of_blank (hword : ∀ c ∈ word, isBlank c = false)
    (hrest : ∀ c ∈ rest, isBlank c = true) : trimEnd (word ++ rest) = word := by
  rw [trimEnd, List.reverse_append,
    List.dropWhile_append_of_pos fun c hc ↦ hrest c (List.mem_reverse.mp hc)]
  cases hback : word.reverse with
  | nil => rw [List.dropWhile_nil, ← hback, List.reverse_reverse]
  | cons c cs =>
    have hc : isBlank c = false := hword c (List.mem_reverse.mp (hback ▸ List.mem_cons_self))
    rw [List.dropWhile_cons_of_neg (by simp [hc]), ← hback, List.reverse_reverse]

theorem trimEnd_append_of_ne_nil (front : List Char) (h : trimEnd rest ≠ []) :
    trimEnd (front ++ rest) = front ++ trimEnd rest := by
  have hback : rest.reverse.dropWhile isBlank ≠ [] := by simpa [trimEnd] using h
  rw [trimEnd, List.reverse_append, List.dropWhile_append, if_neg (by simpa using hback),
    List.reverse_append, List.reverse_reverse, trimEnd]

/-- Behind what trimming the end of a text leaves there is only white space. -/
theorem exists_trimEnd_append (cs : List Char) :
    ∃ rest, cs = trimEnd cs ++ rest ∧ ∀ c ∈ rest, isBlank c = true := by
  refine ⟨cs.rtakeWhile isBlank, List.rdropWhile_append_rtakeWhile.symm, fun c hc ↦ ?_⟩
  exact List.mem_rtakeWhile_imp hc

/-! ### Both ends -/

/-- Whether a text has no white space at its ends. -/
def IsTrimmed (cs : List Char) : Prop :=
  (∀ c ∈ cs.head?, isBlank c = false) ∧ ∀ c ∈ cs.getLast?, isBlank c = false

theorem isTrimmed_trim (cs : List Char) : IsTrimmed (trim cs) := by
  obtain ⟨rest, hrest, -⟩ := exists_trimEnd_append (trimStart cs)
  constructor
  · intro c hc
    have hstart : c ∈ (trimStart cs).head? := hrest ▸ List.mem_head?_append_of_mem_head? hc
    exact isBlank_head?_trimStart c hstart
  · intro c hc
    obtain ⟨hne, rfl⟩ := List.mem_getLast?_eq_getLast hc
    exact Bool.eq_false_iff.mpr (List.rdropWhile_last_not isBlank (trimStart cs) hne)

theorem IsTrimmed.trim_eq (h : IsTrimmed cs) : trim cs = cs := by
  have hstart : trimStart cs = cs := by
    cases cs with
    | nil => rfl
    | cons c cs => exact List.dropWhile_cons_of_neg (Bool.eq_false_iff.mp (h.1 c rfl))
  have hend : trimEnd cs = cs := by
    rw [trimEnd_eq_rdropWhile, List.rdropWhile_eq_self_iff]
    intro hne
    exact Bool.eq_false_iff.mp (h.2 _ (List.getLast?_eq_getLast_of_ne_nil hne))
  rw [trim, hstart, hend]

/-- What stands between two texts without white space at their ends does not matter. -/
theorem IsTrimmed.append (hfront : IsTrimmed word) (hback : IsTrimmed rest) (hword : word ≠ [])
    (hrest : rest ≠ []) (between : List Char) : IsTrimmed (word ++ between ++ rest) := by
  constructor
  · rw [List.append_assoc, List.head?_append_of_ne_nil _ hword]
    exact hfront.1
  · rw [List.getLast?_append_of_ne_nil _ hrest]
    exact hback.2

theorem trim_infix (cs : List Char) : trim cs <:+: cs :=
  (List.rdropWhile_prefix isBlank _).isInfix.trans (List.dropWhile_suffix isBlank).isInfix

theorem trim_eq_nil_of_blank (h : ∀ c ∈ trim cs, isBlank c = true) :
    trim cs = [] := by
  have htrimmed : trimEnd (trim cs) = trim cs := by
    rw [trim, trimEnd_eq_rdropWhile, trimEnd_eq_rdropWhile, List.rdropWhile_idempotent]
  rw [← htrimmed]
  exact trimEnd_eq_nil_iff.mpr h

/-- A trimmed text is blank only if it is empty. -/
theorem isBlankText_trimmed {s : String} (h : trimmed s ≠ "") :
    isBlankText (trimmed s) = false := by
  apply Bool.eq_false_iff.mpr
  intro hblank
  apply h
  have hall : ∀ c ∈ trim s.toList, isBlank c = true := by
    simpa [isBlankText, trimmed] using hblank
  rw [trimmed, trim_eq_nil_of_blank hall]

theorem trimmed_of_isBlankText {s : String} (h : isBlankText s = true) : trimmed s = "" := by
  have hstart : trimStart s.toList = [] :=
    List.dropWhile_eq_nil_iff.mpr (List.all_eq_true.mp h)
  rw [trimmed, trim, hstart]
  rfl

end DiagramMigrations.Text
