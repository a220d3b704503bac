import DiagramMigrations.Proofs.Text.CaseMapping
import DiagramMigrations.Proofs.Text.Range

/-!
The case of letters before and after they are lowered. No character is both small and capital;
lowering keeps small letters and whatever else it does not turn into one small letter. The dotted
capital I alone becomes two characters, of which the second one is no letter.
-/

set_option autoImplicit false
set_option relaxedAutoImplicit false

namespace DiagramMigrations.Text

variable {c d : Char} {m n : Nat} {runs : List CodeRun}

/-! ### Shifts -/

/-- The run of the code points that a shift moves. -/
def Shift.source (s : Shift) : CodeRun := (s.first, s.last, s.stride)

/-- The run that a shift moves them to. -/
def Shift.image (s : Shift) : CodeRun := (s.target, s.target + (s.last - s.first), s.stride)

/-- A shift moves the code points of its source to its image. -/
theorem exists_shift_of_shifted? {shifts : List Shift} (h : shifted? shifts n = some m) :
    ∃ s ∈ shifts, s.source.Holds n ∧ s.image.Holds m := by
  obtain ⟨s, hs, hfirst, hlast, hstride, rfl⟩ := shifted?_eq_some h
  refine ⟨s, hs, ⟨hfirst, hlast, hstride⟩, Nat.le_add_right _ _, ?_, ?_⟩
  · change s.target + (n - s.first) ≤ s.target + (s.last - s.first)
    omega
  · change (s.target + (n - s.first) - s.target) % s.stride = 0
    rwa [Nat.add_sub_cancel_left]

/-- Shifts whose images lie on runs lead to members of the runs. -/
theorem inRuns_of_shifted? {shifts : List Shift} (hruns : IsAscending runs)
    (hshifts : (shifts.all fun s ↦ runs.any fun r ↦ s.image.liesOn r) = true)
    (h : shifted? shifts n = some m) : inRuns runs m = true := by
  obtain ⟨s, hs, -, himage⟩ := exists_shift_of_shifted? h
  obtain ⟨r, hr, hlies⟩ := List.any_eq_true.mp (List.all_eq_true.mp hshifts s hs)
  exact inRuns_of_holds hruns hr (himage.of_liesOn hlies)

/-! ### Letters -/

/-- How the tables of letters stand to each other. -/
structure LetterTables : Prop where
  small_ascending : IsAscending lowercaseRuns
  capital_ascending : IsAscending uppercaseRuns
  letter_ascending : IsAscending alphanumericRuns
  source_ascending : IsAscending (lowerShifts.map Shift.source)
  small_apart_capital : areApart lowercaseRuns uppercaseRuns = true
  small_apart_source : areApart lowercaseRuns (lowerShifts.map Shift.source) = true
  small_within_letter : areWithin (lowercaseRuns.flatMap CodeRun.parts) alphanumericRuns = true
  image_small : (lowerShifts.all fun s ↦ lowercaseRuns.any fun r ↦ s.image.liesOn r) = true

/-- The tables are compared once, run by run. -/
theorem letterTables : LetterTables := by
  constructor <;> decide +kernel

/-- No letter is both small and capital. -/
theorem isUppercase_of_isLowercase (h : isLowercase c = true) : isUppercase c = false := by
  have tables := letterTables
  exact inRuns_eq_false_of_areApart tables.small_ascending tables.capital_ascending
    tables.small_apart_capital h

theorem isAlphanumeric_of_isLowercase (h : isLowercase c = true) : isAlphanumeric c = true := by
  have tables := letterTables
  exact inRuns_of_areWithin tables.letter_ascending tables.small_within_letter h

theorem lower_of_ne (h : c ≠ 'İ') :
    lower c = [((shifted? lowerShifts c.toNat).map Char.ofNat).getD c] := by
  have hcode : (c.toNat == 0x130) = false := beq_false_of_ne fun hcode ↦
    h (Char.toNat_inj.mp hcode)
  rw [lower, mapCase, lowerExpansions, List.lookup_cons, hcode]
  cases shifted? lowerShifts c.toNat <;> rfl

/-- Small letters are kept. -/
theorem lower_of_isLowercase (h : isLowercase c = true) : lower c = [c] := by
  have hne : c ≠ 'İ' := by
    rintro rfl
    exact absurd h (by decide)
  have hnone : shifted? lowerShifts c.toNat = none := by
    rw [Option.eq_none_iff_forall_ne_some]
    intro m hm
    obtain ⟨s, hs, hsource, -⟩ := exists_shift_of_shifted? hm
    obtain ⟨r, hr, hholds⟩ := exists_run_of_inRuns h
    have tables := letterTables
    exact not_holds_of_areApart tables.small_ascending tables.source_ascending
      tables.small_apart_source hr (List.mem_map_of_mem hs) hholds hsource
  rw [lower_of_ne hne, hnone]
  rfl

/-- Lowering a character other than the dotted capital I keeps it, or leads to one small letter. -/
theorem exists_lower (h : c ≠ 'İ') : ∃ d, lower c = [d] ∧ (d = c ∨ isLowercase d = true) := by
  refine ⟨_, lower_of_ne h, ?_⟩
  cases hshift : shifted? lowerShifts c.toNat with
  | none => exact Or.inl rfl
  | some m =>
    have hcode : (Char.ofNat m).toNat = m := by
      obtain ⟨s, hs, hfirst, hlast, -, rfl⟩ := shifted?_eq_some hshift
      exact toNat_ofNat_of_isValidChar
        ((staysOnLetters_of_mem_lowerShifts s hs).lettersOnly hfirst hlast).1
    rw [Option.map_some, Option.getD_some, isLowercase, hcode]
    have tables := letterTables
    exact Or.inr (inRuns_of_shifted? tables.small_ascending tables.image_small hshift)

/-- What is lowered is not lowered any further. -/
theorem lower_of_mem_lower (h : d ∈ lower c) : lower d = [d] := by
  by_cases hdotted : c = 'İ'
  · subst c
    have hmem : d ∈ ['i', Char.ofNat 0x307] := h
    simp only [List.mem_cons, List.not_mem_nil, or_false] at hmem
    rcases hmem with rfl | rfl <;> rfl
  · obtain ⟨e, he, hkept⟩ := exists_lower hdotted
    rw [he, List.mem_singleton] at h
    subst d
    rcases hkept with rfl | hsmall
    · exact he
    · exact lower_of_isLowercase hsmall

end DiagramMigrations.Text
