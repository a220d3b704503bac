import DiagramMigrations.Text.CaseMapping
import DiagramMigrations.Text.Words
import Mathlib.Tactic.Common

/-!
The ASCII characters of mapped texts. The tables of case mapping lead to letters wherever they lead
to ASCII, so that neither form of a letter or a digit brings in a separator.
-/

set_option autoImplicit false
set_option relaxedAutoImplicit false

namespace DiagramMigrations.Text

variable {c d : Char} {m n : Nat} {s : Shift} {shifts : List Shift}
  {expansions : List (Nat × List Nat)}

/-- What holds of the first 128 code points holds of every ASCII character. -/
theorem forall_ascii {p : Char → Prop} (h : ∀ n < 128, p (Char.ofNat n)) (hc : c.toNat < 128) :
    p c := by
  have hcode := h c.toNat hc
  rwa [Char.ofNat_toNat] at hcode

theorem isAlphanumeric_of_ascii (hc : c.toNat < 128) : isAlphanumeric c = c.isAlphanum :=
  forall_ascii (p := fun c ↦ isAlphanumeric c = c.isAlphanum) (by decide) hc

theorem isAlphanum_of_isAlphanumeric (h : isAlphanumeric c = true) (hc : c.toNat < 128) :
    c.isAlphanum = true := by
  rwa [← isAlphanumeric_of_ascii hc]

/-- Whether a code point is that of a character, and of a letter if it is ASCII. -/
def LettersOnly (n : Nat) : Prop :=
  n.isValidChar ∧ (n < 128 → (Char.ofNat n).isAlpha = true)

theorem toNat_ofNat_of_isValidChar (h : n.isValidChar) : (Char.ofNat n).toNat = n := by
  unfold Char.ofNat
  rw [dif_pos h]
  rfl

/-- Whether a shift leads into one of the ASCII alphabets, or to characters beyond ASCII. -/
def Shift.StaysOnLetters (s : Shift) : Prop :=
  let last := s.target + (s.last - s.first)
  0x41 ≤ s.target ∧ last ≤ 0x5A ∨ 0x61 ≤ s.target ∧ last ≤ 0x7A ∨
    128 ≤ s.target ∧ last < 0xD800 ∨ 0xDFFF < s.target ∧ last < 0x110000

instance (s : Shift) : Decidable s.StaysOnLetters :=
  inferInstanceAs (Decidable (_ ∨ _))

theorem shifted?_eq_some (h : shifted? shifts n = some m) :
    ∃ s ∈ shifts, s.first ≤ n ∧ n ≤ s.last ∧ (n - s.first) % s.stride = 0 ∧
      m = s.target + (n - s.first) := by
  induction shifts with
  | nil => cases h
  | cons s rest ih =>
    unfold shifted? at h
    split_ifs at h with hbelow hinside
    · obtain ⟨hlast, hstride⟩ := Bool.and_eq_true_iff.mp hinside
      exact ⟨s, List.mem_cons_self, Nat.le_of_not_lt hbelow, of_decide_eq_true hlast,
        beq_iff_eq.mp hstride, (Option.some.inj h).symm⟩
    · obtain ⟨found, hfound, hbounds⟩ := ih h
      exact ⟨found, List.mem_cons_of_mem _ hfound, hbounds⟩

theorem Shift.StaysOnLetters.lettersOnly (hs : s.StaysOnLetters) (hfirst : s.first ≤ n)
    (hlast : n ≤ s.last) : LettersOnly (s.target + (n - s.first)) := by
  generalize hm : s.target + (n - s.first) = m
  have hletters : ∀ k < 128, 0x41 ≤ k ∧ k ≤ 0x5A ∨ 0x61 ≤ k ∧ k ≤ 0x7A →
      (Char.ofNat k).isAlpha = true := by decide
  unfold Shift.StaysOnLetters at hs
  constructor
  · unfold Nat.isValidChar
    omega
  · intro hascii
    exact hletters m hascii (by omega)

/-- Case mapping keeps a character or leads to letters, as far as its tables do. -/
theorem eq_or_isAlpha_of_mem_mapCase (hshifts : ∀ s ∈ shifts, s.StaysOnLetters)
    (hexpansions : ∀ e ∈ expansions, ∀ n ∈ e.2, LettersOnly n) (h : d ∈ mapCase expansions shifts c)
    (hd : d.toNat < 128) : d = c ∨ d.isAlpha = true := by
  have hletter : ∀ n, LettersOnly n → d = Char.ofNat n → d = c ∨ d.isAlpha = true := by
    rintro n ⟨hvalid, hascii⟩ rfl
    exact Or.inr (hascii (toNat_ofNat_of_isValidChar hvalid ▸ hd))
  unfold mapCase at h
  cases hexpansion : expansions.lookup c.toNat with
  | some codes =>
    rw [hexpansion] at h
    obtain ⟨n, hn, rfl⟩ := List.mem_map.mp h
    obtain ⟨before, after, rfl, -⟩ := List.lookup_eq_some_iff.mp hexpansion
    exact hletter n (hexpansions _ (List.mem_append_right _ List.mem_cons_self) n hn) rfl
  | none =>
    rw [hexpansion] at h
    cases hshift : shifted? shifts c.toNat with
    | none =>
      rw [hshift] at h
      exact Or.inl (List.mem_singleton.mp h)
    | some n =>
      rw [hshift] at h
      obtain ⟨s, hs, hfirst, hlast, -, rfl⟩ := shifted?_eq_some hshift
      exact hletter _ ((hshifts s hs).lettersOnly hfirst hlast) (List.mem_singleton.mp h)

theorem staysOnLetters_of_mem_lowerShifts : ∀ s ∈ lowerShifts, s.StaysOnLetters := by
  decide +kernel

theorem eq_or_isAlpha_of_mem_lower (h : d ∈ lower c) (hd : d.toNat < 128) :
    d = c ∨ d.isAlpha = true := by
  have hexpansions : ∀ e ∈ lowerExpansions, ∀ n ∈ e.2, LettersOnly n := by
    unfold LettersOnly
    decide
  exact eq_or_isAlpha_of_mem_mapCase staysOnLetters_of_mem_lowerShifts hexpansions h hd

theorem eq_or_isAlpha_of_mem_upper (h : d ∈ upper c) (hd : d.toNat < 128) :
    d = c ∨ d.isAlpha = true := by
  have hshifts : ∀ s ∈ upperShifts, s.StaysOnLetters := by decide +kernel
  have hexpansions : ∀ e ∈ upperExpansions, ∀ n ∈ e.2, LettersOnly n := by
    unfold LettersOnly
    decide
  exact eq_or_isAlpha_of_mem_mapCase hshifts hexpansions h hd

/-! ### Mapped ASCII characters -/

theorem lower_of_ascii (hc : c.toNat < 128) : lower c = [c.toLower] :=
  forall_ascii (p := fun c ↦ lower c = [c.toLower]) (by decide) hc

theorem upper_of_ascii (hc : c.toNat < 128) : upper c = [c.toUpper] := by
  -- no ASCII character has an expansion, so that the table of expansions is gone along only once
  have hbeyond : ∀ e ∈ upperExpansions, 128 ≤ e.1 := by decide
  have hnone : upperExpansions.lookup c.toNat = none := by
    refine List.lookup_eq_none_iff.mpr fun e he ↦ ?_
    have := hbeyond e he
    exact bne_iff_ne.mpr (by omega)
  have hshift : ((shifted? upperShifts c.toNat).map Char.ofNat).getD c = c.toUpper :=
    forall_ascii (p := fun c ↦ ((shifted? upperShifts c.toNat).map Char.ofNat).getD c = c.toUpper)
      (by decide) hc
  rw [upper, mapCase, hnone, ← hshift]
  cases shifted? upperShifts c.toNat <;> rfl

end DiagramMigrations.Text
