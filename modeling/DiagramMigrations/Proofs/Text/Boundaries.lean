import DiagramMigrations.Proofs.Text.LetterCase
import DiagramMigrations.Proofs.Text.Words

/-!
Where a run of letters and digits is one word. The scan that cuts it sees nothing but the case of
its characters: it cuts before a capital that has a small letter before it, and before a capital that
stands between another one and a small letter right behind it. A text is its own only word if it is
made of letters and digits and there is no such place in it.
-/

set_option autoImplicit false
set_option relaxedAutoImplicit false

namespace DiagramMigrations.Text

open LetterCase

/-- The case of a character. -/
def caseOf (c : Char) : LetterCase :=
  LetterCase.fresh.after c

/-- Whether characters of these cases are one word: no capital stands behind a small letter, and a
capital with a small letter right behind it has no capital before it. -/
structure Uncut (ks : List LetterCase) : Prop where
  ordered : ks.Pairwise fun k l ↦ k = small → l ≠ capital
  apart (front rest : List LetterCase) : ks = front ++ capital :: small :: rest → capital ∉ front

variable {c : Char} {cs word : List Char} {mode k : LetterCase} {ks : List LetterCase}

theorem uncut_of_notMem (h : capital ∉ ks) : Uncut ks where
  ordered := List.pairwise_of_forall_mem_list fun _ _ _ hl _ hcapital ↦ h (hcapital ▸ hl)
  apart front _ hks := absurd (hks ▸ List.mem_append_right front List.mem_cons_self) h

theorem after_eq (mode : LetterCase) (c : Char) :
    mode.after c = if caseOf c = fresh then mode else caseOf c := by
  unfold caseOf LetterCase.after
  split_ifs <;> simp_all

theorem isUppercase_iff : isUppercase c = true ↔ caseOf c = capital := by
  unfold caseOf LetterCase.after
  split_ifs with hsmall hcapital
  · simp [isUppercase_of_isLowercase hsmall]
  · simp [hcapital]
  · simp [hcapital]

theorem isLowercase_iff : isLowercase c = true ↔ caseOf c = small := by
  unfold caseOf LetterCase.after
  split_ifs <;> simp_all

/-! ### The scan -/

/-- Whether the scan cuts nothing in characters of these cases, if it comes upon them in a mode. -/
def IsWhole : LetterCase → List LetterCase → Prop
  | _, [] => True
  | mode, k :: rest =>
    ¬ (mode = small ∧ k = capital) ∧ ¬ (mode = capital ∧ k = capital ∧ rest.head? = some small) ∧
      IsWhole (if k = fresh then mode else k) rest

theorem cutRun_ne_nil (hne : cs ≠ []) : cutRun mode word cs ≠ [] := by
  intro hnil
  have hwhole : (cutRun mode word cs).flatten = word.reverse ++ cs := flatten_cutRun hne
  rw [hnil, List.flatten_nil] at hwhole
  exact hne (List.append_eq_nil_iff.mp hwhole.symm).2

/-- A run is one word exactly if the scan cuts nothing. -/
theorem cutRun_eq_singleton_iff (hne : cs ≠ [])
    (hhead : ∀ c ∈ cs.head?, ¬ (mode = small ∧ caseOf c = capital)) :
    cutRun mode word cs = [word.reverse ++ cs] ↔ IsWhole mode (cs.map caseOf) := by
  induction mode, word, cs using cutRun.induct with
  | case1 => exact absurd rfl hne
  | case2 mode word c =>
    have hc := hhead c rfl
    simp [cutRun, IsWhole, hc]
  | case3 mode word c next rest hcut =>
    refine iff_of_false ?_ ?_
    · rw [cutRun, if_pos hcut]
      exact fun h ↦ cutRun_ne_nil (List.cons_ne_nil _ _) (List.cons.inj h).2
    · rw [List.map_cons, List.map_cons, IsWhole, IsWhole, ← after_eq]
      exact fun h ↦ h.2.2.1 ⟨hcut.1, isUppercase_iff.mp hcut.2⟩
  | case4 mode word c next rest hcut hlast =>
    refine iff_of_false ?_ ?_
    · rw [cutRun, if_neg hcut, if_pos hlast]
      exact fun h ↦ cutRun_ne_nil (List.cons_ne_nil _ _) (List.cons.inj h).2
    · rw [List.map_cons, List.map_cons, IsWhole, List.head?_cons]
      exact fun h ↦ h.2.1 ⟨hlast.1, isUppercase_iff.mp hlast.2.1,
        congrArg some (isLowercase_iff.mp hlast.2.2)⟩
  | case5 mode word c next rest hcut hlast ih =>
    rw [isUppercase_iff] at hcut
    rw [isUppercase_iff, isLowercase_iff] at hlast
    have hrest := ih (List.cons_ne_nil _ _) (by simpa using hcut)
    rw [cutRun, if_neg (by rwa [isUppercase_iff]),
      if_neg (by rwa [isUppercase_iff, isLowercase_iff]),
      show word.reverse ++ c :: next :: rest = (c :: word).reverse ++ next :: rest by simp, hrest]
    change _ ↔ IsWhole mode (caseOf c :: (next :: rest).map caseOf)
    rw [IsWhole, ← after_eq]
    exact ⟨fun h ↦ ⟨hhead c rfl, fun hlater ↦ hlast ⟨hlater.1, hlater.2.1,
      Option.some.inj hlater.2.2⟩, h⟩, fun h ↦ h.2.2⟩

theorem pair_infix_cons {a b : LetterCase} :
    [a, b] <:+: k :: ks ↔ k = a ∧ ks.head? = some b ∨ [a, b] <:+: ks := by
  rw [List.infix_cons_iff]
  refine or_congr ?_ Iff.rfl
  cases ks <;> simp [eq_comm]

theorem uncut_cons : Uncut (k :: ks) ↔ Uncut ks ∧ (k = small → capital ∉ ks) ∧
    (k = capital → ¬ [capital, small] <:+: ks) := by
  constructor
  · rintro ⟨hordered, hapart⟩
    obtain ⟨hfirst, hrest⟩ := List.pairwise_cons.mp hordered
    refine ⟨⟨hrest, fun front rest hks ↦ ?_⟩, ?_, ?_⟩
    · exact List.not_mem_of_not_mem_cons (hapart (k :: front) rest (by rw [hks]; rfl))
    · exact fun hsmall hmem ↦ hfirst capital hmem hsmall rfl
    · rintro rfl ⟨front, rest, rfl⟩
      exact hapart (capital :: front) rest (by simp) List.mem_cons_self
  · rintro ⟨⟨hordered, hapart⟩, hsmall, hcapital⟩
    refine ⟨List.pairwise_cons.mpr ⟨?_, hordered⟩, fun front rest hks ↦ ?_⟩
    · rintro l hl hk rfl
      exact hsmall hk hl
    · rcases front with - | ⟨first, front⟩
      · exact List.not_mem_nil
      · obtain ⟨rfl, rfl⟩ := List.cons.inj hks
        rw [List.mem_cons, not_or]
        exact ⟨fun hk ↦ hcapital hk.symm ⟨front, rest, by simp⟩, hapart front rest rfl⟩

/-- What the scan cuts in is told from the mode and the cases that follow: behind a small letter every
capital, and behind a capital every other one with a small letter right behind it. -/
theorem isWhole_iff (mode : LetterCase) (ks : List LetterCase) : IsWhole mode ks ↔
    Uncut ks ∧ (mode = small → capital ∉ ks) ∧
      (mode = capital → ¬ [capital, small] <:+: ks) := by
  induction ks generalizing mode with
  | nil => simp [IsWhole, uncut_of_notMem]
  | cons k ks ih =>
    rw [IsWhole, ih, uncut_cons, pair_infix_cons, List.mem_cons]
    cases k with
    | fresh => simp
    | small =>
      have hpair (hnone : capital ∉ ks) : ¬ [capital, small] <:+: ks := fun h ↦
        hnone (h.subset List.mem_cons_self)
      simp +contextual [hpair]
    | capital =>
      simp only [reduceCtorEq, and_true, true_and, true_or, if_false, not_true_eq_false, forall_const,
        not_and, not_or, IsEmpty.forall_iff, imp_false]
      tauto

/-! ### Texts that are one word -/

/-- A text is its own only word exactly if it is made of letters and digits that are not cut. -/
theorem words_eq_singleton_iff : words cs = [cs] ↔
    cs ≠ [] ∧ (∀ c ∈ cs, isAlphanumeric c = true) ∧ Uncut (cs.map caseOf) := by
  have hrun (hne : cs ≠ []) (halnum : ∀ c ∈ cs, isAlphanumeric c = true) :
      words cs = [cs] ↔ Uncut (cs.map caseOf) := by
    have hruns : runsOf isAlphanumeric (['_'].intercalate [cs]) = [cs] :=
      runsOf_intercalate (by decide) (by simpa using ⟨hne, halnum⟩)
    have hscan : cutRun fresh [] cs = [cs] ↔ IsWhole fresh (cs.map caseOf) :=
      cutRun_eq_singleton_iff hne (by simp)
    rw [List.intercalate_singleton] at hruns
    rw [words, hruns, List.flatMap_singleton, hscan, isWhole_iff]
    simp
  constructor
  · intro h
    obtain ⟨hne, hchars⟩ := mem_words (h ▸ List.mem_cons_self : cs ∈ words cs)
    have halnum : ∀ c ∈ cs, isAlphanumeric c = true := fun c hc ↦ (hchars c hc).1
    exact ⟨hne, halnum, (hrun hne halnum).mp h⟩
  · rintro ⟨hne, halnum, huncut⟩
    exact (hrun hne halnum).mpr huncut

/-- Words without capitals are the words of the text that joins them by underscores. -/
theorem words_intercalate {ws : List (List Char)}
    (hws : ∀ w ∈ ws, w ≠ [] ∧ ∀ c ∈ w, isAlphanumeric c = true ∧ isUppercase c = false) :
    words (['_'].intercalate ws) = ws := by
  have hsingle : ∀ w ∈ ws, words w = [w] := by
    intro w hw
    obtain ⟨hne, hchars⟩ := hws w hw
    refine words_eq_singleton_iff.mpr ⟨hne, fun c hc ↦ (hchars c hc).1, uncut_of_notMem fun h ↦ ?_⟩
    obtain ⟨c, hc, hcapital⟩ := List.mem_map.mp h
    exact Bool.false_ne_true ((hchars c hc).2.symm.trans (isUppercase_iff.mpr hcapital))
  rw [words_intercalate_eq, List.flatMap_def, List.map_congr_left hsingle, ← List.flatMap_def,
    List.flatMap_singleton']

end DiagramMigrations.Text
