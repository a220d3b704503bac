import DiagramMigrations.Proofs.Naming.Characters
import DiagramMigrations.Proofs.Text.Boundaries

/-!
Identifiers that come to one class name. Between the words of an identifier stand underscores, and
the words of a class name are told apart by their capitals alone. A digit has no capital, so that an
underscore in front of it leaves no trace; no other underscore is lost.
-/

set_option autoImplicit false
set_option relaxedAutoImplicit false

namespace DiagramMigrations.Naming

open Text

/-- Whether a letter or digit is written in a word of an identifier as it is. -/
def IsPlain (c : Char) : Prop :=
  isAlphanumeric c = true ∧ isUppercase c = false ∧ lower c = [c]

instance (c : Char) : Decidable (IsPlain c) :=
  inferInstanceAs (Decidable (_ ∧ _ ∧ _))

/-- Whether a character has a single capital, which leads back to it. Without case it is its own
capital. -/
def HasCapital (c : Char) : Prop :=
  (upper c).length = 1 ∧ (upper c).flatMap lower = [c]

instance (c : Char) : Decidable (HasCapital c) :=
  inferInstanceAs (Decidable (_ ∧ _))

/-- Whether a word is made of plain characters, of which the first one has a capital. -/
def IsPlainWord (w : List Char) : Prop :=
  ∃ c rest, w = c :: rest ∧ HasCapital c ∧ ∀ d ∈ w, IsPlain d

/-- Whether an identifier is made of plain words. -/
def IsPlainIdentifier (id : String) : Prop :=
  ∃ ws, id.toList = ['_'].intercalate ws ∧ ∀ w ∈ ws, IsPlainWord w

/-- A word behind an underscore, if its first character has another capital. -/
def marked : List Char → List Char
  | [] => []
  | c :: rest => if upper c = [c] then c :: rest else '_' :: c :: rest

/-- An identifier without the underscores in front of words that have no capital: `order_1` and
`order1` are the same. The first word counts like the others. -/
def fused (id : String) : List Char :=
  (id.toList.splitOn '_').flatMap marked

variable {w : List Char} {ws : List (List Char)} {c : Char} {x y : String}

theorem HasCapital.exists_upper (h : HasCapital c) : ∃ d, upper c = [d] ∧ lower d = [c] := by
  obtain ⟨hlength, hback⟩ := h
  obtain ⟨d, hd⟩ := List.length_eq_one_iff.mp hlength
  rw [hd, List.flatMap_singleton] at hback
  exact ⟨d, hd, hback⟩

theorem ne_underscore (h : IsPlain c) : c ≠ '_' := by
  rintro rfl
  exact absurd h.1 (by decide)

/-- A plain word with its capital: the other characters stay. -/
theorem exists_capitalWord (h : IsPlainWord w) : ∃ c d rest, w = c :: rest ∧ upper c = [d] ∧
    lower d = [c] ∧ capitalWord w = d :: rest ∧ IsPlain c ∧ ∀ e ∈ rest, IsPlain e := by
  obtain ⟨c, rest, rfl, hcapital, hplain⟩ := h
  obtain ⟨d, hd, hback⟩ := hcapital.exists_upper
  have hrest : ∀ e ∈ rest, IsPlain e := fun e he ↦ hplain e (List.mem_cons_of_mem _ he)
  refine ⟨c, d, rest, rfl, hd, hback, ?_, hplain c List.mem_cons_self, hrest⟩
  rw [capitalWord, hd, lowerWord_of_kept fun e he ↦ (hrest e he).2.2, List.singleton_append]

/-! ### From class names back to identifiers, and forth -/

/-- A character of a class name as it stands in the fused identifier. -/
def uncapital (c : Char) : List Char :=
  if lower c = [c] then [c] else '_' :: lower c

/-- The class name for a fused identifier. -/
def capitals : List Char → List Char
  | [] => []
  | [c] => [c]
  | c :: d :: rest => if c = '_' then upper d ++ capitals rest else c :: capitals (d :: rest)

theorem flatMap_uncapital (h : IsPlainWord w) : (capitalWord w).flatMap uncapital = marked w := by
  obtain ⟨c, d, rest, rfl, hupper, hlower, hword, -, hrest⟩ := exists_capitalWord h
  have hsame : rest.flatMap uncapital = rest := by
    have heach : ∀ e ∈ rest, uncapital e = [e] := fun e he ↦ if_pos (hrest e he).2.2
    rw [List.flatMap_def, List.map_congr_left heach, ← List.flatMap_def, List.flatMap_singleton']
  rw [hword, List.flatMap_cons, hsame, marked, uncapital, hupper, hlower]
  by_cases hcd : d = c
  · rw [if_pos (by rw [hcd]), if_pos (by rw [hcd]), hcd, List.singleton_append]
  · rw [if_neg (by simpa using Ne.symm hcd), if_neg (by simpa using hcd)]
    rfl

theorem capitals_cons (hc : c ≠ '_') (rest : List Char) :
    capitals (c :: rest) = c :: capitals rest := by
  cases rest with
  | nil => rfl
  | cons d rest => rw [capitals, if_neg hc]

theorem capitals_append (h : ∀ c ∈ w, IsPlain c) (rest : List Char) :
    capitals (w ++ rest) = w ++ capitals rest := by
  induction w with
  | nil => rfl
  | cons c w ih =>
    rw [List.cons_append, capitals_cons (ne_underscore (h c List.mem_cons_self)),
      ih fun d hd ↦ h d (List.mem_cons_of_mem _ hd), List.cons_append]

theorem capitals_marked_append (h : IsPlainWord w) (rest : List Char) :
    capitals (marked w ++ rest) = capitalWord w ++ capitals rest := by
  obtain ⟨c, d, others, rfl, hupper, -, hword, hc, hothers⟩ := exists_capitalWord h
  rw [hword, marked, hupper]
  by_cases hcd : d = c
  · rw [if_pos (by rw [hcd]), hcd, List.cons_append, capitals_cons (ne_underscore hc),
      capitals_append hothers, List.cons_append]
  · rw [if_neg (by simpa using hcd), List.cons_append, List.cons_append, capitals, if_pos rfl,
      hupper, capitals_append hothers]
    rfl

theorem flatMap_capitalWord (h : ∀ w ∈ ws, IsPlainWord w) :
    capitals (ws.flatMap marked) = ws.flatMap capitalWord ∧
      (ws.flatMap capitalWord).flatMap uncapital = ws.flatMap marked := by
  induction ws with
  | nil => exact ⟨rfl, rfl⟩
  | cons w ws ih =>
    obtain ⟨hforth, hback⟩ := ih fun v hv ↦ h v (List.mem_cons_of_mem _ hv)
    have hw := h w List.mem_cons_self
    rw [List.flatMap_cons, List.flatMap_cons, capitals_marked_append hw, hforth,
      List.flatMap_append, flatMap_uncapital hw, hback]
    exact ⟨rfl, rfl⟩

/-! ### Class names of identifiers -/

theorem toList_className (hx : x.toList = ['_'].intercalate ws) (h : ∀ w ∈ ws, IsPlainWord w) :
    (className x).toList = ws.flatMap capitalWord := by
  rw [className, String.toList_ofList, pascalCase, hx, words_intercalate]
  intro w hw
  obtain ⟨c, rest, hword, -, hplain⟩ := h w hw
  exact ⟨by simp [hword], fun d hd ↦ ⟨(hplain d hd).1, (hplain d hd).2.1⟩⟩

theorem fused_eq (hx : x.toList = ['_'].intercalate ws) (h : ∀ w ∈ ws, IsPlainWord w) :
    fused x = ws.flatMap marked := by
  rw [fused, hx]
  by_cases hempty : ws = []
  · rw [hempty]
    rfl
  · rw [List.splitOn_intercalate '_' ?_ hempty]
    intro w hw hmem
    obtain ⟨-, -, -, -, hplain⟩ := h w hw
    exact ne_underscore (hplain '_' hmem) rfl

/-- Plain identifiers come to the same class name exactly if they are the same once fused. -/
theorem className_eq_iff (hx : IsPlainIdentifier x) (hy : IsPlainIdentifier y) :
    className x = className y ↔ fused x = fused y := by
  obtain ⟨vs, hxs, hvs⟩ := hx
  obtain ⟨ws, hys, hws⟩ := hy
  rw [← String.toList_inj, toList_className hxs hvs, toList_className hys hws, fused_eq hxs hvs,
    fused_eq hys hws]
  constructor
  · intro h
    rw [← (flatMap_capitalWord hvs).2, h, (flatMap_capitalWord hws).2]
  · intro h
    rw [← (flatMap_capitalWord hvs).1, h, (flatMap_capitalWord hws).1]

/-! ### Identifiers of ASCII names -/

theorem plain_of_mem_lower (hc : c.toNat < 128) (halnum : isAlphanumeric c = true) :
    lower c ≠ [] ∧ ∀ d ∈ lower c, IsPlain d ∧ HasCapital d := by
  -- the characters are tested in a list, since a bounded quantifier may be decided over all of them
  have hdecided : lower c ≠ [] ∧ ((lower c).all fun d ↦ IsPlain d ∧ HasCapital d) = true :=
    forall_ascii (p := fun c ↦ isAlphanumeric c = true →
      lower c ≠ [] ∧ ((lower c).all fun d ↦ IsPlain d ∧ HasCapital d) = true)
      (by decide +kernel) hc halnum
  refine ⟨hdecided.1, fun d hd ↦ ?_⟩
  exact of_decide_eq_true (List.all_eq_true.mp hdecided.2 d hd)

theorem lowerWord_eq_flatMap (h : 'Σ' ∉ w) : lowerWord w = w.flatMap lower := by
  induction w using lowerWord.induct with
  | case1 => rfl
  | case2 => exact absurd List.mem_cons_self h
  | case3 c hc => rw [lowerWord, if_neg hc, List.flatMap_singleton]
  | case4 c rest hrest ih =>
    rw [lowerWord, ih (List.not_mem_of_not_mem_cons h), List.flatMap_cons]
    exact hrest

theorem isPlainWord_lowerWord (hne : w ≠ [])
    (hw : ∀ c ∈ w, c.toNat < 128 ∧ isAlphanumeric c = true) : IsPlainWord (lowerWord w) := by
  have hsigma : 'Σ' ∉ w := fun h ↦ absurd (hw 'Σ' h).1 (by decide)
  rw [lowerWord_eq_flatMap hsigma]
  have hplain : ∀ d ∈ w.flatMap lower, IsPlain d ∧ HasCapital d := by
    intro d hd
    obtain ⟨c, hc, hmem⟩ := List.mem_flatMap.mp hd
    exact (plain_of_mem_lower (hw c hc).1 (hw c hc).2).2 d hmem
  have hsome : w.flatMap lower ≠ [] := by
    obtain ⟨c, rest, rfl⟩ := List.exists_cons_of_ne_nil hne
    have hfirst := hw c List.mem_cons_self
    rw [List.flatMap_cons]
    exact List.append_ne_nil_of_left_ne_nil (plain_of_mem_lower hfirst.1 hfirst.2).1 _
  obtain ⟨c, rest, hword⟩ := List.exists_cons_of_ne_nil hsome
  refine ⟨c, rest, hword, (hplain c ?_).2, fun d hd ↦ (hplain d hd).1⟩
  rw [hword]
  exact List.mem_cons_self

/-- The identifier of an ASCII name is plain. -/
theorem isPlainIdentifier_identifier {name : String} (h : ∀ c ∈ name.toList, c.toNat < 128) :
    IsPlainIdentifier (identifier name) := by
  have hwords : ∀ v ∈ (words name.toList).map lowerWord, IsPlainWord v := by
    intro v hv
    obtain ⟨w, hw, rfl⟩ := List.mem_map.mp hv
    obtain ⟨hne, hchars⟩ := mem_words hw
    exact isPlainWord_lowerWord hne fun c hc ↦ ⟨h c (hchars c hc).2, (hchars c hc).1⟩
  exact ⟨_, toList_identifier name, hwords⟩

end DiagramMigrations.Naming
