import DiagramMigrations.Column.Size
import DiagramMigrations.Proofs.Text.Blank

/-!
Size arguments come out of a multiplicity in a form that reading leaves alone. A text is cut at every
`..` from the left, so that no part holds one; a comma and a blank between two parts keep their dots
apart, and so the arguments of a pair are one text to the next reading.
-/

set_option autoImplicit false
set_option relaxedAutoImplicit false

namespace DiagramMigrations.Size

/-- Whether two dots stand next to each other somewhere in a text. -/
def HasDots (cs : List Char) : Prop :=
  ['.', '.'] <:+: cs

/-- Whether parts are what a text is cut into at `..` from the left. A part that is followed by two
dots holds none, even together with the first of them. -/
def IsCut : List (List Char) → List Char → Prop
  | [], _ => False
  | [part], cs => cs = part ∧ ¬ HasDots part
  | part :: next :: rest, cs =>
    ∃ back, cs = part ++ '.' :: '.' :: back ∧ ¬ HasDots (part ++ ['.']) ∧ IsCut (next :: rest) back

variable {c : Char} {cs front back part : List Char} {parts : List (List Char)}
  {text total places : String} {s : Size}

/-! ### Dots -/

theorem not_hasDots_nil : ¬ HasDots [] := by
  simp [HasDots]

theorem hasDots_cons : HasDots (c :: cs) ↔ (c = '.' ∧ cs.head? = some '.') ∨ HasDots cs := by
  rw [HasDots, List.infix_cons_iff, List.cons_prefix_cons]
  refine or_congr (and_congr eq_comm ?_) Iff.rfl
  cases cs with
  | nil => simp
  | cons d cs => simp [List.cons_prefix_cons, eq_comm]

theorem HasDots.of_infix (h : HasDots part) (hpart : part <:+: cs) : HasDots cs :=
  h.trans hpart

/-- Another character keeps the dots before it and behind it apart. -/
theorem hasDots_append_cons (hc : c ≠ '.') :
    HasDots (front ++ c :: back) ↔ HasDots front ∨ HasDots back := by
  induction front with
  | nil => simp [hasDots_cons, hc, not_hasDots_nil]
  | cons d front ih =>
    have hhead : (front ++ c :: back).head? = some '.' ↔ front.head? = some '.' := by
      cases front with
      | nil => simp [hc]
      | cons e front => simp
    rw [List.cons_append, hasDots_cons, hasDots_cons, ih, hhead, or_assoc]

/-! ### Parts -/

theorem cutAtDots_cons (h : ¬ (c = '.' ∧ cs.head? = some '.')) (hcut : cutAtDots cs = part :: parts) :
    cutAtDots (c :: cs) = (c :: part) :: parts := by
  rw [cutAtDots, hcut]
  rintro rest rfl rfl
  exact h ⟨rfl, rfl⟩

theorem cutAtDots_of_not_hasDots (h : ¬ HasDots cs) : cutAtDots cs = [cs] := by
  induction cs with
  | nil => rfl
  | cons c cs ih =>
    rw [hasDots_cons, not_or] at h
    exact cutAtDots_cons h.1 (ih h.2)

/-- The first part ends where two dots stand for the first time. -/
theorem cutAtDots_append (h : ¬ HasDots (front ++ ['.'])) :
    cutAtDots (front ++ '.' :: '.' :: back) = front :: cutAtDots back := by
  induction front with
  | nil => rfl
  | cons c front ih =>
    rw [List.cons_append, hasDots_cons, not_or] at h
    have hhead : (front ++ '.' :: '.' :: back).head? = (front ++ ['.']).head? := by
      cases front <;> rfl
    exact cutAtDots_cons (hhead ▸ h.1) (ih h.2)

theorem IsCut.cons (h : IsCut parts back) (hfront : ¬ HasDots (front ++ ['.'])) :
    IsCut (front :: parts) (front ++ '.' :: '.' :: back) := by
  cases parts with
  | nil => exact h.elim
  | cons next rest => exact ⟨back, rfl, hfront, h⟩

/-- A character may stand before the first part unless it is a dot before another dot. -/
theorem IsCut.cons_char (h : IsCut (part :: parts) cs) (hc : ¬ (c = '.' ∧ cs.head? = some '.')) :
    IsCut ((c :: part) :: parts) (c :: cs) := by
  cases parts with
  | nil =>
    obtain ⟨rfl, hpart⟩ := h
    exact ⟨rfl, by rw [hasDots_cons, not_or]; exact ⟨hc, hpart⟩⟩
  | cons next rest =>
    obtain ⟨back, rfl, hpart, hback⟩ := h
    have hhead : (part ++ '.' :: '.' :: back).head? = (part ++ ['.']).head? := by
      cases part <;> rfl
    refine ⟨back, rfl, ?_, hback⟩
    rw [List.cons_append, hasDots_cons, not_or]
    exact ⟨hhead ▸ hc, hpart⟩

theorem isCut_cutAtDots (cs : List Char) : IsCut (cutAtDots cs) cs := by
  induction cs using cutAtDots.induct with
  | case1 => exact ⟨rfl, not_hasDots_nil⟩
  | case2 back ih => exact ih.cons (by simp [hasDots_cons, not_hasDots_nil])
  | case3 c cs hdots hcut ih =>
    rw [hcut] at ih
    exact ih.elim
  | case4 c cs hdots part parts hcut ih =>
    have hc : ¬ (c = '.' ∧ cs.head? = some '.') := by
      rintro ⟨rfl, hhead⟩
      obtain ⟨rest, rfl⟩ := List.head?_eq_some_iff.mp hhead
      exact hdots rest rfl rfl
    rw [cutAtDots_cons hc hcut]
    exact (hcut ▸ ih).cons_char hc

/-- The parts of a text are those that it is cut into at `..` from the left. -/
theorem cutAtDots_eq_iff : cutAtDots cs = parts ↔ IsCut parts cs := by
  constructor
  · rintro rfl
    exact isCut_cutAtDots cs
  · intro h
    induction parts generalizing cs with
    | nil => exact h.elim
    | cons part rest ih =>
      cases rest with
      | nil =>
        obtain ⟨rfl, hpart⟩ := h
        exact cutAtDots_of_not_hasDots hpart
      | cons next rest =>
        obtain ⟨back, rfl, hpart, hback⟩ := h
        rw [cutAtDots_append hpart, ih hback]

/-! ### Arguments -/

/-- Whether a text has two parts that are not blank when it is cut at `..` from the left. -/
def IsRange (cs front back : List Char) : Prop :=
  IsCut [front, back] cs ∧ Text.trim front ≠ [] ∧ Text.trim back ≠ []

/-- Whether a text can be one of two arguments: there is something to it, no white space stands
around it, and no two dots in it. -/
structure IsArgument (text : String) : Prop where
  ne_empty : text ≠ ""
  isTrimmed : Text.IsTrimmed text.toList
  not_hasDots : ¬ HasDots text.toList

/-- A text with two parts that are not blank gives a pair of them, any other one is passed on. -/
theorem ofTrimmed_eq (cs : List Char) :
    (∃ front back, IsRange cs front back ∧ ofTrimmed cs =
        .pair (String.ofList (Text.trim front)) (String.ofList (Text.trim back))) ∨
      ((¬ ∃ front back, IsRange cs front back) ∧ ofTrimmed cs = .raw (String.ofList cs)) := by
  by_cases hrange : ∃ front back, IsRange cs front back
  · obtain ⟨front, back, h⟩ := hrange
    refine Or.inl ⟨front, back, h, ?_⟩
    rw [ofTrimmed, cutAtDots_eq_iff.mpr h.1]
    exact if_neg (not_or.mpr h.2)
  · refine Or.inr ⟨hrange, ?_⟩
    rw [ofTrimmed]
    rcases hcut : cutAtDots cs with - | ⟨front, - | ⟨back, - | ⟨third, rest⟩⟩⟩
    · rfl
    · rfl
    · refine if_pos (by_contra fun hblank ↦ hrange ⟨front, back, ?_⟩)
      exact ⟨cutAtDots_eq_iff.mp hcut, not_or.mp hblank⟩
    · rfl

/-- Without two dots in it, a text is passed on. -/
theorem ofTrimmed_of_not_hasDots (h : ¬ HasDots cs) : ofTrimmed cs = .raw (String.ofList cs) := by
  rw [ofTrimmed, cutAtDots_of_not_hasDots h]
  rfl

theorem parse?_eq_some : parse? text = some s ↔
    Text.trim text.toList ≠ [] ∧ s = ofTrimmed (Text.trim text.toList) := by
  rw [parse?]
  split_ifs with hblank
  · simp [hblank]
  · simp [hblank, eq_comm]

/-- A text with no white space around it is read as it stands. -/
theorem parse?_of_isTrimmed (hne : text ≠ "") (h : Text.IsTrimmed text.toList) :
    parse? text = some (ofTrimmed text.toList) := by
  rw [parse?_eq_some, h.trim_eq]
  exact ⟨fun hnil ↦ hne (String.toList_eq_nil_iff.mp hnil), rfl⟩

theorem isArgument_trim (hne : Text.trim part ≠ []) (hpart : ¬ HasDots part) :
    IsArgument (String.ofList (Text.trim part)) where
  ne_empty h := hne (by rw [← String.toList_ofList (l := Text.trim part), h, String.toList_empty])
  isTrimmed := by
    rw [String.toList_ofList]
    exact Text.isTrimmed_trim part
  not_hasDots := by
    rw [String.toList_ofList]
    exact fun h ↦ hpart (h.of_infix (Text.trim_infix part))

theorem IsRange.unique {first second : List Char} (h : IsRange cs front back)
    (hparts : IsRange cs first second) : front = first ∧ back = second := by
  have hcut := (cutAtDots_eq_iff.mpr h.1).symm.trans (cutAtDots_eq_iff.mpr hparts.1)
  simpa using hcut

/-- The two parts of a range are arguments once they are trimmed. -/
theorem IsRange.isArgument (h : IsRange cs front back) :
    IsArgument (String.ofList (Text.trim front)) ∧ IsArgument (String.ofList (Text.trim back)) := by
  obtain ⟨⟨_, -, hfirst, -, hsecond⟩, hfront, hback⟩ := h
  refine ⟨isArgument_trim hfront fun hdots ↦ hfirst ?_, isArgument_trim hback hsecond⟩
  exact hdots.of_infix (List.prefix_append _ _).isInfix

/-- The arguments of a pair stand in the call with no white space around them and no two dots between
them. -/
theorem IsArgument.render_pair (htotal : IsArgument total) (hplaces : IsArgument places) :
    IsArgument (Size.render (.pair total places)) := by
  have hchars : (Size.render (.pair total places)).toList =
      total.toList ++ [',', ' '] ++ places.toList := by
    simp [Size.render]
  refine ⟨fun h ↦ ?_, ?_, ?_⟩
  · simp [h] at hchars
  · rw [hchars]
    exact htotal.isTrimmed.append hplaces.isTrimmed
      (fun h ↦ htotal.ne_empty (String.toList_eq_nil_iff.mp h))
      (fun h ↦ hplaces.ne_empty (String.toList_eq_nil_iff.mp h)) _
  · rw [hchars, List.append_assoc, List.cons_append, hasDots_append_cons (by decide), not_or]
    refine ⟨htotal.not_hasDots, ?_⟩
    rw [List.singleton_append, hasDots_cons, not_or]
    exact ⟨by simp, hplaces.not_hasDots⟩

/-- The arguments that a multiplicity gives are rendered to a text that is read as it stands: without
white space around it, and with no more to cut. They are a pair exactly if the multiplicity has two
parts that are not blank, which are then its arguments. -/
theorem render_read_again (h : parse? text = some s) :
    Text.IsTrimmed s.render.toList ∧ parse? s.render = some (.raw s.render) ∧
      (∀ raw, s = .raw raw → parse? s.render = some s) ∧
      (∀ total places, s = .pair total places → IsArgument total ∧ IsArgument places) ∧
      ((∃ total places, s = .pair total places) ↔
        ∃ front back, IsRange (Text.trim text.toList) front back) ∧
      ∀ front back, IsRange (Text.trim text.toList) front back →
        s = .pair (String.ofList (Text.trim front)) (String.ofList (Text.trim back)) := by
  obtain ⟨hne, rfl⟩ := parse?_eq_some.mp h
  rcases ofTrimmed_eq (Text.trim text.toList) with ⟨front, back, hrange, hpair⟩ | ⟨hnone, hraw⟩
  · have hargument := hrange.isArgument.1.render_pair hrange.isArgument.2
    rw [hpair]
    refine ⟨hargument.isTrimmed, ?_, by simp, ?_,
      ⟨fun _ ↦ ⟨front, back, hrange⟩, fun _ ↦ ⟨_, _, rfl⟩⟩, fun first second hparts ↦ ?_⟩
    · rw [parse?_of_isTrimmed hargument.ne_empty hargument.isTrimmed,
        ofTrimmed_of_not_hasDots hargument.not_hasDots, String.ofList_toList]
    · rintro total places heq
      obtain ⟨rfl, rfl⟩ := Size.pair.inj heq
      exact hrange.isArgument
    · obtain ⟨rfl, rfl⟩ := hrange.unique hparts
      rfl
  · have htrimmed := Text.isTrimmed_trim text.toList
    have hagain : parse? (String.ofList (Text.trim text.toList)) =
        some (.raw (String.ofList (Text.trim text.toList))) := by
      rw [parse?_eq_some, String.toList_ofList, htrimmed.trim_eq]
      exact ⟨hne, hraw.symm⟩
    rw [hraw]
    refine ⟨?_, hagain, fun _ _ ↦ hagain, by simp, ⟨by simp, fun hsome ↦ absurd hsome hnone⟩,
      fun first second hparts ↦ absurd ⟨first, second, hparts⟩ hnone⟩
    rw [render, String.toList_ofList]
    exact htrimmed

/-- A witness: of three dots the first two stand between the arguments, and the third begins the
second one. -/
theorem three_dots_read_again :
    parse? " 8 ...2 " = some (.pair "8" ".2") ∧ parse? "8, .2" = some (.raw "8, .2") ∧
      IsArgument ".2" := by
  have hread : parse? " 8 ...2 " = some (.pair "8" ".2") := by decide
  obtain ⟨-, hagain, -, harguments, -, -⟩ := render_read_again hread
  exact ⟨hread, hagain, (harguments "8" ".2" rfl).2⟩

end DiagramMigrations.Size
