import DiagramMigrations.Proofs.Php.Layout
import Mathlib.Data.List.Chain

/-!
Comments close at their end and nowhere before. A slash never stands right behind a star in a line
of a comment but the last: the text is parted where it would, and what stands before and between its
lines ends in no star.
-/

set_option autoImplicit false
set_option relaxedAutoImplicit false

namespace DiagramMigrations

/-- Whether a part of a text stands at a position. -/
def Text.StandsAt (part cs : List Char) (i : Nat) : Prop :=
  part <+: cs.drop i

namespace Php

variable {c : Char} {cs front back : List Char} {lines : List String}

/-- Whether a text closes no comment: a slash never stands right behind a star. -/
def IsOpen (cs : List Char) : Prop :=
  cs.IsChain fun c d ↦ c = '*' → d ≠ '/'

theorem isOpen_nil : IsOpen [] := List.isChain_nil

theorem isOpen_cons : IsOpen (c :: cs) ↔ (c = '*' → cs.head? ≠ some '/') ∧ IsOpen cs := by
  rw [IsOpen, List.isChain_cons]
  refine and_congr ?_ Iff.rfl
  cases cs <;> simp

theorem isOpen_append (hfront : IsOpen front) (hback : IsOpen back)
    (hhead : back.head? ≠ some '/') : IsOpen (front ++ back) := by
  refine List.isChain_append.mpr ⟨hfront, hback, fun c _ d hd _ heq ↦ hhead ?_⟩
  rw [← heq]
  exact hd

/-! ### Lines of comments -/

theorem head?_partClosers (cs : List Char) : (partClosers cs).head? = cs.head? := by
  induction cs using partClosers.induct with
  | case1 | case2 => rfl
  | case3 c rest hcloser =>
    rw [partClosers]
    · rfl
    · exact hcloser

/-- A text whose closers are parted has none. -/
theorem isOpen_partClosers (cs : List Char) : IsOpen (partClosers cs) := by
  induction cs using partClosers.induct with
  | case1 => exact isOpen_nil
  | case2 rest ih =>
    rw [partClosers, isOpen_cons, isOpen_cons, isOpen_cons]
    exact ⟨by simp, by simp, by simp, ih⟩
  | case3 c rest hcloser ih =>
    rw [partClosers, isOpen_cons, head?_partClosers]
    · refine ⟨fun hstar hslash ↦ ?_, ih⟩
      obtain ⟨later, rfl⟩ := List.head?_eq_some_iff.mp hslash
      exact hcloser later hstar rfl
    · exact hcloser

theorem isOpen_docLine (cs : List Char) : IsOpen (docLine cs).toList := by
  rw [docLine]
  split
  · simp [isOpen_cons, isOpen_nil]
  · rw [String.toList_ofList, isOpen_cons, isOpen_cons, isOpen_cons]
    exact ⟨by simp, by simp, by simp, isOpen_partClosers _⟩

theorem isOpen_indentation_append (level : Nat) (h : IsOpen cs) :
    IsOpen ((List.replicate level indentation).flatten ++ cs) := by
  induction level with
  | zero => exact h
  | succ level ih =>
    rw [List.replicate_succ, List.flatten_cons, List.append_assoc]
    simp only [indentation, List.cons_append, List.nil_append, isOpen_cons]
    exact ⟨by simp, by simp, by simp, by simp, ih⟩

theorem isOpen_indented (level : Nat) {text : String} (h : IsOpen text.toList) :
    IsOpen (indented level text).toList := by
  rw [indented]
  split_ifs
  · exact isOpen_nil
  · rw [String.toList_ofList]
    exact isOpen_indentation_append level h

theorem isOpen_intercalate (h : ∀ l ∈ lines, IsOpen l.toList) :
    IsOpen ("\n".intercalate lines).toList := by
  induction lines with
  | nil => exact isOpen_nil
  | cons line lines ih =>
    cases lines with
    | nil => simpa using h
    | cons next lines =>
      rw [String.intercalate_cons_cons, String.toList_append, String.toList_append,
        List.append_assoc]
      refine isOpen_append (h line List.mem_cons_self) ?_ (by simp)
      change IsOpen ('\n' :: ("\n".intercalate (next :: lines)).toList)
      exact isOpen_cons.mpr ⟨by simp, ih fun l hl ↦ h l (List.mem_cons_of_mem _ hl)⟩

/-! ### Where a comment closes -/

/-- A text that closes nothing before its last two characters closes there alone. -/
theorem standsAt_closer_iff (h : IsOpen (front ++ ['*'])) (i : Nat) :
    Text.StandsAt ['*', '/'] (front ++ ['*', '/']) i ↔ i + 2 = (front ++ ['*', '/']).length := by
  constructor
  · rintro ⟨rest, hrest⟩
    have hwhole : (front ++ ['*', '/']).take i ++ '*' :: '/' :: rest = front ++ ['*', '/'] := by
      calc (front ++ ['*', '/']).take i ++ '*' :: '/' :: rest
        _ = (front ++ ['*', '/']).take i ++ (front ++ ['*', '/']).drop i := by rw [← hrest]; rfl
        _ = front ++ ['*', '/'] := List.take_append_drop ..
    have hi : ((front ++ ['*', '/']).take i).length = i := by
      refine List.length_take_of_le (Nat.le_of_not_le fun hle ↦ ?_)
      rw [List.drop_eq_nil_of_le hle] at hrest
      cases hrest
    generalize (front ++ ['*', '/']).take i = before at hwhole hi
    rcases rest.eq_nil_or_concat with rfl | ⟨rest, last, rfl⟩
    · rw [← hwhole, List.length_append, hi]
      rfl
    · -- the slash would stand before the last character
      have hopen : front ++ ['*'] = before ++ '*' :: '/' :: rest := by
        have hlast : (front ++ ['*']) ++ ['/'] = (before ++ '*' :: '/' :: rest) ++ [last] := by
          simpa using hwhole.symm
        exact (List.append_inj' hlast rfl).1
      rw [hopen] at h
      have hstar := (List.isChain_append.mp h).2.1
      exact absurd rfl ((isOpen_cons.mp hstar).1 rfl)
  · intro hi
    have hlength : i = front.length := by simpa using hi
    exact ⟨[], by rw [hlength, List.drop_left, List.append_nil]⟩

/-- Behind lines that close nothing, the last line of a comment closes it with its last two
characters. -/
theorem exists_front_of_closing (level : Nat) (hne : lines ≠ [])
    (hlines : ∀ l ∈ lines, IsOpen l.toList) :
    ∃ front, ("\n".intercalate (lines ++ [indented level " */"])).toList = front ++ ['*', '/'] ∧
      IsOpen (front ++ ['*']) := by
  let blanks := (List.replicate level indentation).flatten
  have hlast : (indented level " */").toList = blanks ++ [' ', '*', '/'] := by
    simp [blanks, indented]
  refine ⟨("\n".intercalate lines).toList ++ '\n' :: blanks ++ [' '], ?_, ?_⟩
  · rw [String.intercalate_append_of_ne_nil hne (List.cons_ne_nil _ _),
      String.intercalate_singleton, String.toList_append, String.toList_append, hlast]
    change (_ ++ ['\n']) ++ (blanks ++ [' ', '*', '/']) = _
    simp only [List.append_assoc, List.cons_append, List.nil_append]
  · rw [List.append_assoc, List.append_assoc]
    refine isOpen_append (isOpen_intercalate hlines) ?_ (by simp)
    rw [List.cons_append, isOpen_cons]
    exact ⟨by simp, isOpen_indentation_append level (by simp [isOpen_cons, isOpen_nil])⟩

/-- A comment opens in its first line and closes in its last one, with a line between them for each
line of the text. What would close it stands at its very end and nowhere else. -/
theorem doc_closes_at_end (p : Page) (text : String) :
    ∃ between : List String, between.length = (Text.lines text.toList).length ∧
      let block := indented p.level "/**" :: between ++ [indented p.level " */"]
      p.step (.doc text) = { p with lines := p.lines ++ block } ∧
        ∀ i, Text.StandsAt ['*', '/'] ("\n".intercalate block).toList i ↔
          i + 2 = ("\n".intercalate block).toList.length := by
  let between := ((Text.lines text.toList).map docLine).map (indented p.level)
  have hupper : ∀ l ∈ indented p.level "/**" :: between, IsOpen l.toList := by
    intro l hl
    rcases List.mem_cons.mp hl with rfl | hl
    · exact isOpen_indented p.level (by simp [isOpen_cons, isOpen_nil])
    · obtain ⟨inner, hinner, rfl⟩ := List.mem_map.mp hl
      obtain ⟨cs, -, rfl⟩ := List.mem_map.mp hinner
      exact isOpen_indented p.level (isOpen_docLine cs)
  obtain ⟨front, hfront, hopen⟩ :=
    exists_front_of_closing p.level (List.cons_ne_nil _ _) hupper
  refine ⟨between, by simp [between], ?_, fun i ↦ ?_⟩
  · simp [Page.step, Page.addLines, docLines, between]
  · rw [hfront]
    exact standsAt_closer_iff hopen i

end Php

end DiagramMigrations
