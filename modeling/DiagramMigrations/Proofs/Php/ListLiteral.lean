import DiagramMigrations.Proofs.Lists
import DiagramMigrations.Proofs.Php.Literal

/-!
Lists of literals, read back. Between brackets stand literals with commas between them; white space
may stand around each, and a comma behind the last. The list that is written for texts reads as the
texts with their white space flattened, in order; and neither a literal nor a list has a line break.
-/

set_option autoImplicit false
set_option relaxedAutoImplicit false

namespace DiagramMigrations.Php

variable {cs text rest : List Char}

/-! ### The reader of lists -/

theorem exists_of_withChar {c : Char} {result : Option (List Char × List Char)}
    (h : withChar c result = some (text, rest)) : ∃ later, result = some (later, rest) := by
  obtain ⟨read, hread, heq⟩ := Option.map_eq_some_iff.mp h
  obtain ⟨-, rfl⟩ := Prod.mk.inj heq
  exact ⟨read.1, hread⟩

theorem length_of_readInside? (h : readInside? cs = some (text, rest)) :
    rest.length < cs.length := by
  induction cs using readInside?.induct generalizing text with
  | case1 => simp [readInside?] at h
  | case2 behind =>
    rw [readInside?] at h
    obtain ⟨-, rfl⟩ := Prod.mk.inj (Option.some.inj h)
    exact Nat.lt_succ_self _
  | case3 behind ih | case4 behind ih =>
    rw [readInside?] at h
    obtain ⟨later, hlater⟩ := exists_of_withChar h
    exact Nat.lt_succ_of_lt (Nat.lt_succ_of_lt (ih hlater))
  | case5 c behind hquote hslashes hslash ih =>
    rw [readInside?] at h
    · obtain ⟨later, hlater⟩ := exists_of_withChar h
      exact Nat.lt_succ_of_lt (ih hlater)
    · exact hquote
    · exact hslashes
    · exact hslash

theorem length_of_readLiteral? (h : readLiteral? cs = some (text, rest)) :
    rest.length < cs.length := by
  unfold readLiteral? at h
  split at h
  · exact Nat.lt_succ_of_lt (length_of_readInside? h)
  · cases h

/-- The white space that may stand between the parts of a list. -/
def isSpace (c : Char) : Bool :=
  c = ' ' || c = '\t' || c = '\n' || c = '\r'

/-- The texts of literals up to the closing bracket, and what stands behind the bracket. -/
def readItems? (cs : List Char) : Option (List (List Char) × List Char) :=
  let start := cs.dropWhile isSpace
  if start.head? = some ']' then some ([], start.tail)
  else
    match _hread : readLiteral? start with
    | none => none
    | some (text, behind) =>
      let next := behind.dropWhile isSpace
      if next.head? = some ']' then some ([text], next.tail)
      else if next.head? = some ',' then
        (readItems? next.tail).map fun read ↦ (text :: read.1, read.2)
      else none
termination_by cs.length
decreasing_by
  have hstart : start.length ≤ cs.length := List.length_dropWhile_le ..
  have hbehind : behind.length < start.length := length_of_readLiteral? _hread
  have hnext : (behind.dropWhile isSpace).length ≤ behind.length := List.length_dropWhile_le ..
  rw [List.length_tail]
  omega

/-- The texts of a list of literals, and what stands behind the list. -/
def readList? : List Char → Option (List (List Char) × List Char)
  | '[' :: rest => readItems? rest
  | _ => none

/-! ### Lists of quoted texts -/

theorem readItems?_close (rest : List Char) : readItems? (']' :: rest) = some ([], rest) := by
  rw [readItems?, List.dropWhile_cons_of_neg (by decide), if_pos (by rfl)]
  rfl

theorem readItems?_blank (cs : List Char) : readItems? (' ' :: cs) = readItems? cs := by
  rw [readItems?, readItems?, List.dropWhile_cons_of_pos (by decide)]

/-- A literal is read first, and what stands behind it decides how the reader goes on. -/
theorem readItems?_quote (text : String) (behind : List Char) :
    readItems? ((quote text).toList ++ behind) =
      let next := behind.dropWhile isSpace
      if next.head? = some ']' then some ([flatten text.toList], next.tail)
      else if next.head? = some ',' then
        (readItems? next.tail).map fun read ↦ (flatten text.toList :: read.1, read.2)
      else none := by
  have hstart : ((quote text).toList ++ behind).dropWhile isSpace =
      (quote text).toList ++ behind := by
    simp [quote, isSpace]
  have hhead : ((quote text).toList ++ behind).head? ≠ some ']' := by
    simp [quote]
  rw [readItems?, hstart]
  dsimp only
  rw [if_neg hhead, readLiteral?_quote]

theorem readItems?_intercalate (items : List String) (rest : List Char) :
    readItems? ([',', ' '].intercalate (items.map fun text ↦ (quote text).toList) ++ ']' :: rest) =
      some (items.map fun text ↦ flatten text.toList, rest) := by
  induction items with
  | nil => exact readItems?_close rest
  | cons text items ih =>
    cases items with
    | nil =>
      rw [List.map_singleton, List.intercalate_singleton, readItems?_quote,
        List.dropWhile_cons_of_neg (by decide)]
      rfl
    | cons next items =>
      -- behind the literal stand a comma and a blank, and then the other literals
      have hfirst : [',', ' '].intercalate
            ((text :: next :: items).map fun text ↦ (quote text).toList) ++ ']' :: rest =
          (quote text).toList ++ ',' :: ' ' ::
            ([',', ' '].intercalate ((next :: items).map fun text ↦ (quote text).toList) ++
              ']' :: rest) := by
        simp [List.intercalate_cons_cons]
      rw [hfirst, readItems?_quote, List.dropWhile_cons_of_neg (by decide)]
      dsimp only
      rw [if_neg (by simp), if_pos (by simp), List.tail_cons, readItems?_blank, ih]
      rfl

/-- The list of texts reads as the texts with their white space flattened. -/
theorem readList?_textList (items : List String) (rest : List Char) :
    readList? ((textList items).toList ++ rest) =
      some (items.map fun text ↦ flatten text.toList, rest) := by
  have hlist : (textList items).toList ++ rest =
      '[' :: ([',', ' '].intercalate (items.map fun text ↦ (quote text).toList) ++ ']' :: rest) := by
    simp [textList, Function.comp_def]
  rw [hlist, readList?, readItems?_intercalate]

/-! ### Lines -/

theorem not_isLineBreak_of_mem_quote {c : Char} {text : String} (h : c ∈ (quote text).toList) :
    Text.isLineBreak c = false := by
  simp only [quote, escape, String.toList_append, String.toList_ofList, List.mem_append,
    List.mem_flatMap] at h
  rcases h with (hopening | ⟨d, hd, hc⟩) | hclosing
  · rw [List.mem_singleton.mp hopening]
    rfl
  · -- a character of the text, or a backslash before it
    have hchar : c = '\\' ∨ c = d := by
      rw [escapeChar] at hc
      split_ifs at hc
      · simpa using hc
      · exact Or.inr (List.mem_singleton.mp hc)
    rcases hchar with rfl | rfl
    · rfl
    · rcases mem_of_mem_intercalate hd with hblank | ⟨word, hword, hc⟩
      · rw [List.mem_singleton.mp hblank]
        rfl
      · exact Bool.eq_false_iff.mpr fun hbreak ↦ Bool.false_ne_true
          (((Text.mem_fields hword).2 c hc).symm.trans (Text.isBlank_of_isLineBreak hbreak))
  · rw [List.mem_singleton.mp hclosing]
    rfl

theorem not_isLineBreak_of_mem_textList {c : Char} {items : List String}
    (h : c ∈ (textList items).toList) : Text.isLineBreak c = false := by
  rw [textList, String.toList_append, String.toList_append, String.toList_intercalate,
    List.map_map, List.mem_append, List.mem_append] at h
  rcases h with (hopening | hitems) | hclosing
  · rw [List.mem_singleton.mp hopening]
    rfl
  · rcases mem_of_mem_intercalate hitems with hsep | ⟨literal, hliteral, hc⟩
    · rcases (by simpa using hsep : c = ',' ∨ c = ' ') with rfl | rfl <;> rfl
    · obtain ⟨text, -, rfl⟩ := List.mem_map.mp hliteral
      exact not_isLineBreak_of_mem_quote hc
  · rw [List.mem_singleton.mp hclosing]
    rfl

/-- Quoted text is one literal: it stays on its line, a reader that starts at its first character
stops behind its last one, whatever follows, and reads the text with every run of white space
replaced by a blank, and none at its ends. A list of quoted texts is one list, of as many literals,
which read so in order. -/
theorem quoted_texts_read_back :
    (∀ text : String, (quote text).toList.any Text.isLineBreak = false ∧
      ∀ rest, readLiteral? ((quote text).toList ++ rest) =
        some (Text.trim (Text.squeeze text.toList), rest)) ∧
    ∀ items : List String, (textList items).toList.any Text.isLineBreak = false ∧
      ∀ rest, readList? ((textList items).toList ++ rest) =
        some (items.map fun text ↦ Text.trim (Text.squeeze text.toList), rest) := by
  have hflatten (cs : List Char) : flatten cs = Text.trim (Text.squeeze cs) :=
    Text.intercalate_fields cs
  refine ⟨fun text ↦ ⟨?_, fun rest ↦ ?_⟩, fun items ↦ ⟨?_, fun rest ↦ ?_⟩⟩
  · exact List.any_eq_false.mpr fun c hc ↦ by simp [not_isLineBreak_of_mem_quote hc]
  · rw [readLiteral?_quote, hflatten]
  · exact List.any_eq_false.mpr fun c hc ↦ by simp [not_isLineBreak_of_mem_textList hc]
  · rw [readList?_textList]
    simp only [hflatten]

end DiagramMigrations.Php
