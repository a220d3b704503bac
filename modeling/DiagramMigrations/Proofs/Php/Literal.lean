import DiagramMigrations.Php.Literal
import DiagramMigrations.Proofs.Text.Fields
import Mathlib.Data.List.Basic

/-!
What a literal says when it is read back. Between single quotes only quotes and backslashes are
escaped, and the reader ends at the first quote that is not. The literal of a text reads as the text
with its white space flattened, whatever stands behind it; so a text that differs from a word in the
white space around it has the same literal as the word.
-/

set_option autoImplicit false
set_option relaxedAutoImplicit false

namespace DiagramMigrations.Php

variable {cs word : List Char}

/-! ### Flattened texts -/

/-- Flattening leaves no white space exactly if trimming does. -/
theorem flatten_eq_iff (hword : ∀ c ∈ word, Text.isBlank c = false) (hne : word ≠ []) :
    flatten cs = word ↔ Text.trim cs = word := by
  rw [← Text.fields_eq_singleton_iff hword hne, flatten]
  generalize Text.fields cs = parts
  constructor
  · intro hflat
    rcases parts with _ | ⟨first, _ | ⟨second, rest⟩⟩
    · exact absurd hflat (Ne.symm hne)
    · rw [← hflat, List.intercalate_singleton]
    · -- Between two fields there is a blank.
      have hblank : ' ' ∈ word := by
        rw [← hflat, List.intercalate_cons_cons]
        simp
      exact absurd (hword ' ' hblank) (by decide)
  · rintro rfl
    rw [List.intercalate_singleton]

theorem fields_flatten (cs : List Char) : Text.fields (flatten cs) = Text.fields cs :=
  Text.fields_intercalate fun _ hword ↦ Text.mem_fields hword

/-! ### Escaped texts -/

/-- In an escaped text every quote stands behind a backslash. -/
theorem exists_backslash_of_quote {front rest : List Char}
    (h : cs.flatMap escapeChar = front ++ '\'' :: rest) : ∃ before, front = before ++ ['\\'] := by
  induction cs generalizing front with
  | nil => simp at h
  | cons c cs ih =>
    rw [List.flatMap_cons, escapeChar] at h
    split_ifs at h with hspecial
    · rcases front with - | ⟨x, - | ⟨y, front⟩⟩
      · simp at h
      · obtain ⟨rfl, -⟩ := List.cons.inj h
        exact ⟨[], rfl⟩
      · obtain ⟨before, rfl⟩ := ih (List.cons.inj (List.cons.inj h).2).2
        exact ⟨x :: y :: before, rfl⟩
    · rcases front with - | ⟨x, front⟩
      · obtain ⟨rfl, -⟩ := List.cons.inj h
        exact absurd (Or.inr rfl) hspecial
      · obtain ⟨before, rfl⟩ := ih (List.cons.inj h).2
        exact ⟨x :: before, rfl⟩

/-! ### The reader -/

/-- Puts a character before the text that is read. -/
def withChar (c : Char) (result : Option (List Char × List Char)) :
    Option (List Char × List Char) :=
  result.map fun read ↦ (c :: read.1, read.2)

/-- The text up to the closing quote, and what stands behind the quote. -/
def readInside? : List Char → Option (List Char × List Char)
  | [] => none
  | '\'' :: rest => some ([], rest)
  | '\\' :: '\\' :: rest => withChar '\\' (readInside? rest)
  | '\\' :: '\'' :: rest => withChar '\'' (readInside? rest)
  | c :: rest => withChar c (readInside? rest)

/-- The text of a literal, and what stands behind the literal. -/
def readLiteral? : List Char → Option (List Char × List Char)
  | '\'' :: rest => readInside? rest
  | _ => none

/-- The text that a literal stands for. -/
def literalText? (literal : String) : Option String :=
  (readLiteral? literal.toList).bind fun read ↦
    if read.2.isEmpty then some (String.ofList read.1) else none

/-- The text that the literal behind the first parenthesis of a call stands for. -/
def firstArgument? (call : String) : Option String :=
  (readLiteral? ((call.toList.dropWhile (· ≠ '(')).drop 1)).map fun read ↦ String.ofList read.1

/-- Escaped characters are read back as they were. -/
theorem readInside?_flatMap_escapeChar (cs rest : List Char) :
    readInside? (cs.flatMap escapeChar ++ '\'' :: rest) = some (cs, rest) := by
  induction cs with
  | nil => rfl
  | cons c cs ih =>
    rw [List.flatMap_cons, List.append_assoc, escapeChar]
    by_cases hslash : c = '\\'
    · subst c
      simp [readInside?, ih, withChar]
    by_cases hquote : c = '\''
    · subst c
      simp [readInside?, ih, withChar]
    simp [hslash, hquote, readInside?, ih, withChar]

theorem readLiteral?_quote (text : String) (rest : List Char) :
    readLiteral? ((quote text).toList ++ rest) = some (flatten text.toList, rest) := by
  have hquote : (quote text).toList ++ rest =
      '\'' :: ((flatten text.toList).flatMap escapeChar ++ '\'' :: rest) := by
    simp [quote, escape]
  rw [hquote, readLiteral?, readInside?_flatMap_escapeChar]

/-- The literal of a text stands for the text with its white space flattened. -/
theorem literalText?_quote (text : String) :
    literalText? (quote text) = some (String.ofList (flatten text.toList)) := by
  have hread := readLiteral?_quote text []
  rw [List.append_nil] at hread
  rw [literalText?, hread]
  rfl

/-- Texts have the same literal exactly if they have the same fields. -/
theorem quote_eq_quote_iff {text other : String} :
    quote text = quote other ↔ Text.fields text.toList = Text.fields other.toList := by
  constructor
  · intro h
    have hread := congrArg literalText? h
    rw [literalText?_quote, literalText?_quote, Option.some.injEq] at hread
    rw [← fields_flatten, String.ofList_injective hread, fields_flatten]
  · intro h
    rw [quote, quote, escape, escape, flatten, flatten, h]

theorem firstArgument?_call (name text rest : String) (h : '(' ∉ name.toList) :
    firstArgument? (name ++ "(" ++ quote text ++ rest) = literalText? (quote text) := by
  have hcall : (name ++ "(" ++ quote text ++ rest).toList =
      name.toList ++ '(' :: ((quote text).toList ++ rest.toList) := by
    simp
  have hname : ∀ c ∈ name.toList, decide (c ≠ '(') = true := fun c hc ↦
    decide_eq_true fun heq ↦ h (heq ▸ hc)
  rw [firstArgument?, hcall, List.dropWhile_append_of_pos hname,
    List.dropWhile_cons_of_neg (by simp), List.drop_one, List.tail_cons, readLiteral?_quote,
    literalText?_quote]
  rfl

/-- The literal of a text stands for a word exactly if the text is the word with white space around
it. -/
theorem literalText?_quote_eq_iff {text word : String}
    (hword : word.toList.any Text.isBlank = false) (hne : word ≠ "") :
    literalText? (quote text) = some word ↔ Text.trimmed text = word := by
  have hplain : ∀ c ∈ word.toList, Text.isBlank c = false := fun c hc ↦
    Bool.eq_false_iff.mpr (List.any_eq_false.mp hword c hc)
  have hchars : word.toList ≠ [] := fun hnil ↦ hne (String.toList_eq_nil_iff.mp hnil)
  rw [literalText?_quote, Option.some.injEq, Text.trimmed, ← String.toList_inj, ← String.toList_inj,
    String.toList_ofList, String.toList_ofList, flatten_eq_iff hplain hchars]

end DiagramMigrations.Php
