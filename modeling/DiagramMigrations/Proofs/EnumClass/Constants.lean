import DiagramMigrations.Proofs.EnumClass.Lines
import DiagramMigrations.Proofs.Php.Literal

/-!
The constants in the text of an enumeration class. The lines that declare constants are one for each
literal, in order, and those of the map one for each pair; no other line looks like one of them. A
line tells which constant it is about: lines for different constants differ.
-/

set_option autoImplicit false
set_option relaxedAutoImplicit false

namespace DiagramMigrations.EnumClass

open Php

/-- The line of a class that declares a constant. -/
def constantLine (name : String) : String :=
  indented 1 (declaration name)

/-- The line of the map for a constant under its own name. -/
def entryLine (name : String) : String :=
  indented 3 (pairLine (name, name))

/-- Whether a line of a class declares a constant. -/
def isConstant (line : String) : Bool :=
  opensWith 1 ['c', 'o', 'n', 's', 't', ' '] line

/-- Whether a line of a class is an entry of the map. -/
def isEntry (line : String) : Bool :=
  opensWith 3 ['\''] line

/-! ### Which lines are which -/

theorem isConstant_indented (text : String) :
    isConstant (indented 1 text) = ['c', 'o', 'n', 's', 't', ' '].isPrefixOf text.toList :=
  opensWith_indented (by simp) 1 0 text

theorem isEntry_indented (text : String) : isEntry (indented 1 text) = opensWith 2 ['\''] text :=
  opensWith_indented (by simp) 1 2 text

theorem filter_isConstant_docLines (text : String) :
    ((docLines text).map (indented 1)).filter isConstant = [] := by
  refine List.filter_eq_nil_iff.mpr fun line hline ↦ ?_
  obtain ⟨docLine, hdoc, rfl⟩ := List.mem_map.mp hline
  obtain ⟨c, rest, hchars⟩ := exists_star_of_mem_docLines hdoc
  rw [isConstant_indented, hchars]
  simp

theorem filter_isEntry_docLines (text : String) :
    ((docLines text).map (indented 1)).filter isEntry = [] := by
  refine List.filter_eq_nil_iff.mpr fun line hline ↦ ?_
  obtain ⟨docLine, hdoc, rfl⟩ := List.mem_map.mp hline
  obtain ⟨c, rest, hchars⟩ := exists_star_of_mem_docLines hdoc
  rw [isEntry_indented, opensWith, hchars]
  simp [indentation]

theorem filter_isConstant_constantLines (l : Literal) :
    (constantLines 1 l).filter isConstant = [constantLine l.name] := by
  have hdeclared : isConstant (constantLine l.name) = true := by
    rw [constantLine, isConstant_indented, declaration]
    simp
  rw [constantLines, List.map_append, List.filter_append, List.filter_append, List.map_singleton,
    ← constantLine, List.filter_singleton, hdeclared]
  cases l.documentation with
  | none => rfl
  | some text => rw [Option.elim_some, filter_isConstant_docLines]; rfl

theorem filter_isEntry_constantLines (l : Literal) :
    (constantLines 1 l).filter isEntry = [] := by
  have hdeclared : isEntry (indented 1 (declaration l.name)) = false := by
    rw [isEntry_indented, declaration, opensWith_of_head? (by simp)]
  rw [constantLines, List.map_append, List.filter_append, List.filter_append, List.map_singleton,
    List.filter_singleton, hdeclared]
  cases l.documentation with
  | none => rfl
  | some text => rw [Option.elim_some, filter_isEntry_docLines]; rfl

theorem isConstant_pairLine (pair : String × String) :
    isConstant (indented 3 (pairLine pair)) = false := by
  rw [isConstant, opensWith, indented]
  split_ifs
  · rfl
  · rw [String.toList_ofList]
    rfl

theorem isEntry_pairLine (pair : String × String) :
    isEntry (indented 3 (pairLine pair)) = true := by
  rw [isEntry, ← Nat.add_zero 3, opensWith_indented (by simp), opensWith, pairLine, quote]
  simp

theorem filter_isConstant_mapLines (pairs : List (String × String)) :
    (mapLines 2 pairs).filter isConstant = [] := by
  have hentries : (pairs.map fun pair ↦ indented 3 (pairLine pair)).filter isConstant = [] := by
    refine List.filter_eq_nil_iff.mpr fun line hline ↦ ?_
    obtain ⟨pair, -, rfl⟩ := List.mem_map.mp hline
    simp [isConstant_pairLine]
  rw [mapLines]
  split_ifs
  · rfl
  · rw [List.filter_append, List.filter_cons_of_neg (by decide), hentries]
    rfl

theorem filter_isEntry_mapLines (pairs : List (String × String)) :
    (mapLines 2 pairs).filter isEntry = pairs.map fun pair ↦ indented 3 (pairLine pair) := by
  have hentries : (pairs.map fun pair ↦ indented 3 (pairLine pair)).filter isEntry =
      pairs.map fun pair ↦ indented 3 (pairLine pair) := by
    refine List.filter_eq_self.mpr fun line hline ↦ ?_
    obtain ⟨pair, -, rfl⟩ := List.mem_map.mp hline
    exact isEntry_pairLine pair
  rw [mapLines]
  split_ifs with hnone
  · rw [hnone]
    rfl
  · rw [List.filter_append, List.filter_cons_of_neg (by decide), hentries]
    exact List.append_nil _

/-! ### The lines of a class -/

variable (k : EnumClass) (enumNamespace : String)

/-- The lines of a class that declare constants. -/
def declarationLines : List String :=
  (k.lines enumNamespace).filter isConstant

/-- The lines of a class that are entries of its map. -/
def entryLines : List String :=
  (k.lines enumNamespace).filter isEntry

/-- The lines above the declarations. -/
def headerLines : List String :=
  ["<?php", "", "namespace " ++ enumNamespace ++ ";", "",
    "class " ++ k.className ++ " extends " ++ baseName, "\x7b"]

theorem filter_headerLines (level : Nat) (marks : List Char) :
    (k.headerLines enumNamespace).filter (opensWith (level + 1) marks) = [] := by
  refine List.filter_eq_nil_iff.mpr fun line hline ↦ ?_
  have hhead : line.toList.head? ≠ some ' ' := by
    simp only [headerLines, List.mem_cons, List.not_mem_nil, or_false] at hline
    rcases hline with rfl | rfl | rfl | rfl | rfl | rfl <;> simp
  rw [opensWith_of_head? hhead]
  exact Bool.false_ne_true

/-- One line for each literal, in order, declares a constant. -/
theorem declarationLines_eq :
    k.declarationLines enumNamespace = k.literals.map fun l ↦ constantLine l.name := by
  have hheader : (k.headerLines enumNamespace).filter isConstant = [] :=
    k.filter_headerLines enumNamespace 0 _
  have hconstants : (k.literals.flatMap (constantLines 1)).filter isConstant =
      k.literals.map fun l ↦ constantLine l.name := by
    rw [List.filter_flatMap]
    simp only [filter_isConstant_constantLines]
    exact List.map_eq_flatMap.symm
  have hmethod : [indented 1 "protected static function constants()",
      indented 1 "\x7b"].filter isConstant = [] := by decide
  have hclosing : [indented 1 "\x7d", "\x7d"].filter isConstant = [] := by decide
  rw [declarationLines, lines, ← headerLines]
  simp only [List.filter_append, hheader, hconstants, filter_isConstant_docLines, hmethod,
    filter_isConstant_mapLines, hclosing, List.nil_append, List.append_nil]

/-- The map has one entry for each pair, in order. -/
theorem entryLines_eq :
    k.entryLines enumNamespace = k.pairs.map fun pair ↦ indented 3 (pairLine pair) := by
  have hheader : (k.headerLines enumNamespace).filter isEntry = [] :=
    k.filter_headerLines enumNamespace 2 _
  have hconstants : (k.literals.flatMap (constantLines 1)).filter isEntry = [] := by
    rw [List.filter_flatMap]
    simp [filter_isEntry_constantLines]
  have hmethod : [indented 1 "protected static function constants()",
      indented 1 "\x7b"].filter isEntry = [] := by decide
  have hclosing : [indented 1 "\x7d", "\x7d"].filter isEntry = [] := by decide
  rw [entryLines, lines, ← headerLines]
  simp only [List.filter_append, hheader, hconstants, filter_isEntry_docLines, hmethod,
    filter_isEntry_mapLines, hclosing, List.nil_append, List.append_nil]

/-! ### What a line tells -/

/-- The text between the name and the end of a declaration does not hold what stands before it. -/
theorem append_quoted_inj {front back : List Char} {a b : List Char}
    (h : front ++ [' ', '=', ' ', '\''] ++ a.flatMap escapeChar =
      back ++ [' ', '=', ' ', '\''] ++ b.flatMap escapeChar) : front = back := by
  have hshort : ∀ more cs tail : List Char, [' ', '=', ' ', '\''] ++ cs.flatMap escapeChar =
      more ++ ([' ', '=', ' ', '\''] ++ tail) → more = [] := by
    intro more cs tail hsplit
    rcases more with - | ⟨x, - | ⟨y, - | ⟨z, - | ⟨w, more⟩⟩⟩⟩
    · rfl
    · simp at hsplit
    · simp at hsplit
    · simp at hsplit
    · -- A quote behind a blank would stand in the escaped text.
      obtain ⟨-, -, -, -, hescaped⟩ : ' ' = x ∧ '=' = y ∧ ' ' = z ∧ '\'' = w ∧
          cs.flatMap escapeChar = more ++ ' ' :: '=' :: ' ' :: '\'' :: tail := by
        simpa using hsplit
      have hquote : cs.flatMap escapeChar = (more ++ [' ', '=', ' ']) ++ '\'' :: tail := by
        simpa using hescaped
      obtain ⟨before, hbefore⟩ := exists_backslash_of_quote hquote
      have hlast := congrArg List.getLast? hbefore
      simp at hlast
  rw [List.append_assoc, List.append_assoc] at h
  rcases List.append_eq_append_iff.mp h with ⟨more, rfl, hmore⟩ | ⟨more, rfl, hmore⟩
  · rw [hshort more a _ hmore, List.append_nil]
  · rw [hshort more b _ hmore, List.append_nil]

/-- Lines that declare constants of different names differ. -/
theorem constantLine_injective : Function.Injective constantLine := by
  intro a b h
  have hdeclared : declaration a = declaration b := indented_injective 1 h
  have htext (name : String) : (declaration name).toList = ['c', 'o', 'n', 's', 't', ' '] ++
      ((name.toList ++ [' ', '=', ' ', '\''] ++ (flatten name.toList).flatMap escapeChar) ++
        ['\'', ';']) := by
    simp [declaration, quote, escape]
  have hchars := congrArg String.toList hdeclared
  rw [htext, htext] at hchars
  exact String.toList_inj.mp
    (append_quoted_inj (List.append_cancel_right (List.append_cancel_left hchars)))

/-- Entries of the map for constants of different names differ. -/
theorem entryLine_injective : Function.Injective entryLine := by
  intro a b h
  have hpair : pairLine (a, a) = pairLine (b, b) := indented_injective 3 h
  have hread := congrArg (fun text ↦ readLiteral? text.toList) hpair
  have hboth : flatten a.toList = flatten b.toList ∧ a.toList = b.toList := by
    simpa [pairLine, readLiteral?_quote] using hread
  exact String.toList_inj.mp hboth.2

end DiagramMigrations.EnumClass
