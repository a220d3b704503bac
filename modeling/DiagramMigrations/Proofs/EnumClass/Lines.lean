import DiagramMigrations.EnumClass.Basic
import DiagramMigrations.Proofs.Php.Layout

/-!
The lines of an enumeration class. Each of its literals is declared by a line of its own, under the
lines of its documentation; the map below the declarations has a line for each pair.
-/

set_option autoImplicit false
set_option relaxedAutoImplicit false

namespace DiagramMigrations.EnumClass

open Php Php.Page

/-- The line that declares a constant: its value is its name. -/
def declaration (name : String) : String :=
  "const " ++ name ++ " = " ++ quote name ++ ";"

/-- The lines of a constant: its documentation, its declaration and a blank one. -/
def constantLines (level : Nat) (l : Literal) : List String :=
  (l.documentation.elim [] docLines ++ [declaration l.name]).map (indented level) ++ [""]

/-- The lines of the map. -/
def mapLines (level : Nat) (pairs : List (String × String)) : List String :=
  if pairs = [] then [indented level "return [];"]
  else indented level "return [" :: pairs.map (fun pair ↦ indented (level + 1) (pairLine pair)) ++
    [indented level "];"]

/-- The lines of an enumeration class. -/
def lines (k : EnumClass) (enumNamespace : String) : List String :=
  ["<?php", "", "namespace " ++ enumNamespace ++ ";", "",
    "class " ++ k.className ++ " extends " ++ baseName, "\x7b"] ++
    k.literals.flatMap (constantLines 1) ++
    (docLines "Constant name to value map.\n\n@return array").map (indented 1) ++
    [indented 1 "protected static function constants()", indented 1 "\x7b"] ++
    mapLines 2 k.pairs ++ [indented 1 "\x7d", "\x7d"]

variable (ls : List String) (level : Nat)

theorem run_constantSteps (l : Literal) :
    run ⟨ls, level⟩ (constantSteps l ++ [.blank]) = ⟨ls ++ constantLines level l, level⟩ := by
  cases hdoc : l.documentation <;>
    simp [constantSteps, constantLines, declaration, hdoc, run, step, line, addLines]

theorem run_mapSteps (pairs : List (String × String)) :
    run ⟨ls, level⟩ (mapSteps pairs) = ⟨ls ++ mapLines level pairs, level⟩ := by
  unfold mapSteps mapLines
  split_ifs
  · simp [run, step, line]
  · simp [run, step, line, run_map_line]

theorem run_steps (k : EnumClass) (enumNamespace : String) :
    run {} (k.steps enumNamespace) = ⟨k.lines enumNamespace, 0⟩ := by
  have hconstants := fun ls ↦ run_flatMap ls 1 (fun ls l ↦ run_constantSteps ls 1 l) k.literals
  simp only [steps, header, constantsSteps, run_append, run, step, line, addLines, hconstants,
    run_mapSteps]
  simp [lines, indented_zero]

/-- The text of an enumeration class is that of its lines. -/
theorem text_eq (k : EnumClass) (enumNamespace : String) :
    k.text enumNamespace = "\n".intercalate (k.lines enumNamespace) ++ "\n" := by
  rw [text, render, run_steps]
  rfl

/-- Whether a class declares a constant: it has a literal of that name, and a line for it. -/
structure Declares (k : EnumClass) (enumNamespace constant : String) : Prop where
  literal : constant ∈ k.literals.map Literal.name
  line : indented 1 (declaration constant) ∈ k.lines enumNamespace

/-- A class declares the names of its literals. -/
theorem declares_of_mem {k : EnumClass} {constant : String}
    (h : constant ∈ k.literals.map Literal.name) (enumNamespace : String) :
    k.Declares enumNamespace constant := by
  obtain ⟨l, hl, rfl⟩ := List.mem_map.mp h
  have hconstant : indented 1 (declaration l.name) ∈ constantLines 1 l := by
    simp [constantLines]
  have hconstants : indented 1 (declaration l.name) ∈ k.literals.flatMap (constantLines 1) :=
    List.mem_flatMap.mpr ⟨l, hl, hconstant⟩
  exact ⟨h, by simp [lines, hconstants]⟩

end DiagramMigrations.EnumClass
