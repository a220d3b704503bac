import DiagramMigrations.Proofs.Migration.Lines

/-!
The lines of a migration that import classes. They stand at the outermost level, and nothing else
there begins like them.
-/

set_option autoImplicit false
set_option relaxedAutoImplicit false

namespace DiagramMigrations

namespace Php

/-- Whether a line imports a class. -/
def isUse (line : String) : Bool :=
  ['u', 's', 'e', ' '].isPrefixOf line.toList

/-- What is indented imports nothing. -/
theorem isUse_indented (level : Nat) (text : String) :
    isUse (indented (level + 1) text) = false := by
  unfold indented
  split_ifs
  · rfl
  · rw [isUse, String.toList_ofList, List.replicate_succ]
    rfl

end Php

open Php

theorem Migration.ForeignKey.isUse_of_mem_lines {k : ForeignKey} {level : Nat} {line : String}
    (h : line ∈ k.lines (level + 1)) : isUse line = false := by
  rcases List.mem_cons.mp h with rfl | h
  · exact isUse_indented level _
  · obtain ⟨call, -, rfl⟩ := List.mem_map.mp h
    exact isUse_indented (level + 1) call

theorem CreationBlock.isUse_of_mem_lines {b : CreationBlock} {level : Nat} {line : String}
    (h : line ∈ b.lines (level + 1)) : isUse line = false := by
  rw [lines] at h
  rcases List.mem_append.mp h with h | h
  · obtain ⟨statement, -, rfl⟩ := List.mem_map.mp h
    exact isUse_indented level _
  · cases hkeys : b.foreignKeys with
    | nil =>
      rw [hkeys] at h
      exact absurd h List.not_mem_nil
    | cons k rest =>
      rw [hkeys] at h
      rcases List.mem_append.mp h with h | h
      · rcases List.mem_append.mp h with h | h
        · split_ifs at h
          · exact absurd h List.not_mem_nil
          · rw [List.mem_singleton.mp h]
            rfl
        · exact Migration.ForeignKey.isUse_of_mem_lines h
      · obtain ⟨other, -, h⟩ := List.mem_flatMap.mp h
        rcases List.mem_cons.mp h with rfl | h
        · rfl
        · exact Migration.ForeignKey.isUse_of_mem_lines h

namespace Migration

/-- The line that imports a class. -/
def useLine (name : String) : String :=
  "use " ++ name ++ ";"

theorem isUse_useLine (name : String) : isUse (useLine name) = true := by
  have huse : ("use " : String).toList = ['u', 's', 'e', ' '] := rfl
  rw [isUse, useLine, String.toList_append, String.toList_append, huse, List.append_assoc,
    List.isPrefixOf_iff_prefix]
  exact List.prefix_append _ _

theorem isUse_classLine (className : String) :
    isUse ("class " ++ className ++ " extends Migration") = false := by
  have hclass : ("class " : String).toList = ['c', 'l', 'a', 's', 's', ' '] := rfl
  rw [isUse, String.toList_append, String.toList_append, hclass]
  rfl

/-- Lines that are indented import nothing. -/
theorem filter_isUse_indented (level : Nat) (texts : List String) :
    (texts.map (indented (level + 1))).filter isUse = [] := by
  refine List.filter_eq_nil_iff.mpr fun line hline ↦ ?_
  obtain ⟨text, -, rfl⟩ := List.mem_map.mp hline
  rw [isUse_indented]
  decide

variable (m : Migration) (enumNamespace : String)

theorem filter_isUse_linesAbove :
    (m.linesAbove enumNamespace).filter isUse = (m.imports enumNamespace).map useLine := by
  have huses : ((m.imports enumNamespace).map useLine).filter isUse =
      (m.imports enumNamespace).map useLine := by
    refine List.filter_eq_self.mpr fun line hline ↦ ?_
    obtain ⟨name, -, rfl⟩ := List.mem_map.mp hline
    exact isUse_useLine name
  have hopening : ["<?php", ""].filter isUse = [] := by decide
  have hclass :
      ["", "class " ++ m.className ++ " extends Migration", "\x7b"].filter isUse = [] := by
    rw [List.filter_cons_of_neg (by decide), List.filter_cons_of_neg (by simp [isUse_classLine]),
      List.filter_cons_of_neg (by decide), List.filter_nil]
  have hmethod : [indented 1 "public function up()", indented 1 "\x7b",
      createLine m.tableName].filter isUse = [] := by
    simp [createLine, isUse_indented]
  rw [linesAbove, List.filter_append, List.filter_append, List.filter_append, List.filter_append,
    hopening, hclass, hmethod, filter_isUse_indented, List.nil_append, List.append_nil,
    List.append_nil, List.append_nil]
  exact huses

theorem filter_isUse_linesBelow : m.linesBelow.filter isUse = [] := by
  have hremoval : [indented 2 "\x7d);", indented 1 "\x7d", ""].filter isUse = [] := by decide
  have hmethod : [indented 1 "public function down()", indented 1 "\x7b",
      indented 2 ("Schema::dropIfExists(" ++ quote m.tableName ++ ");"), indented 1 "\x7d",
      "\x7d"].filter isUse = [] := by
    simp [isUse_indented]
    decide
  rw [linesBelow, List.filter_append, List.filter_append, hremoval, hmethod, filter_isUse_indented]
  rfl

/-- The lines of a migration that import a class are those of its imports. -/
theorem filter_isUse_lines :
    (m.lines enumNamespace).filter isUse = (m.imports enumNamespace).map useLine := by
  have hblock : (m.block.lines 3).filter isUse = [] := by
    refine List.filter_eq_nil_iff.mpr fun line hline ↦ ?_
    rw [CreationBlock.isUse_of_mem_lines hline]
    decide
  rw [lines, List.filter_append, List.filter_append, hblock, filter_isUse_linesBelow,
    List.append_nil, List.append_nil, filter_isUse_linesAbove]

end Migration

end DiagramMigrations
