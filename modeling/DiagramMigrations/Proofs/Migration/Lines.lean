import DiagramMigrations.Migration.Basic
import DiagramMigrations.Proofs.Php.Layout

/-!
The lines of a migration. Its creation block holds a line for each statement and four for each
foreign key, with a blank line before those of a foreign key that does not come first, and nothing
else; around it stand lines that do not depend on the block.
-/

set_option autoImplicit false
set_option relaxedAutoImplicit false

namespace DiagramMigrations

open Php Php.Page

/-- The lines of a foreign key: the call that opens it, and below it the calls that follow. -/
def Migration.ForeignKey.lines (level : Nat) (k : ForeignKey) : List String :=
  indented level k.head :: k.chain.map (indented (level + 1))

namespace CreationBlock

open Migration

variable (ls : List String) (level : Nat)

/-- The lines of a creation. -/
def lines (b : CreationBlock) : List String :=
  b.statements.map (fun s ↦ indented level s.text) ++
    match b.foreignKeys with
    | [] => []
    | k :: rest => (if b.statements.isEmpty then [] else [""]) ++ k.lines level ++
        rest.flatMap fun k ↦ "" :: k.lines level

theorem run_foreignKeySteps (first : Bool) (k : ForeignKey) :
    run ⟨ls, level⟩ (foreignKeySteps first k) =
      ⟨ls ++ ((if first then [] else [""]) ++ k.lines level), level⟩ := by
  cases first <;>
    simp [foreignKeySteps, run, step, line, addLines, ForeignKey.lines]

/-- The layout of a creation writes its lines, and leaves the level as it was. -/
theorem run_steps (b : CreationBlock) : run ⟨ls, level⟩ b.steps = ⟨ls ++ b.lines level, level⟩ := by
  obtain ⟨statements, foreignKeys⟩ := b
  cases foreignKeys with
  | nil => simp [steps, lines, run, step, addLines]
  | cons k rest =>
    rw [steps, run, step]
    dsimp only [addLines]
    have hrest := fun ls ↦ run_flatMap ls level fun ls k ↦ run_foreignKeySteps ls level false k
    rw [run_append, run_foreignKeySteps, hrest]
    simp [lines]

end CreationBlock

namespace Migration

/-- The line that opens the creation of a table. -/
def createLine (table : String) : String :=
  indented 2 ("Schema::create(" ++ quote table ++ ", function (Blueprint $table) \x7b")

/-- The lines above a creation block, down to the one that opens it. -/
def linesAbove (m : Migration) (enumNamespace : String) : List String :=
  ["<?php", ""] ++ (m.imports enumNamespace).map (fun name ↦ "use " ++ name ++ ";") ++
    ["", "class " ++ m.className ++ " extends Migration", "\x7b"] ++
    (docLines "Run the migrations.\n\n@return void").map (indented 1) ++
    [indented 1 "public function up()", indented 1 "\x7b", createLine m.tableName]

/-- The lines below a creation block. -/
def linesBelow (m : Migration) : List String :=
  [indented 2 "\x7d);", indented 1 "\x7d", ""] ++
    (docLines "Reverse the migrations.\n\n@return void").map (indented 1) ++
    [indented 1 "public function down()", indented 1 "\x7b",
      indented 2 ("Schema::dropIfExists(" ++ quote m.tableName ++ ");"), indented 1 "\x7d", "\x7d"]

/-- The lines of a migration. -/
def lines (m : Migration) (enumNamespace : String) : List String :=
  m.linesAbove enumNamespace ++ m.block.lines 3 ++ m.linesBelow

theorem run_steps (m : Migration) (enumNamespace : String) :
    run {} (m.steps enumNamespace) = ⟨m.lines enumNamespace, 0⟩ := by
  simp only [steps, run_append, run, step, line, addLines, run_map_line, CreationBlock.run_steps]
  simp [lines, linesAbove, linesBelow, createLine, indented_zero]

/-- The text of a statement stands whole in a line of the migration. -/
theorem text_infix_lines {m : Migration} {statement : Statement}
    (h : statement ∈ m.block.statements) (enumNamespace : String) :
    ∃ line ∈ m.lines enumNamespace, statement.text.toList <:+: line.toList := by
  have hblock : indented 3 statement.text ∈ m.block.lines 3 :=
    List.mem_append_left _ (List.mem_map.mpr ⟨statement, h, rfl⟩)
  have hlines : indented 3 statement.text ∈ m.lines enumNamespace :=
    List.mem_append_left _ (List.mem_append_right _ hblock)
  exact ⟨_, hlines, (suffix_indented 3 statement.text).isInfix⟩

/-- The text of a migration is that of its lines. -/
theorem text_eq (m : Migration) (enumNamespace : String) :
    m.text enumNamespace = "\n".intercalate (m.lines enumNamespace) ++ "\n" := by
  rw [text, render, run_steps]
  rfl

end Migration

end DiagramMigrations
