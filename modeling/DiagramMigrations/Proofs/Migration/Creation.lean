import DiagramMigrations.Proofs.Migration.Columns
import Mathlib.Data.List.Basic

/-!
The creation of a table as it stands in the text of a migration: the line that opens it, a line for
each statement, and four lines for each foreign key. They are spelled out here, character by
character, so that what is said about them is said about the text.
-/

set_option autoImplicit false
set_option relaxedAutoImplicit false

namespace DiagramMigrations

open Migration Php

/-- The lines of a migration: those above the creation of the table, the literal under which the
table is created, the statements, the blocks of the foreign keys, and the lines below. -/
structure Creation where
  above : List String
  literal : String
  statements : List String
  blocks : List (List String)
  below : List String

namespace Creation

/-- All lines. There is a blank line before every block, except at the beginning. -/
def lines (k : Creation) : List String :=
  k.above ++ ["        Schema::create(" ++ k.literal ++ ", function (Blueprint $table) \x7b"] ++
    [""].intercalate ((if k.statements = [] then [] else [k.statements]) ++ k.blocks) ++
    ["        \x7d);"] ++ k.below

/-- The text of the lines. -/
def text (k : Creation) : String :=
  "\n".intercalate k.lines ++ "\n"

end Creation

/-! ### What is written -/

/-- The block of a foreign key, for a column of the table, a column of another table and the literal
of that table. -/
def foreignKeyBlock (column referenced literal : String) : List String := [
  "            $table->foreign(" ++ quote column ++ ")",
  "                ->references(" ++ quote referenced ++ ")",
  "                ->on(" ++ literal ++ ")",
  "                ->onDelete('cascade');"]

namespace Column

/-- The call that a column is defined by: its name is the first argument. -/
def typeWords (c : Column) : String :=
  match c.type with
  | .enumeration name => "enum(" ++ quote c.name ++ ", " ++ Naming.className name ++ "::values())"
  | .primitive kind size => kind.method ++ "(" ++ quote c.name ++
    (match size with
      | some size => if kind.acceptsSize then ", " ++ size.render else ""
      | none => "") ++ ")"

/-- The call for the default of a column. That of a column which takes the literals of an
enumeration is a constant of its class; any other is written as it stands. -/
def defaultWords (c : Column) : String :=
  match c.defaultValue, c.type with
  | none, _ => ""
  | some .null, _ => "->nullable()"
  | some (.literal text), .enumeration name =>
    "->default(" ++ Naming.className name ++ "::" ++ text ++ ")"
  | some (.literal text), .primitive _ _ => "->default(" ++ text ++ ")"

/-- The call for the documentation of a column. -/
def commentWords (c : Column) : String :=
  c.documentation.elim "" fun text ↦ "->comment(" ++ quote text ++ ")"

/-- The line that defines a column of a table whose key has a number of columns. -/
def definitionLine (keyCount : Nat) (c : Column) : String :=
  "            $table->" ++ c.typeWords ++ (if c.isUnique then "->unique()" else "") ++
    c.defaultWords ++ (if c.isPrimaryKey && keyCount == 1 then "->primary()" else "") ++
    c.commentWords ++ ";"

/-- The lines for a column. -/
def lines (keyCount : Nat) (c : Column) : List String :=
  if c.isTimestamp || c.isUnnamed then []
  else c.definitionLine keyCount ::
    if c.wantsIndex then ["            $table->index(" ++ quote c.name ++ ");"] else []

end Column

/-- The lines of the statements for a table. -/
def Table.lines (t : Table) : List String :=
  t.columns.flatMap (Column.lines t.primaryKey.length) ++
    (if 2 ≤ t.primaryKey.length then
      ["            $table->primary(" ++ textList (t.primaryKey.map Column.name) ++ ");"]
    else []) ++
    if t.hasTimestamps then ["            $table->timestamps();"] else []

namespace Migration

/-- The lines above a creation. -/
def head (m : Migration) (enumNamespace : String) : List String :=
  ["<?php", ""] ++ (m.imports enumNamespace).map (fun name ↦ "use " ++ name ++ ";") ++
    ["", "class " ++ m.className ++ " extends Migration", "\x7b"] ++
    (docLines "Run the migrations.\n\n@return void").map (indented 1) ++
    ["    public function up()", "    \x7b"]

/-- The lines below a creation. -/
def tail (m : Migration) : List String :=
  ["    \x7d", ""] ++
    (docLines "Reverse the migrations.\n\n@return void").map (indented 1) ++
    ["    public function down()", "    \x7b",
      "        Schema::dropIfExists(" ++ quote m.tableName ++ ");", "    \x7d", "\x7d"]

/-- The creation in a migration. -/
def creation (m : Migration) (enumNamespace : String) : Creation where
  above := m.head enumNamespace
  literal := quote m.tableName
  statements := m.block.statements.map fun s ↦ "            " ++ s.text
  blocks := m.block.foreignKeys.map fun k ↦
    foreignKeyBlock k.column k.referencedColumn (quote k.referencedTable)
  below := m.tail

/-! ### What is written is the text -/

theorem indented_append {front : String} (hfront : front ≠ "") (level : Nat) (rest : String) :
    indented level (front ++ rest) =
      String.ofList (List.replicate level indentation).flatten ++ front ++ rest := by
  have hne : front ++ rest ≠ "" := fun h ↦ hfront (String.append_eq_empty_iff.mp h).1
  rw [indented, if_neg hne, String.ofList_append, String.ofList_toList, String.append_assoc]

theorem ForeignKey.lines_eq (k : ForeignKey) :
    k.lines 3 = foreignKeyBlock k.column k.referencedColumn (quote k.referencedTable) := by
  have hcascade : indented 4 ("->onDelete(" ++ quote onDelete ++ ");") =
      "                ->onDelete('cascade');" := by decide
  have hlines : k.lines 3 = [indented 3 ("$table->foreign(" ++ quote k.column ++ ")"),
      indented 4 ("->references(" ++ quote k.referencedColumn ++ ")"),
      indented 4 ("->on(" ++ quote k.referencedTable ++ ")"),
      indented 4 ("->onDelete(" ++ quote onDelete ++ ");")] := rfl
  rw [hlines, hcascade, String.append_assoc, String.append_assoc, String.append_assoc,
    indented_append (by decide), indented_append (by decide), indented_append (by decide)]
  simp only [foreignKeyBlock, String.append_assoc]
  rfl

theorem Statement.text_column (d : ColumnDefinition) : (column d).text = d.text := rfl

theorem Statement.text_index (name : String) :
    (index name).text = "$table->index(" ++ quote name ++ ");" := rfl

theorem Statement.text_primaryKey (names : List String) :
    (primaryKey names).text = "$table->primary(" ++ textList names ++ ");" := rfl

/-- Every statement is a call on the table. -/
theorem Statement.exists_text_eq_call (s : Statement) : ∃ rest, s.text = "$table->" ++ rest := by
  have hindex : ("$table->index(" : String) = "$table->" ++ "index(" := rfl
  have hprimary : ("$table->primary(" : String) = "$table->" ++ "primary(" := rfl
  cases s with
  | column d =>
    obtain ⟨modifiers, htext⟩ := d.exists_text_eq_typeCall
    exact ⟨typeCall d.name d.type ++ modifiers, by rw [text_column, htext, String.append_assoc]⟩
  | index name =>
    exact ⟨"index(" ++ quote name ++ ");", by
      rw [text_index, hindex]
      simp only [String.append_assoc]⟩
  | primaryKey names =>
    exact ⟨"primary(" ++ textList names ++ ");", by
      rw [text_primaryKey, hprimary]
      simp only [String.append_assoc]⟩
  | timestamps => exact ⟨"timestamps();", rfl⟩

theorem Statement.indented_text (s : Statement) : indented 3 s.text = "            " ++ s.text := by
  obtain ⟨rest, htext⟩ := s.exists_text_eq_call
  rw [htext, indented_append (by decide), String.append_assoc]
  rfl

end Migration

/-- Lists with a separator between them: the first, and behind it each of the others behind one. -/
theorem intercalate_cons_eq_flatMap {α : Type} (sep x : List α) (rest : List (List α)) :
    sep.intercalate (x :: rest) = x ++ rest.flatMap (sep ++ ·) := by
  induction rest generalizing x with
  | nil => simp [List.intercalate_singleton]
  | cons y rest ih => simp [List.intercalate_cons_cons, ih]

/-- The lines of the statements stand among the lines. -/
theorem Creation.mem_lines_of_mem_statements {k : Creation} {line : String}
    (h : line ∈ k.statements) : line ∈ k.lines := by
  have hbetween : line ∈ [""].intercalate
      ((if k.statements = [] then [] else [k.statements]) ++ k.blocks) := by
    rw [if_neg (List.ne_nil_of_mem h), List.singleton_append, intercalate_cons_eq_flatMap]
    exact List.mem_append_left _ h
  exact List.mem_append_left _ (List.mem_append_left _ (List.mem_append_right _ hbetween))

theorem CreationBlock.lines_eq (b : CreationBlock) :
    b.lines 3 = [""].intercalate
      ((if b.statements = [] then [] else [b.statements.map fun s ↦ "            " ++ s.text]) ++
        b.foreignKeys.map fun k ↦
          foreignKeyBlock k.column k.referencedColumn (quote k.referencedTable)) := by
  obtain ⟨statements, foreignKeys⟩ := b
  simp only [lines, Statement.indented_text, ForeignKey.lines_eq]
  cases statements <;> cases foreignKeys <;>
    simp [intercalate_cons_eq_flatMap, List.flatMap_map]

namespace Migration

variable (m : Migration) (enumNamespace : String)

theorem lines_creation : (m.creation enumNamespace).lines = m.lines enumNamespace := by
  have habove : m.linesAbove enumNamespace = m.head enumNamespace ++
      ["        Schema::create(" ++ quote m.tableName ++ ", function (Blueprint $table) \x7b"] := by
    have hcreate : createLine m.tableName = "        Schema::create(" ++ quote m.tableName ++
        ", function (Blueprint $table) \x7b" := by
      rw [createLine, String.append_assoc, indented_append (by decide), String.append_assoc]
      rfl
    rw [linesAbove, hcreate, head]
    simp only [List.append_assoc]
    rfl
  have hbelow : m.linesBelow = ["        \x7d);"] ++ m.tail := by
    have hdrop : indented 2 ("Schema::dropIfExists(" ++ quote m.tableName ++ ");") =
        "        Schema::dropIfExists(" ++ quote m.tableName ++ ");" := by
      rw [String.append_assoc, indented_append (by decide), String.append_assoc]
      rfl
    rw [linesBelow, hdrop, tail]
    rfl
  have hempty : m.block.statements = [] ↔ (m.block.statements.map fun s ↦
      "            " ++ s.text) = [] := by simp
  rw [lines, habove, hbelow, CreationBlock.lines_eq, Creation.lines, creation]
  simp only [hempty, List.append_assoc]

/-- The text of a migration is spelled out by its creation. -/
theorem text_creation : (m.creation enumNamespace).text = m.text enumNamespace := by
  rw [Creation.text, lines_creation, text_eq]

end Migration

/-! ### The lines of the statements -/

theorem Migration.ColumnDefinition.text_eq (d : ColumnDefinition) :
    d.text = "$table->" ++ typeCall d.name d.type ++ (if d.isUnique then "->unique()" else "") ++
      d.defaultCall.elim "" DefaultCall.text ++ (if d.isPrimary then "->primary()" else "") ++
      d.comment.elim "" (fun text ↦ "->comment(" ++ quote text ++ ")") ++ ";" := by
  rw [ColumnDefinition.text]
  cases d.defaultCall <;> cases d.comment <;> rfl

namespace Column

variable (keyCount : Nat) (c : Column)

theorem typeCall_eq : typeCall c.name c.type = c.typeWords := by
  unfold typeCall typeWords
  cases c.type with
  | enumeration name => rfl
  | primitive kind size =>
    cases size with
    | none => simp only [String.append_empty]
    | some size =>
      dsimp only
      split_ifs <;> simp only [String.append_assoc, String.append_empty]

theorem defaultCall?_text : ((defaultCall? c).elim "" DefaultCall.text) = c.defaultWords := by
  unfold defaultCall? defaultWords enumeration?
  cases c.defaultValue with
  | none => rfl
  | some value => cases value <;> cases c.type <;> rfl

/-- The definition of a column is written in its line. -/
theorem definitionLine_eq {d : ColumnDefinition}
    (h : ColumnDefinition.ofColumn? keyCount c = some d) :
    "            " ++ d.text = c.definitionLine keyCount := by
  have hindent : ("            " ++ "$table->" : String) = "            $table->" := rfl
  obtain ⟨-, rfl⟩ := ofColumn?_eq_some.mp h
  unfold definitionLine commentWords
  rw [ColumnDefinition.text_eq, typeCall_eq, defaultCall?_text, ← hindent]
  simp only [String.append_assoc]

theorem map_columnStatements :
    (columnStatements keyCount c).map (fun s ↦ "            " ++ s.text) = c.lines keyCount := by
  rw [columnStatements, lines]
  cases hdefinition : ColumnDefinition.ofColumn? keyCount c with
  | none =>
    have hskipped : (c.isTimestamp || c.isUnnamed) = true := by
      by_contra hstated
      rw [ColumnDefinition.ofColumn?, if_neg hstated] at hdefinition
      exact Option.some_ne_none _ hdefinition
    rw [if_pos hskipped]
    rfl
  | some d =>
    have hstated : ¬ (c.isTimestamp || c.isUnnamed) = true := by
      obtain ⟨⟨htimestamp, hunnamed⟩, -⟩ := ofColumn?_eq_some.mp hdefinition
      rw [htimestamp, hunnamed]
      decide
    have hindex : (if c.wantsIndex then [Statement.index c.name] else []).map
        (fun s ↦ "            " ++ s.text) =
          if c.wantsIndex then ["            $table->index(" ++ quote c.name ++ ");"] else [] := by
      have hcall : ("            " ++ "$table->index(" : String) =
          "            $table->index(" := rfl
      split_ifs
      · rw [List.map_singleton, Statement.text_index, ← String.append_assoc, ← String.append_assoc,
          hcall]
      · rfl
    rw [if_neg hstated, ← definitionLine_eq keyCount c hdefinition, ← hindex]
    rfl

end Column

/-- The statements for a table are written in its lines. -/
theorem Migration.statements_creation (t : Table) (foreignKeys : List ForeignKey)
    (enumNamespace : String) :
    ((ofTable t foreignKeys).creation enumNamespace).statements = t.lines := by
  have hcolumns : (t.columns.flatMap (columnStatements t.primaryKey.length)).map
      (fun s ↦ "            " ++ s.text) =
        t.columns.flatMap (Column.lines t.primaryKey.length) := by
    rw [List.map_flatMap]
    exact List.flatMap_congr fun c _ ↦ c.map_columnStatements _
  have hkey : (compositeKey? (t.primaryKey.map Column.name)).toList.map
      (fun s ↦ "            " ++ s.text) = if 2 ≤ t.primaryKey.length then
        ["            $table->primary(" ++ textList (t.primaryKey.map Column.name) ++ ");"]
      else [] := by
    rw [compositeKey?, List.length_map]
    split_ifs
    · have hcall : ("            " ++ "$table->primary(" : String) =
          "            $table->primary(" := rfl
      rw [Option.toList_some, List.map_singleton, Statement.text_primaryKey, ← String.append_assoc,
        ← String.append_assoc, hcall]
    · rfl
  have hlast : (if t.hasTimestamps then [Statement.timestamps] else []).map
      (fun s ↦ "            " ++ s.text) =
        if t.hasTimestamps then ["            $table->timestamps();"] else [] := by
    split_ifs <;> rfl
  change t.statements.map _ = _
  rw [Table.statements, List.map_append, List.map_append, hcolumns, hkey, hlast, Table.lines]

/-! ### Foreign keys -/

/-- Whether a line opens a foreign key. -/
def opensForeignKey (line : String) : Bool :=
  opensWith 3 "$table->foreign(".toList line

/-- A line that begins otherwise, and does not end before that shows, opens no foreign key. -/
theorem opensForeignKey_append {front : String}
    (h : ¬ ("            $table->foreign(".toList <+: front.toList ∨
      front.toList <+: "            $table->foreign(".toList)) (middle rest : String) :
    opensForeignKey (front ++ middle ++ rest) = false := by
  rw [Bool.eq_false_iff]
  intro hopens
  refine h (List.prefix_or_prefix_of_prefix (List.isPrefixOf_iff_prefix.mp hopens) ?_)
  rw [String.append_assoc, String.toList_append]
  exact List.prefix_append _ _

/-- The line that defines a column calls the method of a kind, with the name as first argument. -/
theorem Migration.Statement.exists_text_column (d : ColumnDefinition) :
    ∃ (kind : ColumnKind) (rest : String), "            " ++ (column d).text =
      "            $table->" ++ kind.method ++ "(" ++ quote d.name ++ rest := by
  have hindent : ("            " ++ "$table->" : String) = "            $table->" := rfl
  obtain ⟨modifiers, htext⟩ := d.exists_text_eq_typeCall
  obtain ⟨kind, rest, hcall⟩ := exists_typeCall_eq d.name d.type
  refine ⟨kind, rest ++ modifiers, ?_⟩
  rw [text_column, htext, hcall]
  simp only [← String.append_assoc, hindent]

/-- No statement opens a foreign key: it calls another method. -/
theorem Migration.Statement.opensForeignKey_eq (s : Statement) :
    opensForeignKey ("            " ++ s.text) = false := by
  cases s with
  | column d =>
    obtain ⟨kind, rest, hline⟩ := exists_text_column d
    -- Behind the table, only the names of the methods are compared.
    have hkind : ¬ ("foreign(".toList <+: (kind.method ++ "(").toList ∨
        (kind.method ++ "(").toList <+: "foreign(".toList) := by
      cases kind <;> decide
    have hcall : ¬ ("            $table->foreign(".toList <+:
          ("            $table->" ++ kind.method ++ "(").toList ∨
        ("            $table->" ++ kind.method ++ "(").toList <+:
          "            $table->foreign(".toList) := by
      have hforeign : "            $table->foreign(".toList =
          "            $table->".toList ++ "foreign(".toList := rfl
      rwa [String.append_assoc, hforeign, String.toList_append, List.prefix_append_right_inj,
        List.prefix_append_right_inj]
    rw [hline]
    exact opensForeignKey_append hcall _ _
  | index name =>
    rw [text_index, ← String.append_assoc, ← String.append_assoc]
    exact opensForeignKey_append (by decide) _ _
  | primaryKey names =>
    rw [text_primaryKey, ← String.append_assoc, ← String.append_assoc]
    exact opensForeignKey_append (by decide) _ _
  | timestamps => decide

theorem countP_foreignKeyBlock (column referenced literal : String) :
    (foreignKeyBlock column referenced literal).countP opensForeignKey = 1 := by
  have hhead : opensForeignKey ("            $table->foreign(" ++ quote column ++ ")") = true := by
    rw [opensForeignKey, opensWith, String.append_assoc, String.toList_append,
      List.isPrefixOf_iff_prefix]
    exact List.prefix_append _ _
  have hreferences :
      opensForeignKey ("                ->references(" ++ quote referenced ++ ")") = false :=
    opensForeignKey_append (by decide) _ _
  have hon : opensForeignKey ("                ->on(" ++ literal ++ ")") = false :=
    opensForeignKey_append (by decide) _ _
  have hlast : opensForeignKey "                ->onDelete('cascade');" = false := by decide
  rw [foreignKeyBlock, List.countP_cons_of_pos hhead,
    List.countP_cons_of_neg (by rw [hreferences]; decide),
    List.countP_cons_of_neg (by rw [hon]; decide), List.countP_cons_of_neg (by rw [hlast]; decide),
    List.countP_nil]

/-- A blank line opens no foreign key. -/
theorem countP_intercalate_blank (xs : List (List String)) :
    ([""].intercalate xs).countP opensForeignKey = xs.flatten.countP opensForeignKey := by
  have hblank : [""].countP opensForeignKey = 0 := by decide
  have hrest (rest : List (List String)) : (rest.flatMap ([""] ++ ·)).countP opensForeignKey =
      rest.flatten.countP opensForeignKey := by
    induction rest with
    | nil => rfl
    | cons x rest ih =>
      rw [List.flatMap_cons, List.countP_append, List.countP_append, hblank, Nat.zero_add, ih,
        List.flatten_cons, List.countP_append]
  cases xs with
  | nil => rfl
  | cons x rest =>
    rw [intercalate_cons_eq_flatMap, List.countP_append, hrest, List.flatten_cons,
      List.countP_append]

theorem countP_foreignKeyBlocks (foreignKeys : List ForeignKey) :
    (foreignKeys.map fun k ↦ foreignKeyBlock k.column k.referencedColumn
      (quote k.referencedTable)).flatten.countP opensForeignKey = foreignKeys.length := by
  induction foreignKeys with
  | nil => rfl
  | cons k rest ih =>
    rw [List.map_cons, List.flatten_cons, List.countP_append, countP_foreignKeyBlock, ih,
      List.length_cons, Nat.add_comm]

theorem countP_eq_zero_of_forall {lines : List String}
    (h : ∀ line ∈ lines, opensForeignKey line = false) : lines.countP opensForeignKey = 0 :=
  List.countP_eq_zero.mpr fun line hline ↦ by rw [h line hline]; decide

namespace Migration

variable (m : Migration) (enumNamespace : String)

theorem countP_head : (m.head enumNamespace).countP opensForeignKey = 0 := by
  have huses : ((m.imports enumNamespace).map fun name ↦ "use " ++ name ++ ";").countP
      opensForeignKey = 0 := by
    refine countP_eq_zero_of_forall fun line hline ↦ ?_
    obtain ⟨name, -, rfl⟩ := List.mem_map.mp hline
    exact opensForeignKey_append (by decide) _ _
  have hclass : opensForeignKey ("class " ++ m.className ++ " extends Migration") = false :=
    opensForeignKey_append (by decide) _ _
  have hopening : ["<?php", ""].countP opensForeignKey = 0 := by decide
  have hbetween : ["", "class " ++ m.className ++ " extends Migration", "\x7b"].countP
      opensForeignKey = 0 := by
    rw [List.countP_cons_of_neg (by decide), List.countP_cons_of_neg (by rw [hclass]; decide)]
    decide
  have hdocs : ((docLines "Run the migrations.\n\n@return void").map (indented 1)).countP
      opensForeignKey = 0 := by decide
  have hmethod : ["    public function up()", "    \x7b"].countP opensForeignKey = 0 := by decide
  rw [head, List.countP_append, List.countP_append, List.countP_append, List.countP_append, huses,
    hopening, hbetween, hdocs, hmethod]

theorem countP_tail : m.tail.countP opensForeignKey = 0 := by
  have hdrop : opensForeignKey ("        Schema::dropIfExists(" ++ quote m.tableName ++ ");") =
      false := opensForeignKey_append (by decide) _ _
  have hopening : ["    \x7d", ""].countP opensForeignKey = 0 := by decide
  have hdocs : ((docLines "Reverse the migrations.\n\n@return void").map (indented 1)).countP
      opensForeignKey = 0 := by decide
  have hmethod : ["    public function down()", "    \x7b",
      "        Schema::dropIfExists(" ++ quote m.tableName ++ ");", "    \x7d", "\x7d"].countP
        opensForeignKey = 0 := by
    rw [List.countP_cons_of_neg (by decide), List.countP_cons_of_neg (by decide),
      List.countP_cons_of_neg (by rw [hdrop]; decide)]
    decide
  rw [tail, List.countP_append, List.countP_append, hopening, hdocs, hmethod]

/-- As many lines open a foreign key as there are foreign keys. -/
theorem countP_creation :
    (m.creation enumNamespace).lines.countP opensForeignKey = m.block.foreignKeys.length := by
  have hcreate : ["        Schema::create(" ++ (m.creation enumNamespace).literal ++
      ", function (Blueprint $table) \x7b"].countP opensForeignKey = 0 := by
    refine countP_eq_zero_of_forall fun line hline ↦ ?_
    rw [List.mem_singleton.mp hline]
    exact opensForeignKey_append (by decide) _ _
  have hclose : ["        \x7d);"].countP opensForeignKey = 0 := by decide
  have hstatements : (m.creation enumNamespace).statements.countP opensForeignKey = 0 := by
    refine countP_eq_zero_of_forall fun line hline ↦ ?_
    obtain ⟨s, -, rfl⟩ := List.mem_map.mp hline
    exact s.opensForeignKey_eq
  have hblocks : (m.creation enumNamespace).blocks.flatten.countP opensForeignKey =
      m.block.foreignKeys.length := countP_foreignKeyBlocks m.block.foreignKeys
  have hblock : ([""].intercalate ((if (m.creation enumNamespace).statements = [] then []
      else [(m.creation enumNamespace).statements]) ++ (m.creation enumNamespace).blocks)).countP
        opensForeignKey = m.block.foreignKeys.length := by
    rw [countP_intercalate_blank, List.flatten_append, List.countP_append, hblocks]
    split_ifs <;> simp [hstatements]
  have habove : (m.creation enumNamespace).above.countP opensForeignKey = 0 :=
    m.countP_head enumNamespace
  have hbelow : (m.creation enumNamespace).below.countP opensForeignKey = 0 := m.countP_tail
  rw [Creation.lines, List.countP_append, List.countP_append, List.countP_append,
    List.countP_append, habove, hcreate, hblock, hclose, hbelow, Nat.zero_add, Nat.add_zero]

end Migration

/-! ### Columns -/

/-- Whether a line creates a column: it calls the method of a kind of columns with the name for its
first argument, or it is the call for the timestamps and the column is one of these. -/
inductive CreatesColumn (name : String) : String → Prop
  | defined (kind : ColumnKind) (rest : String) :
    CreatesColumn name ("            $table->" ++ kind.method ++ "(" ++ quote name ++ rest)
  | timestamps (h : name = "created_at" ∨ name = "updated_at") :
    CreatesColumn name "            $table->timestamps();"

/-- Whether a column is created by one of the statements. -/
def Creation.Creates (k : Creation) (name : String) : Prop :=
  ∃ line ∈ k.statements, CreatesColumn name line

/-- What a block creates, the text creates. -/
theorem Migration.creates_creation {m : Migration} {name : String} (h : m.block.Creates name)
    (enumNamespace : String) : (m.creation enumNamespace).Creates name := by
  obtain ⟨s, hs, hcreates⟩ := h
  refine ⟨"            " ++ s.text, List.mem_map.mpr ⟨s, hs, rfl⟩, ?_⟩
  cases s with
  | column definition =>
    obtain rfl : definition.name = name := hcreates
    obtain ⟨kind, rest, hline⟩ := Statement.exists_text_column definition
    rw [hline]
    exact .defined kind rest
  | timestamps => exact .timestamps hcreates
  | index column => exact hcreates.elim
  | primaryKey columns => exact hcreates.elim

end DiagramMigrations
