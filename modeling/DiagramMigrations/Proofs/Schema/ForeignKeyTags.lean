import DiagramMigrations.Proofs.Schema.Rules
import Mathlib.Data.List.Basic

/-!
Columns whose classification stands for a foreign key. As long as there is a table, the errors of a
validation are one for each such column that has a name. A column without a name is passed over, so
that every such column is an error exactly if each of them has a name.
-/

set_option autoImplicit false
set_option relaxedAutoImplicit false

namespace DiagramMigrations

/-! ### Classifications -/

/-- Whether a text begins with another one, in small ASCII letters or capitals. -/
def Text.BeginsWith (text tag : String) : Prop :=
  ∃ front rest, text = front ++ rest ∧ equalIgnoringAsciiCase front tag = true

/-- Whether a classification stands for a foreign key: it is `fk`, or begins with `fk:` or
`foreign`. -/
def EncodesForeignKey (classification : String) : Prop :=
  Text.equalIgnoringAsciiCase classification "fk" = true ∨
    Text.BeginsWith classification "fk:" ∨ Text.BeginsWith classification "foreign"

/-- A tag in small letters is looked for in the classification made small. -/
theorem Text.isPrefixOf_asciiLowered_iff {text tag : String}
    (htag : tag.toList.map asciiLower = tag.toList) :
    tag.toList.isPrefixOf (asciiLowered text).toList = true ↔ BeginsWith text tag := by
  rw [List.isPrefixOf_iff_prefix, asciiLowered, String.toList_ofList]
  constructor
  · rintro ⟨rest, hrest⟩
    obtain ⟨front, back, htext, hfront, -⟩ := List.append_eq_map_iff.mp hrest
    refine ⟨String.ofList front, String.ofList back, ?_, ?_⟩
    · rw [← String.ofList_append, ← htext, String.ofList_toList]
    · rw [equalIgnoringAsciiCase, String.toList_ofList, hfront, htag]
      exact beq_self_eq_true _
  · rintro ⟨front, rest, rfl, hfront⟩
    have hlowered : front.toList.map asciiLower = tag.toList := (beq_iff_eq.mp hfront).trans htag
    rw [String.toList_append, List.map_append, hlowered]
    exact List.prefix_append _ _

theorem Column.hasForeignKeyTag_iff {c : Column} :
    c.hasForeignKeyTag = true ↔ EncodesForeignKey c.classification := by
  have hfk : decide ((Text.asciiLowered c.classification).toList = "fk".toList) = true ↔
      Text.equalIgnoringAsciiCase c.classification "fk" = true := by
    rw [decide_eq_true_iff, Text.asciiLowered, String.toList_ofList, Text.equalIgnoringAsciiCase,
      beq_iff_eq]
    rfl
  rw [hasForeignKeyTag, Bool.or_eq_true, Bool.or_eq_true, hfk,
    Text.isPrefixOf_asciiLowered_iff rfl, Text.isPrefixOf_asciiLowered_iff rfl, or_assoc]
  rfl

instance (classification : String) : Decidable (EncodesForeignKey classification) :=
  decidable_of_iff (({ name := "", type := .text, classification } : Column).hasForeignKeyTag = true)
    Column.hasForeignKeyTag_iff

/-! ### Columns -/

namespace Schema

/-- The columns of all tables with their tables, in order. -/
def entries (s : Schema) : List (Table × Column) :=
  s.tables.flatMap fun t ↦ t.columns.map fun c ↦ (t, c)

/-- The columns whose classification stands for a foreign key. -/
def foreignKeyColumns (s : Schema) : List (Table × Column) :=
  s.entries.filter fun entry ↦ EncodesForeignKey entry.2.classification

/-- Whether a validation tells of every foreign key in a classification, and of nothing else: there is
one error for each of the columns, in order, and without one the schema is valid. -/
structure TellsForeignKeys (s : Schema) : Prop where
  errors : s.validate.errors = s.foreignKeyColumns.map fun entry ↦
    Rule.foreignKeyTag entry.1 entry.2
  valid_iff : s.validate.valid = true ↔ s.foreignKeyColumns = []

variable {s : Schema}

/-- The errors about classifications are those about the columns with such a classification that have
a name. -/
theorem flatMap_tagErrors (s : Schema) : s.tables.flatMap Rule.tagErrors =
    (s.foreignKeyColumns.filter fun entry ↦ !entry.2.isUnnamed).map fun entry ↦
      Rule.foreignKeyTag entry.1 entry.2 := by
  have htagged : Column.isTagged =
      fun c ↦ !c.isUnnamed && decide (EncodesForeignKey c.classification) := by
    funext c
    have htag : c.hasForeignKeyTag = decide (EncodesForeignKey c.classification) := by
      rw [Bool.eq_iff_iff, Column.hasForeignKeyTag_iff, decide_eq_true_iff]
    rw [Column.isTagged, htag]
  rw [foreignKeyColumns, List.filter_filter, entries, List.filter_flatMap, List.map_flatMap]
  refine List.flatMap_congr fun t _ ↦ ?_
  rw [Rule.tagErrors, htagged, List.filter_map, List.map_map]
  rfl

theorem errors_validate_of_tables (htables : s.tables ≠ []) : s.validate.errors =
    (s.foreignKeyColumns.filter fun entry ↦ !entry.2.isUnnamed).map fun entry ↦
      Rule.foreignKeyTag entry.1 entry.2 := by
  rw [errors_validate, if_neg htables, List.nil_append, flatMap_tagErrors]

theorem valid_validate_iff (s : Schema) : s.validate.valid = true ↔ s.validate.errors = [] :=
  (s.validateBy_consistent Rule.all).valid_iff

/-- The errors of a validation are those about the named columns with such a classification, in order,
and it is valid without them. It tells of every such column exactly if all of them have names. -/
theorem tellsForeignKeys_iff (htables : s.tables ≠ []) :
    (s.validate.errors = (s.foreignKeyColumns.filter fun entry ↦ !entry.2.isUnnamed).map fun entry ↦
        Rule.foreignKeyTag entry.1 entry.2) ∧
      (s.validate.valid = true ↔ ∀ entry ∈ s.foreignKeyColumns, entry.2.isUnnamed = true) ∧
      (s.TellsForeignKeys ↔ ∀ entry ∈ s.foreignKeyColumns, entry.2.isUnnamed = false) := by
  have herrors := errors_validate_of_tables htables
  refine ⟨herrors, ?_, ?_⟩
  · rw [valid_validate_iff, herrors, List.map_eq_nil_iff, List.filter_eq_nil_iff]
    simp only [Bool.not_eq_true', Bool.not_eq_false]
  · constructor
    · rintro ⟨hall, -⟩
      -- The named ones are a sublist, so that with as many errors no column is left out.
      have hlength := congrArg List.length (herrors.symm.trans hall)
      rw [List.length_map, List.length_map] at hlength
      have hnamed := List.filter_eq_self.mp (List.filter_sublist.eq_of_length hlength)
      intro entry hentry
      simpa using hnamed entry hentry
    · intro hnamed
      have hall : (s.foreignKeyColumns.filter fun entry ↦ !entry.2.isUnnamed) =
          s.foreignKeyColumns :=
        List.filter_eq_self.mpr fun entry hentry ↦ by rw [hnamed entry hentry, Bool.not_false]
      rw [hall] at herrors
      exact ⟨herrors, by rw [valid_validate_iff, herrors, List.map_eq_nil_iff]⟩

/-- A schema of orders, with columns of some names and classifications. -/
def orders (columns : List (String × String)) : Schema where
  name := "Orders"
  tables := [{
    id := "o"
    name := "Order"
    columns := columns.map fun column ↦
      { name := column.1, type := .text, classification := column.2 } }]

/-- A witness: of the columns of an order, one is told to be a foreign key by its classification. -/
theorem customer_key_told :
    (orders [("customer", "FK:customer.id"), ("note", "index")]).tables ≠ [] ∧
      (orders [("customer", "FK:customer.id"), ("note", "index")]).TellsForeignKeys ∧
      (orders [("customer", "FK:customer.id"), ("note", "index")]).validate.valid = false := by
  have htables : (orders [("customer", "FK:customer.id"), ("note", "index")]).tables ≠ [] :=
    List.cons_ne_nil _ _
  obtain ⟨-, hvalid, htells⟩ := tellsForeignKeys_iff htables
  exact ⟨htables, htells.mpr (by decide), by decide⟩

/-- A column without a name is not told to be a foreign key: with it alone, the schema is valid. -/
theorem unnamed_key_untold :
    EncodesForeignKey "fk:customer.id" ∧
      (orders [(" ", "fk:customer.id")]).foreignKeyColumns ≠ [] ∧
      (orders [(" ", "fk:customer.id")]).validate.errors = [] ∧
      (orders [(" ", "fk:customer.id")]).validate.valid = true ∧
      ¬ (orders [(" ", "fk:customer.id")]).TellsForeignKeys := by
  refine ⟨by decide, by decide, by decide, by decide, fun h ↦ ?_⟩
  exact absurd (h.valid_iff.mp (by decide)) (by decide)

end Schema

end DiagramMigrations
