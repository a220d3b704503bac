import DiagramMigrations.Proofs.Schema.Warnings
import Mathlib

/-!
How many warnings of each kind a validation gives. A rule looks at each table, column, enumeration and
end of an association once, and warns about it at most once for a reason, so that the warnings of a
kind are as many as the reasons for them. What has the name of something before it is warned about as
often as there are more names than distinct ones. The order in which the rules are applied matters to
the order of the warnings alone.
-/

set_option autoImplicit false
set_option relaxedAutoImplicit false

namespace DiagramMigrations

/-- By how many elements a list is longer than without repetitions. -/
def repeats {κ : Type} [DecidableEq κ] (keys : List κ) : Nat :=
  keys.length - keys.dedup.length

/-- The two ends of an association, each with its table and the column that it names. -/
def Association.ends (a : Association) : List (String × String) :=
  [(a.referencingTable, a.referencingColumn), (a.referencedTable, a.referencedColumn)]

/-- Whether there is a table for an end of an association, and the first one of its id lacks the
column. -/
def Schema.lacksColumn (s : Schema) (side : String × String) : Bool :=
  (s.table? side.1).any fun t ↦ side.2 ∉ t.columns.map Column.name

/-- Whether there is an enumeration for a column, and the default of the column is no literal of the
first one of its name. -/
def Schema.hasUnknownDefault (s : Schema) (c : Column) : Bool :=
  match c.type, c.defaultValue with
  | .enumeration name, some (.literal value) =>
    (s.enumeration? name).any fun e ↦ value ∉ e.literalNames
  | _, _ => false

/-- Whether a report has as many warnings of each kind as there are reasons for in a schema. -/
structure Report.Counts (r : Report) (s : Schema) : Prop where
  emptyTableName : (r.warningsOf .emptyTableName).length =
    s.tables.countP fun t ↦ Naming.identifier t.name = ""
  duplicateTableName : (r.warningsOf .duplicateTableName).length =
    repeats ((s.tables.map fun t ↦ Naming.identifier t.name).filter (· ≠ ""))
  emptyColumnName : (r.warningsOf .emptyColumnName).length =
    (s.tables.flatMap Table.columns).countP Column.isUnnamed
  duplicateColumnName : (r.warningsOf .duplicateColumnName).length =
    (s.tables.map fun t ↦
      repeats ((t.columns.map Column.name).filter fun name ↦ !Text.isBlankText name)).sum
  missingForeignKeyColumn : (r.warningsOf .missingForeignKeyColumn).length =
    (s.associations.flatMap Association.ends).countP s.lacksColumn
  emptyEnumeration : (r.warningsOf .emptyEnumeration).length =
    s.enumerations.countP fun e ↦ e.literals = []
  duplicateEnumerationName : (r.warningsOf .duplicateEnumerationName).length =
    repeats (s.enumerations.map fun e ↦ Naming.className e.name)
  unknownEnumDefault : (r.warningsOf .unknownEnumDefault).length =
    (s.tables.flatMap Table.columns).countP s.hasUnknownDefault

/-! ### Counting in lists -/

section Lists

variable {α κ : Type} [DecidableEq κ]

/-- If every element gives rise to an item once or not at all, the item is there as often as there are
elements that give rise to it. -/
theorem count_flatMap_eq {f : α → List κ} {k : κ} {p : α → Bool}
    (h : ∀ x, (f x).count k = if p x then 1 else 0) (xs : List α) :
    (xs.flatMap f).count k = xs.countP p := by
  induction xs with
  | nil => rfl
  | cons x xs ih => rw [List.flatMap_cons, List.count_append, h, ih, List.countP_cons, Nat.add_comm]

theorem count_flatMap_eq_zero {f : α → List κ} {k : κ} (h : ∀ x, k ∉ f x) (xs : List α) :
    (xs.flatMap f).count k = 0 := by
  refine List.count_eq_zero.mpr fun hk ↦ ?_
  obtain ⟨x, -, hx⟩ := List.mem_flatMap.mp hk
  exact h x hx

theorem repeats_concat (keys : List κ) (k : κ) :
    repeats (keys ++ [k]) = repeats keys + if k ∈ keys then 1 else 0 := by
  have hle : keys.dedup.length ≤ keys.length := keys.dedup_sublist.length_le
  have hfront : (keys ++ [k]).dedup.length = (k :: keys).dedup.length :=
    (List.perm_append_singleton k keys).dedup.length_eq
  rw [repeats, repeats, hfront, List.length_append, List.length_singleton]
  by_cases hk : k ∈ keys
  · rw [List.dedup_cons_of_mem hk, if_pos hk]
    omega
  · rw [List.dedup_cons_of_notMem hk, if_neg hk, List.length_cons]
    omega

end Lists

namespace Rule

theorem withPrevious_concat {α : Type} (before xs : List α) (x : α) :
    withPrevious before (xs ++ [x]) = withPrevious before xs ++ [(before ++ xs, x)] := by
  induction xs generalizing before with
  | nil => simp [withPrevious]
  | cons y xs ih => simp [withPrevious, ih]

/-- Of the elements whose keys count, those with a key that stands before them are as many as the
repetitions of such keys. -/
theorem countP_withPrevious {α κ : Type} [DecidableEq κ] (key : α → κ) (counts : κ → Bool)
    (xs : List α) :
    ((withPrevious [] xs).countP fun entry ↦
        counts (key entry.2) && decide (key entry.2 ∈ entry.1.map key)) =
      repeats ((xs.map key).filter counts) := by
  -- From the end, since each element is compared with all of those before it.
  induction xs using List.reverseRecOn with
  | nil => rfl
  | append_singleton xs x ih =>
    rw [withPrevious_concat, List.countP_append, ih, List.map_append, List.filter_append,
      List.map_singleton, List.nil_append, List.countP_singleton]
    by_cases hx : counts (key x) = true
    · rw [List.filter_singleton, hx, cond_true, repeats_concat]
      simp [hx]
    · simp [hx]

/-- What the elements alone decide is counted in the elements. -/
theorem countP_snd_withPrevious {α : Type} (p : α → Bool) (xs : List α) :
    (withPrevious [] xs).countP (fun entry ↦ p entry.2) = xs.countP p := by
  rw [← Function.comp_def, ← List.countP_map, map_snd_withPrevious]

/-! ### What a rule warns about -/

/-- What there is to be warned about in a table after the tables before it. -/
def tableCodes (entry : List Table × Table) : List WarningCode :=
  if Naming.identifier entry.2.name = "" then [.emptyTableName]
  else if Naming.identifier entry.2.name ∈ entry.1.map fun t ↦ Naming.identifier t.name then
    [.duplicateTableName]
  else []

/-- What there is to be warned about in a column after the columns before it. -/
def columnCodes (entry : List Column × Column) : List WarningCode :=
  if entry.2.isUnnamed then [.emptyColumnName]
  else if entry.2.name ∈ entry.1.map Column.name then [.duplicateColumnName] else []

/-- What there is to be warned about in an enumeration after the enumerations before it. -/
def enumerationCodes (entry : List Enumeration × Enumeration) : List WarningCode :=
  (if entry.2.literals = [] then [WarningCode.emptyEnumeration] else []) ++
    if Naming.className entry.2.name ∈ entry.1.map fun e ↦ Naming.className e.name then
      [.duplicateEnumerationName]
    else []

variable (s : Schema)

theorem codes_tableWarning? (entry : List Table × Table) :
    (tableWarning? entry.1 entry.2).toList.map ValidationWarning.code = tableCodes entry := by
  obtain ⟨before, t⟩ := entry
  rw [tableWarning?, tableCodes]
  split_ifs with hname hbefore
  · rfl
  · have hfound : (before.reverse.find? fun u ↦
        Naming.identifier u.name = Naming.identifier t.name).isSome := by
      obtain ⟨u, hu, hsame⟩ := List.mem_map.mp hbefore
      exact List.find?_isSome.mpr ⟨u, List.mem_reverse.mpr hu, decide_eq_true hsame⟩
    obtain ⟨u, hu⟩ := Option.isSome_iff_exists.mp hfound
    rw [hu]
    rfl
  · have hnone : (before.reverse.find? fun u ↦
        Naming.identifier u.name = Naming.identifier t.name) = none := by
      refine List.find?_eq_none.mpr fun u hu hsame ↦ hbefore ?_
      exact List.mem_map.mpr ⟨u, List.mem_reverse.mp hu, of_decide_eq_true hsame⟩
    rw [hnone]
    rfl

theorem codes_columnWarnings (t : Table) (entry : List Column × Column) :
    (columnWarnings t entry).map ValidationWarning.code = columnCodes entry := by
  rw [columnWarnings, columnCodes]
  split_ifs <;> rfl

theorem codes_endWarning? (a : Association) (side : String × String) :
    (endWarning? s a side.1 side.2).toList.map ValidationWarning.code =
      if s.lacksColumn side then [.missingForeignKeyColumn] else [] := by
  rw [endWarning?, Schema.lacksColumn]
  cases htable : s.table? side.1 with
  | none => rfl
  | some t =>
    have hcolumn : (t.column? side.2).isNone = decide (side.2 ∉ t.columns.map Column.name) := by
      rw [Bool.eq_iff_iff, Option.isNone_iff_eq_none, Table.column?, List.find?_eq_none,
        decide_eq_true_iff, List.mem_map]
      simp only [decide_eq_true_eq, not_exists, not_and]
    rw [Option.any_some, ← hcolumn]
    cases hfound : t.column? side.2 <;> simp [hfound, missingColumn]

theorem codes_enumerationWarnings (entry : List Enumeration × Enumeration) :
    (enumerationWarnings entry.1 entry.2).map ValidationWarning.code = enumerationCodes entry := by
  rw [enumerationWarnings, enumerationCodes, List.map_append]
  split_ifs <;> rfl

theorem codes_defaultWarning? (t : Table) (c : Column) :
    (defaultWarning? s t c).toList.map ValidationWarning.code =
      if s.hasUnknownDefault c then [.unknownEnumDefault] else [] := by
  rw [defaultWarning?, Schema.hasUnknownDefault]
  cases c.type with
  | primitive kind size => rfl
  | enumeration name =>
    rcases c.defaultValue with - | - | value
    · rfl
    · rfl
    · cases hfound : s.enumeration? name with
      | none => simp [hfound]
      | some e => by_cases hliteral : value ∈ e.literalNames <;> simp [hfound, hliteral, unknownDefault]

end Rule

/-! ### How often a rule warns -/

/-- The kinds of the warnings of a report, in order. -/
def Report.codes (r : Report) : List WarningCode :=
  r.warnings.map ValidationWarning.code

theorem Report.length_warningsOf (r : Report) (code : WarningCode) :
    (r.warningsOf code).length = r.codes.count code := by
  rw [warningsOf, ← List.countP_eq_length_filter, codes, List.count, List.countP_map]
  rfl

namespace Rule

variable (s : Schema) (code : WarningCode)

theorem codes_tablesReport :
    (tablesReport s).codes = (withPrevious [] s.tables).flatMap tableCodes := by
  have hwarnings : (tablesReport s).warnings =
      (withPrevious [] s.tables).flatMap fun entry ↦ (tableWarning? entry.1 entry.2).toList := by
    rw [← List.filterMap_eq_flatMap_toList, tablesReport]
    split_ifs with hempty
    · rw [hempty]
      rfl
    · rfl
  rw [Report.codes, hwarnings, List.map_flatMap]
  exact List.flatMap_congr fun entry _ ↦ codes_tableWarning? entry

theorem codes_columnsReport : (columnsReport s).codes =
    s.tables.flatMap fun t ↦ (withPrevious [] t.columns).flatMap columnCodes := by
  rw [Report.codes, warnings_columnsReport, List.map_flatMap]
  refine List.flatMap_congr fun t _ ↦ ?_
  rw [warnings_addColumns, List.map_append, List.map_flatMap]
  exact List.flatMap_congr fun entry _ ↦ codes_columnWarnings t entry

theorem codes_associationsReport : (associationsReport s).codes =
    (s.associations.flatMap Association.ends).flatMap fun side ↦
      if s.lacksColumn side then [.missingForeignKeyColumn] else [] := by
  rw [List.flatMap_assoc, Report.codes, associationsReport, Report.ofWarnings, List.map_flatMap]
  refine List.flatMap_congr fun a _ ↦ ?_
  rw [List.map_append, codes_endWarning? s a (a.referencingTable, a.referencingColumn),
    codes_endWarning? s a (a.referencedTable, a.referencedColumn), Association.ends,
    List.flatMap_cons, List.flatMap_singleton]

theorem codes_enumerationsReport : (enumerationsReport s).codes =
    (withPrevious [] s.enumerations).flatMap enumerationCodes ++
      (s.tables.flatMap Table.columns).flatMap fun c ↦
        if s.hasUnknownDefault c then [.unknownEnumDefault] else [] := by
  have hdefaults : s.tables.flatMap (fun t ↦ t.columns.filterMap (defaultWarning? s t)) =
      s.tables.flatMap fun t ↦ t.columns.flatMap fun c ↦ (defaultWarning? s t c).toList :=
    List.flatMap_congr fun t _ ↦ List.filterMap_eq_flatMap_toList _ _
  rw [Report.codes, enumerationsReport, Report.ofWarnings, hdefaults, List.map_append,
    List.map_flatMap, List.map_flatMap, List.flatMap_assoc]
  congr 1
  · exact List.flatMap_congr fun entry _ ↦ codes_enumerationWarnings entry
  · refine List.flatMap_congr fun t _ ↦ ?_
    rw [List.map_flatMap]
    exact List.flatMap_congr fun c _ ↦ codes_defaultWarning? s t c

/-! ### Kinds of warnings -/

theorem count_emptyTableName : (tablesReport s).codes.count .emptyTableName =
    s.tables.countP fun t ↦ Naming.identifier t.name = "" := by
  rw [codes_tablesReport, ← countP_snd_withPrevious]
  refine count_flatMap_eq (fun entry ↦ ?_) _
  rw [tableCodes]
  by_cases hname : Naming.identifier entry.2.name = "" <;>
    by_cases hbefore : Naming.identifier entry.2.name ∈
      entry.1.map fun t ↦ Naming.identifier t.name <;>
    simp [hname, hbefore]

theorem count_duplicateTableName : (tablesReport s).codes.count .duplicateTableName =
    repeats ((s.tables.map fun t ↦ Naming.identifier t.name).filter (· ≠ "")) := by
  rw [codes_tablesReport, ← countP_withPrevious]
  refine count_flatMap_eq (fun entry ↦ ?_) _
  rw [tableCodes]
  by_cases hname : Naming.identifier entry.2.name = "" <;>
    by_cases hbefore : Naming.identifier entry.2.name ∈
      entry.1.map fun t ↦ Naming.identifier t.name <;>
    simp [hname, hbefore]

theorem count_emptyColumnName : (columnsReport s).codes.count .emptyColumnName =
    (s.tables.flatMap Table.columns).countP Column.isUnnamed := by
  rw [codes_columnsReport, List.count_flatMap, List.countP_flatMap]
  refine congrArg List.sum (List.map_congr_left fun t _ ↦ ?_)
  rw [Function.comp_apply, Function.comp_apply, ← countP_snd_withPrevious]
  refine count_flatMap_eq (fun entry ↦ ?_) _
  rw [columnCodes]
  by_cases hname : entry.2.isUnnamed = true <;>
    by_cases hbefore : entry.2.name ∈ entry.1.map Column.name <;>
    simp [hname, hbefore]

theorem count_duplicateColumnName : (columnsReport s).codes.count .duplicateColumnName =
    (s.tables.map fun t ↦
      repeats ((t.columns.map Column.name).filter fun name ↦ !Text.isBlankText name)).sum := by
  rw [codes_columnsReport, List.count_flatMap]
  refine congrArg List.sum (List.map_congr_left fun t _ ↦ ?_)
  rw [Function.comp_apply, ← countP_withPrevious]
  refine count_flatMap_eq (fun entry ↦ ?_) _
  rw [columnCodes, ← Column.isUnnamed]
  by_cases hname : entry.2.isUnnamed = true <;>
    by_cases hbefore : entry.2.name ∈ entry.1.map Column.name <;>
    simp [hname, hbefore]

theorem count_missingForeignKeyColumn :
    (associationsReport s).codes.count .missingForeignKeyColumn =
      (s.associations.flatMap Association.ends).countP s.lacksColumn := by
  rw [codes_associationsReport]
  refine count_flatMap_eq (fun side ↦ ?_) _
  split_ifs <;> rfl

/-- All but the warnings about defaults come from the enumerations themselves. -/
theorem count_codes_enumerations {code : WarningCode} (hcode : code ≠ .unknownEnumDefault) :
    (enumerationsReport s).codes.count code =
      ((withPrevious [] s.enumerations).flatMap enumerationCodes).count code := by
  have hnone (c : Column) :
      code ∉ if s.hasUnknownDefault c then [WarningCode.unknownEnumDefault] else [] := by
    split_ifs
    · exact fun hmem ↦ hcode (List.mem_singleton.mp hmem)
    · exact List.not_mem_nil
  rw [codes_enumerationsReport, List.count_append, count_flatMap_eq_zero hnone, Nat.add_zero]

theorem count_emptyEnumeration : (enumerationsReport s).codes.count .emptyEnumeration =
    s.enumerations.countP fun e ↦ e.literals = [] := by
  rw [count_codes_enumerations s (by decide), ← countP_snd_withPrevious]
  refine count_flatMap_eq (fun entry ↦ ?_) _
  rw [enumerationCodes]
  by_cases hliterals : entry.2.literals = [] <;>
    by_cases hbefore : Naming.className entry.2.name ∈
      entry.1.map fun e ↦ Naming.className e.name <;>
    simp [hliterals, hbefore]

theorem count_duplicateEnumerationName :
    (enumerationsReport s).codes.count .duplicateEnumerationName =
      repeats (s.enumerations.map fun e ↦ Naming.className e.name) := by
  have hall := List.filter_true (s.enumerations.map fun e ↦ Naming.className e.name)
  rw [count_codes_enumerations s (by decide), ← hall, ← countP_withPrevious]
  refine count_flatMap_eq (fun entry ↦ ?_) _
  rw [enumerationCodes]
  by_cases hliterals : entry.2.literals = [] <;>
    by_cases hbefore : Naming.className entry.2.name ∈
      entry.1.map fun e ↦ Naming.className e.name <;>
    simp [hliterals, hbefore]

theorem count_unknownEnumDefault : (enumerationsReport s).codes.count .unknownEnumDefault =
    (s.tables.flatMap Table.columns).countP s.hasUnknownDefault := by
  rw [codes_enumerationsReport, List.count_append,
    count_flatMap_eq_zero (fun entry ↦ by rw [enumerationCodes]; split_ifs <;> simp)
      (withPrevious [] s.enumerations),
    Nat.zero_add]
  refine count_flatMap_eq (fun c ↦ ?_) _
  split_ifs <;> rfl

end Rule

/-! ### Rules in another order -/

namespace Schema

variable (s : Schema) {rules : List Rule}

theorem length_warningsOf_validate (code : WarningCode) :
    (s.validate.warningsOf code).length = (code.rule.report s).codes.count code := by
  rw [warningsOf_validate, Report.length_warningsOf]

theorem counts_validate : s.validate.Counts s where
  emptyTableName := (s.length_warningsOf_validate _).trans (Rule.count_emptyTableName s)
  duplicateTableName := (s.length_warningsOf_validate _).trans (Rule.count_duplicateTableName s)
  emptyColumnName := (s.length_warningsOf_validate _).trans (Rule.count_emptyColumnName s)
  duplicateColumnName := (s.length_warningsOf_validate _).trans (Rule.count_duplicateColumnName s)
  missingForeignKeyColumn :=
    (s.length_warningsOf_validate _).trans (Rule.count_missingForeignKeyColumn s)
  emptyEnumeration := (s.length_warningsOf_validate _).trans (Rule.count_emptyEnumeration s)
  duplicateEnumerationName :=
    (s.length_warningsOf_validate _).trans (Rule.count_duplicateEnumerationName s)
  unknownEnumDefault := (s.length_warningsOf_validate _).trans (Rule.count_unknownEnumDefault s)

/-- Only one rule gives errors: that of the tables if there are none, else that of the columns. -/
theorem exists_rule_of_errors :
    ∃ rule, ∀ other : Rule, other ≠ rule → (other.report s).errors = [] := by
  by_cases htables : s.tables = []
  · refine ⟨.tables, fun other hother ↦ ?_⟩
    cases other with
    | tables => exact absurd rfl hother
    | columns =>
      change (Rule.columnsReport s).errors = []
      rw [Rule.errors_columnsReport, htables, List.flatMap_nil]
    | associations => rfl
    | enumerations => rfl
  · refine ⟨.columns, fun other hother ↦ ?_⟩
    cases other with
    | tables =>
      change (Rule.tablesReport s).errors = []
      rw [Rule.tablesReport, if_neg htables]
      rfl
    | columns => exact absurd rfl hother
    | associations => rfl
    | enumerations => rfl

theorem errors_validateBy_of_perm (h : rules.Perm Rule.all) :
    (s.validateBy rules).errors = s.validate.errors := by
  obtain ⟨rule, hothers⟩ := s.exists_rule_of_errors
  have honly (xs : List Rule) : (s.validateBy xs).errors =
      (xs.filter (· = rule)).flatMap fun rule ↦ (rule.report s).errors := by
    rw [errors_validateBy]
    induction xs with
    | nil => rfl
    | cons other xs ih =>
      rw [List.flatMap_cons, ih, List.filter_cons]
      by_cases hother : other = rule
      · rw [if_pos (decide_eq_true hother), List.flatMap_cons]
      · rw [if_neg (by simpa using hother), hothers other hother, List.nil_append]
  have hone : Rule.all.filter (· = rule) = [rule] := by
    cases rule <;> rfl
  have hsame : rules.filter (· = rule) = [rule] :=
    List.perm_singleton.mp (hone ▸ h.filter _)
  rw [validate, honly, honly, hone, hsame]

end Schema

/-- The warnings of a validation are as many of each kind as there are reasons for. Whatever the order
of the rules, it fails with the same errors or passes, and with the same warnings in some order. -/
theorem warnings_counted (s : Schema) {rules : List Rule} (h : rules.Perm Rule.all) :
    s.validate.Counts s ∧ (s.validateBy rules).valid = s.validate.valid ∧
      (s.validateBy rules).result = s.validate.result ∧
      (s.validateBy rules).warnings.Perm s.validate.warnings := by
  have herrors := s.errors_validateBy_of_perm h
  have hvalid : (s.validateBy rules).valid = s.validate.valid := by
    rw [Bool.eq_iff_iff, (s.validateBy_consistent rules).valid_iff, herrors]
    exact (s.validateBy_consistent Rule.all).valid_iff.symm
  refine ⟨s.counts_validate, hvalid, ?_, ?_⟩
  · rw [Report.result, Report.result, herrors, hvalid]
  · rw [s.warnings_validateBy, s.warnings_validate]
    exact h.flatMap_right _

/-- A schema with a table that shares its name with another one, a column that does, one without a
name, an enumeration without literals and an association that names no column. -/
def Schema.crowded : Schema where
  name := "Shop"
  tables := [
    { id := "a", name := "Order", columns := ["id", "", "id"].map fun name ↦ { name, type := .text } },
    { id := "b", name := "order" }]
  enumerations := [{ id := "e", name := "State" }]
  associations := [{
    id := "f"
    referencingTable := "a"
    referencingColumn := "order_id"
    referencedTable := "b"
    referencedColumn := "id" }]

/-- A witness: the rules in reverse order give the same warnings about a crowded schema, among them one
about a shared name of each kind, and two about columns that associations name. -/
theorem crowded_warnings_counted :
    Rule.all.reverse.Perm Rule.all ∧
      (Schema.crowded.validate.warningsOf .duplicateTableName).length = 1 ∧
      (Schema.crowded.validate.warningsOf .emptyColumnName).length = 1 ∧
      (Schema.crowded.validate.warningsOf .duplicateColumnName).length = 1 ∧
      (Schema.crowded.validate.warningsOf .missingForeignKeyColumn).length = 2 ∧
      (Schema.crowded.validate.warningsOf .emptyEnumeration).length = 1 ∧
      (Schema.crowded.validateBy Rule.all.reverse).warnings.Perm Schema.crowded.validate.warnings := by
  have horder : Rule.all.reverse.Perm Rule.all := List.reverse_perm Rule.all
  obtain ⟨hcounts, -, -, hwarnings⟩ := warnings_counted .crowded horder
  exact ⟨horder, hcounts.duplicateTableName.trans (by decide),
    hcounts.emptyColumnName.trans (by decide), hcounts.duplicateColumnName.trans (by decide),
    hcounts.missingForeignKeyColumn.trans (by decide), hcounts.emptyEnumeration.trans (by decide),
    hwarnings⟩

end DiagramMigrations
