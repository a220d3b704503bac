import DiagramMigrations.Proofs.Naming.Collision
import DiagramMigrations.Proofs.Project.EnumReferences

/-!
The classes that migrations declare. The validation tells tables apart by their identifiers, and the
classes are named after these; so two migrations that nothing is warned about declare one class
exactly if their identifiers differ in nothing but underscores that a class name cannot show.
-/

set_option autoImplicit false
set_option relaxedAutoImplicit false

namespace DiagramMigrations

open Naming

variable {settings : Settings} {now : Timestamp} {s : Schema} {c : Context} {p : Project}

theorem Naming.migrationClass_inj {t u : String} :
    migrationClass t = migrationClass u ↔ className (identifier t) = className (identifier u) := by
  rw [migrationClass, migrationClass, ← String.toList_inj, ← String.toList_inj]
  simp only [String.toList_append, List.append_assoc, List.append_right_inj, List.append_left_inj]

/-- The line by which a migration declares its class. -/
def Migration.classLine (className : String) : String :=
  "class " ++ className ++ " extends Migration"

theorem Migration.classLine_mem (m : Migration) (enumNamespace : String) :
    classLine m.className ∈ m.lines enumNamespace := by
  simp [lines, linesAbove, classLine]

/-- Tables with distinct plain identifiers come to distinct classes exactly if no two of these are
the same once fused. -/
theorem Schema.migrationClasses_nodup_iff
    (hnames : (s.tables.map fun t ↦ identifier t.name).Nodup)
    (hplain : ∀ t ∈ s.tables, IsPlainIdentifier (identifier t.name)) :
    (s.tables.map fun t ↦ migrationClass t.name).Nodup ↔
      ∀ t ∈ s.tables, ∀ u ∈ s.tables, fused (identifier t.name) = fused (identifier u.name) →
        identifier t.name = identifier u.name := by
  have hclass : ∀ t ∈ s.tables, ∀ u ∈ s.tables, migrationClass t.name = migrationClass u.name ↔
      fused (identifier t.name) = fused (identifier u.name) := by
    intro t ht u hu
    rw [migrationClass_inj, className_eq_iff (hplain t ht) (hplain u hu)]
  constructor
  · intro hnodup t ht u hu hsame
    rw [List.inj_on_of_nodup_map hnodup ht hu ((hclass t ht u hu).mpr hsame)]
  · intro hapart
    refine (List.Nodup.of_map _ hnames).map_on fun t ht u hu hsame ↦ ?_
    exact List.inj_on_of_nodup_map hnames ht hu (hapart t ht u hu ((hclass t ht u hu).mp hsame))

/-- The migrations of a project without warnings declare the classes that are named after their
tables; if the identifiers of the tables are plain, these are distinct unless two different
identifiers are the same once fused. -/
theorem migration_classes_nodup_iff (hp : Project.generate settings now s = .ok p)
    (hsilent : p.warnings = [])
    (hplain : ∀ t ∈ s.tables, IsPlainIdentifier (identifier t.name)) :
    ∃ c, Context.ofSchema settings now s = .ok c ∧ p.filesOf .migration = c.migrationOutputs ∧
      (∀ f ∈ p.filesOf .migration, ∃ t ∈ c.tables, c.IsMigrationOf t.id f ∧
        f.content = "\n".intercalate ((c.migration t).lines settings.enumNamespace) ++ "\n" ∧
        Migration.classLine (migrationClass t.name) ∈
          (c.migration t).lines settings.enumNamespace) ∧
      ((c.tables.map fun t ↦ migrationClass t.name).Nodup ↔
        ∀ t ∈ s.tables, ∀ u ∈ s.tables, fused (identifier t.name) = fused (identifier u.name) →
          identifier t.name = identifier u.name) := by
  have hnames := Schema.identifiers_nodup (Schema.isSilentOn_of_generate hp hsilent _)
    (Schema.isSilentOn_of_generate hp hsilent _)
  obtain ⟨-, -, c, hc, rfl⟩ := Project.generate_eq_ok.mp hp
  refine ⟨c, hc, Context.migrations_project _, fun f hf ↦ ?_, ?_⟩
  · rw [Context.migrations_project] at hf
    obtain ⟨t, ht, hmigration, hcontent⟩ := Context.exists_table_of_mem_migrationOutputs hc hf
    exact ⟨t, ht, hmigration, hcontent, Migration.classLine_mem _ _⟩
  · have hperm := (Context.tables_perm hc).map fun t ↦ migrationClass t.name
    rw [hperm.nodup_iff]
    exact Schema.migrationClasses_nodup_iff hnames hplain

/-- Two tables. -/
def Schema.ofNames (first second : String) : Schema where
  name := "Shop"
  tables := [{ id := "a", name := first }, { id := "b", name := second }]

theorem Project.generate_ofNames {first second : String}
    (hreport : (Schema.ofNames first second).validate = .empty) (now : Timestamp) :
    ∃ p, generate {} now (.ofNames first second) = .ok p ∧ p.warnings = [] := by
  have hdefaults : Settings.fault? {} = none := by decide
  have horder : dependencyOrder (Schema.ofNames first second).tables
      (Schema.ofNames first second).associations = .ok [0, 1] := rfl
  exact exists_generate_of_empty hdefaults hreport horder

/-- A witness: the classes for orders of the first and the second kind are distinct. -/
theorem numbered_order_classes :
    ∃ p c, Project.generate {} ⟨0, 0, 0⟩ (.ofNames "Order 1" "Order 2") = .ok p ∧
      p.warnings = [] ∧
      Context.ofSchema {} ⟨0, 0, 0⟩ (.ofNames "Order 1" "Order 2") = .ok c ∧
      (∀ t ∈ (Schema.ofNames "Order 1" "Order 2").tables, IsPlainIdentifier (identifier t.name)) ∧
      (c.tables.map fun t ↦ migrationClass t.name).Nodup := by
  have hreport : (Schema.ofNames "Order 1" "Order 2").validate = .empty := by decide
  obtain ⟨p, hp, hwarnings⟩ := Project.generate_ofNames hreport ⟨0, 0, 0⟩
  have hplain : ∀ t ∈ (Schema.ofNames "Order 1" "Order 2").tables,
      IsPlainIdentifier (identifier t.name) := by
    have hascii : ∀ t ∈ (Schema.ofNames "Order 1" "Order 2").tables,
        ∀ c ∈ t.name.toList, c.toNat < 128 := by simp [Schema.ofNames]
    intro t ht
    exact isPlainIdentifier_identifier (hascii t ht)
  obtain ⟨c, hc, -, -, hclasses⟩ := migration_classes_nodup_iff hp hwarnings hplain
  exact ⟨p, c, hp, hwarnings, hc, hplain, hclasses.mpr (by decide)⟩

/-- Tables of different identifiers, which are the same once fused: their migrations declare one
class, and nothing is warned about. -/
theorem order_class_declared_twice :
    ∃ p c, Project.generate {} ⟨0, 0, 0⟩ (.ofNames "Order 1" "Order1") = .ok p ∧
      p.warnings = [] ∧
      Context.ofSchema {} ⟨0, 0, 0⟩ (.ofNames "Order 1" "Order1") = .ok c ∧
      p.filesOf .migration = c.migrationOutputs ∧
      ¬ (c.tables.map fun t ↦ migrationClass t.name).Nodup := by
  have hreport : (Schema.ofNames "Order 1" "Order1").validate = .empty := by decide
  obtain ⟨p, hp, hwarnings⟩ := Project.generate_ofNames hreport ⟨0, 0, 0⟩
  obtain ⟨-, -, c, hc, rfl⟩ := Project.generate_eq_ok.mp hp
  refine ⟨_, c, hp, hwarnings, hc, Context.migrations_project _, ?_⟩
  have hperm := (Context.tables_perm hc).map fun t ↦ migrationClass t.name
  rw [hperm.nodup_iff]
  decide

end DiagramMigrations
