import DiagramMigrations.Proofs.Naming.Characters
import DiagramMigrations.Proofs.Project.EnumReferences

/-!
The imports of a migration. PHP knows an imported class by the last part of its name, so that the
imports of a file need distinct last parts. Those of enumeration classes are their class names, each
of which is imported once; but no rule keeps an enumeration from a name of the framework, nor two
columns from enumerations that the schema does not have.
-/

set_option autoImplicit false
set_option relaxedAutoImplicit false

namespace DiagramMigrations

/-! ### Names of imports -/

namespace Php

/-- The last part of the full name of a class. -/
def shortName (name : String) : String :=
  String.ofList (name.toList.reverse.takeWhile fun c ↦ c ≠ '\\').reverse

theorem shortName_append {name : String} (hname : '\\' ∉ name.toList) (parents : String) :
    shortName (parents ++ "\\" ++ name) = name := by
  have hsep : ("\\" : String).toList = ['\\'] := rfl
  have hall : ∀ c ∈ name.toList.reverse, decide (c ≠ '\\') = true := by
    intro c hc
    exact decide_eq_true (ne_of_mem_of_not_mem (List.mem_reverse.mp hc) hname)
  rw [shortName, String.toList_append, String.toList_append, hsep, List.reverse_append,
    List.reverse_append, List.reverse_singleton, List.singleton_append,
    List.takeWhile_append_of_pos hall, List.takeWhile_cons_of_neg (by decide), List.append_nil,
    List.reverse_reverse, String.ofList_toList]

end Php

open Php

/-- The last parts of what every migration imports. -/
def Migration.frameworkNames : List String :=
  ["Schema", "Blueprint", "Migration"]

theorem Migration.shortNames_imports (m : Migration) (enumNamespace : String) :
    (m.imports enumNamespace).map shortName =
      m.enumerations.map Naming.className ++ frameworkNames := by
  have hframework : frameworkImports.map shortName = frameworkNames := by decide
  have henums : (m.enumerations.map (enumImport enumNamespace)).map shortName =
      m.enumerations.map Naming.className := by
    rw [List.map_map]
    refine List.map_congr_left fun name _ ↦ ?_
    exact shortName_append (Naming.notMem_className (by decide) (by decide)) enumNamespace
  rw [imports, List.map_append, henums, hframework]

variable {s : Schema} {t : Table}

theorem enumerations_nodup (t : Table) : t.enumerations.Nodup := by
  have hnil : (([] : List String).map id).Nodup := List.nodup_nil
  have hkeys := foldl_keepNew_keys_nodup (t.columns.filterMap Column.enumeration?) hnil
  rwa [List.map_id, ← enumerations_eq_foldl] at hkeys

/-- If the enumerations of a schema have distinct class names, the imports of a table have distinct
last parts as long as none of its enumerations takes a name of the framework, and those that the
schema does not have take no class name of another. -/
theorem Schema.importNames_nodup_iff
    (hclasses : (s.enumerations.map fun e ↦ Naming.className e.name).Nodup) :
    (t.enumerations.map Naming.className ++ Migration.frameworkNames).Nodup ↔
      (∀ name ∈ t.enumerations, Naming.className name ∉ Migration.frameworkNames) ∧
        ∀ name ∈ t.enumerations, ∀ other ∈ t.enumerations,
          name ∉ s.enumerations.map Enumeration.name →
            Naming.className name = Naming.className other → name = other := by
  have hframework : Migration.frameworkNames.Nodup := by decide
  have hdeclared : ∀ name ∈ s.enumerations.map Enumeration.name,
      ∀ other ∈ s.enumerations.map Enumeration.name,
        Naming.className name = Naming.className other → name = other := by
    intro name hname other hother hsame
    obtain ⟨e, he, rfl⟩ := List.mem_map.mp hname
    obtain ⟨f, hf, rfl⟩ := List.mem_map.mp hother
    rw [List.inj_on_of_nodup_map hclasses he hf hsame]
  rw [List.nodup_append]
  constructor
  · rintro ⟨hnames, -, hapart⟩
    constructor
    · intro name hname htaken
      exact hapart _ (List.mem_map_of_mem hname) _ htaken rfl
    · intro name hname other hother _ hsame
      exact List.inj_on_of_nodup_map hnames hname hother hsame
  · rintro ⟨hfree, hunknown⟩
    refine ⟨(enumerations_nodup t).map_on fun name hname other hother hsame ↦ ?_, hframework, ?_⟩
    · by_cases hknown : name ∈ s.enumerations.map Enumeration.name
      · by_cases hknown' : other ∈ s.enumerations.map Enumeration.name
        · exact hdeclared name hknown other hknown' hsame
        · exact (hunknown other hother name hname hknown' hsame.symm).symm
      · exact hunknown name hname other hother hknown hsame
    · intro className hclass framework hin hsame
      obtain ⟨name, hname, rfl⟩ := List.mem_map.mp hclass
      exact hfree name hname (hsame ▸ hin)

variable {settings : Settings} {now : Timestamp} {p : Project}

/-- The lines of a migration that import classes are those of its imports; in a project without
warnings these have distinct last parts unless an enumeration of the table takes a name of the
framework, or one that the schema does not have takes the class name of another. -/
theorem import_names_nodup_iff (hp : Project.generate settings now s = .ok p)
    (hsilent : p.warnings = []) :
    ∃ c, Context.ofSchema settings now s = .ok c ∧ p.filesOf .migration = c.migrationOutputs ∧
      ∀ f ∈ p.filesOf .migration, ∃ t ∈ c.tables, c.IsMigrationOf t.id f ∧
        f.content = "\n".intercalate ((c.migration t).lines settings.enumNamespace) ++ "\n" ∧
        ((c.migration t).lines settings.enumNamespace).filter isUse =
          ((c.migration t).imports settings.enumNamespace).map Migration.useLine ∧
        ((((c.migration t).imports settings.enumNamespace).map shortName).Nodup ↔
          (∀ name ∈ t.enumerations, Naming.className name ∉ Migration.frameworkNames) ∧
            ∀ name ∈ t.enumerations, ∀ other ∈ t.enumerations,
              name ∉ s.enumerations.map Enumeration.name →
                Naming.className name = Naming.className other → name = other) := by
  have hclasses := Schema.classNames_nodup (Schema.isSilentOn_of_generate hp hsilent _)
  obtain ⟨-, -, c, hc, rfl⟩ := Project.generate_eq_ok.mp hp
  refine ⟨c, hc, Context.migrations_project _, fun f hf ↦ ?_⟩
  rw [Context.migrations_project] at hf
  obtain ⟨t, ht, hmigration, hcontent⟩ := Context.exists_table_of_mem_migrationOutputs hc hf
  refine ⟨t, ht, hmigration, hcontent, Migration.filter_isUse_lines _ _, ?_⟩
  rw [Migration.shortNames_imports, ← Schema.importNames_nodup_iff hclasses, Context.migration,
    Migration.ofTable]

/-- A schema of posts with a state that is taken from an enumeration. -/
def Schema.posts (enumeration : String) : Schema where
  name := "Posts"
  tables := [{
    id := "p"
    name := "Post"
    columns := [{ name := "state", type := .enumeration enumeration }] }]
  enumerations := [{ id := "e", name := enumeration, literals := [{ name := "Open" }] }]

theorem Project.generate_posts {enumeration : String}
    (hreport : (Schema.posts enumeration).validate = .empty) (now : Timestamp) :
    ∃ p, generate {} now (.posts enumeration) = .ok p ∧ p.warnings = [] := by
  have hdefaults : Settings.fault? {} = none := by decide
  have horder : dependencyOrder (Schema.posts enumeration).tables
      (Schema.posts enumeration).associations = .ok [0] := rfl
  exact exists_generate_of_empty hdefaults hreport horder

theorem enumerations_of_mem_posts {enumeration : String} {t : Table}
    (ht : t ∈ (Schema.posts enumeration).tables) : t.enumerations = [enumeration] := by
  rw [List.mem_singleton.mp ht]
  rfl

/-- A witness: what the migration of posts with a post state imports has distinct last parts. -/
theorem post_state_imports :
    ∃ p c, Project.generate {} ⟨0, 0, 0⟩ (.posts "post state") = .ok p ∧ p.warnings = [] ∧
      Context.ofSchema {} ⟨0, 0, 0⟩ (.posts "post state") = .ok c ∧
      (p.filesOf .migration).length = 1 ∧
      ∀ f ∈ p.filesOf .migration, ∃ t ∈ c.tables, c.IsMigrationOf t.id f ∧
        (((c.migration t).imports "App\\Enums").map shortName).Nodup := by
  have hreport : (Schema.posts "post state").validate = .empty := by decide
  obtain ⟨p, hp, hwarnings⟩ := Project.generate_posts hreport ⟨0, 0, 0⟩
  obtain ⟨c, hc, hfiles, himports⟩ := import_names_nodup_iff hp hwarnings
  have htables := Context.tables_perm hc
  have hlength : (p.filesOf .migration).length = 1 := by
    rw [hfiles, Context.length_migrationOutputs, htables.length_eq]
    rfl
  refine ⟨p, c, hp, hwarnings, hc, hlength, fun f hf ↦ ?_⟩
  obtain ⟨t, ht, hmigration, -, -, hnodup⟩ := himports f hf
  refine ⟨t, ht, hmigration, hnodup.mpr ?_⟩
  rw [enumerations_of_mem_posts (htables.mem_iff.mp ht)]
  decide

/-- Posts whose state is called like a class of the framework: their migration imports two classes
of one name, and nothing is warned about. -/
theorem migration_imported_twice :
    ∃ p c, Project.generate {} ⟨0, 0, 0⟩ (.posts "Migration") = .ok p ∧ p.warnings = [] ∧
      Context.ofSchema {} ⟨0, 0, 0⟩ (.posts "Migration") = .ok c ∧
      ∃ f ∈ p.filesOf .migration, ∃ t ∈ c.tables, c.IsMigrationOf t.id f ∧
        f.content = "\n".intercalate ((c.migration t).lines "App\\Enums") ++ "\n" ∧
        ((c.migration t).lines "App\\Enums").filter isUse = [
          "use App\\Enums\\Migration;",
          "use Illuminate\\Support\\Facades\\Schema;",
          "use Illuminate\\Database\\Schema\\Blueprint;",
          "use Illuminate\\Database\\Migrations\\Migration;"] ∧
        ¬ (((c.migration t).imports "App\\Enums").map shortName).Nodup := by
  have hreport : (Schema.posts "Migration").validate = .empty := by decide
  obtain ⟨p, hp, hwarnings⟩ := Project.generate_posts hreport ⟨0, 0, 0⟩
  obtain ⟨-, -, c, hc, rfl⟩ := Project.generate_eq_ok.mp hp
  refine ⟨_, c, hp, hwarnings, hc, ?_⟩
  rw [Context.migrations_project]
  have htables := Context.tables_perm hc
  have hsome : c.migrationOutputs ≠ [] := by
    rw [← List.length_pos_iff, Context.length_migrationOutputs, htables.length_eq]
    decide
  obtain ⟨f, hf⟩ := List.exists_mem_of_ne_nil _ hsome
  obtain ⟨t, ht, hmigration, hcontent⟩ := Context.exists_table_of_mem_migrationOutputs hc hf
  have hnames : (c.migration t).enumerations = ["Migration"] :=
    enumerations_of_mem_posts (htables.mem_iff.mp ht)
  refine ⟨f, hf, t, ht, hmigration, hcontent, ?_, ?_⟩
  · rw [Migration.filter_isUse_lines, Migration.imports, hnames]
    decide
  · rw [Migration.shortNames_imports, hnames]
    decide

end DiagramMigrations
