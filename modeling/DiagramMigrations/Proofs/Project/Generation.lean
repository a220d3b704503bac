import DiagramMigrations.Project.Generation
import DiagramMigrations.Proofs.Except
import DiagramMigrations.Proofs.Migration.Creation
import DiagramMigrations.Proofs.Project.Context

/-!
Projects that are generated. Generation succeeds when the settings and the schema are judged well
and the tables can be ordered, and the project is then that of the context.
-/

set_option autoImplicit false
set_option relaxedAutoImplicit false

namespace DiagramMigrations

variable {settings : Settings} {now : Timestamp} {s : Schema} {c : Context} {p : Project}

theorem Settings.check_eq_ok : settings.check = .ok () ↔ settings.fault? = none := by
  unfold Settings.check
  cases settings.fault? <;> simp

/-- The stages of a generation. -/
theorem Project.generate_eq : Project.generate settings now s =
    settings.check.bind fun _ ↦ s.validate.result.bind fun _ ↦
      (Context.ofSchema settings now s).bind fun c ↦ .ok (c.project s.validate.warnings) :=
  rfl

theorem Project.generate_eq_ok : Project.generate settings now s = .ok p ↔
    settings.fault? = none ∧ s.validate.result = .ok () ∧
      ∃ c, Context.ofSchema settings now s = .ok c ∧ c.project s.validate.warnings = p := by
  rw [generate_eq, bind_eq_ok]
  constructor
  · rintro ⟨⟨⟩, hcheck, h⟩
    obtain ⟨⟨⟩, hresult, h⟩ := bind_eq_ok.mp h
    obtain ⟨c, hc, h⟩ := bind_eq_ok.mp h
    exact ⟨Settings.check_eq_ok.mp hcheck, hresult, c, hc, Except.ok.inj h⟩
  · rintro ⟨hfault, hresult, c, hc, rfl⟩
    exact ⟨(), Settings.check_eq_ok.mpr hfault,
      bind_eq_ok.mpr ⟨(), hresult, bind_eq_ok.mpr ⟨c, hc, rfl⟩⟩⟩

/-- With a timestamp in the settings, no clock is asked. -/
theorem Project.generate_of_timestamp (h : settings.timestamp.isSome = true)
    (now other : Timestamp) (s : Schema) : generate settings now s = generate settings other s := by
  obtain ⟨start, hstart⟩ := Option.isSome_iff_exists.mp h
  have hcontext : Context.ofSchema settings now s = Context.ofSchema settings other s := by
    rw [Context.ofSchema, Context.ofSchema, hstart, Option.getD_some, Option.getD_some]
  rw [generate_eq, generate_eq, hcontext]

/-- The warnings of a project are those of the validation. -/
theorem Project.warnings_of_generate (h : generate settings now s = .ok p) :
    p.warnings = s.validate.warnings.map ValidationWarning.display := by
  obtain ⟨-, -, c, -, rfl⟩ := generate_eq_ok.mp h
  rfl

/-- Settings and a schema without a fault give a project if the tables can be ordered. -/
theorem Project.exists_generate (hfault : settings.fault? = none)
    (hresult : s.validate.result = .ok ()) {order : List Nat}
    (horder : dependencyOrder s.tables s.associations = .ok order) :
    ∃ p, generate settings now s = .ok p := by
  have hcontext : ∃ c, Context.ofSchema settings now s = .ok c :=
    ⟨_, Context.ofSchema_eq_ok.mpr ⟨order, horder, rfl⟩⟩
  obtain ⟨c, hc⟩ := hcontext
  exact ⟨_, generate_eq_ok.mpr ⟨hfault, hresult, c, hc, rfl⟩⟩

/-- Settings without a fault and a schema that nothing is found about give a project without
warnings. -/
theorem Project.exists_generate_of_empty (hfault : settings.fault? = none)
    (hreport : s.validate = .empty) {order : List Nat}
    (horder : dependencyOrder s.tables s.associations = .ok order) :
    ∃ p, generate settings now s = .ok p ∧ p.warnings = [] := by
  have hresult : s.validate.result = .ok () := by
    rw [hreport]
    rfl
  obtain ⟨p, hp⟩ : ∃ p, generate settings now s = .ok p := exists_generate hfault hresult horder
  refine ⟨p, hp, ?_⟩
  rw [warnings_of_generate hp, hreport]
  rfl

/-- A diagram on which an account refers to its zone, and to the account above it. -/
def Diagram.zones : Diagram where
  name := "Zones"
  elements := [
    .ofClass {
      id := "a"
      name := "Account"
      classification := "table"
      owned := [
        .association ⟨"r", ⟨"", "a"⟩, ⟨"", "z"⟩⟩,
        .association ⟨"", ⟨"parent_id", "a"⟩, ⟨"id", "a"⟩⟩] },
    .ofClass { id := "z", name := "Zone", classification := "Table" }]

theorem Project.generate_zones (time : Option Timestamp) (now : Timestamp) :
    ∃ p, generate { timestamp := time } now (Schema.ofDiagram .zones) = .ok p := by
  have horder : dependencyOrder (Schema.ofDiagram .zones).tables
      (Schema.ofDiagram .zones).associations = .ok [1, 0] := by decide
  have hdefaults : Settings.fault? {} = none := by decide
  exact exists_generate hdefaults (by decide) horder

namespace Context

theorem filesOf_project (kind : FileKind) (warnings : List ValidationWarning) :
    (c.project warnings).filesOf kind =
      c.migrationOutputs.filter (·.kind = kind) ++ c.enumOutputs.filter (·.kind = kind) := by
  rw [Project.filesOf, project, List.filter_append]

theorem kind_of_mem_migrationOutputs {f : OutputFile} (h : f ∈ c.migrationOutputs) :
    f.kind = .migration := by
  obtain ⟨⟨t, position⟩, -, rfl⟩ := List.mem_map.mp h
  rfl

theorem kind_of_mem_enumOutputs {f : OutputFile} (h : f ∈ c.enumOutputs) :
    f.kind ≠ .migration := by
  unfold enumOutputs at h
  split_ifs at h
  · rcases List.mem_cons.mp h with rfl | h
    · simp [baseOutput]
    · obtain ⟨e, -, rfl⟩ := List.mem_map.mp h
      simp [enumOutput]
  · exact absurd h List.not_mem_nil

/-- The migrations of a project are the files for its tables. -/
theorem migrations_project (warnings : List ValidationWarning) :
    (c.project warnings).filesOf .migration = c.migrationOutputs := by
  rw [filesOf_project, List.filter_eq_self.mpr, List.filter_eq_nil_iff.mpr, List.append_nil]
  · intro f hf
    simpa using kind_of_mem_enumOutputs hf
  · intro f hf
    simpa using kind_of_mem_migrationOutputs hf

theorem length_migrationOutputs : c.migrationOutputs.length = c.tables.length := by
  rw [migrationOutputs, List.length_map, List.length_zipIdx]

/-- The file at the place of a table. -/
theorem getElem?_migrationOutputs (position : Nat) :
    c.migrationOutputs[position]? =
      (c.tables[position]?).map fun t ↦ c.migrationOutput t position := by
  rw [migrationOutputs, List.getElem?_map, List.getElem?_zipIdx, Option.map_map, Nat.zero_add]
  rfl

/-- Whether a file is the migration of the table with an id: it is the one for the place that the
table has in the order of creation. -/
def IsMigrationOf (c : Context) (id : String) (f : OutputFile) : Prop :=
  ∃ position t, c.tables[position]? = some t ∧ t.id = id ∧ f = c.migrationOutput t position

theorem mem_migrationOutputs {f : OutputFile} :
    f ∈ c.migrationOutputs ↔ ∃ id, c.IsMigrationOf id f := by
  rw [List.mem_iff_getElem?]
  simp only [getElem?_migrationOutputs, Option.map_eq_some_iff]
  constructor
  · rintro ⟨position, t, ht, rfl⟩
    exact ⟨t.id, position, t, ht, rfl, rfl⟩
  · rintro ⟨-, position, t, ht, -, rfl⟩
    exact ⟨position, t, ht, rfl⟩

/-- A migration is that of a table, and holds its lines. -/
theorem exists_table_of_mem_migrationOutputs (h : ofSchema settings now s = .ok c) {f : OutputFile}
    (hf : f ∈ c.migrationOutputs) :
    ∃ t ∈ c.tables, c.IsMigrationOf t.id f ∧
      f.content = "\n".intercalate ((c.migration t).lines settings.enumNamespace) ++ "\n" := by
  obtain ⟨id, position, t, ht, -, rfl⟩ := mem_migrationOutputs.mp hf
  have htext := Migration.text_eq (c.migration t) settings.enumNamespace
  rw [← settings_eq h] at htext ⊢
  exact ⟨t, List.mem_of_getElem? ht, ⟨position, t, ht, rfl, rfl⟩, htext⟩

/-- The creation of a table in the text of its migration. -/
def creation (c : Context) (t : Table) : Creation :=
  (c.migration t).creation c.settings.enumNamespace

theorem content_migrationOutput (t : Table) (position : Nat) :
    (c.migrationOutput t position).content = (c.creation t).text := by
  rw [creation, Migration.text_creation, migrationOutput]

theorem countP_creation (t : Table) :
    (c.creation t).lines.countP opensForeignKey = (c.foreignKeys t).length := by
  rw [creation, Migration.countP_creation]
  rfl

/-- Of distinct ids, each has one migration. -/
theorem existsUnique_migration (hids : (c.tables.map Table.id).Nodup) {id : String}
    (hid : id ∈ c.tables.map Table.id) : ∃! f, c.IsMigrationOf id f := by
  obtain ⟨t, ht, rfl⟩ := List.mem_map.mp hid
  obtain ⟨position, hposition⟩ := List.mem_iff_getElem?.mp ht
  refine ⟨_, ⟨position, t, hposition, rfl, rfl⟩, ?_⟩
  rintro f ⟨other, u, hother, hu, rfl⟩
  obtain rfl := DiagramMigrations.Order.place_unique hids hother hposition hu
  rw [hposition] at hother
  rw [Option.some.inj hother]

end Context

end DiagramMigrations
