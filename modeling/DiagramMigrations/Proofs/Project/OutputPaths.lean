import DiagramMigrations.Proofs.Project.EnumReferences
import DiagramMigrations.Proofs.Project.MigrationFiles

/-!
The paths of generated files. The names of migrations differ by the identifiers of their tables and
those of classes by the words they are made of, so that files of a project that nothing is warned
about share a place in two cases only. An enumeration may come to the name of the base class, which
the validation does not know of; and one without a class name may come to a directory that is called
like a migration.
-/

set_option autoImplicit false
set_option relaxedAutoImplicit false

namespace DiagramMigrations

variable {settings : Settings} {now : Timestamp} {s : Schema} {c : Context} {p : Project}

/-- What the check of settings leaves of them. -/
theorem Settings.usable_of_no_fault (h : settings.fault? = none) :
    settings.extension ≠ "" ∧ Path.isAbsolute settings.enumsDirectory = false := by
  unfold fault? at h
  split_ifs at h with hextension hdirectory hnamespace
  constructor
  · intro hempty
    rw [hempty] at hextension
    exact hextension (by decide)
  · rw [Bool.or_eq_true, not_or] at hdirectory
    simpa [Path.isAbsolute] using hdirectory.2

namespace Context

theorem enumPath_eq (className : String) :
    c.enumPath className = Path.join c.settings.enumsDirectory (className ++ c.suffix) := by
  rw [enumPath, suffix, String.append_assoc]

theorem isAbsolute_suffix : Path.isAbsolute c.suffix = false := by
  have hdot : ("." : String).toList = ['.'] := rfl
  rw [suffix, Path.isAbsolute, String.toList_append, hdot]
  rfl

end Context

/-! ### Places of files -/

/-- The place of a file below the output directory: the steps of its path. Files at different places
have different paths. -/
def OutputFile.place (f : OutputFile) : List String :=
  Path.steps f.path

namespace Context

/-- Whether an enumeration stands where a migration does: it has no class name, and the directory of
the enumerations is called like the migration as far as an extension that begins with a slash. -/
def StandsForMigration (c : Context) (e : Enumeration) : Prop :=
  Naming.className e.name = "" ∧ Path.isAbsolute c.settings.extension = true ∧
    ∃ position t, c.tables[position]? = some t ∧
      Path.steps c.settings.enumsDirectory = [c.migrationStem position t.name ++ "."]

variable {name other : String}

theorem steps_enumPath (hname : '/' ∉ name.toList) : Path.steps (c.enumPath name) =
    Path.steps c.settings.enumsDirectory ++ Path.steps (name ++ c.suffix) := by
  rw [enumPath_eq, Path.steps_join (Path.isAbsolute_append hname isAbsolute_suffix)]

theorem steps_enumPath_inj (hname : '/' ∉ name.toList) (hother : '/' ∉ other.toList) :
    Path.steps (c.enumPath name) = Path.steps (c.enumPath other) ↔ name = other := by
  rw [steps_enumPath hname, steps_enumPath hother, List.append_right_inj,
    Path.steps_append_inj hname hother headD_parts_suffix_ne]

theorem steps_migrationFile_inj {i j : Nat} {t u : String} :
    Path.steps (c.migrationFile i t) = Path.steps (c.migrationFile j u) ↔
      c.migrationFile i t = c.migrationFile j u := by
  constructor
  · intro h
    rw [migrationFile_eq_stem, migrationFile_eq_stem] at h ⊢
    rw [Path.steps_append_inj (slash_notMem_migrationStem i t) (slash_notMem_migrationStem j u)
      headD_parts_suffix_ne] at h
    rw [h]
  · intro h
    rw [h]

/-- An extension that begins with a slash leaves the dot in the first part of a name. -/
theorem headD_parts_suffix_eq_dot (hextension : c.settings.extension ≠ "") :
    (Path.parts c.suffix).headD "" = "." ↔ Path.isAbsolute c.settings.extension = true := by
  have hfirst := Path.headD_parts_eq_empty c.settings.extension
  rw [or_iff_right hextension] at hfirst
  rw [headD_parts_suffix, ← hfirst, ← String.toList_inj, String.toList_append]
  simp

/-- A class stands where a migration does only if nothing of its name is left. -/
theorem steps_migrationFile_eq_enumPath (hname : '/' ∉ name.toList) (hbar : '_' ∉ name.toList)
    (hextension : c.settings.extension ≠ "") {i : Nat} {t : String} :
    Path.steps (c.migrationFile i t) = Path.steps (c.enumPath name) ↔
      name = "" ∧ Path.isAbsolute c.settings.extension = true ∧
        Path.steps c.settings.enumsDirectory = [c.migrationStem i t ++ "."] := by
  have hne := migrationStem_append_ne (c := c) i t hbar ""
  rw [String.append_empty] at hne
  have hhead := headD_parts_suffix_ne (c := c)
  -- behind the first parts of the two names both paths go on alike
  rw [steps_migrationFile, ← List.singleton_append, steps_enumPath hname, Path.steps_append hname,
    stepsBehind_suffix, ← List.append_assoc, List.append_left_inj,
    ← headD_parts_suffix_eq_dot hextension]
  generalize (Path.parts c.suffix).headD "" = head at *
  generalize c.migrationStem i t = stem at *
  by_cases hidle : Path.isIdle (name ++ head) = true
  · obtain ⟨rfl, rfl⟩ := Path.eq_empty_of_isIdle_append hhead hidle
    rw [List.filter_cons_of_neg (by decide), List.filter_nil, List.append_nil]
    constructor
    · intro h
      exact ⟨rfl, rfl, h.symm⟩
    · rintro ⟨-, -, h⟩
      exact h.symm
  · constructor
    · intro h
      rw [List.filter_cons_of_pos (by simpa using hidle), List.filter_nil,
        ← List.nil_append [stem ++ head]] at h
      have hsame := List.singleton_inj.mp (List.append_inj' h rfl).2
      rw [← String.toList_inj, String.toList_append, String.toList_append,
        List.append_left_inj, String.toList_inj] at hsame
      exact absurd hsame hne
    · rintro ⟨rfl, rfl, -⟩
      exact absurd rfl hidle

/-! ### Distinct places -/

theorem path_enumOutput (e : Enumeration) :
    (c.enumOutput e).path = c.enumPath (Naming.className e.name) := by
  rw [enumOutput, enumClass, EnumClass.ofEnumeration]

theorem path_baseOutput : c.baseOutput.path = c.enumPath EnumClass.baseName := by
  rw [baseOutput]

theorem enumOutputs_eq (h : c.hasEnumClasses = true) :
    c.enumOutputs = c.baseOutput :: c.enumerations.map c.enumOutput := by
  rw [enumOutputs, if_pos h]

/-- A name is usable in a path below the directory of the enumerations. -/
theorem slash_notMem_className (name : String) : '/' ∉ (Naming.className name).toList :=
  Naming.notMem_className (by decide) (by decide)

/-- Migrations that are called alike are of tables with the same identifier, since no token holds
the letter that follows it. -/
theorem identifier_eq_of_migrationStem {i j : Nat} {t u : String}
    (h : c.migrationStem i t = c.migrationStem j u) :
    Naming.identifier t = Naming.identifier u := by
  have hfront (position : Nat) :
      ∀ d ∈ (c.token position ++ "_").toList, decide (d ≠ 'c') = true := by
    intro d hd
    rw [String.toList_append, List.mem_append] at hd
    refine decide_eq_true fun heq ↦ ?_
    rw [heq] at hd
    exact hd.elim (fun htoken ↦ absurd (Timestamp.of_mem_token htoken) (by decide)) (by decide)
  have hrest (position : Nat) (table : String) :
      (c.migrationStem position table).toList.dropWhile (fun d ↦ decide (d ≠ 'c')) =
        ("create_" : String).toList ++ (Naming.identifier table).toList ++
          ("_table" : String).toList := by
    have hcreate : ("_create_" : String) = "_" ++ "create_" := rfl
    have hstops : ("create_" : String).toList = ['c', 'r', 'e', 'a', 't', 'e', '_'] := rfl
    rw [migrationStem, hcreate, ← String.append_assoc, String.toList_append, String.toList_append,
      String.toList_append, List.append_assoc, List.append_assoc,
      List.dropWhile_append_of_pos (hfront position), hstops, List.cons_append,
      List.dropWhile_cons_of_neg (by decide), ← List.cons_append, List.append_assoc]
  have hchars := hrest i t
  rw [h, hrest, List.append_left_inj, List.append_right_inj, String.toList_inj] at hchars
  exact hchars.symm

/-- Migrations of tables with distinct identifiers stand at distinct places. -/
theorem migrationOutputs_places_nodup
    (hnames : (c.tables.map fun t ↦ Naming.identifier t.name).Nodup) :
    (c.migrationOutputs.map OutputFile.place).Nodup := by
  rw [List.nodup_iff_getElem?_ne_getElem?]
  intro i j hij hj hsame
  rw [List.length_map, length_migrationOutputs] at hj
  have ht := List.getElem?_eq_getElem (hij.trans hj)
  have hu := List.getElem?_eq_getElem hj
  rw [getElem?_map_migrationOutputs ht, getElem?_map_migrationOutputs hu] at hsame
  have hfile : c.migrationFile i c.tables[i].name = c.migrationFile j c.tables[j].name :=
    steps_migrationFile_inj.mp (Option.some.inj hsame)
  rw [migrationFile_eq_stem, migrationFile_eq_stem] at hfile
  have hstem : c.migrationStem i c.tables[i].name = c.migrationStem j c.tables[j].name := by
    simpa [← String.toList_inj] using hfile
  refine List.nodup_iff_getElem?_ne_getElem?.mp hnames i j hij (by rwa [List.length_map]) ?_
  rw [List.getElem?_map, List.getElem?_map, ht, hu, Option.map_some, Option.map_some,
    identifier_eq_of_migrationStem hstem]

/-- Enumeration classes of distinct names stand at distinct places as long as none of them is called
like the base class. -/
theorem enumOutputs_places_nodup_iff (h : c.hasEnumClasses = true)
    (hclasses : (c.enumerations.map fun e ↦ Naming.className e.name).Nodup) :
    (c.enumOutputs.map OutputFile.place).Nodup ↔
      ∀ e ∈ c.enumerations, Naming.className e.name ≠ EnumClass.baseName := by
  have hbase : '/' ∉ EnumClass.baseName.toList := by decide
  have hplaces : (c.enumerations.map c.enumOutput).map OutputFile.place =
      (c.enumerations.map fun e ↦ Naming.className e.name).map fun name ↦
        Path.steps (c.enumPath name) := by
    simp only [List.map_map, Function.comp_def, OutputFile.place, path_enumOutput]
  have hnodup : ((c.enumerations.map c.enumOutput).map OutputFile.place).Nodup := by
    rw [hplaces]
    refine hclasses.map_on fun x hx y hy hsame ↦ ?_
    obtain ⟨e, -, rfl⟩ := List.mem_map.mp hx
    obtain ⟨f, -, rfl⟩ := List.mem_map.mp hy
    exact (steps_enumPath_inj (slash_notMem_className _) (slash_notMem_className _)).mp hsame
  rw [enumOutputs_eq h, List.map_cons, List.nodup_cons, and_iff_left hnodup, hplaces,
    OutputFile.place, path_baseOutput]
  constructor
  · intro hfree e he hcalled
    rw [← hcalled] at hfree
    exact hfree (List.mem_map_of_mem (List.mem_map_of_mem he))
  · intro hnone hmem
    obtain ⟨name, hname, hsame⟩ := List.mem_map.mp hmem
    obtain ⟨e, he, rfl⟩ := List.mem_map.mp hname
    exact hnone e he ((steps_enumPath_inj (slash_notMem_className _) hbase).mp hsame)

theorem place_migrationOutput_ne_baseOutput (hextension : c.settings.extension ≠ "") (t : Table)
    (position : Nat) : (c.migrationOutput t position).place ≠ c.baseOutput.place := by
  rw [OutputFile.place, migrationOutput, OutputFile.place, path_baseOutput]
  intro hsame
  have hempty := (steps_migrationFile_eq_enumPath (by decide) (by decide) hextension).mp hsame
  exact absurd hempty.1 (by decide)

theorem standsForMigration_iff (hextension : c.settings.extension ≠ "") {e : Enumeration} :
    c.StandsForMigration e ↔ ∃ position t, c.tables[position]? = some t ∧
      (c.migrationOutput t position).place = (c.enumOutput e).place := by
  have hbar : '_' ∉ (Naming.className e.name).toList :=
    Naming.notMem_className (by decide) (by decide)
  have hplace (position : Nat) (t : Table) :
      (c.migrationOutput t position).place = (c.enumOutput e).place ↔
        Naming.className e.name = "" ∧ Path.isAbsolute c.settings.extension = true ∧
          Path.steps c.settings.enumsDirectory = [c.migrationStem position t.name ++ "."] := by
    rw [OutputFile.place, migrationOutput, OutputFile.place, path_enumOutput]
    exact steps_migrationFile_eq_enumPath (slash_notMem_className e.name) hbar hextension
  constructor
  · rintro ⟨hempty, hroot, position, t, ht, hsteps⟩
    exact ⟨position, t, ht, (hplace position t).mpr ⟨hempty, hroot, hsteps⟩⟩
  · rintro ⟨position, t, ht, hsame⟩
    obtain ⟨hempty, hroot, hsteps⟩ := (hplace position t).mp hsame
    exact ⟨hempty, hroot, position, t, ht, hsteps⟩

/-- Migrations stand apart from the classes unless an enumeration stands for a migration. -/
theorem disjoint_places_iff (h : c.hasEnumClasses = true) (hextension : c.settings.extension ≠ "") :
    (∀ x ∈ c.migrationOutputs.map OutputFile.place, ∀ y ∈ c.enumOutputs.map OutputFile.place,
      x ≠ y) ↔ ∀ e ∈ c.enumerations, ¬ c.StandsForMigration e := by
  rw [enumOutputs_eq h]
  constructor
  · intro hapart e he hstands
    obtain ⟨position, t, ht, hsame⟩ := (standsForMigration_iff hextension).mp hstands
    have hmigration : c.migrationOutput t position ∈ c.migrationOutputs :=
      mem_migrationOutputs.mpr ⟨t.id, position, t, ht, rfl, rfl⟩
    exact hapart _ (List.mem_map_of_mem hmigration) _
      (List.mem_map_of_mem (List.mem_cons_of_mem _ (List.mem_map_of_mem he))) hsame
  · intro hnone x hx y hy hsame
    obtain ⟨f, hf, rfl⟩ := List.mem_map.mp hx
    obtain ⟨g, hg, rfl⟩ := List.mem_map.mp hy
    obtain ⟨-, position, t, ht, -, rfl⟩ := mem_migrationOutputs.mp hf
    rcases List.mem_cons.mp hg with rfl | hg
    · exact place_migrationOutput_ne_baseOutput hextension t position hsame
    · obtain ⟨e, he, rfl⟩ := List.mem_map.mp hg
      exact hnone e he ((standsForMigration_iff hextension).mpr ⟨position, t, ht, hsame⟩)

end Context

/-- The paths of a project lead down from the output directory, not from the root. -/
theorem Project.paths_relative (hp : generate settings now s = .ok p) {f : OutputFile}
    (hf : f ∈ p.files) : Path.isAbsolute f.path = false := by
  obtain ⟨hfault, -, c, hc, rfl⟩ := generate_eq_ok.mp hp
  have hdirectory : Path.isAbsolute c.settings.enumsDirectory = false := by
    rw [Context.settings_eq hc]
    exact (Settings.usable_of_no_fault hfault).2
  have hclass (name : String) (hname : '/' ∉ name.toList) :
      Path.isAbsolute (c.enumPath name) = false := by
    rw [Context.enumPath_eq,
      Path.isAbsolute_join (Path.isAbsolute_append hname Context.isAbsolute_suffix), hdirectory]
  rcases List.mem_append.mp hf with hmigration | henum
  · obtain ⟨-, position, t, -, -, rfl⟩ := Context.mem_migrationOutputs.mp hmigration
    rw [Context.migrationOutput, Context.migrationFile_eq_stem]
    exact Path.isAbsolute_append (Context.slash_notMem_migrationStem _ _) Context.isAbsolute_suffix
  · rw [Context.enumOutputs] at henum
    split_ifs at henum
    · rcases List.mem_cons.mp henum with rfl | henum
      · rw [Context.path_baseOutput]
        exact hclass EnumClass.baseName (by decide)
      · obtain ⟨e, -, rfl⟩ := List.mem_map.mp henum
        rw [Context.path_enumOutput]
        exact hclass (Naming.className e.name) (Context.slash_notMem_className e.name)
    · exact absurd henum List.not_mem_nil

/-- The files of a project without warnings stand at distinct places, unless enumeration classes are
wanted and one of them is called like the base class or stands for a migration. -/
theorem Project.places_nodup_iff (hp : Project.generate settings now s = .ok p)
    (hsilent : p.warnings = []) :
    ∃ c, Context.ofSchema settings now s = .ok c ∧
      ((p.files.map OutputFile.place).Nodup ↔ (settings.generateEnums = true →
        ∀ e ∈ s.enumerations, Naming.className e.name ≠ EnumClass.baseName ∧
          ¬ c.StandsForMigration e)) := by
  have hnames := Schema.classNames_nodup (Schema.isSilentOn_of_generate hp hsilent _)
  have hidentifiers := Schema.identifiers_nodup (Schema.isSilentOn_of_generate hp hsilent _)
    (Schema.isSilentOn_of_generate hp hsilent _)
  obtain ⟨hfault, -, c, hc, rfl⟩ := generate_eq_ok.mp hp
  have htables : (c.tables.map fun t ↦ Naming.identifier t.name).Nodup :=
    ((Context.tables_perm hc).map _).nodup_iff.mpr hidentifiers
  have hmigrations := Context.migrationOutputs_places_nodup htables
  have hextension : c.settings.extension ≠ "" := by
    rw [Context.settings_eq hc]
    exact (Settings.usable_of_no_fault hfault).1
  refine ⟨c, hc, ?_⟩
  rw [Context.project, List.map_append, List.nodup_append, and_iff_right hmigrations]
  by_cases hclasses : c.hasEnumClasses = true
  · have hwanted := ((Context.hasEnumClasses_iff hc).mp hclasses).1
    rw [← Context.enumerations_eq hc] at hnames ⊢
    rw [Context.enumOutputs_places_nodup_iff hclasses hnames,
      Context.disjoint_places_iff hclasses hextension]
    constructor
    · rintro ⟨hbase, hstands⟩ - e he
      exact ⟨hbase e he, hstands e he⟩
    · intro hapart
      exact ⟨fun e he ↦ (hapart hwanted e he).1, fun e he ↦ (hapart hwanted e he).2⟩
  · have hnone : c.enumOutputs = [] := if_neg hclasses
    rw [hnone]
    refine iff_of_true ⟨List.nodup_nil, by simp⟩ fun hwanted e he ↦ ?_
    exact absurd ((Context.hasEnumClasses_iff hc).mpr ⟨hwanted, List.ne_nil_of_mem he⟩) hclasses

/-- A shop of posts, with one enumeration. -/
def Schema.shop (enumeration : String) : Schema where
  name := "Shop"
  tables := [{ id := "p", name := "Post" }]
  enumerations := [{ id := "e", name := enumeration, literals := [{ name := "Open" }] }]
  associations := []

theorem Project.generate_shop {enumeration : String} (start : Timestamp)
    (hreport : (Schema.shop enumeration).validate = .empty) :
    ∃ p, generate { timestamp := some start } start (.shop enumeration) = .ok p ∧
      p.warnings = [] := by
  have hdefaults : Settings.fault? {} = none := by decide
  have horder : dependencyOrder (Schema.shop enumeration).tables
      (Schema.shop enumeration).associations = .ok [0] := rfl
  exact exists_generate_of_empty hdefaults hreport horder

/-- A witness: the files of a shop with post states stand at distinct places. -/
theorem post_state_places :
    ∃ p start, Project.generate { timestamp := some start } start (.shop "post state") = .ok p ∧
      p.warnings = [] ∧ (p.files.map OutputFile.place).Nodup := by
  have hreport : (Schema.shop "post state").validate = .empty := by decide
  obtain ⟨p, hp, hwarnings⟩ := Project.generate_shop ⟨738276, 34200, 0⟩ hreport
  obtain ⟨c, hc, hplaces⟩ := Project.places_nodup_iff hp hwarnings
  have hname : ∀ e ∈ (Schema.shop "post state").enumerations,
      Naming.className e.name = "PostState" := by decide
  refine ⟨p, _, hp, hwarnings, hplaces.mpr fun _ e he ↦ ⟨?_, ?_⟩⟩
  · rw [hname e he]
    decide
  · rintro ⟨hempty, -⟩
    rw [hname e he] at hempty
    exact absurd hempty (by decide)

/-- A shop whose enumeration is called like the base class: its class takes the path of the base
class, and nothing is warned about. -/
theorem base_enum_overwritten :
    ∃ p start, Project.generate { timestamp := some start } start (.shop "base enum") = .ok p ∧
      p.warnings = [] ∧ ((Schema.shop "base enum").tables.map Table.id).Nodup ∧
      start.Valid ∧ start.HasPlainYear ∧
      start.addSeconds? ((Schema.shop "base enum").tables.length - 1) = some start ∧
      ¬ (p.files.map OutputFile.path).Nodup := by
  let start : Timestamp := ⟨738276, 34200, 0⟩
  have hreport : (Schema.shop "base enum").validate = .empty := by decide
  obtain ⟨p, hp, hwarnings⟩ := Project.generate_shop start hreport
  refine ⟨p, start, hp, hwarnings, by decide, ⟨by decide, by decide⟩, ⟨by decide, by decide⟩, rfl,
    ?_⟩
  obtain ⟨-, -, c, hc, rfl⟩ := Project.generate_eq_ok.mp hp
  have hclasses : c.hasEnumClasses = true :=
    (Context.hasEnumClasses_iff hc).mpr ⟨rfl, by decide⟩
  have hname : Naming.className "base enum" = EnumClass.baseName := by decide
  intro hnodup
  rw [Context.project, List.map_append, Context.enumOutputs_eq hclasses,
    Context.enumerations_eq hc] at hnodup
  have hpaths := (List.nodup_append.mp hnodup).2.1
  rw [List.map_cons, List.nodup_cons] at hpaths
  have hsame (e : Enumeration) (he : e.name = "base enum") :
      (c.enumOutput e).path = c.baseOutput.path := by
    rw [Context.path_enumOutput, Context.path_baseOutput, he, hname]
  exact hpaths.1 (List.mem_map.mpr
    ⟨_, List.mem_map_of_mem List.mem_cons_self, hsame _ rfl⟩)

end DiagramMigrations
