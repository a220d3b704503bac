import DiagramMigrations.Proofs.FileTree.Writing
import DiagramMigrations.Proofs.Project.OutputPaths
import DiagramMigrations.Proofs.Project.Outcome

/-!
Files that stay in the output directory. A path stays in a directory as long as no part of it leads
higher than the parts before have led down, and what is written at such a path lies below the
directory. The names of tables and enumerations never lead up; the settings may, since the directory
of the enumerations is only kept from the root, and an extension may go on behind a slash.
-/

set_option autoImplicit false
set_option relaxedAutoImplicit false

namespace DiagramMigrations

variable {settings : Settings} {now : Timestamp} {s : Schema} {c : Context} {p : Project}

/-! ### Steps that stay in a directory -/

namespace Path

variable {depth : Nat} {step : String} {xs ys : List String}

/-- Whether steps that begin some levels below a directory stay in it: of the steps up to any one of
them, at most so many more lead up than down. -/
def Stays (depth : Nat) (steps : List String) : Prop :=
  ∀ front, front <+: steps → front.count ".." ≤ front.countP (· ≠ "..") + depth

instance (depth : Nat) (steps : List String) : Decidable (Stays depth steps) :=
  decidable_of_iff (∀ front ∈ steps.inits, front.count ".." ≤ front.countP (· ≠ "..") + depth)
    (forall_congr' fun front ↦ imp_congr_left (List.mem_inits front steps))

theorem Stays.of_append (h : Stays depth (xs ++ ys)) : Stays depth xs := fun front hfront ↦
  h front (hfront.trans (List.prefix_append xs ys))

/-- What stays in the directory where other steps end stays where these stay. -/
theorem Stays.append (hxs : Stays depth xs) (hys : Stays 0 ys) : Stays depth (xs ++ ys) := by
  intro front hfront
  obtain ⟨rest, hrest⟩ := hfront
  rcases List.append_eq_append_iff.mp hrest with ⟨more, hmore, -⟩ | ⟨later, rfl, hlater⟩
  · exact hxs front ⟨more, hmore.symm⟩
  · have hfirst := hxs xs (List.prefix_refl xs)
    have hsecond := hys later ⟨rest, hlater.symm⟩
    rw [List.count_append, List.countP_append]
    omega

theorem stays_cons_down (hstep : step ≠ "..") :
    Stays depth (step :: xs) ↔ Stays (depth + 1) xs := by
  constructor
  · intro h front hfront
    have hcons := h (step :: front) (List.cons_prefix_cons.mpr ⟨rfl, hfront⟩)
    rw [List.count_cons_of_ne hstep, List.countP_cons_of_pos (by simpa using hstep)] at hcons
    omega
  · intro h front hfront
    cases front with
    | nil => exact Nat.zero_le _
    | cons first front =>
      obtain ⟨rfl, hbelow⟩ := List.cons_prefix_cons.mp hfront
      have hrest := h front hbelow
      rw [List.count_cons_of_ne hstep, List.countP_cons_of_pos (by simpa using hstep)]
      omega

theorem stays_cons_up : Stays (depth + 1) (".." :: xs) ↔ Stays depth xs := by
  constructor
  · intro h front hfront
    have hcons := h (".." :: front) (List.cons_prefix_cons.mpr ⟨rfl, hfront⟩)
    rw [List.count_cons_self, List.countP_cons_of_neg (by simp)] at hcons
    omega
  · intro h front hfront
    cases front with
    | nil => exact Nat.zero_le _
    | cons first front =>
      obtain ⟨rfl, hbelow⟩ := List.cons_prefix_cons.mp hfront
      have hrest := h front hbelow
      rw [List.count_cons_self, List.countP_cons_of_neg (by simp)]
      omega

/-- Steps that never turn back stay. -/
theorem stays_of_forward (h : ".." ∉ xs) : Stays depth xs := fun front hfront ↦ by
  rw [List.count_eq_zero_of_not_mem fun hmem ↦ h (hfront.mem hmem)]
  exact Nat.zero_le _

/-- A first part that is not empty begins as its path does. -/
theorem head?_of_headD_parts {path : String} {first : Char} {others : List Char}
    (h : ((parts path).headD "").toList = first :: others) :
    path.toList.head? = some first := by
  rw [parts] at h
  cases hpath : path.toList with
  | nil => simp [hpath] at h
  | cons c cs =>
    rw [hpath, List.splitOn_cons_eq_if_modifyHead] at h
    by_cases hc : c = '/'
    · simp [hc] at h
    · cases hcs : cs.splitOn '/' with
      | nil => exact absurd hcs (List.splitOn_ne_nil _ _)
      | cons front later =>
        have hfirst : c :: front = first :: others := by simpa [hc, hcs] using h
        rw [List.head?_cons, (List.cons.inj hfirst).1]

end Path

/-! ### Where paths that stay lead -/

namespace FileTree

variable {t : FileTree} {here mid there : Location} {parts : List String}

/-- What a walk comes to depends only on the parts that lead anywhere. -/
theorem Walks.eq_foldl (h : t.Walks here parts there) :
    there = (parts.filter fun part ↦ !Path.isIdle part).foldl
      (fun place step ↦ if step = ".." then place.tail else step :: place) here := by
  induction h with
  | arrived => rfl
  | idle _ hpart _ ih =>
    rwa [List.filter_cons_of_neg (by simp [hpart])]
  | up _ _ ih =>
    rwa [List.filter_cons_of_pos (by decide), List.foldl_cons, if_pos rfl]
  | down _ hpart hname _ _ ih =>
    rwa [List.filter_cons_of_pos (by simp [hpart]), List.foldl_cons, if_neg hname]

/-- A walk that stays in a directory ends below it. -/
theorem Walks.suffix_of_stays {base : Location} (above : Location) (h : t.Walks here parts there)
    (hhere : here = above ++ base)
    (hstays : Path.Stays above.length (parts.filter fun part ↦ !Path.isIdle part)) :
    base <:+ there := by
  induction h generalizing above with
  | arrived => exact ⟨above, hhere.symm⟩
  | idle _ hpart _ ih =>
    rw [List.filter_cons_of_neg (by simp [hpart])] at hstays
    exact ih above hhere hstays
  | up _ _ ih =>
    rw [List.filter_cons_of_pos (by decide)] at hstays
    cases above with
    | nil => exact absurd (hstays [".."] ⟨_, rfl⟩) (by decide)
    | cons name above => exact ih above (by rw [hhere]; rfl) (Path.stays_cons_up.mp hstays)
  | @down _ _ part _ _ hpart hname _ _ ih =>
    rw [List.filter_cons_of_pos (by simp [hpart])] at hstays
    exact ih (part :: above) (by rw [hhere]; rfl) ((Path.stays_cons_down hname).mp hstays)

/-- A relative path that stays leads below the place of the directory it continues from. -/
theorem suffix_of_follow_join {base path : String} (hbase : t.follow base = .ok mid)
    (hpath : t.follow (Path.join base path) = .ok here) (hrelative : Path.isAbsolute path = false)
    (hstays : Path.Stays 0 (Path.steps path)) : mid <:+ here := by
  obtain ⟨above, habove, hparts⟩ := Path.exists_parts_join base
  obtain ⟨source, hstart, hwalks⟩ := follow_eq_ok.mp hbase
  obtain ⟨source', hstart', hwalks'⟩ := follow_eq_ok.mp hpath
  have hsame : source' = source := by
    rw [eq_of_start hstart', eq_of_start hstart, Path.isAbsolute_join hrelative]
  rw [hparts path hrelative, hsame] at hwalks'
  obtain ⟨start, hfirst, hrest⟩ := exists_walks_of_append hwalks'
  obtain rfl : start = mid := by
    rw [hfirst.eq_foldl, habove]
    exact hwalks.eq_foldl.symm
  exact hrest.suffix_of_stays [] rfl hstays

end FileTree

/-- A file at a path that stays is written below the place of the directory it is written in. -/
theorem OutputFile.puts_below {base : String} {t u : FileTree} {f : OutputFile} {mid : Location}
    (h : (f.write FileTree.disk base).run t = (.ok (), u)) (hbase : u.follow base = .ok mid)
    (hrelative : Path.isAbsolute f.path = false) (hstays : Path.Stays 0 f.place) :
    ∃ here, mid <:+ here ∧ FileTree.PutsFile t u here f.content := by
  obtain ⟨here, hfollow, hputs⟩ := puts_of_write h
  exact ⟨here, FileTree.suffix_of_follow_join hbase hfollow hrelative hstays, hputs⟩

/-! ### Steps of the files of a project -/

/-- The check of settings keeps an extension from beginning with a point. -/
theorem Settings.head?_extension_of_no_fault (h : settings.fault? = none) :
    settings.extension.toList.head? ≠ some '.' := by
  unfold fault? at h
  split_ifs at h with hextension
  rw [Bool.or_eq_true, not_or] at hextension
  simpa using hextension.2

namespace Context

variable {name : String}

/-- A name without points, with what follows it, never leads up. -/
theorem append_headD_suffix_ne_up (hname : '.' ∉ name.toList)
    (hextension : c.settings.extension.toList.head? ≠ some '.') :
    name ++ (Path.parts c.suffix).headD "" ≠ ".." := by
  intro hup
  have hchars : name.toList ++ '.' :: ((Path.parts c.settings.extension).headD "").toList =
      ['.', '.'] := by
    have htext := congrArg String.toList hup
    rwa [headD_parts_suffix, String.toList_append, String.toList_append] at htext
  cases hcs : name.toList with
  | nil =>
    rw [hcs, List.nil_append, List.cons.injEq] at hchars
    exact hextension (Path.head?_of_headD_parts hchars.2)
  | cons d ds =>
    rw [hcs, List.cons_append, List.cons.injEq] at hchars
    rw [hcs, hchars.1] at hname
    exact hname List.mem_cons_self

/-- The name of a migration leads down, so that its file stays unless the extension leads up again
by more. -/
theorem stays_migrationFile (position : Nat) (table : String) :
    Path.Stays 0 (Path.steps (c.migrationFile position table)) ↔
      Path.Stays 1 c.settings.stepsBehind := by
  have hdots : '_' ∉ ("..").toList := by decide
  rw [steps_migrationFile, Path.stays_cons_down (migrationStem_append_ne position table hdots _)]

/-- The file of a class stays if the directory of the enumerations does. Without a class name and
with an extension that begins with a slash, nothing leads down between the two. -/
theorem stays_enumPath (hslash : '/' ∉ name.toList) (hname : '.' ∉ name.toList)
    (hextension : c.settings.extension ≠ "")
    (hpoint : c.settings.extension.toList.head? ≠ some '.')
    (hbehind : Path.Stays 1 c.settings.stepsBehind) :
    Path.Stays 0 (Path.steps (c.enumPath name)) ↔
      Path.Stays 0 (Path.steps c.settings.enumsDirectory) ∧
        (name = "" → Path.isAbsolute c.settings.extension = true →
          Path.Stays 0 (Path.steps c.settings.enumsDirectory ++ c.settings.stepsBehind)) := by
  have hdown := append_headD_suffix_ne_up hname hpoint
  rw [steps_enumPath hslash, Path.steps_append hslash, stepsBehind_suffix,
    ← headD_parts_suffix_eq_dot hextension]
  by_cases hidle : Path.isIdle (name ++ (Path.parts c.suffix).headD "") = true
  · rw [List.filter_cons_of_neg (by simpa using hidle), List.filter_nil, List.nil_append]
    obtain ⟨hempty, hdot⟩ := Path.eq_empty_of_isIdle_append headD_parts_suffix_ne hidle
    exact ⟨fun h ↦ ⟨h.of_append, fun _ _ ↦ h⟩, fun h ↦ h.2 hempty hdot⟩
  · rw [List.filter_cons_of_pos (by simpa using hidle), List.filter_nil, List.singleton_append]
    have hname : Path.Stays 0 ((name ++ (Path.parts c.suffix).headD "") ::
        c.settings.stepsBehind) := (Path.stays_cons_down hdown).mpr hbehind
    refine ⟨fun h ↦ ⟨h.of_append, fun hempty hdot ↦ ?_⟩, fun h ↦ h.1.append hname⟩
    rw [hempty, hdot] at hidle
    exact absurd rfl hidle

end Context

/-! ### Settings that keep all files in the output directory -/

/-- Whether settings keep the files for a list of enumerations, and the migrations, in the output
directory: what follows the first slash of an extension leads up no further than the name of a file
has led down, and if there are enumeration classes their directory stays. Where a class has no name
and the extension begins with a slash, there is no name in between to lead down. -/
structure Settings.Confines (settings : Settings) (enumerations : List Enumeration) : Prop where
  extension : Path.Stays 1 settings.stepsBehind
  directory : settings.generateEnums = true → enumerations ≠ [] →
    Path.Stays 0 (Path.steps settings.enumsDirectory)
  nameless : settings.generateEnums = true → ∀ e ∈ enumerations, Naming.className e.name = "" →
    Path.isAbsolute settings.extension = true →
      Path.Stays 0 (Path.steps settings.enumsDirectory ++ settings.stepsBehind)

/-- Settings without a step that leads up keep all files in the output directory. -/
theorem Settings.confines_of_forward (hdirectory : ".." ∉ Path.steps settings.enumsDirectory)
    (hextension : ".." ∉ settings.stepsBehind) (enumerations : List Enumeration) :
    settings.Confines enumerations where
  extension := Path.stays_of_forward hextension
  directory _ _ := Path.stays_of_forward hdirectory
  nameless _ _ _ _ _ := Path.stays_of_forward (List.not_mem_append hdirectory hextension)

namespace Context

theorem migrationOutputs_stay_iff (htables : c.tables ≠ []) :
    (∀ f ∈ c.migrationOutputs, Path.Stays 0 f.place) ↔ Path.Stays 1 c.settings.stepsBehind := by
  constructor
  · intro h
    obtain ⟨t, rest, ht⟩ := List.exists_cons_of_ne_nil htables
    have hfirst : c.migrationOutput t 0 ∈ c.migrationOutputs :=
      mem_migrationOutputs.mpr ⟨t.id, 0, t, by rw [ht, List.getElem?_cons_zero], rfl, rfl⟩
    have hstays := h _ hfirst
    rwa [OutputFile.place, migrationOutput, stays_migrationFile] at hstays
  · intro h f hf
    obtain ⟨-, position, t, -, -, rfl⟩ := mem_migrationOutputs.mp hf
    rwa [OutputFile.place, migrationOutput, stays_migrationFile]

theorem enumOutputs_stay_iff (hclasses : c.hasEnumClasses = true)
    (hextension : c.settings.extension ≠ "")
    (hpoint : c.settings.extension.toList.head? ≠ some '.')
    (hbehind : Path.Stays 1 c.settings.stepsBehind) :
    (∀ f ∈ c.enumOutputs, Path.Stays 0 f.place) ↔
      Path.Stays 0 (Path.steps c.settings.enumsDirectory) ∧
        ∀ e ∈ c.enumerations, Naming.className e.name = "" →
          Path.isAbsolute c.settings.extension = true →
            Path.Stays 0 (Path.steps c.settings.enumsDirectory ++ c.settings.stepsBehind) := by
  have hclass (name : String) := stays_enumPath (c := c) (slash_notMem_className name)
    (Naming.notMem_className (by decide) (by decide)) hextension hpoint hbehind
  have hbaseClass : '/' ∉ EnumClass.baseName.toList ∧ '.' ∉ EnumClass.baseName.toList := by decide
  have hbase := stays_enumPath (c := c) hbaseClass.1 hbaseClass.2 hextension hpoint hbehind
  have hnamed : EnumClass.baseName ≠ "" := by decide
  rw [enumOutputs_eq hclasses, List.forall_mem_cons, List.forall_mem_map, OutputFile.place,
    path_baseOutput, hbase]
  simp only [OutputFile.place, path_enumOutput, hclass, hnamed, false_implies, and_true]
  exact ⟨fun h ↦ ⟨h.1, fun e he ↦ (h.2 e he).2⟩, fun h ↦ ⟨h.1, fun e he ↦ ⟨h.1, h.2 e he⟩⟩⟩

end Context

/-- The paths of a project are relative, and they stay in the output directory, exactly if the
settings keep them there. -/
theorem Project.paths_stay_iff (hp : generate settings now s = .ok p) :
    (∀ f ∈ p.files, Path.isAbsolute f.path = false) ∧
      ((∀ f ∈ p.files, Path.Stays 0 f.place) ↔ settings.Confines s.enumerations) := by
  refine ⟨fun f hf ↦ paths_relative hp hf, ?_⟩
  obtain ⟨hfault, hresult, c, hc, rfl⟩ := generate_eq_ok.mp hp
  have htables : c.tables ≠ [] := by
    intro hnone
    have hempty : s.tables = [] := (hnone ▸ Context.tables_perm hc).nil_eq.symm
    rw [Schema.validate_result_of_no_tables hempty] at hresult
    cases hresult
  have hclasses := Context.hasEnumClasses_iff hc
  rw [← Context.enumerations_eq hc] at hclasses ⊢
  obtain rfl : c.settings = settings := Context.settings_eq hc
  have hextension := (Settings.usable_of_no_fault hfault).1
  have hpoint := Settings.head?_extension_of_no_fault hfault
  rw [Context.project, List.forall_mem_append, Context.migrationOutputs_stay_iff htables]
  by_cases hany : c.hasEnumClasses = true
  · obtain ⟨hwanted, hsome⟩ := hclasses.mp hany
    constructor
    · rintro ⟨hbehind, hfiles⟩
      obtain ⟨hdirectory, hnameless⟩ :=
        (Context.enumOutputs_stay_iff hany hextension hpoint hbehind).mp hfiles
      exact ⟨hbehind, fun _ _ ↦ hdirectory, fun _ ↦ hnameless⟩
    · intro h
      exact ⟨h.extension, (Context.enumOutputs_stay_iff hany hextension hpoint h.extension).mpr
        ⟨h.directory hwanted hsome, h.nameless hwanted⟩⟩
  · have hnone : c.enumOutputs = [] := if_neg hany
    have hunwanted : c.settings.generateEnums = true → c.enumerations = [] := by
      intro hwanted
      by_contra hsome
      exact hany (hclasses.mpr ⟨hwanted, hsome⟩)
    rw [hnone]
    constructor
    · rintro ⟨hbehind, -⟩
      refine ⟨hbehind, fun hwanted hsome ↦ absurd (hunwanted hwanted) hsome, fun hwanted e he ↦ ?_⟩
      rw [hunwanted hwanted] at he
      exact absurd he List.not_mem_nil
    · intro h
      exact ⟨h.extension, fun f hf ↦ absurd hf List.not_mem_nil⟩

/-- A witness: a directory may be left again for one beside it, and all files stay. -/
theorem shop_files_stay :
    ∃ p start, Project.generate { timestamp := some start, enumsDirectory := "Domain/../Enums" }
        start (.shop "post state") = .ok p ∧
      (∀ f ∈ p.files, Path.isAbsolute f.path = false) ∧ ∀ f ∈ p.files, Path.Stays 0 f.place := by
  let start : Timestamp := ⟨738276, 34200, 0⟩
  let settings : Settings := { timestamp := some start, enumsDirectory := "Domain/../Enums" }
  have hreport : (Schema.shop "post state").validate = .empty := by decide
  have horder : dependencyOrder (Schema.shop "post state").tables
      (Schema.shop "post state").associations = .ok [0] := rfl
  obtain ⟨p, hp, -⟩ : ∃ p, Project.generate settings start (.shop "post state") = .ok p ∧ _ :=
    Project.exists_generate_of_empty (by decide) hreport horder
  obtain ⟨hrelative, hstay⟩ := Project.paths_stay_iff hp
  have hconfines : settings.Confines (Schema.shop "post state").enumerations :=
    ⟨by decide, fun _ _ ↦ by decide, fun _ _ _ _ _ ↦ by decide⟩
  exact ⟨p, start, hp, hrelative, hstay.mpr hconfines⟩

/-- A shop whose enumerations are to go to a directory beside the output directory: the settings
pass their check, and the base class stands outside. -/
theorem shop_file_escapes :
    ∃ p start, Settings.fault? { timestamp := some start, enumsDirectory := "../Enums" } = none ∧
      Project.generate { timestamp := some start, enumsDirectory := "../Enums" } start
        (.shop "post state") = .ok p ∧
      ∃ f ∈ p.files, f.path = "../Enums/BaseEnum.php" ∧ ¬ Path.Stays 0 f.place := by
  let start : Timestamp := ⟨738276, 34200, 0⟩
  let settings : Settings := { timestamp := some start, enumsDirectory := "../Enums" }
  have hfault : settings.fault? = none := by decide
  have hreport : (Schema.shop "post state").validate = .empty := by decide
  have horder : dependencyOrder (Schema.shop "post state").tables
      (Schema.shop "post state").associations = .ok [0] := rfl
  obtain ⟨p, hp, -⟩ : ∃ p, Project.generate settings start (.shop "post state") = .ok p ∧ _ :=
    Project.exists_generate_of_empty hfault hreport horder
  refine ⟨p, start, hfault, hp, ?_⟩
  obtain ⟨-, -, c, hc, rfl⟩ := Project.generate_eq_ok.mp hp
  have hclasses : c.hasEnumClasses = true :=
    (Context.hasEnumClasses_iff hc).mpr ⟨rfl, by decide⟩
  have hpath : c.baseOutput.path = "../Enums/BaseEnum.php" := by
    rw [Context.path_baseOutput, Context.enumPath, Context.settings_eq hc]
    decide
  refine ⟨c.baseOutput, ?_, hpath, ?_⟩
  · rw [Context.project, Context.enumOutputs_eq hclasses]
    exact List.mem_append_right _ List.mem_cons_self
  · rw [OutputFile.place, hpath]
    decide

end DiagramMigrations
