import DiagramMigrations.Proofs.Calendar.Succession
import DiagramMigrations.Proofs.Naming.Characters
import DiagramMigrations.Proofs.Path
import DiagramMigrations.Proofs.Project.Generation
import Mathlib

/-!
The names of migration files. They begin with tokens that ascend in the order of creation, so that a
migration runs after the migrations of the tables it refers to. There are two exceptions. A leap
second that no clock shows gives the first two migrations one token, and an extension that leads on
behind a slash gives all migrations one file name.
-/

set_option autoImplicit false
set_option relaxedAutoImplicit false

namespace DiagramMigrations

open Text

variable {settings : Settings} {now start last : Timestamp} {s : Schema} {c : Context} {p : Project}

/-- The steps behind the first part of an extension. -/
def Settings.stepsBehind (settings : Settings) : List String :=
  (Path.parts settings.extension).tail.filter fun part ↦ !Path.isIdle part

/-! ### What migrations are called -/

namespace Path

variable {path other name : String}

theorem find?_reverse_parts (path : String) :
    ((parts path).reverse.find? fun part ↦ !isIdle part) = (steps path).getLast? := by
  rw [steps, ← List.head?_reverse, ← List.filter_reverse, List.head?_filter]

/-- A path ends in its last step, unless that leads up. -/
theorem fileName_of_getLast? (h : (steps path).getLast? = some name) (hname : name ≠ "..") :
    fileName path = name := by
  rw [fileName, find?_reverse_parts, h]
  split
  · rename_i hnone
    cases hnone
  · rename_i hup
    exact absurd (Option.some.inj hup) hname
  · rename_i hsome
    exact (Option.some.inj hsome).symm

theorem fileName_congr (h : (steps path).getLast? = (steps other).getLast?) :
    fileName path = fileName other := by
  rw [fileName, fileName, find?_reverse_parts, find?_reverse_parts, h]

end Path

namespace Context

/-- The name of the migration at a position, up to its extension. -/
def migrationStem (c : Context) (position : Nat) (table : String) : String :=
  c.token position ++ "_create_" ++ Naming.identifier table ++ "_table"

/-- What follows the name of a migration or a class in the name of its file. -/
def suffix (c : Context) : String :=
  "." ++ c.settings.extension

theorem migrationFile_eq_stem (position : Nat) (table : String) :
    c.migrationFile position table = c.migrationStem position table ++ c.suffix := by
  have hdot : ("_table." : String) = "_table" ++ "." := rfl
  rw [migrationFile, migrationStem, suffix, hdot]
  simp only [String.append_assoc]

theorem slash_notMem_migrationStem (position : Nat) (table : String) :
    '/' ∉ (c.migrationStem position table).toList := by
  have htoken : '/' ∉ (c.token position).toList := fun h ↦
    absurd (Timestamp.of_mem_token h) (by decide)
  have hname := Naming.slash_notMem_identifier table
  have hleft : '/' ∉ ("_create_" : String).toList := by decide
  have hright : '/' ∉ ("_table" : String).toList := by decide
  simp only [migrationStem, String.toList_append, List.mem_append, not_or]
  exact ⟨⟨⟨htoken, hleft⟩, hname⟩, hright⟩

theorem headD_parts_suffix :
    (Path.parts c.suffix).headD "" = "." ++ (Path.parts c.settings.extension).headD "" := by
  rw [suffix, Path.parts_append (by decide)]
  rfl

theorem headD_parts_suffix_ne : (Path.parts c.suffix).headD "" ≠ "" := by
  rw [headD_parts_suffix]
  intro h
  exact absurd (String.append_eq_empty_iff.mp h).1 (by decide)

theorem stepsBehind_suffix :
    ((Path.parts c.suffix).tail.filter fun part ↦ !Path.isIdle part) = c.settings.stepsBehind := by
  rw [suffix, Path.parts_append (by decide), List.tail_cons, Settings.stepsBehind]

/-- There is an underscore in the name of a migration, whatever follows it. -/
theorem migrationStem_append_ne (position : Nat) (table : String) {name : String}
    (hname : '_' ∉ name.toList) (rest : String) :
    c.migrationStem position table ++ rest ≠ name := by
  rintro rfl
  refine hname ?_
  have hbar : '_' ∈ ("_table" : String).toList := by decide
  rw [String.toList_append, migrationStem, String.toList_append]
  exact List.mem_append_left _ (List.mem_append_right _ hbar)

theorem isIdle_migrationStem (position : Nat) (table rest : String) :
    Path.isIdle (c.migrationStem position table ++ rest) = false := by
  have hempty := migrationStem_append_ne (c := c) position table (by decide : '_' ∉ "".toList) rest
  have hdot := migrationStem_append_ne (c := c) position table (by decide : '_' ∉ ".".toList) rest
  simp [Path.isIdle, hempty, hdot]

/-- A migration leads one step down, and where its extension leads from there. -/
theorem steps_migrationFile (position : Nat) (table : String) :
    Path.steps (c.migrationFile position table) =
      (c.migrationStem position table ++ (Path.parts c.suffix).headD "") ::
        c.settings.stepsBehind := by
  rw [migrationFile_eq_stem, Path.steps_append (slash_notMem_migrationStem position table),
    stepsBehind_suffix, List.filter_cons_of_pos (by rw [isIdle_migrationStem, Bool.not_false]),
    List.filter_nil, List.singleton_append]

theorem path_migrationOutput (t : Table) (position : Nat) :
    (c.migrationOutput t position).path = c.token position ++
      ("_create_" ++ Naming.identifier t.name ++ "_table." ++ c.settings.extension) := by
  rw [migrationOutput, migrationFile]
  simp only [String.append_assoc]

theorem fileName_migrationOutput (hbehind : c.settings.stepsBehind = []) (t : Table)
    (position : Nat) : (c.migrationOutput t position).fileName = c.token position ++
      ("_create_" ++ Naming.identifier t.name ++ "_table." ++
        (Path.parts c.settings.extension).headD "") := by
  have hlast : (Path.steps (c.migrationFile position t.name)).getLast? =
      some (c.migrationStem position t.name ++ (Path.parts c.suffix).headD "") := by
    rw [steps_migrationFile, hbehind]
    rfl
  have hdots : '_' ∉ ("..").toList := by decide
  have hdot : ("_table." : String) = "_table" ++ "." := rfl
  rw [OutputFile.fileName, migrationOutput,
    Path.fileName_of_getLast? hlast (migrationStem_append_ne _ _ hdots _), migrationStem,
    headD_parts_suffix, hdot]
  simp only [String.append_assoc]

/-- With an extension that leads on, all migrations are called alike. -/
theorem fileName_migrationOutput_eq (hbehind : c.settings.stepsBehind ≠ []) (t u : Table)
    (i j : Nat) : (c.migrationOutput t i).fileName = (c.migrationOutput u j).fileName := by
  refine Path.fileName_congr ?_
  rw [migrationOutput, migrationOutput, steps_migrationFile, steps_migrationFile,
    List.getLast?_cons_of_ne_nil hbehind, List.getLast?_cons_of_ne_nil hbehind]

/-! ### Tokens -/

/-- A leap second that no clock shows gives the first two migrations one token. -/
theorem token_one (htold : c.start.Told) (hclock : ¬ c.start.Valid) : c.token 1 = c.token 0 := by
  by_contra hchange
  exact hclock (htold.valid hchange)

/-- Tokens ascend behind the second one, and all of them do from a time that a clock shows. -/
theorem token_append_lt (htold : c.start.Told) (hfirst : c.start.HasPlainYear)
    (hlast : c.start.addSeconds? (c.tables.length - 1) = some last)
    (hlastYear : last.HasPlainYear) {i j : Nat} (hij : i < j) (hj : j < c.tables.length)
    (hclock : 1 < j ∨ c.start.Valid) (x y : String) :
    bytes (c.token i ++ x) < bytes (c.token j ++ y) := by
  have hj := Nat.le_sub_one_of_lt hj
  by_cases hvalid : c.start.Valid
  · exact Timestamp.token_ascending htold.second_lt (fun _ ↦ hvalid) hfirst hlast hlastYear hij hj
      x y
  have hlater : 1 < j := hclock.resolve_right hvalid
  rcases Nat.eq_zero_or_pos i with rfl | hi
  · rw [← token_one htold hvalid]
    exact Timestamp.token_ascending htold.second_lt (fun h ↦ absurd h Nat.one_ne_zero) hfirst hlast
      hlastYear hlater hj x y
  · exact Timestamp.token_ascending htold.second_lt (fun h ↦ absurd h hi.ne') hfirst hlast
      hlastYear hij hj x y

/-! ### Names in the order of creation -/

/-- Whether names of migrations tell the order of creation: no two migrations are called alike, and
the name for a table that is referred to is smaller, byte by byte, than the name for a table that
refers to it. -/
def NamesAscend (c : Context) (associations : List Association) (name : OutputFile → String) :
    Prop :=
  (c.migrationOutputs.map name).Nodup ∧
    ∀ a ∈ associations, a.referencingTable ≠ a.referencedTable →
      ∃ f g, c.IsMigrationOf a.referencedTable f ∧ c.IsMigrationOf a.referencingTable g ∧
        bytes (name f) < bytes (name g)

/-- Whether the names of the first two migrations tell their order without their tokens. -/
def FirstTwoAscend (c : Context) (associations : List Association) (extension : String) : Prop :=
  ∀ t u, c.tables[0]? = some t → c.tables[1]? = some u →
    Naming.identifier t.name ≠ Naming.identifier u.name ∧
      ((∃ a ∈ associations, a.referencedTable = t.id ∧ a.referencingTable = u.id) →
        bytes (Naming.identifier t.name ++ "_table." ++ extension) <
          bytes (Naming.identifier u.name ++ "_table." ++ extension))

/-- Whether names of migrations are made up of the token, the identifier of the table and an
extension. -/
def NamesByToken (c : Context) (name : OutputFile → String) (extension : String) : Prop :=
  ∀ t position, name (c.migrationOutput t position) = c.token position ++
    ("_create_" ++ Naming.identifier t.name ++ "_table." ++ extension)

variable {name : OutputFile → String} {extension : String}

theorem getElem?_map_migrationOutputs {α : Type} {f : OutputFile → α} {position : Nat} {t : Table}
    (ht : c.tables[position]? = some t) :
    (c.migrationOutputs.map f)[position]? = some (f (c.migrationOutput t position)) := by
  rw [List.getElem?_map, getElem?_migrationOutputs, ht]
  rfl

theorem migration_eq (hids : (c.tables.map Table.id).Nodup) {position : Nat} {t : Table}
    (ht : c.tables[position]? = some t) {f : OutputFile} (hf : c.IsMigrationOf t.id f) :
    f = c.migrationOutput t position := by
  have hmem : t.id ∈ c.tables.map Table.id := List.mem_map_of_mem (List.mem_of_getElem? ht)
  exact (existsUnique_migration hids hmem).unique hf ⟨position, t, ht, rfl, rfl⟩

/-- No order is to be told between fewer than two migrations. -/
theorem namesAscend_of_length_le_one (h : ofSchema settings now s = .ok c)
    (hids : (s.tables.map Table.id).Nodup) (hclosed : s.Closed) (hfew : c.tables.length ≤ 1) :
    c.NamesAscend s.associations name := by
  constructor
  · have hlength : (c.migrationOutputs.map name).length ≤ 1 := by
      rwa [List.length_map, length_migrationOutputs]
    exact List.nodup_iff_getElem?_ne_getElem?.mpr fun i j hij hj ↦ by omega
  · intro a ha hne
    obtain ⟨i, j, t, u, hij, -, -, hu, -⟩ := referenced_before h hids hclosed ha hne
    have hj := (List.getElem?_eq_some_iff.mp hu).1
    omega

/-- Names that begin with one token are told apart by what stands behind it. -/
theorem bytes_name_lt_iff
    (hname : c.NamesByToken name extension) {t u : Table} {i j : Nat}
    (htoken : c.token i = c.token j) :
    bytes (name (c.migrationOutput t i)) < bytes (name (c.migrationOutput u j)) ↔
      bytes (Naming.identifier t.name ++ "_table." ++ extension) <
        bytes (Naming.identifier u.name ++ "_table." ++ extension) := by
  rw [hname t i, hname u j, htoken]
  simp only [String.append_assoc, bytes_append, append_lt_append_left_iff]

/-- Names that tell the order of creation tell that of the first two migrations without tokens, if
these have one token. -/
theorem NamesAscend.firstTwoAscend {associations : List Association}
    (h : c.NamesAscend associations name) (hids : (c.tables.map Table.id).Nodup)
    (hname : c.NamesByToken name extension)
    (htoken : c.token 1 = c.token 0) : c.FirstTwoAscend associations extension := by
  obtain ⟨hnodup, hbefore⟩ := h
  refine fun t u ht hu ↦ ⟨fun hidentifier ↦ ?_, ?_⟩
  · have htwo : 1 < (c.migrationOutputs.map name).length := by
      rw [List.length_map, length_migrationOutputs]
      exact (List.getElem?_eq_some_iff.mp hu).1
    refine List.nodup_iff_getElem?_ne_getElem?.mp hnodup 0 1 Nat.one_pos htwo ?_
    rw [getElem?_map_migrationOutputs ht, getElem?_map_migrationOutputs hu, hname t 0,
      hname u 1, hidentifier, htoken]
  · rintro ⟨a, ha, htid, huid⟩
    have hne : a.referencingTable ≠ a.referencedTable := fun heq ↦ by
      have hplace := DiagramMigrations.Order.place_unique hids hu ht
        (huid.symm.trans (heq.trans htid))
      omega
    obtain ⟨f, g, hf, hg, hfg⟩ := hbefore a ha hne
    rw [htid] at hf
    rw [huid] at hg
    rw [migration_eq hids ht hf, migration_eq hids hu hg] at hfg
    exact (bytes_name_lt_iff hname htoken.symm).mp hfg

/-- The names of two migrations differ, and tell which is created first if one refers to the other:
by their tokens, unless these are the first two and have one token. -/
theorem names_apart {associations : List Association} (htold : c.start.Told)
    (hfirst : c.start.HasPlainYear)
    (hlast : c.start.addSeconds? (c.tables.length - 1) = some last)
    (hlastYear : last.HasPlainYear)
    (hname : c.NamesByToken name extension)
    (hclock : c.start.Valid ∨ c.FirstTwoAscend associations extension) {i j : Nat} (hij : i < j)
    {t u : Table} (ht : c.tables[i]? = some t) (hu : c.tables[j]? = some u) :
    name (c.migrationOutput t i) ≠ name (c.migrationOutput u j) ∧
      ((∃ a ∈ associations, a.referencedTable = t.id ∧ a.referencingTable = u.id) →
        bytes (name (c.migrationOutput t i)) < bytes (name (c.migrationOutput u j))) := by
  have hj := (List.getElem?_eq_some_iff.mp hu).1
  by_cases htokens : 1 < j ∨ c.start.Valid
  · have hless : bytes (name (c.migrationOutput t i)) < bytes (name (c.migrationOutput u j)) := by
      rw [hname t i, hname u j]
      exact token_append_lt htold hfirst hlast hlastYear hij hj htokens _ _
    refine ⟨fun heq ↦ ?_, fun _ ↦ hless⟩
    rw [heq] at hless
    exact List.lt_irrefl _ hless
  · obtain ⟨hfew, hvalid⟩ := not_or.mp htokens
    obtain rfl : j = 1 := by omega
    obtain rfl : i = 0 := by omega
    have htoken := token_one htold hvalid
    obtain ⟨hidentifier, horder⟩ := (hclock.resolve_left hvalid) t u ht hu
    refine ⟨fun heq ↦ hidentifier (String.toList_inj.mp ?_), fun ha ↦
      (bytes_name_lt_iff hname htoken.symm).mpr (horder ha)⟩
    rw [hname t 0, hname u 1, htoken] at heq
    simpa [String.append_assoc, ← String.toList_inj] using heq

/-- Names that begin with the tokens tell the order of creation exactly if the first token is that
of a time that a clock shows, or else if the first two names tell their order without tokens. -/
theorem namesAscend_iff (h : ofSchema settings now s = .ok c)
    (hids : (s.tables.map Table.id).Nodup) (hclosed : s.Closed) (htold : c.start.Told)
    (hfirst : c.start.HasPlainYear)
    (hlast : c.start.addSeconds? (c.tables.length - 1) = some last)
    (hlastYear : last.HasPlainYear)
    (hname : c.NamesByToken name extension) :
    c.NamesAscend s.associations name ↔
      c.start.Valid ∨ c.FirstTwoAscend s.associations extension := by
  constructor
  · intro hascend
    by_cases hvalid : c.start.Valid
    · exact Or.inl hvalid
    · exact Or.inr (hascend.firstTwoAscend (tables_ids_nodup h hids) hname
        (token_one htold hvalid))
  · intro hclock
    constructor
    · rw [List.nodup_iff_getElem?_ne_getElem?]
      intro i j hij hj
      rw [List.length_map, length_migrationOutputs] at hj
      have ht := List.getElem?_eq_getElem (hij.trans hj)
      have hu := List.getElem?_eq_getElem hj
      rw [getElem?_map_migrationOutputs ht, getElem?_map_migrationOutputs hu]
      exact fun heq ↦ (names_apart htold hfirst hlast hlastYear hname hclock hij ht hu).1
        (Option.some.inj heq)
    · intro a ha hne
      obtain ⟨i, j, t, u, hij, ht, htid, hu, huid⟩ := referenced_before h hids hclosed ha hne
      exact ⟨_, _, ⟨i, t, ht, htid, rfl⟩, ⟨j, u, hu, huid, rfl⟩,
        (names_apart htold hfirst hlast hlastYear hname hclock hij ht hu).2
          ⟨a, ha, htid.symm, huid.symm⟩⟩

/-- With an extension that leads on, file names tell the order of no two migrations. -/
theorem length_le_one_of_fileNames (hbehind : c.settings.stepsBehind ≠ [])
    (hnodup : (c.migrationOutputs.map OutputFile.fileName).Nodup) : c.tables.length ≤ 1 := by
  by_contra hmany
  have hfirst := List.getElem?_eq_getElem (by omega : 0 < c.tables.length)
  have hsecond := List.getElem?_eq_getElem (by omega : 1 < c.tables.length)
  have htwo : 1 < (c.migrationOutputs.map OutputFile.fileName).length := by
    rw [List.length_map, length_migrationOutputs]
    omega
  refine List.nodup_iff_getElem?_ne_getElem?.mp hnodup 0 1 Nat.one_pos htwo ?_
  rw [getElem?_map_migrationOutputs hfirst, getElem?_map_migrationOutputs hsecond,
    fileName_migrationOutput_eq hbehind]

end Context

/-- When the names of migrations tell the order of creation, as long as these are numbered in years
of four digits. Their paths do exactly if the first time is one that a clock shows, or the names of
the first two tables make up for it; their file names do if, besides, the extension does not lead on
behind a slash, or if there are no two of them. -/
theorem migration_names_ascend_iff {d : Diagram}
    (hp : Project.generate settings now (Schema.ofDiagram d) = .ok p)
    (htime : settings.timestamp = some start) (htold : start.Told) (hfirst : start.HasPlainYear)
    (hlast : start.addSeconds? ((Schema.ofDiagram d).tables.length - 1) = some last)
    (hlastYear : last.HasPlainYear) :
    ∃ c, Context.ofSchema settings now (Schema.ofDiagram d) = .ok c ∧
      p.filesOf .migration = c.migrationOutputs ∧
      (∀ t ∈ (Schema.ofDiagram d).tables, ∃! f, c.IsMigrationOf t.id f) ∧
      (c.NamesAscend (Schema.ofDiagram d).associations OutputFile.path ↔
        start.Valid ∨
          c.FirstTwoAscend (Schema.ofDiagram d).associations settings.extension) ∧
      (c.NamesAscend (Schema.ofDiagram d).associations OutputFile.fileName ↔
        (Schema.ofDiagram d).tables.length ≤ 1 ∨ settings.stepsBehind = [] ∧
          (start.Valid ∨ c.FirstTwoAscend (Schema.ofDiagram d).associations
            ((Path.parts settings.extension).headD ""))) := by
  obtain ⟨-, -, c, hc, rfl⟩ := Project.generate_eq_ok.mp hp
  have hids := Schema.ofDiagram_ids_nodup d
  have hclosed := Schema.ofDiagram_closed d
  have hperm := Context.tables_perm hc
  have hcstart : c.start = start := by
    rw [Context.start_eq hc, htime, Option.getD_some]
  have hcsettings := Context.settings_eq hc
  subst start
  subst settings
  rw [← hperm.length_eq] at hlast ⊢
  rw [Context.migrations_project]
  refine ⟨c, hc, rfl, fun t ht ↦ ?_, ?_, ?_⟩
  · refine Context.existsUnique_migration (Context.tables_ids_nodup hc hids) ?_
    exact List.mem_map_of_mem (hperm.mem_iff.mpr ht)
  · exact Context.namesAscend_iff hc hids hclosed htold hfirst hlast hlastYear
      Context.path_migrationOutput
  · by_cases hfew : c.tables.length ≤ 1
    · exact iff_of_true (Context.namesAscend_of_length_le_one hc hids hclosed hfew) (Or.inl hfew)
    rw [or_iff_right hfew]
    by_cases hbehind : c.settings.stepsBehind = []
    · rw [and_iff_right hbehind]
      exact Context.namesAscend_iff hc hids hclosed htold hfirst hlast hlastYear
        (Context.fileName_migrationOutput hbehind)
    · refine iff_of_false (fun hascend ↦ hfew ?_) fun h ↦ hbehind h.1
      exact Context.length_le_one_of_fileNames hbehind hascend.1

/-- A witness: the zone is created in the leap second at the end of a year, and the account that
refers to it in the first second of the next year. -/
theorem zone_named_before_account :
    ∃ p c start last, Project.generate { timestamp := some start } start (Schema.ofDiagram .zones) =
        .ok p ∧ start.Told ∧ start.HasPlainYear ∧ start.inLeapSecond ∧
      start.addSeconds? ((Schema.ofDiagram .zones).tables.length - 1) = some last ∧
      last.HasPlainYear ∧ start.year < last.year ∧
      Context.ofSchema { timestamp := some start } start (Schema.ofDiagram .zones) = .ok c ∧
      p.filesOf .migration = c.migrationOutputs ∧
      c.NamesAscend (Schema.ofDiagram .zones).associations OutputFile.path ∧
      c.NamesAscend (Schema.ofDiagram .zones).associations OutputFile.fileName := by
  let start : Timestamp := ⟨730484, 86399, 1500000000⟩
  obtain ⟨p, hp⟩ := Project.generate_zones (some start) start
  have htold : start.Told := ⟨by decide, by decide, by decide, by decide⟩
  have hstart : start.Valid := ⟨by decide, by decide⟩
  have hfirst : start.HasPlainYear := ⟨by decide, by decide⟩
  have hlast : start.addSeconds? ((Schema.ofDiagram .zones).tables.length - 1) =
      some ⟨730485, 0, 500000000⟩ := by decide
  have hlastYear : Timestamp.HasPlainYear ⟨730485, 0, 500000000⟩ := ⟨by decide, by decide⟩
  obtain ⟨c, hc, hfiles, -, hpaths, hnames⟩ :=
    migration_names_ascend_iff hp rfl htold hfirst hlast hlastYear
  have hbehind : Settings.stepsBehind { timestamp := some start } = [] := by decide
  exact ⟨p, c, start, _, hp, htold, hfirst, by decide, hlast, hlastYear, by decide, hc, hfiles,
    hpaths.mpr (Or.inl hstart), hnames.mpr (Or.inr ⟨hbehind, Or.inl hstart⟩)⟩

/-- What is read off the migrations of a context is read off those of its project. -/
theorem Project.map_migrations {α : Type} {f : OutputFile → α} {xs : List α}
    (hp : generate settings now s = .ok p)
    (h : (Context.ofSchema settings now s).map (fun c ↦ c.migrationOutputs.map f) = .ok xs) :
    (p.filesOf .migration).map f = xs := by
  obtain ⟨-, -, c, hc, rfl⟩ := generate_eq_ok.mp hp
  rw [hc] at h
  rw [Context.migrations_project]
  exact Except.ok.inj h

/-- Zones are named behind the accounts that refer to them if the zone is created in a leap second
that no clock shows; and an extension that leads on gives both migrations one file name. -/
theorem zone_not_named_before_account :
    (∃ p start last, Project.generate { timestamp := some start } start (Schema.ofDiagram .zones) =
        .ok p ∧ start.Told ∧ start.HasPlainYear ∧
      start.addSeconds? ((Schema.ofDiagram .zones).tables.length - 1) = some last ∧
      last.HasPlainYear ∧
      (p.filesOf .migration).map OutputFile.path =
        ["1999_12_31_000031_create_zone_table.php", "1999_12_31_000031_create_account_table.php"] ∧
      bytes "1999_12_31_000031_create_account_table.php" <
        bytes "1999_12_31_000031_create_zone_table.php") ∧
    ∃ p start last, Project.generate { timestamp := some start, extension := "php/txt" } start
        (Schema.ofDiagram .zones) = .ok p ∧ start.Told ∧ start.Valid ∧ start.HasPlainYear ∧
      start.addSeconds? ((Schema.ofDiagram .zones).tables.length - 1) = some last ∧
      last.HasPlainYear ∧ (p.filesOf .migration).map OutputFile.fileName = ["txt", "txt"] := by
  have horder : dependencyOrder (Schema.ofDiagram .zones).tables
      (Schema.ofDiagram .zones).associations = .ok [1, 0] := by decide
  constructor
  · let start : Timestamp := ⟨730484, 30, 1500000000⟩
    obtain ⟨p, hp⟩ := Project.generate_zones (some start) start
    have hlast : start.addSeconds? ((Schema.ofDiagram .zones).tables.length - 1) =
        some ⟨730484, 31, 500000000⟩ := by decide
    have hpaths : (Context.ofSchema { timestamp := some start } start
        (Schema.ofDiagram .zones)).map (fun c ↦ c.migrationOutputs.map OutputFile.path) =
        .ok ["1999_12_31_000031_create_zone_table.php",
          "1999_12_31_000031_create_account_table.php"] := by decide
    have hless : bytes ("1999_12_31_000031_create_" ++ "account_table.php") <
        bytes ("1999_12_31_000031_create_" ++ "zone_table.php") := by
      rw [bytes_append, bytes_append, append_lt_append_left_iff]
      decide
    exact ⟨p, start, _, hp, ⟨by decide, by decide, by decide, by decide⟩,
      ⟨by decide, by decide⟩, hlast, ⟨by decide, by decide⟩, Project.map_migrations hp hpaths,
      hless⟩
  · let start : Timestamp := ⟨730484, 30, 0⟩
    let settings : Settings := { timestamp := some start, extension := "php/txt" }
    obtain ⟨p, hp⟩ : ∃ p, Project.generate settings start (Schema.ofDiagram .zones) = .ok p :=
      Project.exists_generate (by decide) (by decide) horder
    have hlast : start.addSeconds? ((Schema.ofDiagram .zones).tables.length - 1) =
        some ⟨730484, 31, 0⟩ := by decide
    have hnames : (Context.ofSchema settings start (Schema.ofDiagram .zones)).map
        (fun c ↦ c.migrationOutputs.map OutputFile.fileName) = .ok ["txt", "txt"] := by decide
    exact ⟨p, start, _, hp, ⟨by decide, by decide, by decide, by decide⟩,
      ⟨by decide, by decide⟩, ⟨by decide, by decide⟩, hlast, ⟨by decide, by decide⟩,
      Project.map_migrations hp hnames⟩

end DiagramMigrations
