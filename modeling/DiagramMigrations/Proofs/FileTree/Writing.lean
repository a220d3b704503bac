import DiagramMigrations.Proofs.Compilation
import DiagramMigrations.Proofs.FileTree.Walk
import DiagramMigrations.Proofs.Path

/-!
What writing does to a tree of files. To create directories only adds them where nothing was, and to
write a file changes no place but the one its path leads to. After a row of files, every place that
a path of theirs leads to holds the last of those that lead there, and no other file is touched.
-/

set_option autoImplicit false
set_option relaxedAutoImplicit false

namespace DiagramMigrations

namespace FileTree

variable {t u v : FileTree} {here place : Location} {path text : String}

/-! ### Directories -/

/-- Whether there is at a place what was there before, or a directory where there was nothing. -/
def Grows (before after : Option Entry) : Prop :=
  after = before ∨ before = none ∧ after = some .directory

theorem Grows.refl (entry : Option Entry) : Grows entry entry := Or.inl rfl

theorem Grows.trans {x y z : Option Entry} (hxy : Grows x y) (hyz : Grows y z) : Grows x z := by
  rcases hyz with rfl | ⟨rfl, rfl⟩
  · exact hxy
  · rcases hxy with rfl | ⟨rfl, h⟩
    · exact Or.inr ⟨rfl, rfl⟩
    · cases h

theorem Grows.eq_directory {after : Option Entry} (h : Grows (some .directory) after) :
    after = some .directory := by
  rcases h with rfl | ⟨h, -⟩
  · rfl
  · cases h

theorem Grows.eq_file {after : Option Entry} (h : Grows (some (.file text)) after) :
    after = some (.file text) := by
  rcases h with rfl | ⟨h, -⟩
  · rfl
  · cases h

/-- Whether a tree differs from another one only by directories where there was nothing. -/
structure AddsDirectories (t u : FileTree) : Prop where
  current : u.current = t.current
  entries : ∀ here, Grows (t.entry? here) (u.entry? here)

theorem AddsDirectories.refl (t : FileTree) : AddsDirectories t t := ⟨rfl, fun _ ↦ .refl _⟩

theorem AddsDirectories.trans (htu : AddsDirectories t u) (huv : AddsDirectories u v) :
    AddsDirectories t v :=
  ⟨huv.current.trans htu.current, fun here ↦ (htu.entries here).trans (huv.entries here)⟩

theorem makeDirectory_adds (h : t.makeDirectory path = .ok u) : AddsDirectories t u := by
  obtain ⟨⟨here, name⟩, -, h⟩ := bind_eq_ok.mp h
  obtain ⟨-, h⟩ := unless_throw_eq_ok.mp h
  obtain ⟨place, hplace, h⟩ := bind_eq_ok.mp h
  obtain ⟨hfree, h⟩ := unless_throw_eq_ok.mp h
  obtain rfl : t.put place .directory = u := Except.ok.inj h
  obtain ⟨-, rfl⟩ := child_eq_ok.mp hplace
  refine ⟨rfl, fun other ↦ ?_⟩
  by_cases hother : other = name :: here
  · rw [hother, entry?_put_self (List.cons_ne_nil _ _)]
    exact Or.inr ⟨by simpa using hfree, rfl⟩
  · exact Or.inl (entry?_put_of_ne hother _)

theorem unlessDirectory_snd (error : FileError) : (t.unlessDirectory path error).2 = t := by
  unfold unlessDirectory
  split_ifs <;> rfl

/-- Directories that were created stay, whether or not the last one could be. -/
theorem makeLineage_adds (paths : List String) (t : FileTree) :
    AddsDirectories t (t.makeLineage paths).2 := by
  induction paths generalizing t with
  | nil => exact .refl t
  | cons path above ih =>
    have habove := ih t
    unfold makeLineage
    cases hmake : t.makeDirectory path with
    | ok u => exact makeDirectory_adds hmake
    | error error =>
      cases error with
      | notFound =>
        rcases hlineage : t.makeLineage above with ⟨failure | ⟨⟩, u⟩
        · rwa [hlineage] at habove
        · rw [hlineage] at habove
          dsimp only
          cases hagain : u.makeDirectory path with
          | ok v => exact habove.trans (makeDirectory_adds hagain)
          | error error => exact habove.trans (unlessDirectory_snd error ▸ .refl u)
      | _ => exact unlessDirectory_snd _ ▸ .refl t

theorem makeParents_adds (path : String) (t : FileTree) :
    AddsDirectories t ((makeParents disk path).run t).2 := by
  unfold makeParents
  cases Path.parent? path with
  | none => exact .refl t
  | some parent => exact makeLineage_adds (Path.ancestors parent) t

/-! ### Files -/

/-- Whether a tree differs from another one by a text at a place where there is no directory, and
otherwise only by directories where there was nothing. -/
structure PutsFile (t u : FileTree) (here : Location) (text : String) : Prop where
  current : u.current = t.current
  text : u.entry? here = some (.file text)
  noDirectory : t.entry? here ≠ some .directory
  others : ∀ other, other ≠ here → Grows (t.entry? other) (u.entry? other)

theorem PutsFile.keeps (h : PutsFile t u here text) : Keeps t u := by
  refine ⟨h.current, fun other hother ↦ ?_⟩
  have hne : other ≠ here := fun heq ↦ h.noDirectory (heq ▸ hother)
  exact (hother ▸ h.others other hne).eq_directory

theorem AddsDirectories.puts (h : AddsDirectories t u) (hputs : PutsFile u v here text) :
    PutsFile t v here text where
  current := hputs.current.trans h.current
  text := hputs.text
  noDirectory hdirectory := hputs.noDirectory (hdirectory ▸ h.entries here).eq_directory
  others other hother := (h.entries other).trans (hputs.others other hother)

theorem ne_empty_of_start (h : t.start path = .ok here) : path ≠ "" := by
  rintro rfl
  simp [start] at h

theorem dropSlashes_concat {above : List String} {last : String} (hlast : last ≠ "") :
    dropSlashes (above ++ [last]) = above ++ [last] := by
  rw [dropSlashes, List.reverse_append, List.reverse_singleton, List.singleton_append,
    List.dropWhile_cons_of_neg (by simpa using hlast), List.reverse_cons, List.reverse_reverse]

/-- A file is written where its path leads, in a directory that is there. -/
theorem write_puts (h : t.write path text = .ok u) :
    ∃ here, u.follow path = .ok here ∧ PutsFile t u here text := by
  obtain ⟨⟨here, name⟩, htarget, h⟩ := bind_eq_ok.mp h
  obtain ⟨hname, h⟩ := unless_throw_eq_ok.mp h
  obtain ⟨place, hplace, h⟩ := bind_eq_ok.mp h
  obtain ⟨hfree, h⟩ := unless_throw_eq_ok.mp h
  obtain rfl : t.put place (.file text) = u := Except.ok.inj h
  obtain ⟨source, hstart, htarget⟩ := bind_eq_ok.mp htarget
  obtain ⟨directory, hwalk, htarget⟩ := bind_eq_ok.mp htarget
  obtain ⟨⟨⟩, henter, htarget⟩ := bind_eq_ok.mp htarget
  obtain ⟨rfl, hlastName⟩ := Prod.mk.inj (Except.ok.inj htarget)
  simp only [Bool.or_eq_true, not_or, Bool.not_eq_true', Bool.not_eq_false,
    decide_eq_true_eq] at hname
  obtain ⟨hisName, hslash⟩ := hname
  obtain ⟨above, last, hlast, hparts⟩ := Path.exists_parts_concat (ne_empty_of_start hstart) hslash
  rw [hparts, dropSlashes_concat hlast] at hwalk hlastName
  rw [List.dropLast_concat] at hwalk
  obtain rfl : last = name := by simpa using hlastName
  obtain ⟨hlength, rfl⟩ := child_eq_ok.mp hplace
  have hnames : last ≠ "." ∧ last ≠ ".." := by simpa [isName] using hisName
  have hidle : Path.isIdle last = false := by simp [Path.isIdle, hlast, hnames.1]
  have hwalks : t.Walks source (Path.parts path) (last :: directory) := by
    rw [hparts]
    exact (walk_eq_ok.mp hwalk).append
      (.down (enter_eq_ok.mp henter) hidle hnames.2 hlength (.arrived _))
  have hputs : PutsFile t (t.put (last :: directory) (.file text)) (last :: directory) text :=
    ⟨rfl, entry?_put_self (List.cons_ne_nil _ _) _, hfree,
      fun other hother ↦ Or.inl (entry?_put_of_ne hother _)⟩
  exact ⟨_, hputs.keeps.follow_eq (follow_eq_ok.mpr ⟨source, hstart, hwalks⟩), hputs⟩

theorem run_write_of_ok (h : t.write path text = .ok u) :
    (disk.write path text).run t = (.ok (), u) := by
  simp only [disk, StateT.run, h]

theorem run_write_of_error {error : FileError} (h : t.write path text = .error error) :
    (disk.write path text).run t = (.error error, t) := by
  simp only [disk, StateT.run, h]

/-! ### Places below a base -/

variable {source there : Location} {base first second : String}

theorem eq_of_start (h : t.start path = .ok source) :
    source = if Path.isAbsolute path then [] else t.current := by
  unfold start at h
  split_ifs at h ⊢ <;> exact (Except.ok.inj h).symm

/-- Relative paths that do not turn back lead to one place below a base exactly if their steps are
the same. -/
theorem follow_join_eq_iff (hfirst : Path.isAbsolute first = false)
    (hsecond : Path.isAbsolute second = false) (hforward : ".." ∉ Path.parts first)
    (hforward' : ".." ∉ Path.parts second) (hhere : t.follow (Path.join base first) = .ok here)
    (hthere : t.follow (Path.join base second) = .ok there) :
    here = there ↔ Path.steps first = Path.steps second := by
  obtain ⟨above, -, hparts⟩ := Path.exists_parts_join base
  obtain ⟨source, hstart, hwalks⟩ := follow_eq_ok.mp hhere
  obtain ⟨source', hstart', hwalks'⟩ := follow_eq_ok.mp hthere
  have hsame : source' = source := by
    rw [eq_of_start hstart, eq_of_start hstart', Path.isAbsolute_join hfirst,
      Path.isAbsolute_join hsecond]
  rw [hparts first hfirst] at hwalks
  rw [hparts second hsecond, hsame] at hwalks'
  obtain ⟨mid, habove, hbelow⟩ := exists_walks_of_append hwalks
  obtain ⟨mid', habove', hbelow'⟩ := exists_walks_of_append hwalks'
  rw [hbelow.eq_of_forward hforward, hbelow'.eq_of_forward hforward',
    habove.unique habove', List.append_left_inj, List.reverse_inj]
  rfl

end FileTree

open FileTree

variable {base : String} {t u v : FileTree} {here : Location} {f g : OutputFile}
  {files : List OutputFile}

/-- Where the directories above a file are there, the file itself is written. -/
theorem OutputFile.run_write {w : FileTree}
    (h : (makeParents FileTree.disk (f.pathIn base)).run t = (.ok (), w)) :
    (f.write FileTree.disk base).run t =
      Prod.map (Except.mapError (.unwritableFile (f.pathIn base))) id
        ((FileTree.disk.write (f.pathIn base) f.content).run w) := by
  rw [OutputFile.write, StateT.run_bind, h]
  rfl

/-- A file that is written below a base is put where its path leads. -/
theorem OutputFile.puts_of_write (h : (f.write FileTree.disk base).run t = (.ok (), u)) :
    ∃ here, u.follow (f.pathIn base) = .ok here ∧ PutsFile t u here f.content := by
  have hadds := makeParents_adds (f.pathIn base) t
  rcases hparents : (makeParents FileTree.disk (f.pathIn base)).run t with ⟨failure | ⟨⟩, w⟩
  · rw [OutputFile.write, StateT.run_bind, hparents] at h
    cases h
  · rw [hparents] at hadds
    rw [OutputFile.run_write hparents] at h
    cases hwrite : w.write (f.pathIn base) f.content with
    | error error =>
      rw [run_write_of_error hwrite] at h
      cases h
    | ok x =>
      rw [run_write_of_ok hwrite] at h
      obtain rfl : x = u := (Prod.mk.inj h).2
      obtain ⟨here, hfollow, hputs⟩ := write_puts hwrite
      exact ⟨here, hfollow, hadds.puts hputs⟩

/-! ### Rows of files -/

namespace FileTree

/-- The last of a row of files whose path leads to a place. -/
def lastAt (v : FileTree) (base : String) (files : List OutputFile) (here : Location) :
    Option OutputFile :=
  (files.filter fun f ↦ v.follow (f.pathIn base) = .ok here).getLast?

theorem lastAt_cons (f : OutputFile) (rest : List OutputFile) :
    v.lastAt base (f :: rest) here = (v.lastAt base rest here).or
      (if v.follow (f.pathIn base) = .ok here then some f else none) := by
  unfold lastAt
  by_cases hhere : v.follow (f.pathIn base) = .ok here
  · rw [List.filter_cons_of_pos (by simpa using hhere), if_pos hhere, List.getLast?_cons]
    cases (rest.filter fun f ↦ v.follow (f.pathIn base) = .ok here).getLast? <;> rfl
  · rw [List.filter_cons_of_neg (by simpa using hhere), if_neg hhere, Option.or_none]

/-- Whether a tree is what a row of files makes of another one: the path of each of them leads to a
place, every such place holds the last that leads there, and everywhere else there are at most new
directories. -/
structure HoldsFiles (t v : FileTree) (base : String) (files : List OutputFile) : Prop where
  leads : ∀ f ∈ files, ∃ here, v.follow (f.pathIn base) = .ok here
  last : ∀ here f, v.lastAt base files here = some f → v.entry? here = some (.file f.content)
  others : ∀ here, v.lastAt base files here = none → Grows (t.entry? here) (v.entry? here)

end FileTree

theorem Written.keeps (h : Written base t files v) : Keeps t v := by
  induction h with
  | nil t => exact .refl t
  | cons hf _ ih =>
    obtain ⟨here, -, hputs⟩ := OutputFile.puts_of_write hf
    exact hputs.keeps.trans ih

/-- Each file is put where its path leads, before those that follow are. -/
theorem Written.holdsFiles (h : Written base t files v) : HoldsFiles t v base files := by
  induction h with
  | nil t => exact ⟨by simp, by simp [lastAt], fun here _ ↦ .refl _⟩
  | @cons t u v f rest hf hrest ih =>
    obtain ⟨place, hfollow, hputs⟩ := OutputFile.puts_of_write hf
    have hplace : v.follow (f.pathIn base) = .ok place := hrest.keeps.follow_eq hfollow
    refine ⟨?_, fun here g hlast ↦ ?_, fun here hlast ↦ ?_⟩
    · intro g hg
      rcases List.mem_cons.mp hg with rfl | hg
      · exact ⟨place, hplace⟩
      · exact ih.leads g hg
    · rw [lastAt_cons] at hlast
      cases hrestLast : v.lastAt base rest here with
      | some later =>
        rw [hrestLast, Option.some_or] at hlast
        exact Option.some.inj hlast ▸ ih.last here later hrestLast
      | none =>
        rw [hrestLast, Option.none_or] at hlast
        split_ifs at hlast with hhere
        obtain rfl : f = g := Option.some.inj hlast
        obtain rfl : place = here := Except.ok.inj (hplace.symm.trans hhere)
        exact (hputs.text ▸ ih.others place hrestLast).eq_file
    · rw [lastAt_cons, Option.or_eq_none_iff] at hlast
      obtain ⟨hrestLast, hfirst⟩ := hlast
      split_ifs at hfirst with hhere
      have hne : here ≠ place := fun heq ↦ hhere (heq ▸ hplace)
      exact (hputs.others here hne).trans (ih.others here hrestLast)

/-- At the path of each file stands the last file that leads to its place. -/
theorem FileTree.HoldsFiles.exists_last (h : HoldsFiles t v base files) (hf : f ∈ files) :
    ∃ here last, v.follow (f.pathIn base) = .ok here ∧ v.lastAt base files here = some last ∧
      v.read (f.pathIn base) = .ok last.content := by
  obtain ⟨here, hfollow⟩ := h.leads f hf
  have hsome : (files.filter fun f ↦ v.follow (f.pathIn base) = .ok here) ≠ [] :=
    List.ne_nil_of_mem (List.mem_filter.mpr ⟨hf, decide_eq_true hfollow⟩)
  have hlast : v.lastAt base files here = some (List.getLast _ hsome) :=
    List.getLast?_eq_some_getLast hsome
  exact ⟨here, _, hfollow, hlast, read_of_follow hfollow (h.last here _ hlast)⟩

end DiagramMigrations
