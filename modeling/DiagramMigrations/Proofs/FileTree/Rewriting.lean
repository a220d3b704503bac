import DiagramMigrations.Proofs.FileTree.Writing
import DiagramMigrations.Proofs.Project.OutputPaths
import Mathlib.Data.List.DropRight

/-!
Files that are written once more. A directory that is there is not created again, and a file that
has been written can be written again, because neither is ever removed. A row of files that is
written to the tree it has left therefore changes no directory and no other file, and each place of
theirs holds the last of those that lead there as before.
-/

set_option autoImplicit false
set_option relaxedAutoImplicit false

namespace DiagramMigrations

namespace FileTree

variable {t u v : FileTree} {here mid source directory : Location} {path name text : String}

/-! ### Paths of directories -/

theorem find_eq_ok {entry : Entry} :
    t.find path = .ok entry ↔ ∃ here, t.follow path = .ok here ∧ t.entry? here = some entry := by
  constructor
  · intro h
    obtain ⟨source, hstart, h⟩ := bind_eq_ok.mp h
    obtain ⟨here, hwalk, h⟩ := bind_eq_ok.mp h
    refine ⟨here, bind_eq_ok.mpr ⟨source, hstart, hwalk⟩, ?_⟩
    cases hhere : t.entry? here with
    | none =>
      rw [hhere] at h
      cases h
    | some found =>
      rw [hhere] at h
      exact congrArg some (Except.ok.inj h)
  · rintro ⟨here, hfollow, hhere⟩
    obtain ⟨source, hstart, hwalk⟩ := bind_eq_ok.mp hfollow
    exact bind_eq_ok.mpr ⟨source, hstart, bind_eq_ok.mpr ⟨here, hwalk, by rw [hhere]; rfl⟩⟩

theorem isDirectory_iff : t.isDirectory path = true ↔
    ∃ here, t.follow path = .ok here ∧ t.entry? here = some .directory := by
  rw [← find_eq_ok, isDirectory]
  cases t.find path with
  | error error => simp
  | ok entry => cases entry <;> simp

theorem Keeps.isDirectory (h : Keeps t u) (hpath : t.isDirectory path = true) :
    u.isDirectory path = true := by
  obtain ⟨here, hfollow, hentry⟩ := isDirectory_iff.mp hpath
  exact isDirectory_iff.mpr ⟨here, h.follow_eq hfollow, h.directories here hentry⟩

theorem AddsDirectories.keeps (h : AddsDirectories t u) : Keeps t u :=
  ⟨h.current, fun here hhere ↦ (hhere ▸ h.entries here).eq_directory⟩

/-- The parts of a path are those up to its last slashes, and the empty ones behind. -/
theorem exists_slashes (parts : List String) :
    ∃ slashes, parts = dropSlashes parts ++ slashes ∧ ∀ part ∈ slashes, part = "" :=
  ⟨parts.rtakeWhile fun part ↦ part = "", (List.rdropWhile_append_rtakeWhile).symm,
    fun _ hpart ↦ by simpa using List.mem_rtakeWhile_imp hpart⟩

theorem dropSlashes_last_ne {parts above : List String} {last : String}
    (h : dropSlashes parts = above ++ [last]) : last ≠ "" := by
  have hdrop : parts.rdropWhile (fun part ↦ part = "") = above ++ [last] := h
  have hne : parts.rdropWhile (fun part ↦ part = "") ≠ [] := by simp [hdrop]
  have hlast := List.rdropWhile_last_not _ _ hne
  simpa [hdrop] using hlast

theorem walks_slashes {slashes : List String} (hslashes : ∀ part ∈ slashes, part = "")
    (hhere : t.entry? here = some .directory) : t.Walks here slashes here := by
  induction slashes with
  | nil => exact .arrived here
  | cons part rest ih =>
    obtain ⟨rfl, hrest⟩ := List.forall_mem_cons.mp hslashes
    exact .idle hhere rfl (ih hrest)

theorem Walks.eq_of_slashes {slashes : List String} (h : t.Walks here slashes mid)
    (hslashes : ∀ part ∈ slashes, part = "") : mid = here := by
  have hforward : ".." ∉ slashes := fun hup ↦ absurd (hslashes _ hup) (by decide)
  have hidle : (slashes.filter fun part ↦ !Path.isIdle part) = [] := by
    refine List.filter_eq_nil_iff.mpr fun part hpart ↦ ?_
    rw [hslashes part hpart]
    decide
  rw [h.eq_of_forward hforward, hidle]
  rfl

theorem target_eq_ok : t.target path = .ok (directory, name) ↔
    ∃ source, t.start path = .ok source ∧
      t.Walks source (dropSlashes (Path.parts path)).dropLast directory ∧
      t.entry? directory = some .directory ∧
      (dropSlashes (Path.parts path)).getLastD "." = name := by
  constructor
  · intro h
    obtain ⟨source, hstart, h⟩ := bind_eq_ok.mp h
    obtain ⟨mid, hwalk, h⟩ := bind_eq_ok.mp h
    obtain ⟨⟨⟩, henter, h⟩ := bind_eq_ok.mp h
    obtain ⟨rfl, hname⟩ := Prod.mk.inj (Except.ok.inj h)
    exact ⟨source, hstart, walk_eq_ok.mp hwalk, enter_eq_ok.mp henter, hname⟩
  · rintro ⟨source, hstart, hwalks, hdirectory, rfl⟩
    exact bind_eq_ok.mpr ⟨source, hstart, bind_eq_ok.mpr ⟨directory, hwalks.walk_eq,
      bind_eq_ok.mpr ⟨(), enter_eq_ok.mpr hdirectory, rfl⟩⟩⟩

theorem Keeps.target (h : Keeps t u) (htarget : t.target path = .ok (directory, name)) :
    u.target path = .ok (directory, name) := by
  obtain ⟨source, hstart, hwalks, hdirectory, hname⟩ := target_eq_ok.mp htarget
  exact target_eq_ok.mpr ⟨source, h.start_eq path ▸ hstart, hwalks.mono h.directories,
    h.directories _ hdirectory, hname⟩

/-! ### Creating directories again -/

theorem isDirectory_of_makeDirectory (h : t.makeDirectory path = .ok u) :
    u.isDirectory path = true := by
  have hkeeps := (makeDirectory_adds h).keeps
  obtain ⟨⟨directory, name⟩, htarget, h⟩ := bind_eq_ok.mp h
  obtain ⟨hname, h⟩ := unless_throw_eq_ok.mp h
  obtain ⟨place, hplace, h⟩ := bind_eq_ok.mp h
  obtain ⟨-, h⟩ := unless_throw_eq_ok.mp h
  obtain rfl : t.put place .directory = u := Except.ok.inj h
  obtain ⟨hlength, rfl⟩ := child_eq_ok.mp hplace
  obtain ⟨source, hstart, hwalks, hdirectory, hlast⟩ := target_eq_ok.mp (hkeeps.target htarget)
  obtain ⟨hpoint, hup⟩ : name ≠ "." ∧ name ≠ ".." := by simpa [isName] using hname
  obtain ⟨slashes, hparts, hslashes⟩ := exists_slashes (Path.parts path)
  rcases List.eq_nil_or_concat (dropSlashes (Path.parts path)) with hnil | ⟨above, last, hconcat⟩
  · rw [hnil] at hlast
    exact absurd hlast.symm hpoint
  · rw [List.concat_eq_append] at hconcat
    obtain rfl : last = name := by simpa [hconcat] using hlast
    have hidle : Path.isIdle last = false := by
      simp [Path.isIdle, dropSlashes_last_ne hconcat, hpoint]
    rw [hconcat, List.dropLast_concat] at hwalks
    have hhere : entry? (t.put (last :: directory) .directory) (last :: directory) =
        some .directory := entry?_put_self (List.cons_ne_nil _ _) _
    refine isDirectory_iff.mpr ⟨_, follow_eq_ok.mpr ⟨source, hstart, ?_⟩, hhere⟩
    rw [hparts, hconcat]
    exact (hwalks.append (.down hdirectory hidle hup hlength (.arrived _))).append
      (walks_slashes hslashes hhere)

/-- A directory that is there is not created, and that is said. -/
theorem makeDirectory_of_isDirectory (h : t.isDirectory path = true) :
    t.makeDirectory path = .error .alreadyExists := by
  obtain ⟨here, hfollow, hhere⟩ := isDirectory_iff.mp h
  obtain ⟨source, hstart, hwalks⟩ := follow_eq_ok.mp hfollow
  obtain ⟨slashes, hparts, hslashes⟩ := exists_slashes (Path.parts path)
  rw [hparts] at hwalks
  obtain ⟨mid, hmid, hrest⟩ := exists_walks_of_append hwalks
  obtain rfl := hrest.eq_of_slashes hslashes
  have hrefuse {directory : Location} (name : String)
      (htarget : t.target path = .ok (directory, name))
      (hname : isName name = true → child directory name = .ok here) :
      t.makeDirectory path = .error .alreadyExists := by
    simp only [makeDirectory, htarget, bind, Except.bind]
    by_cases hisName : isName name = true
    · simp [hisName, hname hisName, hhere, throw, throwThe, MonadExceptOf.throw]
    · simp [hisName, throw, throwThe, MonadExceptOf.throw]
  rcases List.eq_nil_or_concat (dropSlashes (Path.parts path)) with hnil | ⟨above, last, hconcat⟩
  · rw [hnil] at hmid
    cases hmid
    exact hrefuse "." (target_eq_ok.mpr ⟨here, hstart, by rw [hnil]; exact .arrived _,
      hhere, by rw [hnil]; rfl⟩) (by simp [isName])
  · rw [List.concat_eq_append] at hconcat
    rw [hconcat] at hmid
    obtain ⟨directory, habove, hlast⟩ := exists_walks_of_append hmid
    have htarget (hdirectory : t.entry? directory = some .directory) :
        t.target path = .ok (directory, last) :=
      target_eq_ok.mpr ⟨source, hstart, by rwa [hconcat, List.dropLast_concat], hdirectory,
        by simp [hconcat]⟩
    cases hlast with
    | idle hdirectory hidle =>
      have hpoint : last = "." := by
        simpa [Path.isIdle, dropSlashes_last_ne hconcat] using hidle
      exact hrefuse last (htarget hdirectory) (by simp [hpoint, isName])
    | up hdirectory => exact hrefuse _ (htarget hdirectory) (by simp [isName])
    | down hdirectory _ _ hlength hrest =>
      cases hrest
      exact hrefuse last (htarget hdirectory) fun _ ↦ child_eq_ok.mpr ⟨hlength, rfl⟩

theorem isDirectory_of_unlessDirectory {error : FileError}
    (h : t.unlessDirectory path error = (.ok (), u)) : u.isDirectory path = true := by
  unfold unlessDirectory at h
  split_ifs at h with hdirectory
  · obtain rfl : t = u := (Prod.mk.inj h).2
    exact hdirectory
  · cases (Prod.mk.inj h).1

theorem isDirectory_of_makeLineage {above : List String}
    (h : t.makeLineage (path :: above) = (.ok (), u)) : u.isDirectory path = true := by
  unfold makeLineage at h
  cases hmake : t.makeDirectory path with
  | ok w =>
    rw [hmake] at h
    obtain rfl : w = u := (Prod.mk.inj h).2
    exact isDirectory_of_makeDirectory hmake
  | error error =>
    rw [hmake] at h
    cases error with
    | notFound =>
      rcases hlineage : t.makeLineage above with ⟨failure | ⟨⟩, w⟩
      · rw [hlineage] at h
        cases (Prod.mk.inj h).1
      · rw [hlineage] at h
        dsimp only at h
        cases hagain : w.makeDirectory path with
        | ok x =>
          rw [hagain] at h
          obtain rfl : x = u := (Prod.mk.inj h).2
          exact isDirectory_of_makeDirectory hagain
        | error error =>
          rw [hagain] at h
          exact isDirectory_of_unlessDirectory h
    | _ => exact isDirectory_of_unlessDirectory h

theorem ancestors_eq_cons (hpath : path ≠ "") : ∃ above, Path.ancestors path = path :: above := by
  have hlength : path.length ≠ 0 := by simpa using hpath
  obtain ⟨n, hn⟩ := Nat.exists_eq_succ_of_ne_zero hlength
  exact ⟨_, by rw [Path.ancestors, hn, Path.lineage, if_neg hpath]⟩

/-- Whether the directory above a path is there, unless it is the one that paths start from. -/
def HasParent (t : FileTree) (path : String) : Prop :=
  ∀ parent, Path.parent? path = some parent → parent ≠ "" → t.isDirectory parent = true

theorem hasParent_of_makeParents (h : (makeParents disk path).run t = (.ok (), u)) :
    u.HasParent path := by
  intro parent hparent hne
  obtain ⟨above, habove⟩ := ancestors_eq_cons hne
  unfold makeParents at h
  rw [hparent] at h
  rcases hmake : t.makeLineage (parent :: above) with ⟨result, w⟩
  have hrun : (Except.mapError (Failure.noDirectory parent) result, w) = (.ok (), u) := by
    have hdirectories : (disk.makeDirectories parent).run t = (result, w) := by
      rw [← hmake, ← habove]
      rfl
    dsimp only at h
    rw [StateT.run_bind, hdirectories] at h
    exact h
  obtain ⟨hresult, rfl⟩ := Prod.mk.inj hrun
  rw [mapError_eq_ok.mp hresult] at hmake
  exact isDirectory_of_makeLineage hmake

theorem HasParent.makeParents_run (h : t.HasParent path) :
    (makeParents disk path).run t = (.ok (), t) := by
  unfold makeParents
  cases hparent : Path.parent? path with
  | none => rfl
  | some parent =>
    have hlineage : t.makeLineage (Path.ancestors parent) = (.ok (), t) := by
      by_cases hne : parent = ""
      · subst hne
        rfl
      · obtain ⟨above, habove⟩ := ancestors_eq_cons hne
        have hdirectory := h parent hparent hne
        rw [habove, makeLineage, makeDirectory_of_isDirectory hdirectory]
        exact if_pos hdirectory
    have hmake : (disk.makeDirectories parent).run t = (.ok (), t) := hlineage
    dsimp only
    rw [StateT.run_bind, hmake]
    rfl

theorem Keeps.hasParent (h : Keeps t u) (hparent : t.HasParent path) : u.HasParent path :=
  fun parent hp hne ↦ h.isDirectory (hparent parent hp hne)

/-! ### Writing a file again -/

/-- Whether a path is that of a file at a place: it ends in the name of the place, and leads to the
directory above. -/
def Names (t : FileTree) (path : String) (here : Location) : Prop :=
  ∃ directory name, t.target path = .ok (directory, name) ∧ isName name = true ∧
    path.toList.getLast? ≠ some '/' ∧ child directory name = .ok here

theorem Keeps.names (h : Keeps t u) (hnames : t.Names path here) : u.Names path here := by
  obtain ⟨directory, name, htarget, hname⟩ := hnames
  exact ⟨directory, name, h.target htarget, hname⟩

theorem Names.ne_nil (h : t.Names path here) : here ≠ [] := by
  obtain ⟨directory, name, -, -, -, hchild⟩ := h
  obtain ⟨-, rfl⟩ := child_eq_ok.mp hchild
  exact List.cons_ne_nil _ _

theorem write_eq_ok : t.write path text = .ok u ↔
    ∃ here, t.Names path here ∧ t.entry? here ≠ some .directory ∧
      t.put here (.file text) = u := by
  constructor
  · intro h
    obtain ⟨⟨directory, name⟩, htarget, h⟩ := bind_eq_ok.mp h
    obtain ⟨hname, h⟩ := unless_throw_eq_ok.mp h
    obtain ⟨here, hchild, h⟩ := bind_eq_ok.mp h
    obtain ⟨hfree, h⟩ := unless_throw_eq_ok.mp h
    simp only [Bool.or_eq_true, not_or, Bool.not_eq_true', Bool.not_eq_false,
      decide_eq_true_eq] at hname
    exact ⟨here, ⟨directory, name, htarget, hname.1, hname.2, hchild⟩, hfree, Except.ok.inj h⟩
  · rintro ⟨here, ⟨directory, name, htarget, hisName, hslash, hchild⟩, hfree, hput⟩
    refine bind_eq_ok.mpr ⟨(directory, name), htarget, unless_throw_eq_ok.mpr ⟨?_,
      bind_eq_ok.mpr ⟨here, hchild, unless_throw_eq_ok.mpr ⟨hfree, congrArg Except.ok hput⟩⟩⟩⟩
    simp [hisName, hslash]

/-- Whether two trees have directories and files at the same places. The texts may differ. -/
structure Alike (t u : FileTree) : Prop where
  current : u.current = t.current
  free : ∀ here, t.entry? here = none ↔ u.entry? here = none
  directories : ∀ here, t.entry? here = some .directory ↔ u.entry? here = some .directory

theorem Alike.refl (t : FileTree) : Alike t t := ⟨rfl, fun _ ↦ Iff.rfl, fun _ ↦ Iff.rfl⟩

theorem Alike.trans (htu : Alike t u) (huv : Alike u v) : Alike t v where
  current := huv.current.trans htu.current
  free here := (htu.free here).trans (huv.free here)
  directories here := (htu.directories here).trans (huv.directories here)

theorem Alike.keeps (h : Alike t u) : Keeps t u := ⟨h.current, fun here ↦ (h.directories here).mp⟩

theorem Alike.exists_file (h : Alike t u) (hhere : t.entry? here = some (.file text)) :
    ∃ other, u.entry? here = some (.file other) := by
  have hfree := h.free here
  have hdirectory := h.directories here
  rw [hhere] at hfree hdirectory
  cases hentry : u.entry? here with
  | none => simp [hentry] at hfree
  | some entry =>
    cases entry with
    | directory => simp [hentry] at hdirectory
    | file other => exact ⟨other, rfl⟩

/-- A file that is given another text changes no directory. -/
theorem alike_put (hne : here ≠ []) (hhere : t.entry? here = some (.file text)) (other : String) :
    Alike t (t.put here (.file other)) := by
  have hput := entry?_put_self (t := t) hne (.file other)
  refine ⟨rfl, fun place ↦ ?_, fun place ↦ ?_⟩ <;> by_cases hplace : place = here
  · rw [hplace, hput, hhere]
    simp
  · rw [entry?_put_of_ne hplace]
  · rw [hplace, hput, hhere]
    simp
  · rw [entry?_put_of_ne hplace]

end FileTree

open FileTree

variable {base : String} {t u v w : FileTree} {here : Location} {f : OutputFile}
  {files : List OutputFile}

/-- Whether a file has been written: the directories above it are there, and where its path leads is
some text. -/
structure OutputFile.IsThere (f : OutputFile) (t : FileTree) (base : String) : Prop where
  parent : t.HasParent (f.pathIn base)
  file : ∃ here text, t.Names (f.pathIn base) here ∧ t.entry? here = some (.file text)

theorem OutputFile.IsThere.mono (h : f.IsThere t base) (hkeeps : Keeps t u)
    (hfiles : ∀ here text, t.entry? here = some (.file text) →
      ∃ other, u.entry? here = some (.file other)) : f.IsThere u base := by
  obtain ⟨here, text, hnames, hhere⟩ := h.file
  obtain ⟨other, hother⟩ := hfiles here text hhere
  exact ⟨hkeeps.hasParent h.parent, here, other, hkeeps.names hnames, hother⟩

theorem OutputFile.isThere_of_write (h : (f.write FileTree.disk base).run t = (.ok (), u)) :
    f.IsThere u base := by
  rcases hparents : (makeParents FileTree.disk (f.pathIn base)).run t with ⟨failure | ⟨⟩, w⟩
  · rw [OutputFile.write, StateT.run_bind, hparents] at h
    cases h
  · rw [OutputFile.run_write hparents] at h
    cases hwrite : w.write (f.pathIn base) f.content with
    | error error =>
      rw [run_write_of_error hwrite] at h
      cases h
    | ok x =>
      rw [run_write_of_ok hwrite] at h
      obtain rfl : x = u := (Prod.mk.inj h).2
      obtain ⟨place, -, hputs⟩ := write_puts hwrite
      obtain ⟨here, hnames, -, rfl⟩ := write_eq_ok.mp hwrite
      exact ⟨hputs.keeps.hasParent (hasParent_of_makeParents hparents), here, f.content,
        hputs.keeps.names hnames, entry?_put_self hnames.ne_nil _⟩

/-- A file that is there can be written again, and no directory changes. -/
theorem OutputFile.IsThere.exists_write (h : f.IsThere t base) :
    ∃ u, (f.write FileTree.disk base).run t = (.ok (), u) ∧ Alike t u := by
  obtain ⟨here, text, hnames, hhere⟩ := h.file
  have hwrite : t.write (f.pathIn base) f.content = .ok (t.put here (.file f.content)) :=
    write_eq_ok.mpr ⟨here, hnames, by simp [hhere], rfl⟩
  refine ⟨_, ?_, alike_put hnames.ne_nil hhere f.content⟩
  rw [OutputFile.run_write h.parent.makeParents_run, run_write_of_ok hwrite]
  rfl

/-! ### Writing rows of files again -/

/-- A file stays a file, whatever is written after it. -/
theorem Written.exists_file {text : String} (h : Written base t files u)
    (hhere : t.entry? here = some (.file text)) : ∃ other, u.entry? here = some (.file other) := by
  cases hlast : u.lastAt base files here with
  | some last => exact ⟨_, h.holdsFiles.last here last hlast⟩
  | none => exact ⟨text, (hhere ▸ h.holdsFiles.others here hlast).eq_file⟩

theorem Written.isThere (h : Written base t files u) : ∀ f ∈ files, f.IsThere u base := by
  induction h with
  | nil => simp
  | cons hf hrest ih =>
    exact List.forall_mem_cons.mpr ⟨(OutputFile.isThere_of_write hf).mono hrest.keeps
      fun _ _ ↦ hrest.exists_file, ih⟩

/-- Files that are there can be written again, one after the other. -/
theorem exists_written_of_isThere (files : List OutputFile)
    (h : ∀ f ∈ files, f.IsThere t base) : ∃ u, Written base t files u ∧ Alike t u := by
  induction files generalizing t with
  | nil => exact ⟨t, .nil t, .refl t⟩
  | cons f rest ih =>
    obtain ⟨hfirst, hothers⟩ := List.forall_mem_cons.mp h
    obtain ⟨u, hwrite, halike⟩ := hfirst.exists_write
    obtain ⟨v, hrest, halike'⟩ := ih fun g hg ↦
      (hothers g hg).mono halike.keeps fun _ _ ↦ halike.exists_file
    exact ⟨v, .cons hwrite hrest, halike.trans halike'⟩

/-- A tree keeps its entries when files that it holds already are written to it once more. -/
theorem Written.entry?_eq_of_again (h : Written base t files u) (hagain : Written base u files v)
    (halike : Alike u v) (here : Location) : v.entry? here = u.entry? here := by
  have hlast : v.lastAt base files here = u.lastAt base files here := by
    refine congrArg List.getLast? (List.filter_congr fun f hf ↦ ?_)
    obtain ⟨there, hfollow⟩ := h.holdsFiles.leads f hf
    rw [hfollow, halike.keeps.follow_eq hfollow]
  cases hfile : u.lastAt base files here with
  | some last =>
    rw [h.holdsFiles.last here last hfile, hagain.holdsFiles.last here last (hlast.trans hfile)]
  | none =>
    rcases hagain.holdsFiles.others here (hlast.trans hfile) with hsame | ⟨hnone, hsome⟩
    · exact hsame
    · exact absurd ((halike.free here).mp hnone) (by simp [hsome])

/-! ### Writing a project -/

/-- Whether a failure is about a file or the directory above it. -/
def Failure.IsAboutFile (failure : Failure) (path : String) : Prop :=
  ∃ error, failure = .unwritableFile path error ∨
    ∃ parent, Path.parent? path = some parent ∧ failure = .noDirectory parent error

/-- A file that cannot be written is named, and there is no new text in the tree. -/
theorem OutputFile.adds_of_not_written {failure : Failure}
    (h : (f.write FileTree.disk base).run t = (.error failure, u)) :
    failure.IsAboutFile (f.pathIn base) ∧ AddsDirectories t u := by
  have hadds := makeParents_adds (f.pathIn base) t
  rcases hparents : (makeParents FileTree.disk (f.pathIn base)).run t with ⟨failure' | ⟨⟩, w⟩
  · rw [hparents] at hadds
    rw [OutputFile.write, StateT.run_bind, hparents] at h
    obtain ⟨hfailure, rfl⟩ := Prod.mk.inj h
    obtain rfl : failure' = failure := Except.error.inj hfailure
    refine ⟨?_, hadds⟩
    unfold makeParents at hparents
    cases hparent : Path.parent? (f.pathIn base) with
    | none =>
      rw [hparent] at hparents
      cases (Prod.mk.inj hparents).1
    | some parent =>
      rw [hparent] at hparents
      dsimp only at hparents
      rcases hmake : (FileTree.disk.makeDirectories parent).run t with ⟨error | ⟨⟩, x⟩
      · rw [StateT.run_bind, hmake] at hparents
        exact ⟨error, Or.inr ⟨parent, hparent, (Except.error.inj (Prod.mk.inj hparents).1).symm⟩⟩
      · rw [StateT.run_bind, hmake] at hparents
        cases (Prod.mk.inj hparents).1
  · rw [hparents] at hadds
    rw [OutputFile.run_write hparents] at h
    cases hwrite : w.write (f.pathIn base) f.content with
    | error error =>
      rw [run_write_of_error hwrite] at h
      obtain ⟨hfailure, rfl⟩ := Prod.mk.inj h
      exact ⟨⟨error, Or.inl (Except.error.inj hfailure).symm⟩, hadds⟩
    | ok x =>
      rw [run_write_of_ok hwrite] at h
      cases (Prod.mk.inj h).1

theorem FileTree.Grows.eq_file_iff {before after : Option Entry} {text : String}
    (h : Grows before after) : after = some (.file text) ↔ before = some (.file text) := by
  rcases h with rfl | ⟨rfl, rfl⟩
  · exact Iff.rfl
  · simp

/-- The files whose paths lead to the place of a file are those whose paths have its steps. -/
theorem FileTree.HoldsFiles.lastAt_eq (h : HoldsFiles t v base files)
    (hpaths : ∀ f ∈ files, Path.isAbsolute f.path = false ∧ ".." ∉ Path.parts f.path)
    (hf : f ∈ files) (hhere : v.follow (f.pathIn base) = .ok here) :
    v.lastAt base files here = (files.filter fun g ↦ g.place = f.place).getLast? := by
  refine congrArg List.getLast? (List.filter_congr fun g hg ↦ ?_)
  obtain ⟨there, hthere⟩ := h.leads g hg
  obtain ⟨hrelative, hforward⟩ := hpaths f hf
  obtain ⟨hrelative', hforward'⟩ := hpaths g hg
  have hsame := follow_join_eq_iff hrelative' hrelative hforward' hforward hthere hhere
  rw [hthere, decide_eq_decide, Except.ok.injEq]
  exact hsame

/-- Files are written in order, as far as that is possible. If all of them are, the path of each
leads to the last one with the same steps, no file that none of them leads to has changed, and to
write them once more leaves everything as it is. Otherwise the first that cannot be written, or the
directory above it, is named, and the tree has the files that it has after those before. -/
theorem Project.write_in_order {p : Project} {progress : Progress}
    (hpaths : ∀ f ∈ p.files, Path.isAbsolute f.path = false ∧ ".." ∉ Path.parts f.path)
    (hwrite : (p.write FileTree.disk base).run t = (progress, v)) :
    (progress.result = .ok () →
      (∀ f ∈ p.files, ∃ last, (p.files.filter fun g ↦ g.place = f.place).getLast? = some last ∧
        v.read (f.pathIn base) = .ok last.content) ∧
      (∀ here, (∀ f ∈ p.files, v.follow (f.pathIn base) ≠ .ok here) →
        ∀ text, v.entry? here = some (.file text) ↔ t.entry? here = some (.file text)) ∧
      ∃ again w, (p.write FileTree.disk base).run v = (again, w) ∧ again.result = .ok () ∧
        w.current = v.current ∧ ∀ here, w.entry? here = v.entry? here) ∧
    ∀ failure, progress.result = .error failure → ∃ k f before u, p.files[k]? = some f ∧
      failure.IsAboutFile (f.pathIn base) ∧
      (({ p with files := p.files.take k }).write FileTree.disk base).run t = (before, u) ∧
      before.result = .ok () ∧
      ∀ here text, v.entry? here = some (.file text) ↔ u.entry? here = some (.file text) := by
  obtain ⟨progress', v', hwrites⟩ := exists_writesTo base p.files t
  obtain ⟨rfl, rfl⟩ := Prod.mk.inj (hwrites.run_eq.symm.trans hwrite)
  cases hwrites with
  | all hall =>
    refine ⟨fun _ ↦ ⟨fun f hf ↦ ?_, fun here hnone text ↦ ?_, ?_⟩, fun failure h ↦ ?_⟩
    · obtain ⟨here, last, hfollow, hlast, hread⟩ := hall.holdsFiles.exists_last hf
      exact ⟨last, (hall.holdsFiles.lastAt_eq hpaths hf hfollow).symm.trans hlast, hread⟩
    · refine (hall.holdsFiles.others here ?_).eq_file_iff
      rw [lastAt, List.filter_eq_nil_iff.mpr fun f hf ↦ by simpa using hnone f hf]
      rfl
    · obtain ⟨w, hagain, halike⟩ := exists_written_of_isThere p.files hall.isThere
      exact ⟨_, w, (WritesTo.all hagain).run_eq, rfl, halike.current,
        hall.entry?_eq_of_again hagain halike⟩
    · cases h
  | @stopped u _ done rest f failure hfiles hdone hf =>
    refine ⟨fun h ↦ ?_, fun failure' h ↦ ?_⟩
    · cases h
    · obtain rfl : failure = failure' := Except.error.inj h
      obtain ⟨habout, hadds⟩ := OutputFile.adds_of_not_written hf
      have htake : p.files.take done.length = done := by rw [hfiles, List.take_left']; rfl
      refine ⟨done.length, f, { written := done }, u, by simp [hfiles], habout, ?_, rfl,
        fun here text ↦ (hadds.entries here).eq_file_iff⟩
      rw [Project.write, htake]
      exact (WritesTo.all hdone).run_eq

/-- Two files whose paths have the same steps. -/
def Project.shelf : Project where
  name := "Shelf"
  files := [⟨"a/x.php", "first", .migration⟩, ⟨"a//x.php", "second", .migration⟩]

/-- A tree with a file of another name. -/
def FileTree.desk : FileTree where
  entries := [(["kept"], .file "old")]

/-- A witness: of two texts for one file the second stays, a file of another name is not touched,
and both can be written once more. -/
theorem second_text_stays :
    ∃ progress v again w,
      (Project.shelf.write FileTree.disk "out").run desk = (progress, v) ∧
      progress.result = .ok () ∧
      v.read "out/a/x.php" = .ok "second" ∧ v.entry? ["kept"] = some (.file "old") ∧
      (Project.shelf.write FileTree.disk "out").run v = (again, w) ∧ again.result = .ok () ∧
      ∀ here, w.entry? here = v.entry? here := by
  obtain ⟨progress, v, hwrite, hresult, hother⟩ : ∃ progress v,
      (Project.shelf.write FileTree.disk "out").run desk = (progress, v) ∧
        progress.result = .ok () ∧
          ∀ f ∈ Project.shelf.files, v.follow (f.pathIn "out") ≠ .ok ["kept"] :=
    ⟨_, _, rfl, by decide +kernel, by decide +kernel⟩
  obtain ⟨hdone, -⟩ := Project.write_in_order (by decide) hwrite
  obtain ⟨hlast, hframe, again, w, hagain, hresult', -, hsame⟩ := hdone hresult
  obtain ⟨last, hget, hread⟩ := hlast ⟨"a/x.php", "first", .migration⟩ (by decide)
  have hsecond : last = ⟨"a//x.php", "second", .migration⟩ := by
    have hlist : (Project.shelf.files.filter fun g ↦ g.place = ["a", "x.php"]).getLast? =
        some ⟨"a//x.php", "second", .migration⟩ := by decide
    exact Option.some.inj (hget.symm.trans hlist)
  subst hsecond
  exact ⟨progress, v, again, w, hwrite, hresult, hread,
    (hframe ["kept"] hother "old").mpr (by decide), hagain, hresult', hsame⟩

end DiagramMigrations
