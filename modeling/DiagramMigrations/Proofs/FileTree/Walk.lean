import DiagramMigrations.FileTree
import DiagramMigrations.Proofs.Except
import Mathlib.Tactic.Common

/-!
Where paths lead in a tree of files. A walk along the parts of a path is a relation between the
place it starts from and the place it ends at. It needs nothing of a tree but its directories, so
that where directories are only added a path that led to a place still leads there; and a walk that
never turns back ends at the steps it has taken.
-/

set_option autoImplicit false
set_option relaxedAutoImplicit false

namespace DiagramMigrations.FileTree

variable {t u v : FileTree} {here mid there other : Location} {path : String} {part : String}
  {parts xs ys : List String} {entry : Entry}

/-! ### Entries -/

theorem lookup_filter_ne (entries : List (Location × Entry)) (h : other ≠ here) :
    (entries.filter fun e ↦ e.1 ≠ here).lookup other = entries.lookup other := by
  induction entries with
  | nil => rfl
  | cons e rest ih =>
    obtain ⟨place, entry⟩ := e
    by_cases hplace : place = here
    · have hother : (other == place) = false := beq_false_of_ne (hplace ▸ h)
      rw [List.filter_cons_of_neg (by simpa using hplace), ih, List.lookup_cons, hother]
    · rw [List.filter_cons_of_pos (by simpa using hplace), List.lookup_cons, List.lookup_cons, ih]

theorem entry?_put_self (hhere : here ≠ []) (entry : Entry) :
    entry? (t.put here entry) here = some entry := by
  have hnone : (t.entries.filter fun e ↦ e.1 ≠ here).lookup here = none := by
    rw [List.lookup_eq_none_iff]
    intro e he
    have hother : e.1 ≠ here := by simpa using (List.mem_filter.mp he).2
    simpa using hother.symm
  cases here with
  | nil => exact absurd rfl hhere
  | cons name above =>
    change ((t.entries.filter fun e ↦ e.1 ≠ name :: above) ++ [(name :: above, entry)]).lookup
      (name :: above) = some entry
    rw [List.lookup_append, hnone, Option.none_or, List.lookup_cons_self]

theorem entry?_put_of_ne (h : other ≠ here) (entry : Entry) :
    entry? (t.put here entry) other = t.entry? other := by
  cases other with
  | nil => rfl
  | cons name above =>
    have hsingle : [(here, entry)].lookup (name :: above) = none := by
      rw [List.lookup_cons, beq_false_of_ne h, List.lookup_nil]
    change ((t.entries.filter fun e ↦ e.1 ≠ here) ++ [(here, entry)]).lookup (name :: above) =
      t.entries.lookup (name :: above)
    rw [List.lookup_append, lookup_filter_ne _ h, hsingle, Option.or_none]

theorem enter_eq_ok : t.enter here = .ok () ↔ t.entry? here = some .directory := by
  unfold enter
  cases t.entry? here with
  | none => simp
  | some entry => cases entry <;> simp

theorem child_eq_ok {name : String} :
    child here name = .ok there ↔ name.utf8ByteSize ≤ longestName ∧ there = name :: here := by
  unfold child
  split_ifs with hlong
  · simp [Nat.not_le_of_lt hlong]
  · simp [Nat.le_of_not_lt hlong, eq_comm]

/-! ### Walks -/

/-- Walks along parts of a path: each part is read in a directory, and leads to where it is read, to
the directory above, or to the entry of that name. -/
inductive Walks (t : FileTree) : Location → List String → Location → Prop
  | arrived (here : Location) : Walks t here [] here
  | idle {here there : Location} {part : String} {rest : List String}
    (hdirectory : t.entry? here = some .directory) (hpart : Path.isIdle part = true)
    (hrest : Walks t here rest there) : Walks t here (part :: rest) there
  | up {here there : Location} {rest : List String}
    (hdirectory : t.entry? here = some .directory) (hrest : Walks t here.tail rest there) :
    Walks t here (".." :: rest) there
  | down {here there : Location} {part : String} {rest : List String}
    (hdirectory : t.entry? here = some .directory) (hpart : Path.isIdle part = false)
    (hname : part ≠ "..") (hlength : part.utf8ByteSize ≤ longestName)
    (hrest : Walks t (part :: here) rest there) : Walks t here (part :: rest) there

theorem Walks.walk_eq (h : t.Walks here parts there) : t.walk here parts = .ok there := by
  induction h with
  | arrived => rfl
  | idle hdirectory hpart _ ih =>
    rw [walk, enter_eq_ok.mpr hdirectory, if_pos hpart]
    exact ih
  | up hdirectory _ ih =>
    rw [walk, enter_eq_ok.mpr hdirectory, if_neg (by decide), if_pos rfl]
    exact ih
  | down hdirectory hpart hname hlength _ ih =>
    rw [walk, enter_eq_ok.mpr hdirectory, if_neg (by simp [hpart]), if_neg hname,
      child_eq_ok.mpr ⟨hlength, rfl⟩]
    exact ih

theorem walk_eq_ok : t.walk here parts = .ok there ↔ t.Walks here parts there := by
  refine ⟨fun h ↦ ?_, Walks.walk_eq⟩
  induction parts generalizing here with
  | nil => exact Except.ok.inj h ▸ .arrived here
  | cons part rest ih =>
    obtain ⟨⟨⟩, henter, hstep⟩ := bind_eq_ok.mp h
    have hdirectory := enter_eq_ok.mp henter
    split_ifs at hstep with hidle hup
    · exact .idle hdirectory hidle (ih hstep)
    · subst part
      exact .up hdirectory (ih hstep)
    · obtain ⟨below, hbelow, hrest⟩ := bind_eq_ok.mp hstep
      obtain ⟨hlength, rfl⟩ := child_eq_ok.mp hbelow
      exact .down hdirectory (Bool.eq_false_iff.mpr hidle) hup hlength (ih hrest)

/-- A walk needs nothing but directories. -/
theorem Walks.mono (hkeeps : ∀ place, t.entry? place = some .directory →
    u.entry? place = some .directory) (h : t.Walks here parts there) :
    u.Walks here parts there := by
  induction h with
  | arrived => exact .arrived _
  | idle hdirectory hpart _ ih => exact .idle (hkeeps _ hdirectory) hpart ih
  | up hdirectory _ ih => exact .up (hkeeps _ hdirectory) ih
  | down hdirectory hpart hname hlength _ ih =>
    exact .down (hkeeps _ hdirectory) hpart hname hlength ih

theorem Walks.append (h : t.Walks here xs mid) (hrest : t.Walks mid ys there) :
    t.Walks here (xs ++ ys) there := by
  induction h with
  | arrived => exact hrest
  | idle hdirectory hpart _ ih => exact .idle hdirectory hpart (ih hrest)
  | up hdirectory _ ih => exact .up hdirectory (ih hrest)
  | down hdirectory hpart hname hlength _ ih =>
    exact .down hdirectory hpart hname hlength (ih hrest)

theorem exists_walks_of_append (h : t.Walks here (xs ++ ys) there) :
    ∃ mid, t.Walks here xs mid ∧ t.Walks mid ys there := by
  induction xs generalizing here with
  | nil => exact ⟨here, .arrived here, h⟩
  | cons part xs ih =>
    rw [List.cons_append] at h
    cases h with
    | idle hdirectory hpart hrest =>
      obtain ⟨mid, hmid, hend⟩ := ih hrest
      exact ⟨mid, .idle hdirectory hpart hmid, hend⟩
    | up hdirectory hrest =>
      obtain ⟨mid, hmid, hend⟩ := ih hrest
      exact ⟨mid, .up hdirectory hmid, hend⟩
    | down hdirectory hpart hname hlength hrest =>
      obtain ⟨mid, hmid, hend⟩ := ih hrest
      exact ⟨mid, .down hdirectory hpart hname hlength hmid, hend⟩

/-- A walk ends at one place only. -/
theorem Walks.unique (h : t.Walks here parts there) (hother : t.Walks here parts other) :
    there = other :=
  Except.ok.inj (h.walk_eq.symm.trans hother.walk_eq)

/-- A walk that never turns back ends at the parts that lead anywhere, below where it started. -/
theorem Walks.eq_of_forward (h : t.Walks here parts there) (hforward : ".." ∉ parts) :
    there = (parts.filter fun part ↦ !Path.isIdle part).reverse ++ here := by
  induction h with
  | arrived => rfl
  | idle _ hpart _ ih =>
    rw [ih (List.not_mem_of_not_mem_cons hforward),
      List.filter_cons_of_neg (by simp [hpart])]
  | up _ _ _ => exact absurd List.mem_cons_self hforward
  | down _ hpart _ _ _ ih =>
    rw [ih (List.not_mem_of_not_mem_cons hforward),
      List.filter_cons_of_pos (by simp [hpart]), List.reverse_cons, List.append_assoc,
      List.singleton_append]

/-! ### Paths -/

/-- Where a path leads. -/
def follow (t : FileTree) (path : String) : Except FileError Location := do
  t.walk (← t.start path) (Path.parts path)

theorem follow_eq_ok : t.follow path = .ok there ↔
    ∃ here, t.start path = .ok here ∧ t.Walks here (Path.parts path) there := by
  simp only [← walk_eq_ok]
  exact bind_eq_ok

/-- What is read at a path is what lies where it leads. -/
theorem read_of_follow {text : String} (hfollow : t.follow path = .ok here)
    (hentry : t.entry? here = some (.file text)) : t.read path = .ok text := by
  obtain ⟨source, hstart, hwalks⟩ := follow_eq_ok.mp hfollow
  have hfind : t.find path = .ok (.file text) := by
    simp only [find, hstart, bind, Except.bind, hwalks.walk_eq, hentry]
    rfl
  rw [read, hfind]
  rfl

/-- Whether a tree keeps the directories of another one, and the directory that relative paths start
from. -/
structure Keeps (t u : FileTree) : Prop where
  current : u.current = t.current
  directories : ∀ here, t.entry? here = some .directory → u.entry? here = some .directory

theorem Keeps.refl (t : FileTree) : Keeps t t := ⟨rfl, fun _ h ↦ h⟩

theorem Keeps.trans (htu : Keeps t u) (huv : Keeps u v) : Keeps t v where
  current := huv.current.trans htu.current
  directories here h := huv.directories here (htu.directories here h)

theorem Keeps.start_eq (h : Keeps t u) (path : String) : u.start path = t.start path := by
  rw [start, start, h.current]

/-- A path leads where it led before. -/
theorem Keeps.follow_eq (h : Keeps t u) (hfollow : t.follow path = .ok here) :
    u.follow path = .ok here := by
  obtain ⟨source, hstart, hwalks⟩ := follow_eq_ok.mp hfollow
  exact follow_eq_ok.mpr ⟨source, h.start_eq path ▸ hstart, hwalks.mono h.directories⟩

end DiagramMigrations.FileTree
