import DiagramMigrations.Path
import Mathlib.Tactic.Common

/-!
The parts of paths. A path that continues from another has the parts of both, and a text without a
slash becomes a piece of the first part of what follows it. The steps of a path are the parts that
lead anywhere; paths with the same steps lead to the same place.
-/

set_option autoImplicit false
set_option relaxedAutoImplicit false

namespace DiagramMigrations.Path

variable {base path name : String} {c : Char} {cs : List Char}

/-- The steps of a path: its parts, without those that lead nowhere. -/
def steps (path : String) : List String :=
  (parts path).filter fun part ↦ !isIdle part

theorem parts_append_slash (before after : String) :
    parts (before ++ "/" ++ after) = parts before ++ parts after := by
  have hslash : ("/" : String).toList = ['/'] := rfl
  rw [parts, String.toList_append, String.toList_append, hslash, List.append_assoc,
    List.singleton_append, List.splitOn_append_cons_self, List.map_append, parts, parts]

theorem splitOn_append_of_notMem (hname : '/' ∉ cs) (rest : List Char) :
    (cs ++ rest).splitOn '/' = (rest.splitOn '/').modifyHead (cs ++ ·) := by
  induction cs with
  | nil => cases h : rest.splitOn '/' <;> simp [h]
  | cons c cs ih =>
    have hc : c ≠ '/' := (List.ne_of_not_mem_cons hname).symm
    rw [List.cons_append, List.splitOn_cons_eq_if_modifyHead, if_neg (by simpa using hc),
      ih (List.not_mem_of_not_mem_cons hname), List.modifyHead_modifyHead]
    rfl

/-- A text without a slash and what follows it: the first parts are joined, and the others are those
of what follows. -/
theorem parts_append (hname : '/' ∉ name.toList) (rest : String) :
    parts (name ++ rest) = (name ++ (parts rest).headD "") :: (parts rest).tail := by
  rw [parts, parts, String.toList_append, splitOn_append_of_notMem hname]
  cases h : rest.toList.splitOn '/' with
  | nil => exact absurd h (List.splitOn_ne_nil _ _)
  | cons first others => simp [String.ofList_append]

/-- What a text ends in, its last part ends in. -/
theorem exists_splitOn_concat (hc : c ≠ '/') (cs : List Char) :
    ∃ init last, (cs ++ [c]).splitOn '/' = init ++ [last ++ [c]] := by
  induction cs with
  | nil => exact ⟨[], [], by simp [List.splitOn_cons_eq_if_modifyHead, hc]⟩
  | cons d cs ih =>
    obtain ⟨init, last, h⟩ := ih
    rw [List.cons_append, List.splitOn_cons_eq_if_modifyHead, h]
    by_cases hd : d = '/'
    · exact ⟨[] :: init, last, by simp [hd]⟩
    · cases init with
      | nil => exact ⟨[], d :: last, by simp [hd]⟩
      | cons first init => exact ⟨(d :: first) :: init, last, by simp [hd]⟩

/-- A path that does not end in a slash ends in a part of which something is left. -/
theorem exists_parts_concat (hpath : path ≠ "") (hslash : path.toList.getLast? ≠ some '/') :
    ∃ above last, last ≠ "" ∧ parts path = above ++ [last] := by
  cases hlast : path.toList.getLast? with
  | none =>
    rw [List.getLast?_eq_none_iff] at hlast
    exact absurd (String.toList_eq_nil_iff.mp hlast) hpath
  | some c =>
    obtain ⟨cs, hcs⟩ := List.getLast?_eq_some_iff.mp hlast
    have hc : c ≠ '/' := fun heq ↦ hslash (heq ▸ hlast)
    obtain ⟨init, last, hsplit⟩ := exists_splitOn_concat hc cs
    refine ⟨init.map String.ofList, String.ofList (last ++ [c]), ?_, ?_⟩
    · intro hempty
      have hnil := congrArg String.toList hempty
      simp at hnil
    · rw [parts, hcs, hsplit, List.map_append, List.map_singleton]

/-- A relative path that continues from a base has its parts behind those of the base, of which one
that leads nowhere may be missing. -/
theorem exists_parts_join (base : String) :
    ∃ above, (above.filter fun part ↦ !isIdle part) = steps base ∧
      ∀ path, isAbsolute path = false → parts (join base path) = above ++ parts path := by
  by_cases hbase : base = ""
  · refine ⟨[], ?_, fun path hpath ↦ ?_⟩
    · rw [hbase]
      decide
    · rw [join, if_neg (by simp [hpath]), if_pos (Or.inl hbase), hbase, String.empty_append,
        List.nil_append]
  by_cases hslash : base.toList.getLast? = some '/'
  · obtain ⟨cs, hcs⟩ := List.getLast?_eq_some_iff.mp hslash
    obtain rfl : base = String.ofList cs ++ "/" := by
      rw [← String.toList_inj, String.toList_append, String.toList_ofList, hcs]
      rfl
    have hparts (after : String) : parts (String.ofList cs ++ "/" ++ after) =
        parts (String.ofList cs) ++ parts after := parts_append_slash _ after
    refine ⟨parts (String.ofList cs), ?_, fun path hpath ↦ ?_⟩
    · have hempty := hparts ""
      rw [String.append_empty] at hempty
      rw [steps, hempty, List.filter_append]
      have hidle : ((parts "").filter fun part ↦ !isIdle part) = [] := by decide
      rw [hidle, List.append_nil]
    · rw [join, if_neg (by simp [hpath]), if_pos (Or.inr hslash), hparts]
  · refine ⟨parts base, rfl, fun path hpath ↦ ?_⟩
    rw [join, if_neg (by simp [hpath]), if_neg (not_or.mpr ⟨hbase, hslash⟩), parts_append_slash]

theorem steps_join (hpath : isAbsolute path = false) (base : String) :
    steps (join base path) = steps base ++ steps path := by
  obtain ⟨above, hsteps, hparts⟩ := exists_parts_join base
  rw [steps, hparts path hpath, List.filter_append, hsteps]
  rfl

/-! ### Names -/

/-- What a name and the text behind it lead to: a first step, if it leads anywhere, and the steps
below it. -/
theorem steps_append (hname : '/' ∉ name.toList) (rest : String) :
    steps (name ++ rest) =
      ([name ++ (parts rest).headD ""].filter fun part ↦ !isIdle part) ++
        (parts rest).tail.filter fun part ↦ !isIdle part := by
  rw [steps, parts_append hname, ← List.singleton_append, List.filter_append]

theorem eq_empty_of_isIdle_append {suffix : String} (hsuffix : suffix ≠ "")
    (h : isIdle (name ++ suffix) = true) : name = "" ∧ suffix = "." := by
  have hdot : (name ++ suffix).toList = ['.'] := by
    rcases Bool.or_eq_true_iff.mp h with hempty | hdot
    · exact absurd (String.append_eq_empty_iff.mp (of_decide_eq_true hempty)).2 hsuffix
    · exact congrArg String.toList (of_decide_eq_true hdot)
  rw [String.toList_append] at hdot
  have hne : suffix.toList ≠ [] := mt String.toList_eq_nil_iff.mp hsuffix
  rcases List.append_eq_singleton_iff.mp hdot with ⟨hleft, hright⟩ | ⟨-, hright⟩
  · exact ⟨String.toList_eq_nil_iff.mp hleft, String.toList_inj.mp hright⟩
  · exact absurd hright hne

/-- Names lead to different places if what stands behind them is the same and begins no new part. -/
theorem steps_append_inj {other rest : String} (hname : '/' ∉ name.toList)
    (hother : '/' ∉ other.toList) (hrest : (parts rest).headD "" ≠ "") :
    steps (name ++ rest) = steps (other ++ rest) ↔ name = other := by
  constructor
  · intro h
    rw [steps_append hname, steps_append hother, List.append_left_inj] at h
    generalize (parts rest).headD "" = head at hrest h
    by_cases hidle : isIdle (name ++ head) = true <;>
      by_cases hidle' : isIdle (other ++ head) = true
    · rw [(eq_empty_of_isIdle_append hrest hidle).1, (eq_empty_of_isIdle_append hrest hidle').1]
    · simp [hidle, hidle'] at h
    · simp [hidle, hidle'] at h
    · simpa [hidle, hidle', ← String.toList_inj] using h
  · intro h
    rw [h]

/-- The first part of a path is empty if the path begins at the root, or is empty itself. -/
theorem headD_parts_eq_empty (path : String) :
    (parts path).headD "" = "" ↔ path = "" ∨ isAbsolute path = true := by
  have hempty : path = "" ↔ path.toList = [] := String.toList_eq_nil_iff.symm
  rw [parts, isAbsolute, hempty]
  cases path.toList with
  | nil => simp
  | cons c cs =>
    rw [List.splitOn_cons_eq_if_modifyHead]
    by_cases hc : c = '/'
    · simp [hc]
    · cases h : cs.splitOn '/' with
      | nil => exact absurd h (List.splitOn_ne_nil _ _)
      | cons first others => simp [hc]

theorem isAbsolute_append (hname : '/' ∉ name.toList) {rest : String}
    (hrest : isAbsolute rest = false) : isAbsolute (name ++ rest) = false := by
  rw [isAbsolute, String.toList_append]
  cases hcs : name.toList with
  | nil => exact hrest
  | cons c cs =>
    rw [hcs] at hname
    simpa using (List.ne_of_not_mem_cons hname).symm

/-- A path that continues from a base begins at the root if the base does. -/
theorem isAbsolute_join (hpath : isAbsolute path = false) (base : String) :
    isAbsolute (join base path) = isAbsolute base := by
  rw [join, if_neg (by simp [hpath])]
  by_cases hempty : base = ""
  · rw [if_pos (Or.inl hempty), hempty, String.empty_append, hpath]
    rfl
  · have hne : base.toList ≠ [] := mt String.toList_eq_nil_iff.mp hempty
    have hhead (rest : String) : isAbsolute (base ++ rest) = isAbsolute base := by
      rw [isAbsolute, String.toList_append, List.head?_append,
        Option.or_of_isSome (List.isSome_head?.mpr hne), isAbsolute]
    split
    · exact hhead path
    · rw [String.append_assoc]
      exact hhead _

end DiagramMigrations.Path
