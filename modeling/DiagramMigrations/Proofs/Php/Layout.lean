import DiagramMigrations.Php.Layout
import Mathlib.Tactic.Common

/-!
What layouts write. Steps that are taken one after the other write one after the other, and lines at
the outermost level stand as they are.
-/

set_option autoImplicit false
set_option relaxedAutoImplicit false

namespace DiagramMigrations.Php

theorem indented_zero (text : String) : indented 0 text = text := by
  unfold indented
  by_cases hempty : text = ""
  · rw [if_pos hempty, hempty]
  · rw [if_neg hempty, List.replicate_zero, List.flatten_nil, List.nil_append, String.ofList_toList]

/-- A text stands whole behind its indentation. -/
theorem suffix_indented (level : Nat) (text : String) :
    text.toList <:+ (indented level text).toList := by
  unfold indented
  split_ifs with hempty
  · subst text
    exact List.suffix_rfl
  · rw [String.toList_ofList]
    exact List.suffix_append _ _

theorem indented_injective (level : Nat) : Function.Injective (indented level) := by
  intro a b h
  unfold indented at h
  split_ifs at h with ha hb hb
  · rw [ha, hb]
  · have hchars := congrArg String.toList h
    simp [hb] at hchars
  · have hchars := congrArg String.toList h
    simp [ha] at hchars
  · exact String.toList_inj.mp (List.append_cancel_left (String.ofList_injective h))

/-- Whether a line opens with certain characters behind the indentation of a level. -/
def opensWith (level : Nat) (marks : List Char) (line : String) : Bool :=
  ((List.replicate level indentation).flatten ++ marks).isPrefixOf line.toList

/-- Behind the indentation of a line at least as deep, the text opens with the characters. -/
theorem opensWith_indented {marks : List Char} (hmarks : marks ≠ []) (level deeper : Nat)
    (text : String) :
    opensWith (level + deeper) marks (indented level text) = opensWith deeper marks text := by
  unfold opensWith indented
  rw [← List.replicate_append_replicate, List.flatten_append, List.append_assoc, Bool.eq_iff_iff,
    List.isPrefixOf_iff_prefix, List.isPrefixOf_iff_prefix]
  split_ifs with hempty
  · subst hempty
    simp [hmarks]
  · rw [String.toList_ofList, List.prefix_append_right_inj]

/-- A line that is not indented opens with nothing at a deeper level. -/
theorem opensWith_of_head? {line : String} (h : line.toList.head? ≠ some ' ') (level : Nat)
    (marks : List Char) : opensWith (level + 1) marks line = false := by
  rw [opensWith, List.replicate_succ]
  cases hline : line.toList with
  | nil => rfl
  | cons c cs =>
    rw [hline] at h
    have hne : (' ' == c) = false := beq_false_of_ne fun heq ↦ h (heq ▸ rfl)
    simp [indentation, List.isPrefixOf_cons_cons, hne]

/-- In a line of a comment the second character is a star. -/
theorem exists_star_of_mem_docLines {text line : String} (h : line ∈ docLines text) :
    ∃ c rest, line.toList = c :: '*' :: rest := by
  have hdocLine (cs : List Char) : ∃ c rest, (docLine cs).toList = c :: '*' :: rest := by
    rw [docLine]
    split
    · exact ⟨' ', [], rfl⟩
    · rw [String.toList_ofList]
      exact ⟨' ', _, rfl⟩
  rw [docLines, List.mem_append, List.mem_cons, List.mem_map, List.mem_singleton] at h
  rcases h with (rfl | ⟨cs, -, rfl⟩) | rfl
  · exact ⟨'/', ['*'], rfl⟩
  · exact hdocLine cs
  · exact ⟨' ', ['/'], rfl⟩

namespace Page

variable (ls : List String) (level : Nat)

theorem run_append (p : Page) (first second : List Step) :
    run p (first ++ second) = run (run p first) second := by
  induction first generalizing p with
  | nil => rfl
  | cons s rest ih => exact ih (step p s)

theorem run_map_line {α : Type} (xs : List α) (text : α → String) :
    run ⟨ls, level⟩ (xs.map fun x ↦ .line (text x)) =
      ⟨ls ++ xs.map fun x ↦ indented level (text x), level⟩ := by
  induction xs generalizing ls with
  | nil => simp [run]
  | cons x rest ih =>
    rw [List.map_cons, run]
    refine (ih _).trans ?_
    simp

/-- Layouts that write lines and come back to their level, one for each element, write the lines of
all elements. -/
theorem run_flatMap {α : Type} {steps : α → List Step} {lines : α → List String}
    (h : ∀ ls x, run ⟨ls, level⟩ (steps x) = ⟨ls ++ lines x, level⟩) (xs : List α) :
    run ⟨ls, level⟩ (xs.flatMap steps) = ⟨ls ++ xs.flatMap lines, level⟩ := by
  induction xs generalizing ls with
  | nil => simp [run]
  | cons x rest ih =>
    rw [List.flatMap_cons, run_append, h, ih, List.flatMap_cons, List.append_assoc]

end Page

end DiagramMigrations.Php
