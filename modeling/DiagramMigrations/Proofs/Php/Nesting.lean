import DiagramMigrations.Proofs.Php.Layout
import Mathlib.Data.List.DropRight

/-!
Layouts that change the level through blocks only. Such a layout comes back to its level, and each of
its lines stands as deep as the blocks around it in the program, whatever was written before. Texts
that break no line leave the lines of the page to be read back from its text.
-/

set_option autoImplicit false
set_option relaxedAutoImplicit false

namespace DiagramMigrations

/-! ### Texts without line feeds -/

namespace Text

theorem mem_of_mem_dropReturn {c : Char} {cs : List Char} (h : c ∈ dropReturn cs) : c ∈ cs := by
  unfold dropReturn at h
  split at h
  · exact List.mem_cons_of_mem _ h
  · exact h

theorem notMem_of_mem_linesFrom {line cs l : List Char} (hline : '\n' ∉ line)
    (h : l ∈ linesFrom line cs) : '\n' ∉ l := by
  induction cs generalizing line with
  | nil =>
    rw [linesFrom] at h
    split_ifs at h
    · exact absurd h List.not_mem_nil
    · rw [List.mem_singleton.mp h, List.mem_reverse]
      exact hline
  | cons c rest ih =>
    rw [linesFrom] at h
    split_ifs at h with hc
    · rcases List.mem_cons.mp h with rfl | h
      · rw [List.mem_reverse]
        exact fun hmem ↦ hline (mem_of_mem_dropReturn hmem)
      · exact ih List.not_mem_nil h
    · exact ih (List.not_mem_cons_of_ne_of_not_mem (Ne.symm hc) hline) h

end Text

namespace Php

theorem mem_partClosers {c : Char} {cs : List Char} (h : c ∈ partClosers cs) : c = ' ' ∨ c ∈ cs := by
  induction cs using partClosers.induct with
  | case1 => exact absurd h List.not_mem_nil
  | case2 rest ih =>
    simp only [partClosers, List.mem_cons] at h ⊢
    tauto
  | case3 d rest hcloser ih =>
    rw [partClosers] at h
    · rw [List.mem_cons] at h ⊢
      tauto
    · exact hcloser

theorem notMem_docLine {cs : List Char} (h : '\n' ∉ cs) : '\n' ∉ (docLine cs).toList := by
  have htrimmed : '\n' ∉ Text.trimEnd cs := fun hmem ↦
    h ((List.rdropWhile_prefix Text.isBlank cs).subset hmem)
  rw [docLine]
  split
  · decide
  · rw [String.toList_ofList]
    intro hmem
    have hclosers : '\n' ∈ partClosers (Text.trimEnd cs) := by simpa using hmem
    exact (mem_partClosers hclosers).elim (by decide) htrimmed

theorem notMem_of_mem_docLines {text l : String} (h : l ∈ docLines text) : '\n' ∉ l.toList := by
  rw [docLines, List.mem_append, List.mem_cons, List.mem_map, List.mem_singleton] at h
  rcases h with (rfl | ⟨cs, hcs, rfl⟩) | rfl
  · decide
  · exact notMem_docLine (Text.notMem_of_mem_linesFrom List.not_mem_nil hcs)
  · decide

/-! ### Depth -/

/-- A line of a layout: in how many blocks it stands, and its text. -/
structure NestedLine where
  depth : Nat
  text : String
  deriving DecidableEq, Repr

/-- The line on a page whose level is that of the layout: four blanks for each level, and nothing
before an empty text. -/
def NestedLine.written (level : Nat) (l : NestedLine) : String :=
  if l.text = "" then "" else String.ofList (List.replicate (4 * (level + l.depth)) ' ') ++ l.text

namespace Step

mutual

/-- The lines of a step that stands in a number of blocks. -/
def nestedLines (depth : Nat) : Step → List NestedLine
  | indent | outdent => []
  | line text => [⟨depth, text⟩]
  | lines texts => texts.map fun text ↦ ⟨depth, text⟩
  | blank => [⟨depth, ""⟩]
  | doc text => (docLines text).map fun l ↦ ⟨depth, l⟩
  | block opening closing body =>
    ⟨depth, opening⟩ :: nestedLinesOf (depth + 1) body ++ [⟨depth, closing⟩]

/-- The lines of steps that stand in a number of blocks. -/
def nestedLinesOf (depth : Nat) : List Step → List NestedLine
  | [] => []
  | s :: rest => nestedLines depth s ++ nestedLinesOf depth rest

end

mutual

/-- Whether a step changes the level through blocks only and has lines that are not broken. The text
of a comment may have several lines. -/
def IsNested : Step → Prop
  | indent | outdent => False
  | line text => '\n' ∉ text.toList
  | lines texts => ∀ text ∈ texts, '\n' ∉ text.toList
  | blank | doc _ => True
  | block opening closing body =>
    '\n' ∉ opening.toList ∧ '\n' ∉ closing.toList ∧ AreNested body

/-- The same of steps. -/
def AreNested : List Step → Prop
  | [] => True
  | s :: rest => IsNested s ∧ AreNested rest

end

end Step

theorem flatten_indentation (level : Nat) :
    (List.replicate level indentation).flatten = List.replicate (4 * level) ' ' := by
  rw [indentation, show [' ', ' ', ' ', ' '] = List.replicate 4 ' ' from rfl,
    List.flatten_replicate_replicate, Nat.mul_comm]

theorem written_eq_indented (level depth : Nat) (text : String) :
    NestedLine.written level ⟨depth, text⟩ = indented (level + depth) text := by
  rw [indented, NestedLine.written, flatten_indentation, String.ofList_append, String.ofList_toList]

theorem map_written (level depth : Nat) (texts : List String) :
    (texts.map fun text ↦ (⟨depth, text⟩ : NestedLine)).map (NestedLine.written level) =
      texts.map (indented (level + depth)) := by
  rw [List.map_map]
  exact List.map_congr_left fun text _ ↦ written_eq_indented level depth text

namespace Page

/-- The lines between the opening and the closing of a block are written one level deeper. -/
theorem step_block {ls written : List String} {level : Nat} {opening closing : String}
    {body : List Step} (hbody : run ⟨ls ++ [indented level opening], level + 1⟩ body =
      ⟨ls ++ [indented level opening] ++ written, level + 1⟩) :
    step ⟨ls, level⟩ (.block opening closing body) =
      ⟨ls ++ (indented level opening :: written ++ [indented level closing]), level⟩ := by
  change line { run ⟨ls ++ [indented level opening], level + 1⟩ body with
    level := (run ⟨ls ++ [indented level opening], level + 1⟩ body).level - 1 } closing = _
  rw [hbody]
  simp [line]

mutual

theorem step_nested (level depth : Nat) (ls : List String) : ∀ s : Step, s.IsNested →
    step ⟨ls, level + depth⟩ s =
      ⟨ls ++ (s.nestedLines depth).map (NestedLine.written level), level + depth⟩
  | .indent, h | .outdent, h => h.elim
  | .line text, _ => by
    rw [step, line, Step.nestedLines, List.map_singleton, written_eq_indented]
  | .lines texts, _ => by
    rw [step, addLines, Step.nestedLines, map_written]
  | .blank, _ => rfl
  | .doc text, _ => by
    rw [step, addLines, Step.nestedLines, map_written]
  | .block opening closing body, ⟨_, _, hbody⟩ => by
    -- One level deeper is one block more around the lines.
    have hinner := run_nested level (depth + 1) (ls ++ [indented (level + depth) opening]) body hbody
    rw [← Nat.add_assoc] at hinner
    rw [step_block hinner, Step.nestedLines, List.map_append, List.map_cons, List.map_singleton,
      written_eq_indented, written_eq_indented]

theorem run_nested (level depth : Nat) (ls : List String) : ∀ steps : List Step, Step.AreNested steps →
    run ⟨ls, level + depth⟩ steps =
      ⟨ls ++ (Step.nestedLinesOf depth steps).map (NestedLine.written level), level + depth⟩
  | [], _ => by
    rw [run, Step.nestedLinesOf, List.map_nil, List.append_nil]
  | s :: rest, ⟨hs, hrest⟩ => by
    rw [run, step_nested level depth ls s hs, run_nested level depth _ rest hrest, Step.nestedLinesOf,
      List.map_append, List.append_assoc]

end

end Page

/-! ### The text of a page -/

mutual

theorem Step.notMem_nestedLines (depth : Nat) : ∀ s : Step, s.IsNested →
    ∀ l ∈ s.nestedLines depth, '\n' ∉ l.text.toList
  | .indent, h, _, _ | .outdent, h, _, _ => h.elim
  | .line text, h, l, hl => by
    rw [nestedLines, List.mem_singleton] at hl
    exact hl ▸ h
  | .lines texts, h, l, hl => by
    rw [nestedLines, List.mem_map] at hl
    obtain ⟨text, htext, rfl⟩ := hl
    exact h text htext
  | .blank, _, l, hl => by
    rw [nestedLines, List.mem_singleton] at hl
    simp [hl]
  | .doc text, _, l, hl => by
    rw [nestedLines, List.mem_map] at hl
    obtain ⟨line, hline, rfl⟩ := hl
    exact notMem_of_mem_docLines hline
  | .block opening closing body, ⟨hopening, hclosing, hbody⟩, l, hl => by
    rw [nestedLines, List.mem_append, List.mem_cons, List.mem_singleton] at hl
    rcases hl with (rfl | hl) | rfl
    · exact hopening
    · exact notMem_nestedLinesOf (depth + 1) body hbody l hl
    · exact hclosing

theorem Step.notMem_nestedLinesOf (depth : Nat) : ∀ steps : List Step, AreNested steps →
    ∀ l ∈ nestedLinesOf depth steps, '\n' ∉ l.text.toList
  | [], _, _, hl => absurd hl List.not_mem_nil
  | s :: rest, ⟨hs, hrest⟩, l, hl => by
    rw [nestedLinesOf, List.mem_append] at hl
    rcases hl with hl | hl
    · exact notMem_nestedLines depth s hs l hl
    · exact notMem_nestedLinesOf depth rest hrest l hl

end

theorem NestedLine.notMem_written {l : NestedLine} (h : '\n' ∉ l.text.toList) (level : Nat) :
    '\n' ∉ (l.written level).toList := by
  rw [written]
  split_ifs
  · decide
  · simpa [List.mem_replicate] using h

namespace Page

variable {p : Page}

/-- The text of a page ends each of its lines with a line feed. -/
theorem text_of_ne_nil (h : p.lines ≠ []) :
    p.text = String.join (p.lines.map fun l ↦ l ++ "\n") := by
  rw [text]
  generalize p.lines = lines at h
  induction lines with
  | nil => exact absurd rfl h
  | cons line rest ih =>
    cases rest with
    | nil => simp [String.join_cons]
    | cons next rest =>
      rw [String.intercalate_cons_cons, String.append_assoc, ih (List.cons_ne_nil _ _),
        List.map_cons (a := line), String.join_cons]

/-- Lines that are not broken are read back from the text; behind the last line feed there is
nothing. -/
theorem splitOn_text (hne : p.lines ≠ []) (h : ∀ l ∈ p.lines, '\n' ∉ l.toList) :
    p.text.toList.splitOn '\n' = p.lines.map String.toList ++ [[]] := by
  have htext : p.text.toList = ['\n'].intercalate (p.lines.map String.toList ++ [[]]) := by
    have hjoined : p.text = "\n".intercalate (p.lines ++ [""]) := by
      rw [String.intercalate_append_of_ne_nil hne (List.cons_ne_nil _ _), String.intercalate_singleton,
        String.append_empty, text]
    rw [hjoined, String.toList_intercalate, List.map_append]
    rfl
  rw [htext, List.splitOn_intercalate _ _ (by simp)]
  intro l hl
  rcases List.mem_append.mp hl with hl | hl
  · obtain ⟨line, hline, rfl⟩ := List.mem_map.mp hl
    exact h line hline
  · rw [List.mem_singleton.mp hl]
    exact List.not_mem_nil

/-- A layout that changes the level through blocks only comes back to its level and leaves the lines
that were written before it. Each line that it adds stands behind four blanks for each level of the
page and each block around the line, or is empty; and the text of the page is its lines, each ended by
a line feed, from which they are read back. -/
theorem run_indents_exactly (p : Page) {steps : List Step} (h : Step.AreNested steps) :
    (p.run steps).level = p.level ∧
      (p.run steps).lines =
        p.lines ++ (Step.nestedLinesOf 0 steps).map (NestedLine.written p.level) ∧
      ((p.run steps).lines = [] → (p.run steps).text = "\n") ∧
      ((p.run steps).lines ≠ [] →
        (p.run steps).text = String.join ((p.run steps).lines.map fun l ↦ l ++ "\n")) ∧
      ((∀ l ∈ p.lines, '\n' ∉ l.toList) → (p.run steps).lines ≠ [] →
        (p.run steps).text.toList.splitOn '\n' = (p.run steps).lines.map String.toList ++ [[]]) := by
  have hrun : p.run steps =
      ⟨p.lines ++ (Step.nestedLinesOf 0 steps).map (NestedLine.written p.level), p.level⟩ :=
    run_nested p.level 0 p.lines steps h
  refine ⟨by rw [hrun], by rw [hrun], fun hempty ↦ ?_, text_of_ne_nil, fun hbefore hne ↦ ?_⟩
  · rw [text, hempty]
    rfl
  · refine splitOn_text hne fun l hl ↦ ?_
    rw [hrun, List.mem_append, List.mem_map] at hl
    rcases hl with hl | ⟨l, hl, rfl⟩
    · exact hbefore l hl
    · exact NestedLine.notMem_written (Step.notMem_nestedLinesOf 0 steps h l hl) p.level

/-- A list within a list, below a comment. -/
def nestedLists : List Step := [
  .doc "Rows.",
  .block "return [" "];" [
    .lines ["'first',", ""],
    .block "[" "]," [.line "'second',", .blank]]]

/-- A witness: in a class, the inner list stands three levels deep and its brackets two. -/
theorem nested_lists_indented :
    Step.AreNested nestedLists ∧ (run ⟨["class Rows"], 1⟩ nestedLists).lines = ["class Rows",
      "    /**", "     * Rows.", "     */",
      "    return [", "        'first',", "", "        [", "            'second',", "",
      "        ],", "    ];"] := by
  have hnested : Step.AreNested nestedLists := by
    simp [nestedLists, Step.AreNested, Step.IsNested]
  refine ⟨hnested, ?_⟩
  rw [(run_indents_exactly ⟨["class Rows"], 1⟩ hnested).2.1]
  decide

end Page

end Php

end DiagramMigrations
