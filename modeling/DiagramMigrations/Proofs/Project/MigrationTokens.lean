import DiagramMigrations.Calendar.Reader
import DiagramMigrations.Proofs.Calendar.Succession
import DiagramMigrations.Proofs.Project.Context
import Mathlib

/-!
The tokens of migrations. They are the tokens of consecutive seconds, and so they sort in the order
of creation as long as these seconds do: a run of seconds may not leave the times that are told, nor
a year whose text sorts behind that of the next one.
-/

set_option autoImplicit false
set_option relaxedAutoImplicit false

namespace DiagramMigrations

open Calendar Text

variable {settings : Settings} {now : Timestamp} {s : Schema} {c : Context} {n : Nat}

namespace Context

theorem token_eq (c : Context) (position : Nat) :
    c.token position = (c.start.later position).token := rfl

/-- The tokens at the first positions ascend, and so differ from each other, exactly if there is no
more than one of them, or if the time of the first is one that a clock shows, the last time is still
told, and no year from the one to the other sorts behind the next one. -/
theorem tokens_ascend_iff (hstart : c.start.Told) :
    (∀ i j, i < j → j < n → bytes (c.token i) < bytes (c.token j)) ↔
      n ≤ 1 ∨ c.start.Valid ∧ ∃ last, c.start.addSeconds? (n - 1) = some last ∧
        ∀ year, c.start.year ≤ year → year < last.year → AscendsAfter year := by
  by_cases hn : n ≤ 1
  · exact iff_of_true (fun i j hij hj ↦ by omega) (Or.inl hn)
  rw [or_iff_right hn]
  constructor
  · intro hascend
    have hchange {j : Nat} (hj : 0 < j) (hjn : j < n) : c.token j ≠ c.token 0 := fun hsame ↦
      List.lt_irrefl _ (hsame ▸ hascend 0 j hj hjn)
    have hclock := hstart.valid (hchange Nat.one_pos (by omega))
    obtain ⟨last, hlast⟩ := Timestamp.exists_addSeconds?
      (hchange (by omega : 0 < n - 1) (by omega))
    refine ⟨hclock, last, hlast, (Timestamp.steps_ascend_iff hstart hclock hlast).mp ?_⟩
    exact fun i hi ↦ hascend i (i + 1) (Nat.lt_succ_self i) (by omega)
  · rintro ⟨hclock, last, hlast, hyears⟩
    refine Timestamp.ascending_iff_steps.mpr fun i hi ↦ ?_
    exact (Timestamp.steps_ascend_iff hstart hclock hlast).mpr hyears i (by omega)

end Context

/-- Three tables that do not refer to each other. -/
def Schema.unrelated : Schema where
  name := "Shop"
  tables := [⟨"p", "Post", []⟩, ⟨"c", "Comment", []⟩, ⟨"t", "Tag", []⟩]

theorem exists_context_unrelated (start : Timestamp) :
    ∃ c, Context.ofSchema { timestamp := some start } start .unrelated = .ok c ∧
      c.start = start ∧ c.tables.length = 3 := by
  have horder : dependencyOrder Schema.unrelated.tables Schema.unrelated.associations =
      .ok [0, 1, 2] := by decide
  obtain ⟨c, hc⟩ : ∃ c, Context.ofSchema { timestamp := some start } start .unrelated = .ok c :=
    ⟨_, Context.ofSchema_eq_ok.mpr ⟨_, horder, rfl⟩⟩
  exact ⟨c, hc, Context.start_eq hc, (Context.tables_perm hc).length_eq⟩

/-- A witness: the year zero follows the leap second at the end of the year before it. -/
theorem unrelated_tokens_ascend :
    ∃ start c, Context.ofSchema { timestamp := some start } start .unrelated = .ok c ∧
      c.start.Told ∧ c.start.inLeapSecond = true ∧
      c.token 0 = "-0001_12_31_235960" ∧ c.token 1 = "0000_01_01_000000" ∧
      ∀ i j, i < j → j < c.tables.length → bytes (c.token i) < bytes (c.token j) := by
  obtain ⟨c, hc, hstart, hlength⟩ := exists_context_unrelated ⟨-1, 86399, 1500000000⟩
  have htold : c.start.Told := by
    rw [hstart]
    exact ⟨by decide, by decide, by decide, by decide⟩
  refine ⟨_, c, hc, htold, by rw [hstart]; decide, ?_, ?_,
    (Context.tokens_ascend_iff htold).mpr (Or.inr ?_)⟩
  · rw [Context.token_eq, hstart]
    decide
  · rw [Context.token_eq, hstart]
    decide
  · rw [hstart, hlength]
    refine ⟨⟨by decide, by decide⟩, ⟨0, 1, 500000000⟩, by decide, fun year hbegun hends ↦ ?_⟩
    have hyear : year = -1 := by
      have hfirst : Timestamp.year ⟨-1, 86399, 1500000000⟩ = -1 := by decide
      have hlast : Timestamp.year ⟨0, 1, 500000000⟩ = 0 := by decide
      omega
    rw [hyear]
    decide

/-- With the last second of the year 9999, which settings can name, the tokens do not ascend: the
sign of the year after it sorts before digits. -/
theorem last_plain_year_breaks_order :
    ∃ start c, parseLoose? "9999-12-31T23:59:59" = some start ∧
      Context.ofSchema { timestamp := some start } start .unrelated = .ok c ∧
      c.start.Told ∧ c.token 0 = "9999_12_31_235959" ∧ c.token 1 = "+10000_01_01_000000" ∧
      ¬ ∀ i j, i < j → j < c.tables.length → bytes (c.token i) < bytes (c.token j) := by
  have hread : parseLoose? "9999-12-31T23:59:59" = some ⟨3652424, 86399, 0⟩ := by decide
  obtain ⟨c, hc, hstart, hlength⟩ := exists_context_unrelated ⟨3652424, 86399, 0⟩
  have hfirst : c.token 0 = "9999_12_31_235959" := by
    rw [Context.token_eq, hstart]
    decide
  have hsecond : c.token 1 = "+10000_01_01_000000" := by
    rw [Context.token_eq, hstart]
    decide
  refine ⟨_, c, hread, hc, ?_, hfirst, hsecond, fun hascend ↦ ?_⟩
  · rw [hstart]
    exact ⟨by decide, by decide, by decide, by decide⟩
  · have hless := hascend 0 1 Nat.one_pos (by omega)
    rw [hfirst, hsecond] at hless
    exact absurd hless (by decide)

end DiagramMigrations
