import DiagramMigrations.Calendar.Reader
import DiagramMigrations.Proofs.Calendar.Token
import Mathlib

/-!
Times that are read are valid: every number stays in its range, and only a sixtieth second reads as
a leap second.
-/

set_option autoImplicit false
set_option relaxedAutoImplicit false

namespace DiagramMigrations.Calendar

/-- Whether the numbers of a time of day are in their ranges. -/
structure Reading.InRange (r : Reading) : Prop where
  hour : r.hour ≤ 23
  minute : r.minute ≤ 59
  second : r.second ≤ 60
  nano : r.nano < 1000000000

theorem digits?_spec {width : Nat} {cs digits rest : List Char}
    (h : digits? width cs = some (digits, rest)) :
    digits.length ≤ width ∧ ∀ c ∈ digits, Text.isAsciiDigit c := by
  unfold digits? at h
  dsimp only at h
  split_ifs at h
  obtain ⟨rfl, -⟩ := Prod.mk.inj (Option.some.inj h)
  refine ⟨(List.takeWhile_sublist _).length_le.trans (List.length_take_le _ _), fun c hc ↦ ?_⟩
  exact List.mem_takeWhile_imp hc

theorem readTwo?_range {low high n : Nat} {cs rest : List Char}
    (h : readTwo? low high cs = some (n, rest)) : n ≤ high := by
  unfold readTwo? at h
  obtain ⟨⟨digits, after⟩, -, h⟩ := Option.bind_eq_some_iff.mp h
  dsimp only at h
  split_ifs at h with hrange
  obtain ⟨rfl, -⟩ := Prod.mk.inj (Option.some.inj h)
  exact hrange.2

/-- Digits stand for a number of their width. -/
theorem numberOf_lt {digits : List Char} (h : ∀ c ∈ digits, Text.isAsciiDigit c) :
    numberOf digits < 10 ^ digits.length := by
  unfold numberOf
  induction digits using List.reverseRecOn with
  | nil => exact Nat.one_pos
  | append_singleton init c ih =>
    have hinit := ih fun d hd ↦ h d (List.mem_append_left _ hd)
    have hc := h c (List.mem_append_right _ (List.mem_singleton.mpr rfl))
    simp only [Text.isAsciiDigit, Bool.and_eq_true, decide_eq_true_eq] at hc
    have hvalue : c.toNat ≤ 57 := hc.2
    rw [List.foldl_append, List.length_append, List.length_singleton, pow_succ]
    simp only [List.foldl_cons, List.foldl_nil]
    omega

theorem readFraction?_lt {n : Nat} {cs rest : List Char}
    (h : readFraction? cs = some (n, rest)) : n < 1000000000 := by
  unfold readFraction? at h
  split at h
  · obtain ⟨⟨digits, after⟩, hdigits, h⟩ := Option.bind_eq_some_iff.mp h
    obtain ⟨rfl, -⟩ := Prod.mk.inj (Option.some.inj h)
    obtain ⟨hlength, hall⟩ := digits?_spec hdigits
    calc numberOf digits * 10 ^ (9 - digits.length)
        < 10 ^ digits.length * 10 ^ (9 - digits.length) :=
          Nat.mul_lt_mul_of_pos_right (numberOf_lt hall) (by positivity)
      _ = 10 ^ 9 := by rw [← pow_add, Nat.add_sub_cancel' hlength]
  · obtain ⟨rfl, -⟩ := Prod.mk.inj (Option.some.inj h)
    decide

/-- What one item reads stays in range. -/
theorem Item.read?_inRange {item : Item} {r next : Reading} {cs rest : List Char} (hr : r.InRange)
    (h : item.read? r cs = some (next, rest)) : next.InRange := by
  cases item with
  | year | month | day =>
    obtain ⟨⟨n, after⟩, -, heq⟩ := Option.map_eq_some_iff.mp h
    obtain ⟨rfl, -⟩ := Prod.mk.inj heq
    exact ⟨hr.hour, hr.minute, hr.second, hr.nano⟩
  | hour =>
    obtain ⟨⟨n, after⟩, hread, heq⟩ := Option.map_eq_some_iff.mp h
    obtain ⟨rfl, -⟩ := Prod.mk.inj heq
    exact ⟨readTwo?_range hread, hr.minute, hr.second, hr.nano⟩
  | minute =>
    obtain ⟨⟨n, after⟩, hread, heq⟩ := Option.map_eq_some_iff.mp h
    obtain ⟨rfl, -⟩ := Prod.mk.inj heq
    exact ⟨hr.hour, readTwo?_range hread, hr.second, hr.nano⟩
  | second =>
    obtain ⟨⟨n, after⟩, hread, heq⟩ := Option.map_eq_some_iff.mp h
    obtain ⟨rfl, -⟩ := Prod.mk.inj heq
    exact ⟨hr.hour, hr.minute, readTwo?_range hread, hr.nano⟩
  | fraction =>
    obtain ⟨⟨n, after⟩, hread, heq⟩ := Option.map_eq_some_iff.mp h
    obtain ⟨rfl, -⟩ := Prod.mk.inj heq
    exact ⟨hr.hour, hr.minute, hr.second, readFraction?_lt hread⟩
  | space =>
    obtain ⟨rfl, -⟩ := Prod.mk.inj (Option.some.inj h)
    exact hr
  | mark c =>
    cases cs with
    | nil => exact absurd h (by simp [Item.read?])
    | cons d after =>
      have hmark : (if c = d then some (r, after) else none) = some (next, rest) := h
      split_ifs at hmark
      obtain ⟨rfl, -⟩ := Prod.mk.inj (Option.some.inj hmark)
      exact hr

theorem readItems?_inRange {items : List Item} {r last : Reading} {cs : List Char} (hr : r.InRange)
    (h : readItems? r cs items = some last) : last.InRange := by
  induction items generalizing r cs with
  | nil =>
    unfold readItems? at h
    split_ifs at h
    exact Option.some.inj h ▸ hr
  | cons item rest ih =>
    obtain ⟨⟨next, after⟩, hread, hrest⟩ := Option.bind_eq_some_iff.mp h
    exact ih (item.read?_inRange hr hread) hrest

theorem Reading.InRange.timestamp?_valid {r : Reading} (hr : r.InRange) {t : Timestamp}
    (h : r.timestamp? = some t) : t.Valid := by
  obtain ⟨day, -, h⟩ := Option.bind_eq_some_iff.mp h
  obtain ⟨hhour, hminute, hsecond, hnano⟩ := hr
  by_cases hleap : r.second = 60
  · rw [if_pos hleap] at h
    obtain rfl := Option.some.inj h
    exact ⟨by dsimp only; omega, fun _ ↦ by dsimp only; omega⟩
  · rw [if_neg hleap] at h
    obtain rfl := Option.some.inj h
    refine ⟨by dsimp only; omega, fun hin ↦ ?_⟩
    simp only [Timestamp.inLeapSecond, decide_eq_true_eq] at hin
    omega

/-- Whatever the layout, a time that is read is valid. -/
theorem parse?_valid {layout : List Item} {text : String} {t : Timestamp}
    (h : parse? layout text = some t) : t.Valid := by
  obtain ⟨r, hread, ht⟩ := Option.bind_eq_some_iff.mp h
  have hstart : Reading.InRange {} := ⟨by decide, by decide, by decide, by decide⟩
  exact (readItems?_inRange hstart hread).timestamp?_valid ht

end DiagramMigrations.Calendar
