import DiagramMigrations.Proofs.Calendar.Date
import DiagramMigrations.Proofs.Calendar.Digits
import Mathlib

/-!
The tokens of times. In the years of four digits a token is a row of digits of fixed widths, so that
the tokens of the seconds after a time sort as the seconds do.
-/

set_option autoImplicit false
set_option relaxedAutoImplicit false

namespace DiagramMigrations.Timestamp

open Calendar Text

/-- A time of a day that a clock shows: a leap second follows the last second of a minute. -/
structure Valid (t : Timestamp) : Prop where
  second_lt : t.second < 86400
  leap : t.inLeapSecond → t.second % 60 = 59

/-- The year of a time. -/
def year (t : Timestamp) : Int :=
  (dateOf t.day).1

/-- Whether the year of a time has four digits. -/
def HasPlainYear (t : Timestamp) : Prop :=
  0 ≤ t.year ∧ t.year ≤ 9999

/-- The order of the times that clocks show, by date and time of day. -/
def Earlier (s t : Timestamp) : Prop :=
  s.day < t.day ∨ s.day = t.day ∧
    (s.second / 3600 < t.second / 3600 ∨ s.second / 3600 = t.second / 3600 ∧
      (s.second / 60 % 60 < t.second / 60 % 60 ∨ s.second / 60 % 60 = t.second / 60 % 60 ∧
        s.shownSecond < t.shownSecond))

variable {s t : Timestamp}

/-- The token of a time from the month on, after which other bytes may follow. -/
def bytesFromMonth (t : Timestamp) (rest : List UInt8) : List UInt8 :=
  95 :: (digitBytes 2 (dateOf t.day).2.1 ++
    (95 :: (digitBytes 2 (dateOf t.day).2.2 ++ (95 :: (digitBytes 2 (t.second / 3600) ++
      (digitBytes 2 (t.second / 60 % 60) ++ (digitBytes 2 t.shownSecond ++ rest)))))))

/-- The token of a time, after which other bytes may follow. -/
def tokenBytes (t : Timestamp) (rest : List UInt8) : List UInt8 :=
  digitBytes 4 t.year.toNat ++ (95 :: (digitBytes 2 (dateOf t.day).2.1 ++
    (95 :: (digitBytes 2 (dateOf t.day).2.2 ++ (95 :: (digitBytes 2 (t.second / 3600) ++
      (digitBytes 2 (t.second / 60 % 60) ++ (digitBytes 2 t.shownSecond ++ rest))))))))

theorem shownSecond_le (t : Timestamp) : t.shownSecond ≤ 60 := by
  unfold shownSecond
  split_ifs <;> omega

/-- Whatever the year, digits of fixed widths follow it. -/
theorem bytes_token_append (hsecond : t.second < 86400) (rest : String) :
    bytes (t.token ++ rest) = bytes (yearText t.year) ++ t.bytesFromMonth (bytes rest) := by
  obtain ⟨hmonth, hday⟩ := dateOf_bounds t.day
  have htwo {n : Nat} (hn : n ≤ 60) : n < 10 ^ 2 := by omega
  have hbar : bytes "_" = [95] := by decide
  simp only [token, bytesFromMonth, bytes_append, List.append_assoc]
  change bytes (yearText t.year) ++ _ = _
  rw [hbar, bytes_padded (by decide) (htwo (hmonth.trans (by decide))),
    bytes_padded (by decide) (htwo (hday.trans (by decide))),
    bytes_padded (by decide) (htwo (by omega)), bytes_padded (by decide) (htwo (by omega)),
    bytes_padded (by decide) (htwo t.shownSecond_le)]
  rfl

theorem bytes_token (hsecond : t.second < 86400) (hyear : t.HasPlainYear) (rest : String) :
    bytes (t.token ++ rest) = t.tokenBytes (bytes rest) := by
  have hfour : t.year.toNat < 10 ^ 4 := by
    have hle := hyear.2
    omega
  have htext : yearText t.year = padded 4 t.year.toNat := if_pos hyear
  rw [bytes_token_append hsecond, htext, bytes_padded (by decide) hfour]
  rfl

/-- A number that comes first decides, and otherwise what follows. -/
theorem digitBytes_append_lt {width m n : Nat} {x y : List UInt8} (hn : n < 10 ^ width)
    (h : m < n ∨ m = n ∧ x < y) : digitBytes width m ++ x < digitBytes width n ++ y := by
  rcases h with hlt | ⟨rfl, hrest⟩
  · exact append_lt_append (by simp) (digitBytes_lt hlt hn)
  · exact List.append_left_lt hrest

theorem bar_lt_bar {x y : List UInt8} (h : x < y) : 95 :: x < 95 :: y :=
  List.cons_lt_cons_iff.mpr (Or.inr ⟨rfl, h⟩)

/-- Within a year, earlier times have smaller tokens, whatever follows the tokens. -/
theorem bytesFromMonth_lt (hsecond : t.second < 86400) (hyear : s.year = t.year)
    (h : s.Earlier t) (x y : List UInt8) : s.bytesFromMonth x < t.bytesFromMonth y := by
  obtain ⟨hmonth, hday⟩ := dateOf_bounds t.day
  have hshown := t.shownSecond_le
  refine bar_lt_bar ?_
  rcases h with hless | ⟨hsame, htime⟩
  · rcases dateOf_lt hless with hy | ⟨-, hm | ⟨hm, hd⟩⟩
    · exact absurd hyear hy.ne
    · exact digitBytes_append_lt (by omega) (Or.inl hm)
    · refine digitBytes_append_lt (by omega) (Or.inr ⟨hm, bar_lt_bar ?_⟩)
      exact digitBytes_append_lt (by omega) (Or.inl hd)
  · rw [hsame]
    refine digitBytes_append_lt (by omega) (Or.inr ⟨rfl, bar_lt_bar ?_⟩)
    refine digitBytes_append_lt (by omega) (Or.inr ⟨rfl, bar_lt_bar ?_⟩)
    refine digitBytes_append_lt (by omega) ?_
    rcases htime with hhour | ⟨hhour, hminute | ⟨hminute, hclock⟩⟩
    · exact Or.inl hhour
    · exact Or.inr ⟨hhour, digitBytes_append_lt (by omega) (Or.inl hminute)⟩
    · refine Or.inr ⟨hhour, digitBytes_append_lt (by omega) (Or.inr ⟨hminute, ?_⟩)⟩
      exact digitBytes_append_lt (by omega) (Or.inl hclock)

theorem Earlier.day_le (h : s.Earlier t) : s.day ≤ t.day := by
  rcases h with hless | ⟨hsame, -⟩
  · exact hless.le
  · exact hsame.le

/-- Earlier times have smaller tokens, whatever follows the tokens. -/
theorem tokenBytes_lt (hsecond : t.second < 86400) (hs : s.HasPlainYear) (hyear : t.HasPlainYear)
    (h : s.Earlier t) (x y : List UInt8) : s.tokenBytes x < t.tokenBytes y := by
  have hfour : t.year.toNat < 10 ^ 4 := by
    have hle := hyear.2
    omega
  refine digitBytes_append_lt hfour ?_
  have hyears : s.year ≤ t.year := yearOf_le h.day_le
  rcases Int.le_iff_lt_or_eq.mp hyears with hless | hsame
  · have hpositive := hs.1
    exact Or.inl (by omega)
  · exact Or.inr ⟨congrArg Int.toNat hsame, bytesFromMonth_lt hsecond hsame h x y⟩

/-! ### The characters of tokens -/

theorem of_mem_padded {width n : Nat} {d : Char} (h : d ∈ (padded width n).toList) :
    d.isDigit = true := by
  rw [padded, String.toList_ofList] at h
  rcases List.mem_append.mp h with hzero | hdigit
  · rw [List.eq_of_mem_replicate hzero]
    decide
  · exact Nat.isDigit_of_mem_toDigits (by decide) (by decide) hdigit

theorem of_mem_yearText {year : Int} {d : Char} (h : d ∈ (yearText year).toList) :
    d.isDigit = true ∨ d ∈ ['+', '-'] := by
  unfold yearText at h
  split_ifs at h
  · exact Or.inl (of_mem_padded h)
  all_goals
    rw [String.toList_append, List.mem_append] at h
    rcases h with hsign | hdigit
    · rw [List.mem_singleton.mp hsign]
      exact Or.inr (by decide)
    · exact Or.inl (of_mem_padded hdigit)

/-- A token is made of digits and underscores, and a sign if its year has not four digits. -/
theorem of_mem_token {d : Char} (h : d ∈ t.token.toList) :
    d.isDigit = true ∨ d ∈ ['_', '+', '-'] := by
  simp only [token, String.toList_append, List.mem_append] at h
  have hbar (hd : d ∈ ("_" : String).toList) : d.isDigit = true ∨ d ∈ ['_', '+', '-'] := by
    rw [List.mem_singleton.mp hd]
    exact Or.inr (by decide)
  have hnumber {width n : Nat} (hd : d ∈ (padded width n).toList) :
      d.isDigit = true ∨ d ∈ ['_', '+', '-'] := Or.inl (of_mem_padded hd)
  have hyear (hd : d ∈ (yearText (dateOf t.day).1).toList) :
      d.isDigit = true ∨ d ∈ ['_', '+', '-'] :=
    (of_mem_yearText hd).imp_right (List.mem_cons_of_mem _)
  grind

/-! ### The seconds after a time -/

variable {start last : Timestamp} {i j n : Nat}

/-- What comes a number of seconds later, and that it is no leap second. -/
theorem addSeconds?_eq_some (hn : 0 < n) (h : start.addSeconds? n = some t) :
    t.day = start.day + ((start.second + n) / 86400 : Nat) ∧
      t.second = (start.second + n) % 86400 ∧ ¬ t.inLeapSecond ∧
        t.day < yearStart (lastYear + 1) := by
  unfold addSeconds? at h
  rw [if_neg hn.ne'] at h
  dsimp only at h
  split_ifs at h with hbound
  obtain rfl := Option.some.inj h
  refine ⟨rfl, rfl, ?_, hbound⟩
  simp only [inLeapSecond, decide_eq_true_eq]
  omega

theorem addSeconds?_second_lt (hsecond : start.second < 86400)
    (h : start.addSeconds? n = some t) : t.second < 86400 := by
  rcases Nat.eq_zero_or_pos n with rfl | hn
  · exact Option.some.inj h ▸ hsecond
  · rw [(addSeconds?_eq_some hn h).2.1]
    exact Nat.mod_lt _ (by decide)

/-- Of two numbers of seconds, the smaller one leads to the earlier time. What is a leap second
already need be one that a clock shows only if it is the earlier time itself. -/
theorem addSeconds?_earlier (hsecond : start.second < 86400) (hclock : i = 0 → start.Valid)
    (hij : i < j) (hs : start.addSeconds? i = some s) (ht : start.addSeconds? j = some t) :
    s.Earlier t := by
  obtain ⟨htday, htsecond, htleap, -⟩ := addSeconds?_eq_some (Nat.zero_lt_of_lt hij) ht
  have htshown : t.shownSecond = t.second % 60 := by rw [shownSecond, if_neg htleap, add_zero]
  unfold Earlier
  rcases Nat.eq_zero_or_pos i with rfl | hi
  · obtain rfl := Option.some.inj hs
    have hshown : start.shownSecond = start.second % 60 ∨
        start.shownSecond = start.second % 60 + 1 ∧ start.second % 60 = 59 := by
      unfold shownSecond
      split_ifs with hleap
      · exact Or.inr ⟨rfl, (hclock rfl).leap hleap⟩
      · exact Or.inl rfl
    omega
  · obtain ⟨hsday, hssecond, hsleap, -⟩ := addSeconds?_eq_some hi hs
    have hsshown : s.shownSecond = s.second % 60 := by rw [shownSecond, if_neg hsleap, add_zero]
    omega

/-- The times up to the last one are told, and their days lie between. -/
theorem addSeconds?_between (hin : i ≤ n) (hlast : start.addSeconds? n = some last) :
    ∃ t, start.addSeconds? i = some t ∧ start.day ≤ t.day ∧ t.day ≤ last.day := by
  rcases Nat.eq_zero_or_pos n with rfl | hn
  · obtain rfl := Nat.le_zero.mp hin
    obtain rfl := Option.some.inj hlast
    exact ⟨start, rfl, le_rfl, le_rfl⟩
  · obtain ⟨hday, -, -, hbound⟩ := addSeconds?_eq_some hn hlast
    have hless : (start.second + i) / 86400 ≤ (start.second + n) / 86400 :=
      Nat.div_le_div_right (by omega)
    rcases Nat.eq_zero_or_pos i with rfl | hi
    · exact ⟨start, rfl, le_rfl, by omega⟩
    · unfold addSeconds?
      rw [if_neg hi.ne']
      dsimp only
      rw [if_pos (by omega)]
      exact ⟨_, rfl, by dsimp only; omega, by dsimp only; omega⟩

/-- A time between times of plain years has a plain year. -/
theorem HasPlainYear.between (hfirst : start.HasPlainYear) (hlast : last.HasPlainYear)
    (hlow : start.day ≤ t.day) (hhigh : t.day ≤ last.day) : t.HasPlainYear :=
  ⟨hfirst.1.trans (yearOf_le hlow), (yearOf_le hhigh).trans hlast.2⟩

/-- The tokens of the seconds after a time are strictly ascending, whatever follows them. -/
theorem token_ascending (hsecond : start.second < 86400) (hclock : i = 0 → start.Valid)
    (hfirst : start.HasPlainYear) (hlast : start.addSeconds? n = some last)
    (hlastYear : last.HasPlainYear) (hij : i < j) (hjn : j ≤ n) (x y : String) :
    bytes (((start.addSeconds? i).getD start).token ++ x) <
      bytes (((start.addSeconds? j).getD start).token ++ y) := by
  obtain ⟨s, hs, hslow, hshigh⟩ := addSeconds?_between (hij.le.trans hjn) hlast
  obtain ⟨t, ht, htlow, hthigh⟩ := addSeconds?_between hjn hlast
  have hsYear := hfirst.between hlastYear hslow hshigh
  have htYear := hfirst.between hlastYear htlow hthigh
  have htSecond := addSeconds?_second_lt hsecond ht
  rw [hs, ht, Option.getD_some, Option.getD_some, bytes_token (addSeconds?_second_lt hsecond hs)
    hsYear, bytes_token htSecond htYear]
  exact tokenBytes_lt htSecond hsYear htYear (addSeconds?_earlier hsecond hclock hij hs ht) _ _

end DiagramMigrations.Timestamp
