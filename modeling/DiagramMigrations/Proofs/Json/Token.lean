import DiagramMigrations.Json.Printer
import DiagramMigrations.Json.Token
import DiagramMigrations.Proofs.Json.Number
import Mathlib.Tactic.IntervalCases

/-!
The tokens of a printed value. The machine that finds tokens passes over the white space, takes
texts and numbers apart as they were put together, and is between two tokens after each value.
-/

set_option autoImplicit false
set_option relaxedAutoImplicit false

namespace DiagramMigrations.Json

open Mode

mutual

/-- The tokens of a value. -/
def tokenList : Json → List Token
  | .null => [.null]
  | .boolean value => [.boolean value]
  | .number value => [.number value.spelling]
  | .text value => [.text (.ok value)]
  | .array [] => [.openArray, .closeArray]
  | .array (item :: rest) => .openArray :: tokenList item ++ itemTokens rest ++ [.closeArray]
  | .object [] => [.openObject, .closeObject]
  | .object ((key, value) :: rest) =>
    .openObject :: .text (.ok key) :: .colon :: tokenList value ++ memberTokens rest ++
      [.closeObject]

/-- The tokens of the elements after the first. -/
def itemTokens : List Json → List Token
  | [] => []
  | item :: rest => .comma :: tokenList item ++ itemTokens rest

/-- The tokens of the members after the first. -/
def memberTokens : List (String × Json) → List Token
  | [] => []
  | (key, value) :: rest =>
    .comma :: .text (.ok key) :: .colon :: tokenList value ++ memberTokens rest

end

theorem tokensFrom_cons (mode : Mode) (c : Char) (rest : List Char) :
    tokensFrom mode (c :: rest) = (mode.step c).1 ++ tokensFrom (mode.step c).2 rest := rfl

/-! ### White space, marks and words -/

theorem tokensFrom_blanks (count : Nat) (rest : List Char) :
    tokensFrom between (List.replicate count ' ' ++ rest) = tokensFrom between rest := by
  induction count with
  | zero => rfl
  | succ count ih => exact ih

@[simp] theorem tokensFrom_lineStart (level : Nat) (rest : List Char) :
    tokensFrom between (lineStart level ++ rest) = tokensFrom between rest :=
  tokensFrom_blanks (2 * level) rest

theorem tokensFrom_comma (rest : List Char) :
    tokensFrom between (',' :: rest) = .comma :: tokensFrom between rest := rfl

theorem tokensFrom_colon (rest : List Char) :
    tokensFrom between (':' :: ' ' :: rest) = .colon :: tokensFrom between rest := rfl

theorem tokensFrom_brackets (rest : List Char) :
    tokensFrom between ('[' :: rest) = .openArray :: tokensFrom between rest ∧
      tokensFrom between (']' :: rest) = .closeArray :: tokensFrom between rest :=
  ⟨rfl, rfl⟩

theorem tokensFrom_braces (rest : List Char) :
    tokensFrom between ('\x7b' :: rest) = .openObject :: tokensFrom between rest ∧
      tokensFrom between ('\x7d' :: rest) = .closeObject :: tokensFrom between rest :=
  ⟨rfl, rfl⟩

theorem tokensFrom_null (rest : List Char) :
    tokensFrom between ("null".toList ++ rest) = .null :: tokensFrom between rest := rfl

theorem tokensFrom_boolean (value : Bool) (level : Nat) (rest : List Char) :
    tokensFrom between (pretty level (.boolean value) ++ rest) =
      .boolean value :: tokensFrom between rest := by
  cases value <;> rfl

/-! ### Texts -/

/-- The scan of a text of which characters have been kept and nothing is pending. -/
def TextScan.plain (kept : List Char) : TextScan := ⟨.ok kept, none, none⟩

theorem escapeChar_of_plain {c : Char} (hquote : c ≠ '"') (hbackslash : c ≠ '\\')
    (hcontrol : ¬ c.toNat < 32) : escapeChar c = [c] := by
  have hne : ∀ d : Char, d.toNat < 32 → c ≠ d := fun d hd heq ↦ hcontrol (heq ▸ hd)
  rw [escapeChar, if_neg hquote, if_neg hbackslash, if_neg (hne _ (by decide)),
    if_neg (hne _ (by decide)), if_neg (hne _ (by decide)), if_neg (hne _ (by decide)),
    if_neg (hne _ (by decide)), if_neg hcontrol]

theorem TextScan.step_plain {c : Char} (kept : List Char) (hquote : c ≠ '"')
    (hbackslash : c ≠ '\\') (hcontrol : ¬ c.toNat < 32) :
    (plain kept).step c = .inl (plain (c :: kept)) := by
  change (if c = '"' then _ else if c = '\\' then _ else if c.toNat < 32 then _ else _) = _
  rw [if_neg hquote, if_neg hbackslash, if_neg hcontrol]
  rfl

/-- A character is read back from the way it is written. -/
theorem tokensFrom_escapeChar (kept : List Char) (c : Char) (rest : List Char) :
    tokensFrom (.text (.plain kept)) (escapeChar c ++ rest) =
      tokensFrom (.text (.plain (c :: kept))) rest := by
  by_cases hquote : c = '"'
  · subst hquote
    rfl
  by_cases hbackslash : c = '\\'
  · subst hbackslash
    rfl
  by_cases hcontrol : c.toNat < 32
  · -- a control character is one of thirty-two, each with an escape of its own
    rw [← Char.ofNat_toNat c]
    generalize c.toNat = n at hcontrol
    interval_cases n <;> rfl
  · rw [escapeChar_of_plain hquote hbackslash hcontrol, List.singleton_append, tokensFrom_cons,
      Mode.step, TextScan.step_plain kept hquote hbackslash hcontrol]
    rfl

theorem tokensFrom_escaped (cs kept rest : List Char) :
    tokensFrom (.text (.plain kept)) (cs.flatMap escapeChar ++ '"' :: rest) =
      .text (.ok (String.ofList (kept.reverse ++ cs))) :: tokensFrom between rest := by
  induction cs generalizing kept with
  | nil =>
    rw [List.append_nil]
    rfl
  | cons c cs ih =>
    rw [List.flatMap_cons, List.append_assoc, tokensFrom_escapeChar, ih, List.reverse_cons,
      List.append_assoc, List.singleton_append]

theorem tokensFrom_quoted (s : String) (rest : List Char) :
    tokensFrom between (quoted s ++ rest) = .text (.ok s) :: tokensFrom between rest := by
  have htext := tokensFrom_escaped s.toList [] rest
  rw [List.reverse_nil, List.nil_append, String.ofList_toList] at htext
  rw [quoted, List.cons_append, List.cons_append, List.append_assoc]
  exact htext

/-! ### Numbers -/

/-- Whether a text that follows a value keeps apart from it: it is empty, or starts with a comma or
a line break. -/
def Apart : List Char → Prop
  | [] => True
  | c :: _ => c = ',' ∨ c = '\n'

/-- A number that may end is complete where something else begins. -/
theorem tokensFrom_number {s : NumberScan} (hphase : s.phase = .zero ∨ s.phase = .whole ∨
    s.phase = .fraction) {rest : List Char} (hrest : Apart rest) :
    tokensFrom (.number s) rest = s.close :: tokensFrom between rest := by
  obtain ⟨phase, spelling⟩ := s
  cases rest with
  | nil => rcases hphase with rfl | rfl | rfl <;> rfl
  | cons c rest => rcases hphase with rfl | rfl | rfl <;> rcases hrest with rfl | rfl <;> rfl

theorem NumberScan.step_whole {c : Char} (hc : c.isDigit) (negative : Bool) (whole : List Nat) :
    step ⟨.whole, ⟨negative, whole, none, none⟩⟩ c =
      .inl ⟨.whole, ⟨negative, (c.toNat - 48) :: whole, none, none⟩⟩ := by
  have hdigit : '0' ≤ c ∧ c ≤ '9' := by
    simpa [Char.isDigit, Char.le_def] using hc
  rw [step, if_pos hdigit]
  rfl

/-- The digits of a whole number are taken in. -/
theorem tokensFrom_digits {cs : List Char} (hcs : ∀ c ∈ cs, c.isDigit) (negative : Bool)
    (whole : List Nat) (rest : List Char) :
    tokensFrom (.number ⟨.whole, ⟨negative, whole, none, none⟩⟩) (cs ++ rest) =
      tokensFrom (.number ⟨.whole,
        ⟨negative, (cs.map fun c ↦ c.toNat - 48).reverse ++ whole, none, none⟩⟩) rest := by
  induction cs generalizing whole with
  | nil => rfl
  | cons c cs ih =>
    obtain ⟨hc, hcs⟩ := List.forall_mem_cons.mp hcs
    rw [List.cons_append, tokensFrom_cons, Mode.step, NumberScan.step_whole hc]
    dsimp only
    rw [List.nil_append, ih hcs, List.map_cons, List.reverse_cons, List.append_assoc,
      List.singleton_append]

/-- A positive number starts with a digit other than zero. -/
theorem toDigits_eq_cons {n : Nat} (hn : 0 < n) : ∃ d cs, 1 ≤ d ∧ d < 10 ∧
    Nat.toDigits 10 n = Nat.digitChar d :: cs := by
  induction n using Nat.strongRecOn with
  | _ n ih =>
    by_cases hsmall : n < 10
    · exact ⟨n, [], hn, hsmall, Nat.toDigits_of_lt_base hsmall⟩
    · obtain ⟨d, cs, hd, hlt, heq⟩ := ih (n / 10) (by omega) (by omega)
      refine ⟨d, cs ++ [Nat.digitChar (n % 10)], hd, hlt, ?_⟩
      rw [Nat.toDigits_of_base_le (by decide) (by omega), heq, List.cons_append]

/-- The digits of a positive number, after its sign if it has one. -/
theorem tokensFrom_toDigits {n : Nat} (hn : 0 < n) {rest : List Char} (hrest : Apart rest) :
    tokensFrom between (Nat.toDigits 10 n ++ rest) =
        .number ⟨false, Number.digits n, none, none⟩ :: tokensFrom between rest ∧
      tokensFrom between ('-' :: Nat.toDigits 10 n ++ rest) =
        .number ⟨true, Number.digits n, none, none⟩ :: tokensFrom between rest := by
  obtain ⟨d, cs, hd, hlt, heq⟩ := toDigits_eq_cons hn
  have hcs : ∀ c ∈ cs, c.isDigit := fun c hc ↦
    Nat.isDigit_of_mem_toDigits (by decide) (by decide) (heq ▸ List.mem_cons_of_mem _ hc)
  have hfirst : (between.step (Nat.digitChar d) =
        ([], .number ⟨.whole, ⟨false, [(Nat.digitChar d).toNat - 48], none, none⟩⟩)) ∧
      (Mode.number .negative).step (Nat.digitChar d) =
        ([], .number ⟨.whole, ⟨true, [(Nat.digitChar d).toNat - 48], none, none⟩⟩) := by
    interval_cases d <;> exact ⟨rfl, rfl⟩
  have hclose : ∀ negative : Bool, NumberScan.close ⟨.whole, ⟨negative,
      (cs.map fun c ↦ c.toNat - 48).reverse ++ [(Nat.digitChar d).toNat - 48], none, none⟩⟩ =
      .number ⟨negative, Number.digits n, none, none⟩ := by
    intro negative
    rw [Number.digits, heq, List.map_cons, NumberScan.close]
    simp
  constructor
  · rw [heq, List.cons_append, tokensFrom_cons, hfirst.1, List.nil_append,
      tokensFrom_digits hcs, tokensFrom_number (Or.inr (Or.inl rfl)) hrest, hclose]
  · rw [heq, List.cons_append, List.cons_append, tokensFrom_cons]
    change tokensFrom (.number .negative) _ = _
    rw [tokensFrom_cons, hfirst.2, List.nil_append, tokensFrom_digits hcs,
      tokensFrom_number (Or.inr (Or.inl rfl)) hrest, hclose]

/-- A number is read back from its text, in parts. -/
theorem tokensFrom_numberText {n : Number} (hn : n.IsWord) {rest : List Char}
    (hrest : Apart rest) :
    tokensFrom between (n.text.toList ++ rest) =
      .number n.spelling :: tokensFrom between rest := by
  cases n with
  | float value =>
    obtain rfl : value = Number.negativeZero := hn
    have htext : (Number.float Number.negativeZero).text = "-0.0" := by decide
    rw [htext]
    exact tokensFrom_number (Or.inr (Or.inr rfl)) hrest
  | integer value =>
    cases value with
    | ofNat n =>
      have htext : (Number.integer (.ofNat n)).text.toList = Nat.toDigits 10 n := Nat.toList_repr
      have hspelling : (Number.integer (.ofNat n)).spelling =
          ⟨false, Number.digits n, none, none⟩ := rfl
      rw [htext, hspelling]
      rcases Nat.eq_zero_or_pos n with rfl | hpos
      · exact tokensFrom_number (Or.inl rfl) hrest
      · exact (tokensFrom_toDigits hpos hrest).1
    | negSucc n =>
      have htext : (Number.integer (.negSucc n)).text.toList = '-' :: Nat.toDigits 10 (n + 1) := by
        change ("-" ++ (n + 1).repr).toList = _
        rw [String.toList_append, Nat.toList_repr]
        rfl
      have hspelling : (Number.integer (.negSucc n)).spelling =
          ⟨true, Number.digits (n + 1), none, none⟩ := by
        rw [Number.spelling, decide_eq_true (Int.negSucc_lt_zero n), Int.natAbs_negSucc]
      rw [htext, hspelling]
      exact (tokensFrom_toDigits n.succ_pos hrest).2

/-! ### Values -/

/-- Whether a printed value is read as its tokens, wherever it stands. -/
def Lexes (v : Json) : Prop :=
  ∀ level rest, Apart rest →
    tokensFrom between (pretty level v ++ rest) = tokenList v ++ tokensFrom between rest

theorem apart_lineStart (level : Nat) (rest : List Char) : Apart (lineStart level ++ rest) :=
  Or.inr rfl

theorem apart_prettyItems (level : Nat) (items : List Json) {rest : List Char}
    (hrest : Apart rest) : Apart (prettyItems level items ++ rest) := by
  cases items with
  | nil => exact hrest
  | cons item items => exact Or.inl rfl

theorem apart_prettyMembers (level : Nat) (members : List (String × Json)) {rest : List Char}
    (hrest : Apart rest) : Apart (prettyMembers level members ++ rest) := by
  cases members with
  | nil => exact hrest
  | cons m members => exact Or.inl rfl

theorem tokensFrom_prettyItems {items : List Json} (h : ∀ item ∈ items, Lexes item) (level : Nat)
    {rest : List Char} (hrest : Apart rest) :
    tokensFrom between (prettyItems level items ++ rest) =
      itemTokens items ++ tokensFrom between rest := by
  induction items with
  | nil => rfl
  | cons item items ih =>
    obtain ⟨hitem, hitems⟩ := List.forall_mem_cons.mp h
    rw [prettyItems, itemTokens]
    simp only [List.cons_append, List.append_assoc]
    rw [tokensFrom_comma, tokensFrom_lineStart,
      hitem level _ (apart_prettyItems level items hrest), ih hitems]

theorem tokensFrom_prettyMembers {members : List (String × Json)} (h : ∀ m ∈ members, Lexes m.2)
    (level : Nat) {rest : List Char} (hrest : Apart rest) :
    tokensFrom between (prettyMembers level members ++ rest) =
      memberTokens members ++ tokensFrom between rest := by
  induction members with
  | nil => rfl
  | cons m members ih =>
    obtain ⟨key, value⟩ := m
    obtain ⟨hvalue, hmembers⟩ := List.forall_mem_cons.mp h
    rw [prettyMembers, memberTokens]
    simp only [List.cons_append, List.append_assoc, List.nil_append]
    rw [tokensFrom_comma, tokensFrom_lineStart, tokensFrom_quoted, tokensFrom_colon,
      hvalue level _ (apart_prettyMembers level members hrest), ih hmembers]

/-- A printed value is read as its tokens. -/
theorem lexes {v : Json} (hv : v.HasWords) : Lexes v := by
  induction v using induction with
  | null => exact fun level rest _ ↦ tokensFrom_null rest
  | boolean value => exact fun level rest _ ↦ tokensFrom_boolean value level rest
  | number n => exact fun level rest hrest ↦ tokensFrom_numberText (hasWords_number.mp hv) hrest
  | text s => exact fun level rest _ ↦ tokensFrom_quoted s rest
  | array items ih =>
    intro level rest _
    cases items with
    | nil => rfl
    | cons item items =>
      have hlexes : ∀ x ∈ item :: items, Lexes x := fun x hx ↦ ih x hx (hasWords_array.mp hv x hx)
      obtain ⟨hitem, hitems⟩ := List.forall_mem_cons.mp hlexes
      rw [pretty, tokenList]
      simp only [List.cons_append, List.append_assoc, List.nil_append]
      rw [(tokensFrom_brackets _).1, tokensFrom_lineStart,
        hitem _ _ (apart_prettyItems _ _ (apart_lineStart _ _)),
        tokensFrom_prettyItems hitems _ (apart_lineStart _ _), tokensFrom_lineStart,
        (tokensFrom_brackets _).2]
  | object members ih =>
    intro level rest _
    cases members with
    | nil => rfl
    | cons m members =>
      obtain ⟨key, value⟩ := m
      have hlexes : ∀ x ∈ (key, value) :: members, Lexes x.2 :=
        fun x hx ↦ ih x hx (hasWords_object.mp hv x hx)
      obtain ⟨hvalue, hmembers⟩ := List.forall_mem_cons.mp hlexes
      rw [pretty, tokenList]
      simp only [List.cons_append, List.append_assoc, List.nil_append]
      rw [(tokensFrom_braces _).1, tokensFrom_lineStart, tokensFrom_quoted, tokensFrom_colon,
        hvalue _ _ (apart_prettyMembers _ _ (apart_lineStart _ _)),
        tokensFrom_prettyMembers hmembers _ (apart_lineStart _ _), tokensFrom_lineStart,
        (tokensFrom_braces _).2]

/-- The tokens of the text of a value. -/
theorem tokens_render {v : Json} (hv : v.HasWords) : tokens v.render.toList = tokenList v := by
  have htokens := lexes hv 0 [] trivial
  rw [List.append_nil] at htokens
  rw [tokens, render, String.toList_ofList, htokens]
  exact List.append_nil _

end DiagramMigrations.Json
