import DiagramMigrations.Json.Fault
import DiagramMigrations.Json.Number

/-!
The tokens of a JSON text, found by a machine that reads one character at a time. The list ends
where the text ends or goes wrong; a token that is cut short says how.
-/

set_option autoImplicit false
set_option relaxedAutoImplicit false

namespace DiagramMigrations.Json

/-- A token. A text holds its value or the fault that keeps it from having one; `cut` is any other
token that goes wrong, and `stray` a character that starts none. -/
inductive Token
  | openArray
  | closeArray
  | openObject
  | closeObject
  | comma
  | colon
  | null
  | boolean (value : Bool)
  | number (spelling : Spelling)
  | text (value : Except Break String)
  | cut (place : Break)
  | stray
  deriving Repr

/-- A text while it is read: the characters so far in reverse order, or the first fault; a leading
surrogate that waits for its second half; and whether an escape is being read. -/
structure TextScan where
  kept : Except Fault (List Char)
  lead : Option Nat
  escape : Option (Option (Nat × Option Nat))
  deriving Repr

namespace TextScan

/-- The scan of a text right after its opening quote. -/
def start : TextScan := ⟨.ok [], none, none⟩

/-- Keeps a character. -/
def keep (s : TextScan) (c : Char) : TextScan :=
  { s with kept := s.kept.map (c :: ·), lead := none, escape := none }

/-- Notes a fault, unless there is one already, and goes on. -/
def fail (s : TextScan) (fault : Fault) : TextScan :=
  { s with kept := s.kept.bind fun _ ↦ .error fault, lead := none, escape := none }

/-- The fault a reader meets where the text goes wrong for everyone. -/
def firstFault (s : TextScan) (fault : Fault) : Fault :=
  match s.kept with
  | .ok _ => fault
  | .error earlier => earlier

/-- A text that goes wrong for everyone. -/
def cut (s : TextScan) (fault : Fault) : Token :=
  .text (.error ⟨s.firstFault fault, some fault⟩)

/-- The token of a text that has ended. -/
def close (s : TextScan) : Token :=
  let s := if s.lead.isSome then s.fail .unfinishedPair else s
  match s.kept with
  | .ok cs => .text (.ok (String.ofList cs.reverse))
  | .error fault => .text (.error ⟨fault, none⟩)

/-- Takes in the number of a `\u` escape: a character, or half of one. -/
def code (s : TextScan) (n : Nat) : TextScan :=
  match s.lead with
  | none =>
    if 0xDC00 ≤ n ∧ n ≤ 0xDFFF then s.fail .loneSurrogate
    else if 0xD800 ≤ n ∧ n ≤ 0xDBFF then { s with lead := some n, escape := none }
    else s.keep (Char.ofNat n)
  | some high =>
    if 0xDC00 ≤ n ∧ n ≤ 0xDFFF then
      s.keep (Char.ofNat ((high - 0xD800) * 0x400 + (n - 0xDC00) + 0x10000))
    else s.fail .loneSurrogate

end TextScan

/-- The value of a hexadecimal digit. -/
def hexValue? (c : Char) : Option Nat :=
  if '0' ≤ c ∧ c ≤ '9' then some (c.toNat - 48)
  else if 'a' ≤ c ∧ c ≤ 'f' then some (c.toNat - 87)
  else if 'A' ≤ c ∧ c ≤ 'F' then some (c.toNat - 55)
  else none

/-- The character of an escape of one letter. -/
def shortEscape? (c : Char) : Option Char :=
  match c with
  | '"' => some '"'
  | '\\' => some '\\'
  | '/' => some '/'
  | 'b' => some '\x08'
  | 'f' => some '\x0C'
  | 'n' => some '\n'
  | 'r' => some '\r'
  | 't' => some '\t'
  | _ => none

/-- One character of a text: the scan goes on, or the text ends with a token. -/
def TextScan.step (s : TextScan) (c : Char) : TextScan ⊕ Token :=
  match s.escape with
  | none =>
    if c = '"' then .inr s.close
    else if c = '\\' then .inl { s with escape := some none }
    else
      let s := if s.lead.isSome then s.fail .unfinishedPair else s
      if c.toNat < 32 then .inr (s.cut .controlCharacter) else .inl (s.keep c)
  | some none =>
    if c = 'u' then .inl { s with escape := some (some (0, some 0)) }
    else
      let s := if s.lead.isSome then s.fail .unfinishedPair else s
      match shortEscape? c with
      | some d => .inl (s.keep d)
      | none => .inr (s.cut .badEscape)
  | some (some (size, value)) =>
    let size := size + c.utf8Size
    let value := do return (← value) * 16 + (← hexValue? c)
    if size < 4 then .inl { s with escape := some (some (size, value)) }
    else
      match value with
      | some n => .inl (s.code n)
      | none => .inr (s.cut .badEscape)

/-- What has been read of a number. -/
inductive NumberPhase
  | sign
  | zero
  | whole
  | point
  | fraction
  | mark
  | markSign
  | power
  deriving DecidableEq, Repr

/-- The number in `spelling` with its digits in reverse order, as far as it is read. -/
structure NumberScan where
  phase : NumberPhase
  spelling : Spelling
  deriving DecidableEq, Repr

namespace NumberScan

/-- A number that starts with its sign. -/
def negative : NumberScan := ⟨.sign, ⟨true, [], none, none⟩⟩

/-- Adds a digit before the point. -/
def addWhole (s : NumberScan) (phase : NumberPhase) (digit : Nat) : NumberScan :=
  ⟨phase, { s.spelling with whole := digit :: s.spelling.whole }⟩

/-- Adds a digit after the point. -/
def addFraction (s : NumberScan) (digit : Nat) : NumberScan :=
  ⟨.fraction, { s.spelling with fraction := some (digit :: s.spelling.fraction.getD []) }⟩

/-- Adds a digit of the power of ten. -/
def addPower (s : NumberScan) (digit : Nat) : NumberScan :=
  let (below, digits) := s.spelling.power.getD (false, [])
  ⟨.power, { s.spelling with power := some (below, digit :: digits) }⟩

/-- Whether the number may end here. -/
def isWhole (s : NumberScan) : Bool :=
  match s.phase with
  | .zero | .whole | .fraction | .power => true
  | _ => false

/-- The number with its digits in order. -/
def close (s : NumberScan) : Token :=
  .number {
    s.spelling with
    whole := s.spelling.whole.reverse
    fraction := s.spelling.fraction.map List.reverse
    power := s.spelling.power.map fun (below, digits) ↦ (below, digits.reverse) }

/-- One character of a number: the scan goes on, the number has ended before the character, or it
goes wrong at it. -/
def step (s : NumberScan) (c : Char) : NumberScan ⊕ Token :=
  let digit := if '0' ≤ c ∧ c ≤ '9' then some (c.toNat - 48) else none
  let wrong : NumberScan ⊕ Token := .inr (.cut (.both .badNumber))
  match s.phase, digit with
  | .sign, some 0 => .inl (s.addWhole .zero 0)
  | .sign, some d => .inl (s.addWhole .whole d)
  | .zero, some _ => wrong
  | .whole, some d => .inl (s.addWhole .whole d)
  | .point, some d | .fraction, some d => .inl (s.addFraction d)
  | .mark, some d | .markSign, some d | .power, some d => .inl (s.addPower d)
  | .sign, none | .point, none | .markSign, none => wrong
  | .mark, none =>
    if c = '+' then .inl ⟨.markSign, { s.spelling with power := some (false, []) }⟩
    else if c = '-' then .inl ⟨.markSign, { s.spelling with power := some (true, []) }⟩
    else wrong
  | .power, none => .inr s.close
  | .fraction, none =>
    if c = 'e' ∨ c = 'E' then .inl ⟨.mark, s.spelling⟩ else .inr s.close
  | .zero, none | .whole, none =>
    if c = '.' then .inl ⟨.point, s.spelling⟩
    else if c = 'e' ∨ c = 'E' then .inl ⟨.mark, s.spelling⟩
    else .inr s.close

end NumberScan

/-- Where the machine stands between two characters. -/
inductive Mode
  | between
  | word (rest : List Char) (token : Token)
  | text (scan : TextScan)
  | number (scan : NumberScan)
  | failed
  deriving Repr

namespace Mode

/-- The white space of a JSON text. -/
def isSpace (c : Char) : Bool :=
  c = ' ' || c = '\n' || c = '\t' || c = '\r'

/-- The first character of a token. -/
def start (c : Char) : List Token × Mode :=
  if isSpace c then ([], between)
  else match c with
    | '[' => ([.openArray], between)
    | ']' => ([.closeArray], between)
    | '\x7b' => ([.openObject], between)
    | '\x7d' => ([.closeObject], between)
    | ',' => ([.comma], between)
    | ':' => ([.colon], between)
    | '"' => ([], text .start)
    | 'n' => ([], word ['u', 'l', 'l'] .null)
    | 't' => ([], word ['r', 'u', 'e'] (.boolean true))
    | 'f' => ([], word ['a', 'l', 's', 'e'] (.boolean false))
    | '-' => ([], number .negative)
    | '0' => ([], number ⟨.zero, ⟨false, [0], none, none⟩⟩)
    | c =>
      if '1' ≤ c ∧ c ≤ '9' then ([], number ⟨.whole, ⟨false, [c.toNat - 48], none, none⟩⟩)
      else ([.stray], failed)

/-- One character: the tokens that it completes and where the machine stands after it. -/
def step : Mode → Char → List Token × Mode
  | between, c => start c
  | failed, _ => ([], failed)
  | word (expected :: rest) token, c =>
    if c ≠ expected then ([.cut (.both .wordExpected)], failed)
    else if rest = [] then ([token], between)
    else ([], word rest token)
  | word [] _, c => start c
  | text scan, c =>
    match scan.step c with
    | .inl scan => ([], text scan)
    | .inr (.text (.error ⟨read, some skip⟩)) => ([.text (.error ⟨read, some skip⟩)], failed)
    | .inr token => ([token], between)
  | number scan, c =>
    match scan.step c with
    | .inl scan => ([], number scan)
    | .inr (.cut place) => ([.cut place], failed)
    | .inr token =>
      let (tokens, mode) := start c
      (token :: tokens, mode)

/-- The token that the end of the text completes or cuts short. -/
def finish : Mode → List Token
  | between | failed => []
  | word _ _ => [.cut (.both .endInValue)]
  | text scan => [scan.cut .endInText]
  | number scan =>
    if scan.isWhole then [scan.close] else [.cut ⟨.endInValue, some .badNumber⟩]

end Mode

/-- The tokens of a text that the machine reads from a mode. -/
def tokensFrom : Mode → List Char → List Token
  | mode, [] => mode.finish
  | mode, c :: rest =>
    let (tokens, mode) := mode.step c
    tokens ++ tokensFrom mode rest

/-- The tokens of a text. -/
def tokens (cs : List Char) : List Token :=
  tokensFrom .between cs

end DiagramMigrations.Json
