import DiagramMigrations.Json.Token
import DiagramMigrations.Json.Value

/-!
The tree of a JSON text. Every text has one: where the text goes wrong the tree breaks off, and it
says how. Whoever walks the tree in the order of the text meets the first fault first.
-/

set_option autoImplicit false
set_option relaxedAutoImplicit false

namespace DiagramMigrations.Json

/-- How a list of elements or members ends: with its bracket, with the text, at something that is
neither comma nor bracket, at a bracket or the end of the text after a comma, or at something that
is no key. -/
inductive Stop
  | closed
  | ended
  | stray
  | commaClosed
  | commaEnded
  | notKey
  deriving DecidableEq, Repr

/-- A key, or how it goes wrong. -/
abbrev Key := Except Break String

/-- A value as far as it is written. -/
inductive Tree
  | null
  | boolean (value : Bool)
  | number (spelling : Spelling)
  | text (value : Except Break String)
  | array (items : List Tree) (stop : Stop)
  | object (members : List (Key × Tree)) (stop : Stop)
  | broken (place : Break)
  deriving Repr

/-- An array or an object whose next value is being read; what it holds stands in reverse order. -/
inductive Frame
  | items (done : List Tree)
  | member (done : List (Key × Tree)) (key : Key)

/-- What may come next. -/
inductive Expect
  | value
  | firstItem
  | itemEnd (done : List Tree)
  | nextItem (done : List Tree)
  | firstKey
  | memberEnd (done : List (Key × Tree))
  | nextKey (done : List (Key × Tree))
  | colon (done : List (Key × Tree)) (key : Key)

/-- The result of one token: the reading goes on, or the outermost value is complete or broken. -/
inductive Progress
  | going (outer : List Frame) (expect : Expect)
  | complete (tree : Tree)
  | broken (tree : Tree)

/-- Wraps a value that breaks off into the arrays and objects around it. -/
def breakOff : List Frame → Tree → Tree
  | [], tree => tree
  | .items done :: outer, tree => breakOff outer (.array (tree :: done).reverse .ended)
  | .member done key :: outer, tree => breakOff outer (.object ((key, tree) :: done).reverse .ended)

namespace Progress

/-- A value is complete. -/
def place : List Frame → Tree → Progress
  | [], tree => complete tree
  | .items done :: outer, tree => going outer (.itemEnd (tree :: done))
  | .member done key :: outer, tree => going outer (.memberEnd ((key, tree) :: done))

/-- The text goes wrong. -/
def fail (outer : List Frame) (tree : Tree) : Progress :=
  broken (breakOff outer tree)

/-- The first token of a value. -/
def begin (outer : List Frame) : Token → Progress
  | .null => place outer .null
  | .boolean value => place outer (.boolean value)
  | .number spelling => place outer (.number spelling)
  | .text (.ok value) => place outer (.text (.ok value))
  | .text (.error ⟨read, none⟩) => place outer (.text (.error ⟨read, none⟩))
  | .text (.error place) => fail outer (.text (.error place))
  | .openArray => going outer .firstItem
  | .openObject => going outer .firstKey
  | .cut place => fail outer (.broken place)
  | _ => fail outer (.broken (.both .valueExpected))

/-- One token. -/
def step (outer : List Frame) : Expect → Token → Progress
  | .value, token => begin outer token
  | .firstItem, .closeArray => place outer (.array [] .closed)
  | .firstItem, token => begin (.items [] :: outer) token
  | .itemEnd done, .comma => going outer (.nextItem done)
  | .itemEnd done, .closeArray => place outer (.array done.reverse .closed)
  | .itemEnd done, _ => fail outer (.array done.reverse .stray)
  | .nextItem done, .closeArray => fail outer (.array done.reverse .commaClosed)
  | .nextItem done, token => begin (.items done :: outer) token
  | .firstKey, .closeObject => place outer (.object [] .closed)
  | .firstKey, .text key => going outer (.colon [] key)
  | .firstKey, _ => fail outer (.object [] .notKey)
  | .memberEnd done, .comma => going outer (.nextKey done)
  | .memberEnd done, .closeObject => place outer (.object done.reverse .closed)
  | .memberEnd done, _ => fail outer (.object done.reverse .stray)
  | .nextKey done, .text key => going outer (.colon done key)
  | .nextKey done, .closeObject => fail outer (.object done.reverse .commaClosed)
  | .nextKey done, _ => fail outer (.object done.reverse .notKey)
  | .colon done key, .colon => going (.member done key :: outer) .value
  | .colon done key, _ =>
    fail outer (.object ((key, .broken (.both .colonExpected)) :: done).reverse .ended)

/-- The end of the text. -/
def finish (outer : List Frame) : Expect → Tree
  | .value => breakOff outer (.broken (.both .endInValue))
  | .firstItem => breakOff outer (.array [] .ended)
  | .itemEnd done => breakOff outer (.array done.reverse .ended)
  | .nextItem done => breakOff outer (.array done.reverse .commaEnded)
  | .firstKey => breakOff outer (.object [] .ended)
  | .memberEnd done => breakOff outer (.object done.reverse .ended)
  | .nextKey done => breakOff outer (.object done.reverse .commaEnded)
  | .colon done key =>
    breakOff outer (.object ((key, .broken (.both .endInObject)) :: done).reverse .ended)

end Progress

/-- Reads one value; gives its tree and the tokens after it. -/
def readTree (outer : List Frame) (expect : Expect) : List Token → Tree × List Token
  | [] => (Progress.finish outer expect, [])
  | token :: rest =>
    match Progress.step outer expect token with
    | .going outer expect => readTree outer expect rest
    | .complete tree => (tree, rest)
    | .broken tree => (tree, rest)

/-- The tree of a text, and whether anything follows the value. -/
def Tree.ofText (text : String) : Tree × Bool :=
  let (tree, rest) := readTree [] .value (tokens text.toList)
  (tree, !rest.isEmpty)

namespace Stop

/-- The fault at the end of an array for one who reads it. -/
def arrayFault? : Stop → Option Fault
  | closed => none
  | ended => some .endInList
  | commaClosed => some .trailingComma
  | commaEnded => some .endInValue
  | stray | notKey => some .commaOrBracketExpected

/-- The fault at the end of an object for one who reads it. -/
def objectFault? : Stop → Option Fault
  | closed => none
  | ended => some .endInObject
  | stray => some .commaOrBraceExpected
  | commaClosed => some .trailingComma
  | commaEnded => some .endInValue
  | notKey => some .keyExpected

/-- The fault at the end of an array for one who passes over it. -/
def skippedArrayFault? : Stop → Option Fault
  | commaClosed => some .valueExpected
  | stop => stop.arrayFault?

/-- The fault at the end of an object for one who passes over it. -/
def skippedObjectFault? : Stop → Option Fault
  | commaClosed => some .keyExpected
  | commaEnded => some .endInObject
  | stop => stop.objectFault?

/-- The fault for one who wants no more elements: whatever comes now but the bracket. -/
def surplusFault? : Stop → Option Fault
  | closed => none
  | ended => some .endInList
  | commaClosed => some .trailingComma
  | stray | commaEnded | notKey => some .trailingCharacters

end Stop

/-- The arrays and objects that may be nested in one another. -/
def nestingLimit : Nat := 127

namespace Tree

/-- Nothing, unless there is a fault. -/
def orFault (fault : Option Fault) : Except Fault Unit :=
  match fault with
  | none => .ok ()
  | some fault => .error fault

mutual

/-- Reads a value in which `room` arrays and objects may be nested. -/
def value (room : Nat) : Tree → Except Fault Json
  | .null => .ok .null
  | .boolean value => .ok (.boolean value)
  | .number spelling =>
    match Number.ofSpelling? spelling with
    | some n => .ok (.number n)
    | none => .error .numberOutOfRange
  | .text (.ok value) => .ok (.text value)
  | .text (.error place) => .error place.read
  | .broken place => .error place.read
  | .array items stop =>
    match room with
    | 0 => .error .tooDeep
    | room + 1 => do
      let items ← values room items
      orFault stop.arrayFault?
      return .array items
  | .object members stop =>
    match room with
    | 0 => .error .tooDeep
    | room + 1 => do
      let members ← memberValues room members
      orFault stop.objectFault?
      return .object members

/-- Reads elements in order. -/
def values (room : Nat) : List Tree → Except Fault (List Json)
  | [] => .ok []
  | item :: rest => do return (← value room item) :: (← values room rest)

/-- Reads members in order. -/
def memberValues (room : Nat) : List (Key × Tree) → Except Fault (List (String × Json))
  | [] => .ok []
  | (.error place, _) :: _ => .error place.read
  | (.ok key, item) :: rest => do return (key, ← value room item) :: (← memberValues room rest)

end

mutual

/-- Passes over a value: only what breaks the text counts. -/
def skip : Tree → Except Fault Unit
  | .null | .boolean _ | .number _ | .text (.ok _) => .ok ()
  | .text (.error place) | .broken place => orFault place.skip
  | .array items stop => do
    skipItems items
    orFault stop.skippedArrayFault?
  | .object members stop => do
    skipMembers members
    orFault stop.skippedObjectFault?

/-- Passes over elements. -/
def skipItems : List Tree → Except Fault Unit
  | [] => .ok ()
  | item :: rest => do
    skip item
    skipItems rest

/-- Passes over members. -/
def skipMembers : List (Key × Tree) → Except Fault Unit
  | [] => .ok ()
  | (key, item) :: rest => do
    match key with
    | .ok _ => pure ()
    | .error place => orFault place.skip
    skip item
    skipMembers rest

end

end Tree

end DiagramMigrations.Json
