import DiagramMigrations.Diagram.Element
import DiagramMigrations.Json.Tree

/-!
Diagram documents. The document is read from front to back, and what is wrong first is reported: in
the text or in what it says. Only the model of a view is read to its end before it is interpreted.
-/

set_option autoImplicit false
set_option relaxedAutoImplicit false

namespace DiagramMigrations.Diagram

open Json (Fault Key Stop Tree)

/-- A fault of the text as a reason not to read the document. -/
def liftFault {α : Type} (result : Except Fault α) : Except ReadError α :=
  result.mapError .text

/-- A complaint as a reason not to read the document. -/
def liftComplaint {α : Type} (result : Except Complaint α) : Except ReadError α :=
  result.mapError .content

/-- Refuses a value that is not of the expected type; a fault inside a scalar comes first. -/
def refuseTree (expected : String) (tree : Tree) : ReadError :=
  match tree with
  | .array _ _ => .content (.wrongType .sequence expected)
  | .object _ _ => .content (.wrongType .map expected)
  | scalar =>
    match scalar.value 0 with
    | .ok value => .content (.refuse value expected)
    | .error fault => .text fault

/-- Refuses a field that has been read already. -/
def unlessRepeated {α : Type} (field : String) (slot : Option α) : Except ReadError Unit :=
  match slot with
  | none => .ok ()
  | some _ => .error (.content (.repeatedField field))

/-- A text. -/
def readTextTree (expected : String) : Tree → Except ReadError String
  | .text (.ok value) => .ok value
  | tree => .error (refuseTree expected tree)

/-- A key, or the fault in it. -/
def readKey : Key → Except ReadError String
  | .ok key => .ok key
  | .error place => .error (.text place.read)

/-- The arrays and objects that may be nested in the model of a view, itself included. -/
def modelRoom : Nat := Json.nestingLimit - 3

/-- Separates the kind of a model from its other members. -/
def takeKind (room : Nat) (state : Option String × List (String × Json)) (member : Key × Tree) :
    Except ReadError (Option String × List (String × Json)) := do
  let key ← readKey member.1
  if key = "kind" then
    unlessRepeated key state.1
    return (some (← readTextTree "variant identifier" member.2), state.2)
  else
    return (state.1, state.2 ++ [(key, ← liftFault (member.2.value room))])

/-- The kind of a model and the rest of it. -/
def splitKind (room : Nat) : Tree → Except ReadError (String × Json)
  | .object members stop => do
    let (kind, rest) ← members.foldlM (takeKind (room - 1)) (none, [])
    liftFault (Tree.orFault stop.objectFault?)
    return (← liftComplaint (required .missingField "kind" kind), .object rest)
  | .array [] stop => do
    liftFault (Tree.orFault stop.arrayFault?)
    throw (.content (.missingField "kind"))
  | .array (kind :: items) stop => do
    let kind ← readTextTree "variant identifier" kind
    let items ← liftFault (Tree.values (room - 1) items)
    liftFault (Tree.orFault stop.arrayFault?)
    return (kind, .array items)
  | tree => .error (refuseTree "internally tagged enum ModelElement" tree)

/-- The model of a view. -/
def readModel (tree : Tree) : Except ReadError Element := do
  let (kind, body) ← splitKind modelRoom tree
  liftComplaint (readElement kind body)

/-- Takes in a member of a view. -/
def takeModel (model : Option Element) (member : Key × Tree) :
    Except ReadError (Option Element) := do
  let key ← readKey member.1
  if key = "model" then
    unlessRepeated key model
    return some (← readModel member.2)
  else
    liftFault member.2.skip
    return model

/-- A view. -/
def readView : Tree → Except ReadError Element
  | .object members stop => do
    let model ← members.foldlM takeModel none
    liftFault (Tree.orFault stop.objectFault?)
    liftComplaint (required .missingField "model" model)
  | .array [] stop => do
    liftFault (Tree.orFault stop.arrayFault?)
    throw (.content (.wrongLength 0 ("struct View with " ++ countElements 1)))
  | .array (model :: surplus) stop => do
    let element ← readModel model
    if surplus ≠ [] then throw (.text .trailingCharacters)
    liftFault (Tree.orFault stop.surplusFault?)
    return element
  | tree => .error (refuseTree "struct View" tree)

/-- The views of a diagram. -/
def readViews : Tree → Except ReadError (List Element)
  | .array views stop => do
    let elements ← views.mapM readView
    liftFault (Tree.orFault stop.arrayFault?)
    return elements
  | tree => .error (refuseTree "a sequence" tree)

/-- The fields of a diagram that have been read. -/
structure DiagramDraft where
  name : Option String := none
  elements : Option (List Element) := none

/-- Takes in a member of a diagram. -/
def DiagramDraft.take (d : DiagramDraft) (member : Key × Tree) :
    Except ReadError DiagramDraft := do
  match ← readKey member.1 with
  | "name" =>
    unlessRepeated "name" d.name
    return { d with name := ← readTextTree "a string" member.2 }
  | "views" =>
    unlessRepeated "views" d.elements
    return { d with elements := ← readViews member.2 }
  | _ =>
    liftFault member.2.skip
    return d

/-- A diagram. -/
def readDiagram : Tree → Except ReadError Diagram
  | .object members stop => do
    let draft ← members.foldlM DiagramDraft.take {}
    liftFault (Tree.orFault stop.objectFault?)
    return { name := draft.name.getD "", elements := draft.elements.getD [] }
  | .array [] stop => do
    liftFault (Tree.orFault stop.arrayFault?)
    return {}
  | .array [name] stop => do
    let name ← readTextTree "a string" name
    liftFault (Tree.orFault stop.arrayFault?)
    return { name }
  | .array (name :: views :: surplus) stop => do
    let name ← readTextTree "a string" name
    let elements ← readViews views
    if surplus ≠ [] then throw (.text .trailingCharacters)
    liftFault (Tree.orFault stop.surplusFault?)
    return { name, elements }
  | tree => .error (refuseTree "struct Diagram" tree)

/-- Reads a document. -/
def parse (text : String) : Except ReadError Diagram := do
  let (tree, more) := Tree.ofText text
  let diagram ← readDiagram tree
  if more then throw (.text .trailingCharacters)
  return diagram

end DiagramMigrations.Diagram
