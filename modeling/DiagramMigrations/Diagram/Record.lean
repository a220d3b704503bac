import DiagramMigrations.Diagram.Complaint

/-!
Records of a document. A record is written as an object, in any order and with unknown members, or
as an array of its fields in order. What is wrong is reported where the document says it first;
fields that are missing are reported after all others.
-/

set_option autoImplicit false
set_option relaxedAutoImplicit false

namespace DiagramMigrations.Diagram

/-- How a record is read: a draft takes in the fields that are present, each under its name, and is
then finished with a complaint at hand for a field that is missing. -/
structure Shape (Draft Result : Type) where
  title : String
  fields : List String
  empty : Draft
  take : Draft → String → Json → Except Complaint Draft
  finish : (String → Complaint) → Draft → Except Complaint Result

/-- A number of elements in words. -/
def countElements (n : Nat) : String :=
  toString n ++ if n = 1 then " element" else " elements"

/-- The complaint about a field that an array is too short for. -/
def Shape.tooShort {Draft Result : Type} (s : Shape Draft Result) (field : String) : Complaint :=
  .wrongLength (s.fields.idxOf field) (s.title ++ " with " ++ countElements s.fields.length)

/-- Reads a record. -/
def Shape.read {Draft Result : Type} (s : Shape Draft Result) : Json → Except Complaint Result
  | .object members => do
    let draft ← members.foldlM (fun draft member ↦ s.take draft member.1 member.2) s.empty
    s.finish .missingField draft
  | .array items => do
    let draft ← (s.fields.zip items).foldlM (fun draft member ↦ s.take draft member.1 member.2)
      s.empty
    let result ← s.finish s.tooShort draft
    if s.fields.length < items.length then
      throw (.wrongLength items.length (countElements s.fields.length ++ " in sequence"))
    return result
  | value => .error (.refuse value s.title)

/-- Fills a field that is still empty. -/
def once {α : Type} (field : String) (slot : Option α) (value : Except Complaint α) :
    Except Complaint (Option α) :=
  match slot with
  | some _ => .error (.repeatedField field)
  | none => value.map some

/-- The value of a field that must be there. -/
def required {α : Type} (absent : String → Complaint) (field : String) (slot : Option α) :
    Except Complaint α :=
  match slot with
  | some value => .ok value
  | none => .error (absent field)

/-- A text. -/
def readText : Json → Except Complaint String
  | .text value => .ok value
  | value => .error (.refuse value "a string")

/-- A truth value. -/
def readFlag : Json → Except Complaint Bool
  | .boolean value => .ok value
  | value => .error (.refuse value "a boolean")

/-- A list, its elements read in order. -/
def readList {α : Type} (read : Json → Except Complaint α) : Json → Except Complaint (List α)
  | .array items => items.mapM read
  | value => .error (.refuse value "a sequence")

/-- Free text, which may be written without quotes. Other values count as absent. -/
def lenientText? : Json → Option String
  | .text value => some value
  | .number value => some value.text
  | .boolean true => some "true"
  | .boolean false => some "false"
  | _ => none

/-- Free text that is empty when it is absent. -/
def lenientText (value : Json) : String :=
  (lenientText? value).getD ""

end DiagramMigrations.Diagram
