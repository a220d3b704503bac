import DiagramMigrations.Json.Value
import DiagramMigrations.Text.Ascii
import DiagramMigrations.Text.Blank

/-!
Class diagrams as a modelling tool describes them: elements in the order of their views, with free
text for classifications and with attribute types that are a name or a reference to an element.
-/

set_option autoImplicit false
set_option relaxedAutoImplicit false

namespace DiagramMigrations

namespace Diagram

/-- The declared type of an attribute. -/
inductive AttributeType
  | name (text : String)
  | reference (element : String)
  | other (value : Json)
  deriving DecidableEq, Repr

/-- An attribute of a class: a column, once it is resolved. -/
structure Attribute where
  name : String
  declaredType : AttributeType := .name ""
  multiplicity : Option String := none
  isId : Bool := false
  isUnique : Bool := false
  defaultValue : String := ""
  documentation : String := ""
  classification : String := ""
  deriving DecidableEq, Repr

/-- One end of an association: a column of the class it refers to. -/
structure End where
  name : String
  reference : String
  deriving DecidableEq, Repr

/-- An association from the class that holds the reference to the class it points at. -/
structure Association where
  id : String := ""
  referencing : End
  referenced : End
  deriving DecidableEq, Repr

/-- What a class owns besides its attributes. -/
inductive Owned
  | association (value : Association)
  | other
  deriving DecidableEq, Repr

/-- A class; a table if it is classified as one. -/
structure Class where
  id : String
  name : String
  classification : String := ""
  attributes : List Attribute := []
  owned : List Owned := []
  deriving DecidableEq, Repr

/-- A literal of an enumeration. -/
structure Literal where
  name : String
  documentation : String := ""
  deriving DecidableEq, Repr

/-- An enumeration. -/
structure Enumeration where
  id : String
  name : String
  literals : List Literal := []
  deriving DecidableEq, Repr

/-- An element that a view shows. -/
inductive Element
  | ofClass (value : Class)
  | ofEnumeration (value : Enumeration)
  | other
  deriving DecidableEq, Repr

namespace Element

/-- The class that an element is. -/
def class? : Element → Option Class
  | ofClass value => some value
  | _ => none

/-- The enumeration that an element is. -/
def enumeration? : Element → Option Enumeration
  | ofEnumeration value => some value
  | _ => none

end Element

/-- Whether a class becomes a table. -/
def Class.isTable (c : Class) : Bool :=
  Text.equalIgnoringAsciiCase (Text.trimmed c.classification) "table"

end Diagram

/-- A diagram: its name, and the elements of its views in order. -/
structure Diagram where
  name : String := ""
  elements : List Diagram.Element := []
  deriving DecidableEq, Repr

namespace Diagram

/-- The classes on the diagram. -/
def classes (d : Diagram) : List Class :=
  d.elements.filterMap Element.class?

/-- The enumerations on the diagram. -/
def enumerations (d : Diagram) : List Enumeration :=
  d.elements.filterMap Element.enumeration?

end Diagram

end DiagramMigrations
