import DiagramMigrations.Text.Blank
import DiagramMigrations.Text.Lines

/-!
Source text as a list of lines with indentation. A program of layout steps says what is written;
blocks nest, and everything in a block stands one level deeper than the block.
-/

set_option autoImplicit false
set_option relaxedAutoImplicit false

namespace DiagramMigrations.Php

/-- What a layout does. -/
inductive Step
  | indent
  | outdent
  | line (text : String)
  | lines (texts : List String)
  | blank
  | doc (text : String)
  | block (opening closing : String) (body : List Step)

/-- The lines written so far, and the level of the next. -/
structure Page where
  lines : List String := []
  level : Nat := 0
  deriving DecidableEq, Repr

/-- One level of indentation. -/
def indentation : List Char := [' ', ' ', ' ', ' ']

/-- A text behind the indentation of a level; nothing stands before an empty one. -/
def indented (level : Nat) (text : String) : String :=
  if text = "" then ""
  else String.ofList ((List.replicate level indentation).flatten ++ text.toList)

/-- Parts `*/`, which would end a comment. -/
def partClosers : List Char → List Char
  | [] => []
  | '*' :: '/' :: rest => '*' :: ' ' :: '/' :: partClosers rest
  | c :: rest => c :: partClosers rest

/-- A line of a comment. -/
def docLine (cs : List Char) : String :=
  match Text.trimEnd cs with
  | [] => " *"
  | text => String.ofList (' ' :: '*' :: ' ' :: partClosers text)

/-- The lines of a comment: its opening, a line for each of the text, and its closing. -/
def docLines (text : String) : List String :=
  "/**" :: (Text.lines text.toList).map docLine ++ [" */"]

namespace Page

/-- Writes a line. -/
def line (p : Page) (text : String) : Page :=
  { p with lines := p.lines ++ [indented p.level text] }

/-- Writes lines one after the other. -/
def addLines (p : Page) (texts : List String) : Page :=
  { p with lines := p.lines ++ texts.map (indented p.level) }

mutual

/-- Takes one step. -/
def step (p : Page) : Step → Page
  | .indent => { p with level := p.level + 1 }
  | .outdent => { p with level := p.level - 1 }
  | .line text => p.line text
  | .lines texts => p.addLines texts
  | .blank => { p with lines := p.lines ++ [""] }
  | .doc text => p.addLines (docLines text)
  | .block opening closing body =>
    let inner := run { (p.line opening) with level := p.level + 1 } body
    { inner with level := inner.level - 1 }.line closing

/-- Takes steps one after the other. -/
def run (p : Page) : List Step → Page
  | [] => p
  | s :: rest => run (step p s) rest

end

/-- Whether nothing has been written. -/
def isEmpty (p : Page) : Bool :=
  p.lines.isEmpty

/-- The text of a page: its lines, with a line feed between them and after the last. -/
def text (p : Page) : String :=
  "\n".intercalate p.lines ++ "\n"

end Page

/-- The text that steps write on an empty page. -/
def render (steps : List Step) : String :=
  (Page.run {} steps).text

end DiagramMigrations.Php
