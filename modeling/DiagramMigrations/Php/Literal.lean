import DiagramMigrations.Text.Blank

/-!
Texts as PHP literals between single quotes. Runs of white space become single blanks, so that a
literal stays on its line, and quotes and backslashes are escaped.
-/

set_option autoImplicit false
set_option relaxedAutoImplicit false

namespace DiagramMigrations.Php

/-- A text with a single blank for every run of white space, and none at its ends. -/
def flatten (cs : List Char) : List Char :=
  [' '].intercalate (Text.fields cs)

/-- A character inside quotes. -/
def escapeChar (c : Char) : List Char :=
  if c = '\\' ∨ c = '\'' then ['\\', c] else [c]

/-- What stands between the quotes. -/
def escape (text : String) : String :=
  String.ofList ((flatten text.toList).flatMap escapeChar)

/-- The literal of a text. -/
def quote (text : String) : String :=
  "'" ++ escape text ++ "'"

/-- The literal of a list of texts. -/
def textList (items : List String) : String :=
  "[" ++ ", ".intercalate (items.map quote) ++ "]"

end DiagramMigrations.Php
