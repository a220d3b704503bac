import DiagramMigrations.EnumClass.Registry
import DiagramMigrations.Naming
import DiagramMigrations.Php.Layout
import DiagramMigrations.Php.Literal

/-!
Enumeration classes. Each enumeration becomes a class of constants that have their own names as
values, and lists them once more in a map, which the shared base class answers questions from.
-/

set_option autoImplicit false
set_option relaxedAutoImplicit false

namespace DiagramMigrations

/-- An enumeration class: the literals it declares as constants, and the pairs of its map. -/
structure EnumClass where
  className : String
  literals : List Literal
  pairs : List (String × String)
  deriving DecidableEq, Repr

namespace EnumClass

/-- The name of the base class. -/
def baseName : String := "BaseEnum"

/-- The class of an enumeration; its map is taken from the registry. -/
def ofEnumeration (r : EnumRegistry) (e : Enumeration) : EnumClass where
  className := Naming.className e.name
  literals := e.literals
  pairs := (r.pairs? e.name).getD []

/-- The lines above a class. -/
def header (enumNamespace : String) : List Php.Step :=
  [.line "<?php", .blank, .line ("namespace " ++ enumNamespace ++ ";"), .blank]

/-- The declaration of a constant, under its documentation. -/
def constantSteps (l : Literal) : List Php.Step :=
  (match l.documentation with
    | some text => [.doc text]
    | none => []) ++
    [.line ("const " ++ l.name ++ " = " ++ Php.quote l.name ++ ";")]

/-- The declarations of the constants, and a blank line after each of them. -/
def constantsSteps (literals : List Literal) : List Php.Step :=
  literals.flatMap fun l ↦ constantSteps l ++ [.blank]

/-- The entry of the map for a constant. -/
def pairLine (pair : String × String) : String :=
  Php.quote pair.1 ++ " => self::" ++ pair.2 ++ ","

/-- The body of the map. -/
def mapSteps (pairs : List (String × String)) : List Php.Step :=
  if pairs = [] then [.line "return [];"]
  else [.block "return [" "];" (pairs.map fun pair ↦ .line (pairLine pair))]

/-- The layout of an enumeration class. -/
def steps (c : EnumClass) (enumNamespace : String) : List Php.Step :=
  header enumNamespace ++ [
    .line ("class " ++ c.className ++ " extends " ++ baseName),
    .block "\x7b" "\x7d" (constantsSteps c.literals ++ [
      .doc "Constant name to value map.\n\n@return array",
      .line "protected static function constants()",
      .block "\x7b" "\x7d" (mapSteps c.pairs)])]

/-- The text of an enumeration class. -/
def text (c : EnumClass) (enumNamespace : String) : String :=
  Php.render (c.steps enumNamespace)

/-- The lines of the base class. -/
def baseLines : List String := [
  "/**",
  " * Constant pairs per concrete class, filled on first access.",
  " *",
  " * @var array",
  " */",
  "protected static $cache = [];",
  "",
  "/**",
  " * Constant name to value map declared by the concrete class.",
  " *",
  " * @return array",
  " */",
  "abstract protected static function constants();",
  "",
  "/**",
  " * Get the constants of the class. Constant name in key, constant value in value.",
  " *",
  " * @return array",
  " */",
  "public static function pairs()",
  "\x7b",
  "    $class = static::class;",
  "",
  "    if (!array_key_exists($class, static::$cache)) \x7b",
  "        static::$cache[$class] = static::constants();",
  "    \x7d",
  "",
  "    return static::$cache[$class];",
  "\x7d",
  "",
  "/**",
  " * Get the constant names.",
  " *",
  " * @return array",
  " */",
  "public static function keys()",
  "\x7b",
  "    return array_keys(static::pairs());",
  "\x7d",
  "",
  "/**",
  " * Get the constant values.",
  " *",
  " * @return array",
  " */",
  "public static function values()",
  "\x7b",
  "    return array_values(static::pairs());",
  "\x7d",
  "",
  "/**",
  " * Check if the given key exists (case-sensitive).",
  " *",
  " * @param string $key",
  " * @return bool",
  " */",
  "public static function isValidKey($key)",
  "\x7b",
  "    return array_key_exists($key, static::pairs());",
  "\x7d",
  "",
  "/**",
  " * Check if the given value exists.",
  " *",
  " * @param mixed $value",
  " * @return bool",
  " */",
  "public static function isValidValue($value)",
  "\x7b",
  "    return in_array($value, static::values(), true);",
  "\x7d",
  "",
  "/**",
  " * Check if the given text is either a key or a value.",
  " *",
  " * @param mixed $keyOrValue",
  " * @return bool",
  " */",
  "public static function isValid($keyOrValue)",
  "\x7b",
  "    return static::isValidKey($keyOrValue) || static::isValidValue($keyOrValue);",
  "\x7d"]

/-- The text of the base class. -/
def baseText (enumNamespace : String) : String :=
  Php.render (header enumNamespace ++ [
    .line ("abstract class " ++ baseName),
    .block "\x7b" "\x7d" [.lines baseLines]])

end EnumClass

end DiagramMigrations
