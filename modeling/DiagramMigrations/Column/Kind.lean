import DiagramMigrations.Text.Ascii
import DiagramMigrations.Text.Blank

/-!
The column methods of the schema builder. A kind is written as the method's name, in any ASCII case
and with white space around it.
-/

set_option autoImplicit false
set_option relaxedAutoImplicit false

namespace DiagramMigrations

/-- A column method of the schema builder. -/
inductive ColumnKind
  | bigIncrements
  | bigInteger
  | binary
  | boolean
  | char
  | dateTimeTz
  | dateTime
  | date
  | decimal
  | double
  | enum
  | float
  | foreignId
  | geometryCollection
  | geometry
  | increments
  | integer
  | ipAddress
  | json
  | jsonb
  | lineString
  | longText
  | macAddress
  | mediumIncrements
  | mediumInteger
  | mediumText
  | morphs
  | multiLineString
  | multiPoint
  | multiPolygon
  | nullableMorphs
  | nullableTimestamps
  | nullableUuidMorphs
  | point
  | polygon
  | rememberToken
  | set
  | smallIncrements
  | smallInteger
  | softDeletesTz
  | softDeletes
  | string
  | text
  | timeTz
  | time
  | timestampTz
  | timestamp
  | timestampsTz
  | timestamps
  | tinyIncrements
  | tinyInteger
  | unsignedBigInteger
  | unsignedDecimal
  | unsignedInteger
  | unsignedMediumInteger
  | unsignedSmallInteger
  | unsignedTinyInteger
  | uuidMorphs
  | uuid
  | year
  deriving DecidableEq, Repr

namespace ColumnKind

/-- Every kind, in vocabulary order. -/
def all : List ColumnKind := [
  .bigIncrements, .bigInteger, .binary, .boolean, .char, .dateTimeTz, .dateTime, .date, .decimal,
  .double, .enum, .float, .foreignId, .geometryCollection, .geometry, .increments, .integer,
  .ipAddress, .json, .jsonb, .lineString, .longText, .macAddress, .mediumIncrements,
  .mediumInteger, .mediumText, .morphs, .multiLineString, .multiPoint, .multiPolygon,
  .nullableMorphs, .nullableTimestamps, .nullableUuidMorphs, .point, .polygon, .rememberToken,
  .set, .smallIncrements, .smallInteger, .softDeletesTz, .softDeletes, .string, .text, .timeTz,
  .time, .timestampTz, .timestamp, .timestampsTz, .timestamps, .tinyIncrements, .tinyInteger,
  .unsignedBigInteger, .unsignedDecimal, .unsignedInteger, .unsignedMediumInteger,
  .unsignedSmallInteger, .unsignedTinyInteger, .uuidMorphs, .uuid, .year]

/-- The name of the schema-builder method. -/
def method : ColumnKind → String
  | .bigIncrements => "bigIncrements"
  | .bigInteger => "bigInteger"
  | .binary => "binary"
  | .boolean => "boolean"
  | .char => "char"
  | .dateTimeTz => "dateTimeTz"
  | .dateTime => "dateTime"
  | .date => "date"
  | .decimal => "decimal"
  | .double => "double"
  | .enum => "enum"
  | .float => "float"
  | .foreignId => "foreignId"
  | .geometryCollection => "geometryCollection"
  | .geometry => "geometry"
  | .increments => "increments"
  | .integer => "integer"
  | .ipAddress => "ipAddress"
  | .json => "json"
  | .jsonb => "jsonb"
  | .lineString => "lineString"
  | .longText => "longText"
  | .macAddress => "macAddress"
  | .mediumIncrements => "mediumIncrements"
  | .mediumInteger => "mediumInteger"
  | .mediumText => "mediumText"
  | .morphs => "morphs"
  | .multiLineString => "multiLineString"
  | .multiPoint => "multiPoint"
  | .multiPolygon => "multiPolygon"
  | .nullableMorphs => "nullableMorphs"
  | .nullableTimestamps => "nullableTimestamps"
  | .nullableUuidMorphs => "nullableUuidMorphs"
  | .point => "point"
  | .polygon => "polygon"
  | .rememberToken => "rememberToken"
  | .set => "set"
  | .smallIncrements => "smallIncrements"
  | .smallInteger => "smallInteger"
  | .softDeletesTz => "softDeletesTz"
  | .softDeletes => "softDeletes"
  | .string => "string"
  | .text => "text"
  | .timeTz => "timeTz"
  | .time => "time"
  | .timestampTz => "timestampTz"
  | .timestamp => "timestamp"
  | .timestampsTz => "timestampsTz"
  | .timestamps => "timestamps"
  | .tinyIncrements => "tinyIncrements"
  | .tinyInteger => "tinyInteger"
  | .unsignedBigInteger => "unsignedBigInteger"
  | .unsignedDecimal => "unsignedDecimal"
  | .unsignedInteger => "unsignedInteger"
  | .unsignedMediumInteger => "unsignedMediumInteger"
  | .unsignedSmallInteger => "unsignedSmallInteger"
  | .unsignedTinyInteger => "unsignedTinyInteger"
  | .uuidMorphs => "uuidMorphs"
  | .uuid => "uuid"
  | .year => "year"

/-- The kind with the given method name, if the vocabulary has it. -/
def parse? (text : String) : Option ColumnKind :=
  all.find? fun kind ↦ Text.equalIgnoringAsciiCase kind.method (Text.trimmed text)

/-- The message for a text that names no kind. -/
def unknownMessage (text : String) : String :=
  "unknown column kind '" ++ text ++ "'"

/-- Whether the method takes a length or a precision after the column's name. -/
def acceptsSize : ColumnKind → Bool
  | .char
  | .string
  | .decimal
  | .double
  | .float
  | .unsignedDecimal
  | .dateTime
  | .dateTimeTz
  | .time
  | .timeTz
  | .timestamp
  | .timestampTz
  | .softDeletes
  | .softDeletesTz => true
  | _ => false

end ColumnKind

end DiagramMigrations
