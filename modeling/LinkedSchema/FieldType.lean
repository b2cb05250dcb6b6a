import LinkedSchema.Json.Coded

/-!
# Field types and labels

The declared type of a field and its label. Both have a number, a symbolic name, and a default: the
first value that the format declares.

* `FieldType`, `FieldType.all` — the eighteen types, in the order of their numbers;
* `FieldType.number`, `FieldType.name`, `FieldType.keyword` — how a type is written;
* `FieldLabel` — the three labels;
* `FieldType.enumeration`, `FieldLabel.enumeration` — how they are read.
-/

namespace LinkedSchema

/-- The declared type of a field. -/
inductive FieldType
  | double
  | float
  | int64
  | uint64
  | int32
  | fixed64
  | fixed32
  | bool
  | string
  | group
  | message
  | bytes
  | uint32
  | enum
  | sfixed32
  | sfixed64
  | sint32
  | sint64
deriving DecidableEq, Repr

namespace FieldType

/-- An absent type is the first one. -/
instance : Inhabited FieldType := ⟨double⟩

/-- Every type, by ascending number. -/
def all : List FieldType :=
  [double, float, int64, uint64, int32, fixed64, fixed32, bool, string, group, message, bytes, uint32,
    enum, sfixed32, sfixed64, sint32, sint64]

/-- The number that stands for the type in a descriptor. -/
def number : FieldType → Int
  | double => 1
  | float => 2
  | int64 => 3
  | uint64 => 4
  | int32 => 5
  | fixed64 => 6
  | fixed32 => 7
  | bool => 8
  | string => 9
  | group => 10
  | message => 11
  | bytes => 12
  | uint32 => 13
  | enum => 14
  | sfixed32 => 15
  | sfixed64 => 16
  | sint32 => 17
  | sint64 => 18

/-- The word for the type in a schema. -/
def keyword : FieldType → String
  | double => "double"
  | float => "float"
  | int64 => "int64"
  | uint64 => "uint64"
  | int32 => "int32"
  | fixed64 => "fixed64"
  | fixed32 => "fixed32"
  | bool => "bool"
  | string => "string"
  | group => "group"
  | message => "message"
  | bytes => "bytes"
  | uint32 => "uint32"
  | enum => "enum"
  | sfixed32 => "sfixed32"
  | sfixed64 => "sfixed64"
  | sint32 => "sint32"
  | sint64 => "sint64"

/-- The symbolic name of the type in a descriptor. -/
def name : FieldType → String
  | double => "TYPE_DOUBLE"
  | float => "TYPE_FLOAT"
  | int64 => "TYPE_INT64"
  | uint64 => "TYPE_UINT64"
  | int32 => "TYPE_INT32"
  | fixed64 => "TYPE_FIXED64"
  | fixed32 => "TYPE_FIXED32"
  | bool => "TYPE_BOOL"
  | string => "TYPE_STRING"
  | group => "TYPE_GROUP"
  | message => "TYPE_MESSAGE"
  | bytes => "TYPE_BYTES"
  | uint32 => "TYPE_UINT32"
  | enum => "TYPE_ENUM"
  | sfixed32 => "TYPE_SFIXED32"
  | sfixed64 => "TYPE_SFIXED64"
  | sint32 => "TYPE_SINT32"
  | sint64 => "TYPE_SINT64"

/-- The type with a number. -/
def ofNumber? (number : Int) : Option FieldType :=
  all.find? (·.number == number)

/-- The type with a symbolic name. -/
def ofName? (name : String) : Option FieldType :=
  all.find? (·.name == name)

/-- How a field type is written in JSON. -/
def enumeration : Json.Enumeration FieldType :=
  ⟨"field type", "EnumRepr", ofName?, ofNumber?⟩

end FieldType

/-- Whether a field may be absent, must be present, or may occur several times. -/
inductive FieldLabel
  | optional
  | required
  | repeated
deriving DecidableEq, Repr

namespace FieldLabel

/-- An absent label is the first one. -/
instance : Inhabited FieldLabel := ⟨optional⟩

/-- Every label, by ascending number. -/
def all : List FieldLabel :=
  [optional, required, repeated]

/-- The number that stands for the label in a descriptor. -/
def number : FieldLabel → Int
  | optional => 1
  | required => 2
  | repeated => 3

/-- The symbolic name of the label in a descriptor. -/
def name : FieldLabel → String
  | optional => "LABEL_OPTIONAL"
  | required => "LABEL_REQUIRED"
  | repeated => "LABEL_REPEATED"

/-- The label with a number. -/
def ofNumber? (number : Int) : Option FieldLabel :=
  all.find? (·.number == number)

/-- The label with a symbolic name. -/
def ofName? (name : String) : Option FieldLabel :=
  all.find? (·.name == name)

/-- How a field label is written in JSON. -/
def enumeration : Json.Enumeration FieldLabel :=
  ⟨"field label", "EnumRepr", ofName?, ofNumber?⟩

end FieldLabel

end LinkedSchema
