import LinkedSchema.Json.Number
import LinkedSchema.Text.Quoted

/-!
# What can be wrong with JSON text

Reading fails in one of two ways: the text is no JSON, or the JSON does not have the shape that was
asked for. Both are kept as causes; the wording is in one function each.

* `Fault` — the text breaks the grammar, ends too soon, or exceeds a limit;
* `Found`, `Mismatch` — a value of the wrong shape, with what was found;
* `Error`, `Error.category`, `Error.message` — either of them, its class and its text.
-/

namespace LinkedSchema.Json

/-- A place where JSON text cannot be read on. -/
inductive Fault
  | endInList
  | endInObject
  | endInString
  | endInValue
  | expectedColon
  | expectedListCommaOrEnd
  | expectedObjectCommaOrEnd
  /-- A word that starts like `null`, `true` or `false` goes on differently. -/
  | expectedWord
  | expectedValue
  | invalidEscape
  | invalidNumber
  | numberOutOfRange
  | controlCharacter
  | keyNotString
  /-- The second half of a surrogate pair without the first, or two first halves. -/
  | loneSurrogate
  | trailingComma
  | trailingCharacters
  /-- The first half of a surrogate pair is not followed by an escape. -/
  | unfinishedSurrogate
  /-- More containers are open at once than a reader allows. -/
  | tooDeep
deriving DecidableEq, Repr

/-- Whether the text ended where it had to go on. -/
def Fault.atEnd : Fault → Bool
  | .endInList | .endInObject | .endInString | .endInValue => true
  | _ => false

/-- The wording of a fault. -/
def Fault.message : Fault → String
  | .endInList => "EOF while parsing a list"
  | .endInObject => "EOF while parsing an object"
  | .endInString => "EOF while parsing a string"
  | .endInValue => "EOF while parsing a value"
  | .expectedColon => "expected `:`"
  | .expectedListCommaOrEnd => "expected `,` or `]`"
  | .expectedObjectCommaOrEnd => "expected `,` or `\x7d`"
  | .expectedWord => "expected ident"
  | .expectedValue => "expected value"
  | .invalidEscape => "invalid escape"
  | .invalidNumber => "invalid number"
  | .numberOutOfRange => "number out of range"
  | .controlCharacter =>
      "control character (\\u0000-\\u001F) found while parsing a string"
  | .keyNotString => "key must be a string"
  | .loneSurrogate => "lone leading surrogate in hex escape"
  | .trailingComma => "trailing comma"
  | .trailingCharacters => "trailing characters"
  | .unfinishedSurrogate => "unexpected end of hex escape"
  | .tooDeep => "recursion limit exceeded"

/-- What stood where a value of another shape was expected. -/
inductive Found
  | null
  | bool (value : Bool)
  | number (value : Number)
  | string (value : String)
  | list
  | object
deriving DecidableEq, Repr

/-- The description of what was found. -/
def Found.describe : Found → String
  | .null => "null"
  | .bool value => "boolean `" ++ (if value then "true" else "false") ++ "`"
  | .number (.integer value) => "integer `" ++ toString value ++ "`"
  | .number (.real bits) => "floating point `" ++ (Number.real bits).text ++ "`"
  | .string value => "string " ++ Text.quoted value
  | .list => "sequence"
  | .object => "map"

/-- Well-formed JSON of the wrong shape. -/
inductive Mismatch
  | wrongType (found : Found) (expected : String)
  /-- An integer that does not fit into the expected type. -/
  | outOfRange (value : Int) (expected : String)
  /-- A list with more elements than the record it stands for has fields. -/
  | tooManyElements (length : Nat)
  | duplicateField (name : String)
  | unknownField (name : String) (known : List String)
  | unknownVariant (name : String) (known : List String)
  /-- A value that is none of the forms in which values of a type may be written. -/
  | noForm (type : String)
  /-- A symbolic name that stands for nothing in the given class. -/
  | unknownName (of : String) (name : String)
  /-- A number that stands for nothing in the given class. -/
  | unknownNumber (of : String) (number : Int)
deriving DecidableEq, Repr

/-- A list of alternatives in backquotes. -/
def alternatives : List String → String
  | [] => ""
  | [a] => "`" ++ a ++ "`"
  | [a, b] => "`" ++ a ++ "` or `" ++ b ++ "`"
  | names => "one of " ++ String.intercalate ", " (names.map fun name => "`" ++ name ++ "`")

/-- The wording of a mismatch. -/
def Mismatch.message : Mismatch → String
  | .wrongType found expected =>
      "invalid type: " ++ found.describe ++ ", expected " ++ expected
  | .outOfRange value expected =>
      "invalid value: integer `" ++ toString value ++ "`, expected " ++ expected
  | .tooManyElements length =>
      "invalid length " ++ toString length ++ ", expected fewer elements in array"
  | .duplicateField name => "duplicate field `" ++ name ++ "`"
  | .unknownField name known =>
      "unknown field `" ++ name ++ "`, expected " ++ alternatives known
  | .unknownVariant name known =>
      "unknown variant `" ++ name ++ "`, expected " ++ alternatives known
  | .noForm type => "data did not match any variant of untagged enum " ++ type
  | .unknownName of name => "unknown " ++ of ++ " `" ++ name ++ "`"
  | .unknownNumber of number => "unknown " ++ of ++ " number " ++ toString number

/-- A failed reading. -/
inductive Error
  | malformed (fault : Fault)
  | mismatch (reason : Mismatch)
deriving DecidableEq, Repr

/-- The classes into which errors fall. -/
inductive Category
  /-- The text is no JSON. -/
  | grammar
  /-- The JSON does not have the expected shape. -/
  | data
  /-- The text ends too soon. -/
  | ending
deriving DecidableEq, Repr

/-- The class of an error. -/
def Error.category : Error → Category
  | .malformed fault => if fault.atEnd then .ending else .grammar
  | .mismatch _ => .data

/-- The wording of an error. -/
def Error.message : Error → String
  | .malformed fault => fault.message
  | .mismatch reason => reason.message

end LinkedSchema.Json
