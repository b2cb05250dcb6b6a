import LinkedSchema.Dictionary
import LinkedSchema.Json.Decoder

/-!
# Values

JSON values by themselves, away from the text that wrote them.

* `Value` — a value; the members of an object read from text are in ascending key order, and a key
  that was written twice has its last value;
* `value` — the decoder that takes whatever stands there;
* `Value.pretty` — the text of a value, indented by two blanks per level.
-/

namespace LinkedSchema.Json

/-- A JSON value. -/
inductive Value
  | null
  | bool (value : Bool)
  | number (value : Number)
  | string (value : String)
  | list (items : List Value)
  | object (members : List (String × Value))
deriving Inhabited

/-- How messages describe a value of the wrong type. -/
def Value.found : Value → Found
  | .null => .null
  | .bool value => .bool value
  | .number value => .number value
  | .string value => .string value
  | .list _ => .list
  | .object _ => .object

/-- The truth value of a value that is one. -/
def Value.asBool? : Value → Option Bool
  | .bool value => some value
  | _ => none

/-- The text of a value that is one. -/
def Value.asString? : Value → Option String
  | .string value => some value
  | _ => none

/-- The members of an object, read in the order of the text. -/
def readMembers {α : Type} (item : Decoder α) (members : List (Scalar String × Document)) :
    Except Error (Dictionary α) := do
  let entries ← members.mapM fun (key, document) => do
    let key ← orFault key.used
    return (key, ← item document)
  return .ofList entries

/-- A map from texts: an object whose members all have one shape. -/
def dictionary {α : Type} (item : Sized α) : Sized (Dictionary α) := fun room document =>
  match document with
  | .object members ending => do
      let room ← enter room
      let entries ← readMembers (item room) members
      orFault ending.check
      return entries
  | document => document.refuse "a map"

/-- Any value. -/
def value : Sized Value
  | _, .null => .ok .null
  | _, .bool value => .ok (.bool value)
  | _, .number value => return .number (← orFault value.used)
  | _, .string value => return .string (← orFault value.used)
  | 0, .list _ _ => .error (.malformed .tooDeep)
  | 0, .object _ _ => .error (.malformed .tooDeep)
  | room + 1, .list items ending => do
      let values ← items.mapM (value room)
      orFault ending.check
      return .list values
  | room + 1, .object members ending => do
      let entries ← readMembers (value room) members
      orFault ending.check
      return .object entries.entries
  | _, .absent => .error (.malformed .endInValue)
  | _, .stray => .error (.malformed .expectedValue)
  | _, .misspelt fault => .error (.malformed fault)
  | _, .noColon fault => .error (.malformed fault)

/-! ## Text of values -/

/-- One character inside a JSON string. -/
def stringChar (c : Char) : String :=
  if c == '"' then "\\\""
  else if c == '\\' then "\\\\"
  else if c == '\x08' then "\\b"
  else if c == '\x0c' then "\\f"
  else if c == '\n' then "\\n"
  else if c == '\r' then "\\r"
  else if c == '\t' then "\\t"
  else if c < ' ' then
    "\\u00" ++ (if c.toNat < 16 then "0" else "") ++ Text.hexDigits c.toNat
  else c.toString

/-- A text as a JSON string. -/
def stringText (s : String) : String :=
  "\"" ++ String.join (s.toList.map stringChar) ++ "\""

/-- A line break and the blanks of a nesting level. -/
def lineBreak (level : Nat) : String :=
  "\n" ++ String.ofList (List.replicate (2 * level) ' ')

/-- Parts between brackets, one a line, or the brackets alone. -/
def bracketed (opening closing : String) (level : Nat) (parts : List String) : String :=
  if parts.isEmpty then opening ++ closing
  else
    opening ++ lineBreak (level + 1) ++ String.intercalate ("," ++ lineBreak (level + 1)) parts ++
      lineBreak level ++ closing

mutual

/-- The text of a value at a nesting level. -/
def Value.prettyAt (level : Nat) : Value → String
  | .null => "null"
  | .bool value => if value then "true" else "false"
  | .number value => value.text
  | .string value => stringText value
  | .list items => bracketed "[" "]" level (prettyItems (level + 1) items)
  | .object members => bracketed "\x7b" "\x7d" level (prettyMembers (level + 1) members)

/-- The texts of the items of a list. -/
def prettyItems (level : Nat) : List Value → List String
  | [] => []
  | item :: items => item.prettyAt level :: prettyItems level items

/-- The texts of the members of an object. -/
def prettyMembers (level : Nat) : List (String × Value) → List String
  | [] => []
  | (key, value) :: members =>
      (stringText key ++ ": " ++ value.prettyAt level) :: prettyMembers level members

end

/-- The indented text of a value. -/
def Value.pretty (value : Value) : String :=
  value.prettyAt 0

end LinkedSchema.Json
