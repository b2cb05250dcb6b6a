import LinkedSchema.Json.Document

/-!
# Decoders

A decoder looks for a value of one shape in a document and walks it in text order, so that the first
thing wrong with the text, be it grammar or shape, is the one reported. Containers may be nested to a
fixed depth; a decoder of a container is given the room that is left and hands on one less.

* `Decoder`, `Sized` — decoders, and decoders that depend on the room left for containers;
* `text`, `flag`, `int32`, `optional`, `list`, `unit`, `choice` — decoders of simple shapes;
* `Slot`, `record` — records by named slots, written as an object or as a list in slot order;
* `decode` — a whole text, behind which nothing but blanks may follow.
-/

namespace LinkedSchema.Json

/-- Looks for a value in a document. -/
abbrev Decoder (α : Type) := Document → Except Error α

/-- A decoder that knows how many more containers may be opened. -/
abbrev Sized (α : Type) := Nat → Decoder α

/-- As many containers may be open at once. -/
def depthLimit : Nat := 127

/-- Turns a fault into an error. -/
def orFault {α : Type} : Except Fault α → Except Error α
  | .ok value => .ok value
  | .error fault => .error (.malformed fault)

/-- The error of finding something of the wrong type. -/
def wrongType {α : Type} (found : Found) (expected : String) : Except Error α :=
  .error (.mismatch (.wrongType found expected))

/-- Refuses a document where `expected` was looked for. A text or a number is read first, since it is
shown in the message; of a container only the first character counts. -/
def Document.refuse {α : Type} (expected : String) : Decoder α
  | .null => wrongType .null expected
  | .bool value => wrongType (.bool value) expected
  | .number value => do wrongType (.number (← orFault value.used)) expected
  | .string value => do wrongType (.string (← orFault value.used)) expected
  | .list _ _ => wrongType .list expected
  | .object _ _ => wrongType .object expected
  | .absent => .error (.malformed .endInValue)
  | .stray => .error (.malformed .expectedValue)
  | .misspelt fault => .error (.malformed fault)
  | .noColon fault => .error (.malformed fault)

/-- A text. -/
def text : Decoder String
  | .string value => orFault value.used
  | document => document.refuse "a string"

/-- A truth value. -/
def flag : Decoder Bool
  | .bool value => .ok value
  | document => document.refuse "a boolean"

/-- Whether an integer fits into thirty-two bits with sign. -/
def fitsInt32 (value : Int) : Bool :=
  -2147483648 ≤ value && value < 2147483648

/-- An integer of thirty-two bits. A real is refused even if its value is whole. -/
def int32 : Decoder Int
  | .number value => do
      match ← orFault value.used with
      | .integer value =>
          if fitsInt32 value then .ok value
          else .error (.mismatch (.outOfRange value "i32"))
      | real => wrongType (.number real) "i32"
  | document => document.refuse "i32"

/-- A value that may be `null`. -/
def optional {α : Type} (decoder : Decoder α) : Decoder (Option α)
  | .null => .ok none
  | document => some <$> decoder document

/-- The room inside a container. -/
def enter : Nat → Except Error Nat
  | 0 => .error (.malformed .tooDeep)
  | room + 1 => .ok room

/-- A list whose items all have one shape. -/
def list {α : Type} (item : Sized α) : Sized (List α) := fun room document =>
  match document with
  | .list items ending => do
      let room ← enter room
      let values ← items.mapM (item room)
      orFault ending.check
      return values
  | document => document.refuse "a sequence"

/-- Nothing but `null`. -/
def unit : Decoder Unit
  | .null => .ok ()
  | document => document.refuse "unit"

/-- The name of one of some variants. -/
def variant {α : Type} (variants : List (String × α)) (name : String) : Except Error α :=
  match variants.lookup name with
  | some value => .ok value
  | none => .error (.mismatch (.unknownVariant name (variants.map Prod.fst)))

/-- What may follow the only member of an object that names a variant. -/
def ObjectEnd.checkVariant (more : List (Scalar String × Document)) :
    ObjectEnd → Except Fault Unit
  | .closed => if more.isEmpty then .ok () else .error .expectedValue
  | .cut => if more.isEmpty then .error .endInObject else .error .expectedValue
  | .noComma | .danglingComma | .noKey | .cutBehindComma => .error .expectedValue

/-- One of some variants without content: its name, or an object of one member whose key is the name
and whose value is `null`. -/
def choice {α : Type} (variants : List (String × α)) : Sized α := fun room document =>
  match document with
  | .string name => do variant variants (← orFault name.used)
  | .object members ending => do
      let _ ← enter room
      match members, ending with
      | (name, content) :: more, ending => do
          let value ← variant variants (← orFault name.used)
          unit content
          orFault (ending.checkVariant more)
          return value
      | [], .noKey => .error (.malformed .keyNotString)
      | [], .cut => .error (.malformed .endInObject)
      | [], _ => .error (.malformed .expectedValue)
  | .absent => .error (.malformed .endInValue)
  | .noColon fault => .error (.malformed fault)
  | _ => .error (.malformed .expectedValue)

/-! ## Records -/

/-- A field of a record: the keys under which it may be written, the first of which names it in
messages, and how its value is read and stored. -/
structure Slot (σ : Type) where
  name : String
  aliases : List String
  store : Sized (σ → σ)

/-- A slot for a value of any depth. -/
def Slot.ofSized {σ α : Type} (name : String) (aliases : List String) (decoder : Sized α)
    (set : α → σ → σ) : Slot σ :=
  ⟨name, aliases, fun room document => set <$> decoder room document⟩

/-- A slot for a value without containers. -/
def Slot.ofFlat {σ α : Type} (name : String) (aliases : List String) (decoder : Decoder α)
    (set : α → σ → σ) : Slot σ :=
  .ofSized name aliases (fun _ => decoder) set

/-- Whether a key names the slot. -/
def Slot.answersTo {σ : Type} (slot : Slot σ) (key : String) : Bool :=
  slot.name == key || slot.aliases.contains key

/-- What becomes of members whose key names no slot. -/
inductive Unknown
  | skipped
  | refused
deriving DecidableEq

/-- A kind of record: what messages call it, its slots in order, and what else may stand in it. -/
structure Shape (σ : Type) where
  title : String
  slots : List (Slot σ)
  unknown : Unknown

/-- Stores the members of an object one by one. `seen` names the slots already filled: filling one
again is an error, found as soon as the key is read. -/
def Shape.storeMembers {σ : Type} (shape : Shape σ) (room : Nat) (seen : List String) (value : σ) :
    List (Scalar String × Document) → Except Error σ
  | [] => .ok value
  | (key, document) :: members => do
      let key ← orFault key.used
      match shape.slots.find? (·.answersTo key) with
      | some slot =>
          if seen.contains slot.name then .error (.mismatch (.duplicateField slot.name))
          else do
            let store ← slot.store room document
            shape.storeMembers room (slot.name :: seen) (store value) members
      | none =>
          match shape.unknown with
          | .refused =>
              .error (.mismatch (.unknownField key (shape.slots.map Slot.name)))
          | .skipped => do
              orFault document.skip
              shape.storeMembers room seen value members

/-- Stores the items of a list in the slots at their places. Slots beyond the end of the list keep
their value; an item beyond the last slot is an error. -/
def storeItems {σ : Type} (room : Nat) (ending : ListEnd) (value : σ) :
    List (Slot σ) → List Document → Except Error σ
  | [], [] => do orFault ending.checkComplete; return value
  | [], _ :: _ => .error (.malformed .trailingCharacters)
  | _ :: _, [] => do orFault ending.check; return value
  | slot :: slots, item :: items => do
      let store ← slot.store room item
      storeItems room ending (store value) slots items

/-- A record, starting from the value it has when nothing is written. -/
def record {σ : Type} (shape : Shape σ) (initial : σ) : Sized σ := fun room document =>
  match document with
  | .object members ending => do
      let room ← enter room
      let value ← shape.storeMembers room [] initial members
      orFault ending.check
      return value
  | .list items ending => do
      let room ← enter room
      storeItems room ending initial shape.slots items
  | document => document.refuse ("struct " ++ shape.title)

/-- Decodes a whole text. -/
def decode {α : Type} (decoder : Sized α) (text : String) : Except Error α := do
  let reading := Reading.ofText text
  let value ← decoder depthLimit reading.document
  if reading.trailing then .error (.malformed .trailingCharacters)
  else return value

end LinkedSchema.Json
