import LinkedSchema.Comments
import LinkedSchema.Ident
import LinkedSchema.Metadata

/-!
# Entities

What a model knows of each declaration. Entities name each other by identifier only; following a
reference is the business of the model that holds them.

* `File`, `Message`, `Field`, `Oneof`, `Enum`, `EnumValue`, `Service`, `Method` — the eight kinds;
* `TypeRef` — what the type of a field refers to;
* `Entity` — the type of the entities of a kind, with what all kinds have in common.
-/

namespace LinkedSchema

/-- A schema file. -/
structure File where
  id : Ident .file
  name : String
  package : String
  syntaxLevel : String
  /-- The names of the files that the file imports. -/
  dependencies : List String
  /-- Whether output is wanted for the file. -/
  generate : Bool
  metadata : Metadata
  options : Options
  comments : Comments
  messages : List (Ident .message)
  enums : List (Ident .enum)
  services : List (Ident .service)
deriving Inhabited

/-- A message, at file level or nested. -/
structure Message where
  id : Ident .message
  name : String
  file : Ident .file
  /-- The messages around it, the innermost first. The linker that is modelled keeps the first of them
  and finds the others by climbing; `Model.Ancestry` has that the way up is the same. -/
  enclosing : List (Ident .message)
  metadata : Metadata
  options : Options
  comments : Comments
  reservedRanges : List ReservedRange
  reservedNames : List String
  fields : List (Ident .field)
  messages : List (Ident .message)
  enums : List (Ident .enum)
  oneofs : List (Ident .oneof)
deriving Inhabited

/-- What the type of a field refers to. The declaration need not be part of the request. -/
inductive TypeRef
  /-- No declaration: a scalar type, or a group. -/
  | scalar
  | message (id : Ident .message)
  | enum (id : Ident .enum)
deriving DecidableEq, Repr, Inhabited

/-- A field of a message. -/
structure Field where
  id : Ident .field
  name : String
  parent : Ident .message
  oneof : Option (Ident .oneof)
  typeRef : TypeRef
  number : Int
  label : FieldLabel
  type : FieldType
  /-- As written in the schema, empty if there is none. -/
  defaultValue : String
  jsonName : String
  metadata : Metadata
  options : Options
  comments : Comments
deriving Inhabited

/-- A group of fields of which at most one is set. -/
structure Oneof where
  id : Ident .oneof
  name : String
  parent : Ident .message
  options : Options
  comments : Comments
  fields : List (Ident .field)
deriving Inhabited

/-- An enum, at file level or nested in a message. -/
structure Enum where
  id : Ident .enum
  name : String
  file : Ident .file
  parent : Option (Ident .message)
  metadata : Metadata
  options : Options
  comments : Comments
  values : List (Ident .enumValue)
deriving Inhabited

/-- A named value of an enum. -/
structure EnumValue where
  id : Ident .enumValue
  name : String
  number : Int
  parent : Ident .enum
  metadata : Metadata
  options : Options
  comments : Comments
deriving Inhabited

/-- A service. -/
structure Service where
  id : Ident .service
  name : String
  file : Ident .file
  metadata : Metadata
  options : Options
  comments : Comments
  methods : List (Ident .method)
deriving Inhabited

/-- A method of a service. -/
structure Method where
  id : Ident .method
  name : String
  parent : Ident .service
  input : Ident .message
  output : Ident .message
  clientStreaming : Bool
  serverStreaming : Bool
  metadata : Metadata
  options : Options
  comments : Comments
deriving Inhabited

/-- The entities of a kind. -/
abbrev Entity : Kind → Type
  | .file => File
  | .message => Message
  | .field => Field
  | .oneof => Oneof
  | .enum => Enum
  | .enumValue => EnumValue
  | .service => Service
  | .method => Method

namespace Entity

instance : (kind : Kind) → Inhabited (Entity kind)
  | .file => inferInstanceAs (Inhabited File)
  | .message => inferInstanceAs (Inhabited Message)
  | .field => inferInstanceAs (Inhabited Field)
  | .oneof => inferInstanceAs (Inhabited Oneof)
  | .enum => inferInstanceAs (Inhabited Enum)
  | .enumValue => inferInstanceAs (Inhabited EnumValue)
  | .service => inferInstanceAs (Inhabited Service)
  | .method => inferInstanceAs (Inhabited Method)

/-- The identifier of an entity. -/
def id : {kind : Kind} → Entity kind → Ident kind
  | .file, file => File.id file
  | .message, message => Message.id message
  | .field, field => Field.id field
  | .oneof, oneof => Oneof.id oneof
  | .enum, enum => Enum.id enum
  | .enumValue, value => EnumValue.id value
  | .service, service => Service.id service
  | .method, method => Method.id method

/-- The name of an entity in its scope. -/
def name : {kind : Kind} → Entity kind → String
  | .file, file => File.name file
  | .message, message => Message.name message
  | .field, field => Field.name field
  | .oneof, oneof => Oneof.name oneof
  | .enum, enum => Enum.name enum
  | .enumValue, value => EnumValue.name value
  | .service, service => Service.name service
  | .method, method => Method.name method

/-- The options of an entity, extensions included. -/
def options : {kind : Kind} → Entity kind → Options
  | .file, file => File.options file
  | .message, message => Message.options message
  | .field, field => Field.options field
  | .oneof, oneof => Oneof.options oneof
  | .enum, enum => Enum.options enum
  | .enumValue, value => EnumValue.options value
  | .service, service => Service.options service
  | .method, method => Method.options method

/-- The comments on an entity. -/
def comments : {kind : Kind} → Entity kind → Comments
  | .file, file => File.comments file
  | .message, message => Message.comments message
  | .field, field => Field.comments field
  | .oneof, oneof => Oneof.comments oneof
  | .enum, enum => Enum.comments enum
  | .enumValue, value => EnumValue.comments value
  | .service, service => Service.comments service
  | .method, method => Method.comments method

/-- The metadata of an entity; a oneof has none of its own. -/
def metadata? : {kind : Kind} → Entity kind → Option Metadata
  | .file, file => some (File.metadata file)
  | .message, message => some (Message.metadata message)
  | .field, field => some (Field.metadata field)
  | .oneof, _ => none
  | .enum, enum => some (Enum.metadata enum)
  | .enumValue, value => some (EnumValue.metadata value)
  | .service, service => some (Service.metadata service)
  | .method, method => some (Method.metadata method)

/-- Two views of a model show the same entity if they have the same identifier. -/
def same {kind : Kind} (a b : Entity kind) : Bool :=
  a.id == b.id

/-- The word for a kind in descriptions of entities. -/
def kindWord : Kind → String
  | .file => "File"
  | .message => "Message"
  | .field => "Field"
  | .oneof => "Oneof"
  | .enum => "Enum"
  | .enumValue => "EnumValue"
  | .service => "Service"
  | .method => "Method"

/-- A short description: the kind and the identifier. -/
def describe {kind : Kind} (entity : Entity kind) : String :=
  kindWord kind ++ "(" ++ Text.quoted entity.id.text ++ ")"

end Entity

/-! ## Properties of a single entity -/

/-- The innermost message around a message. -/
def Message.parent? (message : Message) : Option (Ident .message) :=
  message.enclosing.head?

/-- Whether a message is declared inside another. -/
def Message.isNested (message : Message) : Bool :=
  !message.enclosing.isEmpty

/-- Whether a field number lies in a reserved range. -/
def Message.isReservedNumber (message : Message) (number : Int) : Bool :=
  message.reservedRanges.any (·.contains number)

/-- Whether a compiler made up the message for the entries of a map field. -/
def Message.isMapEntry (message : Message) : Bool :=
  message.options.flag "mapEntry"

/-- Whether an enum is declared inside a message. -/
def Enum.isNested (enum : Enum) : Bool :=
  enum.parent.isSome

/-- Whether a field belongs to a oneof. -/
def Field.isOneof (field : Field) : Bool :=
  field.oneof.isSome

/-- Whether a field has a type. -/
def Field.isType (field : Field) (type : FieldType) : Bool :=
  field.type == type

/-- Whether a field may occur several times. -/
def Field.isRepeated (field : Field) : Bool :=
  field.label == .repeated

/-- Groups are fields of an outdated kind, which no listing shows. -/
def Field.isListed (field : Field) : Bool :=
  field.type != .group

/-- A qualified name without its leading dots. -/
def withoutLeadingDots (name : String) : String :=
  String.ofList (name.toList.dropWhile (· == '.'))

/-- The type of a field for display: the qualified name of a declaration, or the word for a scalar
type, with brackets before it if the field is repeated. -/
def Field.typeText (field : Field) : String :=
  let base := match field.typeRef with
    | .message id => withoutLeadingDots id.text
    | .enum id => withoutLeadingDots id.text
    | .scalar => field.type.keyword
  if field.isRepeated then "[]" ++ base else base

end LinkedSchema
