import LinkedSchema.FieldType
import LinkedSchema.Options

/-!
# Descriptors

The parsed form of schema files, as a compiler hands them to a plugin: trees of declarations in which
every reference to a type is a fully qualified name. Only what a linked model needs is kept. Whatever
is not written has its default: empty texts and lists, zero, false.

* `FileDescriptor`, `MessageDescriptor`, `FieldDescriptor`, `OneofDescriptor`, `EnumDescriptor`,
  `EnumValueDescriptor`, `ServiceDescriptor`, `MethodDescriptor` — the declarations;
* `Location` — the comments recorded for a place in a file;
* `Request` — the files of a compilation, and those of them that output is wanted for.
-/

namespace LinkedSchema

/-- Field numbers that a message must not use, from `start` to just before `stop`. -/
structure ReservedRange where
  start : Int := 0
  stop : Int := 0
deriving DecidableEq, Repr, Inhabited

/-- Whether a field number lies in the range. -/
def ReservedRange.contains (range : ReservedRange) (number : Int) : Bool :=
  range.start ≤ number && number < range.stop

/-- A field of a message. -/
structure FieldDescriptor where
  name : String := ""
  number : Int := 0
  label : FieldLabel := default
  type : FieldType := default
  /-- The fully qualified name of the message or enum that is the type of the field. -/
  typeName : Option String := none
  defaultValue : Option String := none
  /-- The position of the oneof that the field belongs to among the oneofs of its message. -/
  oneofIndex : Option Int := none
  jsonName : Option String := none
  options : Options := .empty
deriving Inhabited

/-- A group of fields of which at most one is set. -/
structure OneofDescriptor where
  name : String := ""
  options : Options := .empty
deriving Inhabited

/-- A named value of an enum. -/
structure EnumValueDescriptor where
  name : String := ""
  number : Int := 0
  options : Options := .empty
deriving Inhabited

/-- An enum. -/
structure EnumDescriptor where
  name : String := ""
  values : List EnumValueDescriptor := []
  options : Options := .empty
deriving Inhabited

/-- A message, with the messages and enums declared inside it. -/
structure MessageDescriptor where
  name : String := ""
  fields : List FieldDescriptor := []
  nested : List MessageDescriptor := []
  enums : List EnumDescriptor := []
  oneofs : List OneofDescriptor := []
  options : Options := .empty
  reservedRanges : List ReservedRange := []
  reservedNames : List String := []
deriving Inhabited

/-- A method of a service; its types are fully qualified names of messages. -/
structure MethodDescriptor where
  name : String := ""
  inputType : String := ""
  outputType : String := ""
  options : Options := .empty
  clientStreaming : Bool := false
  serverStreaming : Bool := false
deriving Inhabited

/-- A service. -/
structure ServiceDescriptor where
  name : String := ""
  methods : List MethodDescriptor := []
  options : Options := .empty
deriving Inhabited

/-- A place in a file with the comments around it. The path leads from the file to a declaration by
alternating field numbers and positions. -/
structure Location where
  path : List Int := []
  span : List Int := []
  leadingComments : Option String := none
  trailingComments : Option String := none
  leadingDetachedComments : List String := []
deriving DecidableEq, Repr, Inhabited

/-- A schema file. -/
structure FileDescriptor where
  name : String := ""
  package : String := ""
  dependencies : List String := []
  messages : List MessageDescriptor := []
  enums : List EnumDescriptor := []
  services : List ServiceDescriptor := []
  options : Options := .empty
  /-- The recorded places, if the compiler recorded any. -/
  locations : Option (List Location) := none
  /-- The declared syntax level, if the file declares one. -/
  syntaxLevel : Option String := none
deriving Inhabited

/-- The version of the compiler that sent a request. -/
structure CompilerVersion where
  major : Int := 0
  minor : Int := 0
  patch : Int := 0
  suffix : String := ""
deriving DecidableEq, Repr, Inhabited

/-- A request to a plugin: every file of a compilation, dependencies first. -/
structure Request where
  /-- The names of the files that output is wanted for. -/
  filesToGenerate : List String := []
  /-- A text whose meaning is up to the plugin. -/
  parameter : Option String := none
  files : List FileDescriptor := []
  compilerVersion : Option CompilerVersion := none
deriving Inhabited

end LinkedSchema
