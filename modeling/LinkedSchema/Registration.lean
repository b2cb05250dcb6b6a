import LinkedSchema.Config
import LinkedSchema.Registry

/-!
# Registration

The steps by which the declarations of a file are registered, as a list. The order matters, since the
first step that fails decides the outcome:

* a declaration comes before what is declared inside it;
* of a message, first the oneofs, then the fields, the nested messages and the enums;
* of a file, first the messages, then the enums and the services, so that a method finds the messages
  of its own file.

Each declaration is complete when its step is listed: its identifier, its links and the identifiers
of what is declared inside it depend on its descriptor and its scope alone.

This differs from the linker that is modelled, which registers in place:

* There an entity is inserted with empty lists, and the identifier of each declaration inside it is
  appended, by a change of the entity in its slot, once that declaration is registered. Here the lists
  are filled at once, so no step changes an entity and none calls `Arena.modify?`. Where linking
  succeeds, all that is declared inside is registered and the lists are the same; where it fails, no
  registry is returned.
* There files, messages and fields are also numbered as they come, and their listings are sorted by
  these numbers. Here there is no number: the arena has the entities in that order, and lists of
  identifiers are in the order of the descriptors, which is the order of registration.

* `Scope` — what the declarations of a file have in common;
* `fieldSteps`, `messageSteps`, `enumSteps`, `serviceSteps`, ... — the steps of a declaration;
* `FileDescriptor.steps` — the steps of a file.
-/

namespace LinkedSchema

/-- What the declarations of a file have in common. -/
structure Scope where
  extensions : ExtensionNames
  file : Ident .file
  package : String
  comments : CommentTable

/-- Declares an entity that has metadata. Metadata that cannot be read is reported before the
declaration is tried, and counts as not written. -/
def declareWithMetadata (kind : Kind) (extension : String) (options : Options)
    (entity : Metadata → Entity kind) : List Step :=
  match Metadata.read options extension with
  | none => [.declare kind (entity {})]
  | some (.ok metadata) => [.declare kind (entity metadata)]
  | some (.error reason) =>
      [.log (.malformedMetadata extension reason), .declare kind (entity {})]

/-! ## Fields and oneofs -/

/-- What the type of a field refers to. Names of types are fully qualified, so they are identifiers;
whether the declaration exists is found out when the reference is followed. -/
def TypeRef.ofField (field : FieldDescriptor) : TypeRef :=
  let name := field.typeName.getD ""
  if name.isEmpty then .scalar
  else match field.type with
    | .message => .message ⟨name⟩
    | .enum => .enum ⟨name⟩
    | _ => .scalar

/-- The field of a message, once its oneof is known. -/
def Field.ofDescriptor (scope : Scope) (parent : Ident .message) (path : SourcePath)
    (descriptor : FieldDescriptor) (oneof : Option (Ident .oneof)) (metadata : Metadata) : Field where
  id := parent.member descriptor.name
  name := descriptor.name
  parent
  oneof
  typeRef := .ofField descriptor
  number := descriptor.number
  label := descriptor.label
  type := descriptor.type
  defaultValue := descriptor.defaultValue.getD ""
  jsonName := descriptor.jsonName.getD ""
  metadata
  options := descriptor.options
  comments := scope.comments.lookup path

/-- The element at a position, if the position is one of the list. -/
def atIndex? {α : Type} (items : List α) (index : Int) : Option α :=
  if 0 ≤ index then items[index.toNat]? else none

/-- A field. Its oneof is given by position among the oneofs of its message. -/
def fieldSteps (scope : Scope) (parent : Ident .message) (oneofs : List (Ident .oneof))
    (path : SourcePath) (descriptor : FieldDescriptor) : List Step :=
  let declare (oneof : Option (Ident .oneof)) : List Step :=
    declareWithMetadata .field scope.extensions.field descriptor.options
      (Field.ofDescriptor scope parent path descriptor oneof)
  match descriptor.oneofIndex with
  | none => declare none
  | some index =>
      match atIndex? oneofs index with
      | some oneof => declare (some oneof)
      | none =>
          [.refuse (.oneofIndexOutOfRange (parent.member descriptor.name) index oneofs.length)]

/-- A oneof, with the fields of its message that name its position. -/
def Oneof.ofDescriptor (scope : Scope) (parent : Ident .message) (path : SourcePath)
    (fields : List FieldDescriptor) (position : Nat) (descriptor : OneofDescriptor) : Oneof where
  id := parent.member descriptor.name
  name := descriptor.name
  parent
  options := descriptor.options
  comments := scope.comments.lookup path
  fields := (fields.filter (·.oneofIndex == some (position : Int))).map (parent.member ·.name)

/-! ## Enums -/

/-- The value of an enum. -/
def EnumValue.ofDescriptor (scope : Scope) (parent : Ident .enum) (path : SourcePath)
    (descriptor : EnumValueDescriptor) (metadata : Metadata) : EnumValue where
  id := parent.member descriptor.name
  name := descriptor.name
  number := descriptor.number
  parent
  metadata
  options := descriptor.options
  comments := scope.comments.lookup path

/-- An enum, at file level or in the message given. -/
def Enum.ofDescriptor (scope : Scope) (parent : Option (Ident .message)) (path : SourcePath)
    (descriptor : EnumDescriptor) (metadata : Metadata) : Enum :=
  let id : Ident .enum := .ofType scope.package parent descriptor.name
  { id
    name := descriptor.name
    file := scope.file
    parent
    metadata
    options := descriptor.options
    comments := scope.comments.lookup path
    values := descriptor.values.map (id.member ·.name) }

/-- An enum and its values. -/
def enumSteps (scope : Scope) (parent : Option (Ident .message)) (path : SourcePath)
    (descriptor : EnumDescriptor) : List Step :=
  let id : Ident .enum := .ofType scope.package parent descriptor.name
  declareWithMetadata .enum scope.extensions.enum descriptor.options
      (Enum.ofDescriptor scope parent path descriptor) ++
    descriptor.values.zipIdx.flatMap fun (value, position) =>
      declareWithMetadata .enumValue scope.extensions.enumValue value.options
        (EnumValue.ofDescriptor scope id (path.enumValue position) value)

/-! ## Messages -/

/-- A message. The messages around it are given, the innermost first. -/
def Message.ofDescriptor (scope : Scope) (enclosing : List (Ident .message)) (path : SourcePath)
    (descriptor : MessageDescriptor) (metadata : Metadata) : Message :=
  let id : Ident .message := .ofType scope.package enclosing.head? descriptor.name
  { id
    name := descriptor.name
    file := scope.file
    enclosing
    metadata
    options := descriptor.options
    comments := scope.comments.lookup path
    reservedRanges := descriptor.reservedRanges
    reservedNames := descriptor.reservedNames
    fields := descriptor.fields.map (id.member ·.name)
    messages := descriptor.nested.map (.ofType scope.package (some id) ·.name)
    enums := descriptor.enums.map (.ofType scope.package (some id) ·.name)
    oneofs := descriptor.oneofs.map (id.member ·.name) }

mutual

/-- A message with everything declared in it. -/
def messageSteps (scope : Scope) (enclosing : List (Ident .message)) (path : SourcePath) :
    MessageDescriptor → List Step
  | descriptor@⟨name, fields, nested, enums, oneofs, options, _, _⟩ =>
      let id : Ident .message := .ofType scope.package enclosing.head? name
      let oneofIds : List (Ident .oneof) := oneofs.map (id.member ·.name)
      declareWithMetadata .message scope.extensions.message options
          (Message.ofDescriptor scope enclosing path descriptor) ++
        (oneofs.zipIdx.map fun (oneof, position) =>
          .declare .oneof
            (Oneof.ofDescriptor scope id (path.oneof position) fields position oneof)) ++
        (fields.zipIdx.flatMap fun (field, position) =>
          fieldSteps scope id oneofIds (path.field position) field) ++
        nestedSteps scope (id :: enclosing) path 0 nested ++
        (enums.zipIdx.flatMap fun (enum, position) =>
          enumSteps scope (some id) (path.nestedEnum position) enum)

/-- Messages nested in the message at a path, from a position on. -/
def nestedSteps (scope : Scope) (enclosing : List (Ident .message)) (path : SourcePath)
    (position : Nat) : List MessageDescriptor → List Step
  | [] => []
  | message :: messages =>
      messageSteps scope enclosing (path.nestedMessage position) message ++
        nestedSteps scope enclosing path (position + 1) messages

end

/-! ## Services -/

/-- The method of a service. -/
def Method.ofDescriptor (scope : Scope) (parent : Ident .service) (path : SourcePath)
    (descriptor : MethodDescriptor) (metadata : Metadata) : Method where
  id := parent.member descriptor.name
  name := descriptor.name
  parent
  input := ⟨descriptor.inputType⟩
  output := ⟨descriptor.outputType⟩
  clientStreaming := descriptor.clientStreaming
  serverStreaming := descriptor.serverStreaming
  metadata
  options := descriptor.options
  comments := scope.comments.lookup path

/-- A method. Its types have to be known before it is declared, and before its metadata is read. -/
def methodSteps (scope : Scope) (parent : Ident .service) (path : SourcePath)
    (descriptor : MethodDescriptor) : List Step :=
  let id : Ident .method := parent.member descriptor.name
  .require id .input ⟨descriptor.inputType⟩ :: .require id .output ⟨descriptor.outputType⟩ ::
    declareWithMetadata .method scope.extensions.method descriptor.options
      (Method.ofDescriptor scope parent path descriptor)

/-- A service. -/
def Service.ofDescriptor (scope : Scope) (path : SourcePath) (descriptor : ServiceDescriptor)
    (metadata : Metadata) : Service :=
  let id : Ident .service := .ofType scope.package none descriptor.name
  { id
    name := descriptor.name
    file := scope.file
    metadata
    options := descriptor.options
    comments := scope.comments.lookup path
    methods := descriptor.methods.map (id.member ·.name) }

/-- A service and its methods. -/
def serviceSteps (scope : Scope) (path : SourcePath) (descriptor : ServiceDescriptor) : List Step :=
  let id : Ident .service := .ofType scope.package none descriptor.name
  declareWithMetadata .service scope.extensions.service descriptor.options
      (Service.ofDescriptor scope path descriptor) ++
    descriptor.methods.zipIdx.flatMap fun (method, position) =>
      methodSteps scope id (path.method position) method

/-! ## Files -/

namespace FileDescriptor

/-- What the declarations of the file have in common. -/
def scope (file : FileDescriptor) (extensions : ExtensionNames) : Scope where
  extensions
  file := .ofFile file.package file.name
  package := file.package
  comments := .ofLocations (file.locations.getD [])

end FileDescriptor

/-- A file. A file that does not say its syntax level has the oldest. -/
def File.ofDescriptor (scope : Scope) (generate : Bool) (descriptor : FileDescriptor)
    (metadata : Metadata) : File where
  id := scope.file
  name := descriptor.name
  package := descriptor.package
  syntaxLevel := descriptor.syntaxLevel.getD "proto2"
  dependencies := descriptor.dependencies
  generate
  metadata
  options := descriptor.options
  comments := scope.comments.lookup .ofFile
  messages := descriptor.messages.map (.ofType descriptor.package none ·.name)
  enums := descriptor.enums.map (.ofType descriptor.package none ·.name)
  services := descriptor.services.map (.ofType descriptor.package none ·.name)

/-- A file with everything declared in it. -/
def FileDescriptor.steps (extensions : ExtensionNames) (filesToGenerate : List String)
    (file : FileDescriptor) : List Step :=
  let scope := file.scope extensions
  let generate := filesToGenerate.contains file.name
  declareWithMetadata .file extensions.file file.options
      (File.ofDescriptor scope generate file) ++
    (file.messages.zipIdx.flatMap fun (message, position) =>
      messageSteps scope [] (.ofMessage position) message) ++
    (file.enums.zipIdx.flatMap fun (enum, position) =>
      enumSteps scope none (.ofEnum position) enum) ++
    (file.services.zipIdx.flatMap fun (service, position) =>
      serviceSteps scope (.ofService position) service) ++
    [.log (.registeredFile file.name file.package generate file.messages.length file.enums.length
      file.services.length)]

end LinkedSchema
