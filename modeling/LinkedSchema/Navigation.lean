import LinkedSchema.Model

/-!
# Navigation

From an entity to those around it: upwards to its scope, downwards to what is declared in it, and
across to the types it refers to.

A message keeps all messages around it, so the way up is read off that list. The linker that is modelled
keeps the innermost one and climbs from message to message in a loop; that the loop comes to an end, and
where, is said by `Model.ClimbsTo` and `Model.Ancestry` (in `LinkedSchema.Proofs.Ancestry`).

* `Model.messageOf`, `Model.fileOf` — upwards;
* `Model.enclosingMessages`, `Model.root` — the messages around a message;
* `Model.typeMessage?`, `Model.typeEnum?`, `Model.oneofOf?` — across from a field;
* `Model.children` — downwards, by the kind of what is looked for.
-/

namespace LinkedSchema

namespace Model

/-- The messages around a message, the innermost first. -/
def enclosingMessages (model : Model) (message : Message) : List Message :=
  message.enclosing.map model.resolve

/-- The message directly around a message. -/
def parentMessage? (model : Model) (message : Message) : Option Message :=
  message.parent?.map model.resolve

/-- The outermost message around a message, which may be the message itself. It is the last of those
that are kept, and just where climbing by `parentMessage?` ends (`Model.Ancestry.climbs`). -/
def root (model : Model) (message : Message) : Message :=
  (model.enclosingMessages message).getLastD message

/-- The message around an enum. -/
def enumParent? (model : Model) (enum : Enum) : Option Message :=
  enum.parent.map model.resolve

/-- The message of a field. -/
def fieldParent (model : Model) (field : Field) : Message :=
  model.resolve field.parent

/-- The message of a oneof. -/
def oneofParent (model : Model) (oneof : Oneof) : Message :=
  model.resolve oneof.parent

/-- The enum of a value. -/
def valueParent (model : Model) (value : EnumValue) : Enum :=
  model.resolve value.parent

/-- The service of a method. -/
def methodParent (model : Model) (method : Method) : Service :=
  model.resolve method.parent

/-- The file that declares an entity. -/
def fileOf (model : Model) : {kind : Kind} → Entity kind → File
  | .file, file => file
  | .message, message => model.resolve (Message.file message)
  | .field, field => model.resolve (model.fieldParent field).file
  | .oneof, oneof => model.resolve (model.oneofParent oneof).file
  | .enum, enum => model.resolve (Enum.file enum)
  | .enumValue, value => model.resolve (model.valueParent value).file
  | .service, service => model.resolve (Service.file service)
  | .method, method => model.resolve (model.methodParent method).file

/-- The oneof of a field. -/
def oneofOf? (model : Model) (field : Field) : Option Oneof :=
  field.oneof.map model.resolve

/-- The message that is the type of a field, if it is part of the request. -/
def typeMessage? (model : Model) (field : Field) : Option Message :=
  match field.typeRef with
  | .message id => model.registry.messages.get? id
  | .scalar | .enum _ => none

/-- The enum that is the type of a field, if it is part of the request. -/
def typeEnum? (model : Model) (field : Field) : Option Enum :=
  match field.typeRef with
  | .enum id => model.registry.enums.get? id
  | .scalar | .message _ => none

/-- The message that a method takes. -/
def inputOf (model : Model) (method : Method) : Message :=
  model.resolve method.input

/-- The message that a method returns. -/
def outputOf (model : Model) (method : Method) : Message :=
  model.resolve method.output

/-! ## Listings of what is declared in an entity -/

/-- The messages at the level of a file. -/
def fileMessages (model : Model) (file : File) : List Message :=
  model.resolveListed file.messages

/-- The enums at the level of a file. -/
def fileEnums (model : Model) (file : File) : List Enum :=
  model.resolveListed file.enums

/-- The services of a file. -/
def fileServices (model : Model) (file : File) : List Service :=
  model.resolveListed file.services

/-- The fields of a message, without groups. -/
def messageFields (model : Model) (message : Message) : List Field :=
  model.resolveListed message.fields

/-- The messages directly inside a message. -/
def messageMessages (model : Model) (message : Message) : List Message :=
  model.resolveListed message.messages

/-- The enums directly inside a message. -/
def messageEnums (model : Model) (message : Message) : List Enum :=
  model.resolveListed message.enums

/-- The oneofs of a message. -/
def messageOneofs (model : Model) (message : Message) : List Oneof :=
  model.resolveListed message.oneofs

/-- The fields of a oneof, without groups. -/
def oneofFields (model : Model) (oneof : Oneof) : List Field :=
  model.resolveListed oneof.fields

/-- The values of an enum. -/
def enumValues (model : Model) (enum : Enum) : List EnumValue :=
  model.resolveListed enum.values

/-- The methods of a service. -/
def serviceMethods (model : Model) (service : Service) : List Method :=
  model.resolveListed service.methods

/-- What is declared directly in an entity, of the kind that is looked for; nothing if no entity of
the first kind holds any of the second. -/
def children (model : Model) : {kind : Kind} → Entity kind → (child : Kind) → List (Entity child)
  | .file, file, .message => model.fileMessages file
  | .file, file, .enum => model.fileEnums file
  | .file, file, .service => model.fileServices file
  | .message, message, .field => model.messageFields message
  | .message, message, .message => model.messageMessages message
  | .message, message, .enum => model.messageEnums message
  | .message, message, .oneof => model.messageOneofs message
  | .oneof, oneof, .field => model.oneofFields oneof
  | .enum, enum, .enumValue => model.enumValues enum
  | .service, service, .method => model.serviceMethods service
  | _, _, _ => []

end Model

end LinkedSchema
