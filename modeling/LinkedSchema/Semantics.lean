import LinkedSchema.Navigation

/-!
# Derived properties

Whether an entity is visible, deprecated or generated follows from what is said about it, about the
scopes around it and about the types it refers to.

| entity     | visible if all these are         | deprecated if one of these is    |
|------------|----------------------------------|----------------------------------|
| file       | itself                           | itself                           |
| message    | file, messages around it, itself | file, messages around it, itself |
| enum       | file, messages around it, itself | as configured, or itself         |
| enum value | enum, itself                     | enum, itself                     |
| field      | message, declared type, itself   | message, declared type, itself   |
| oneof      | message                          | message                          |
| service    | file, itself                     | file, itself                     |
| method     | service, input, output, itself   | service, input, output, itself   |

A message never asks its fields, so a field whose type is its own message asks no one in a circle.

The properties of a message are read off all messages around it at once, where the linker that is
modelled asks the innermost one, which asks the next. That both answer alike, and that such asking comes
to an end for every entity, is said by `Model.FollowsScopes` (in `LinkedSchema.Proofs.Scopes`).

* `Model.isVisible`, `Model.isDeprecated`, `Model.isGenerated` — the properties, for every kind;
* `Restriction`, `Model.select` — listings restricted to entities with given properties;
* `Model.select_eq_filter` — what restrictions leave of a listing.
-/

namespace LinkedSchema

namespace Model

/-! ## Visibility -/

/-- A file is visible if it is public. -/
def fileVisible (file : File) : Bool :=
  file.metadata.isPublic

/-- A message is visible if it, its file and all messages around it are public. To ask the message
directly around it comes to the same (`Links.messageVisible_entity`). -/
def messageVisible (model : Model) (message : Message) : Bool :=
  fileVisible (model.resolve message.file) &&
    (model.enclosingMessages message).all (·.metadata.isPublic) && message.metadata.isPublic

/-- An enum is visible if it is public in a visible file and a visible message. -/
def enumVisible (model : Model) (enum : Enum) : Bool :=
  fileVisible (model.resolve enum.file) &&
    (model.enumParent? enum).all model.messageVisible && enum.metadata.isPublic

/-- A service is visible if it is public in a visible file. -/
def serviceVisible (model : Model) (service : Service) : Bool :=
  fileVisible (model.resolve service.file) && service.metadata.isPublic

/-- A value is visible if it is public in a visible enum. -/
def valueVisible (model : Model) (value : EnumValue) : Bool :=
  model.enumVisible (model.valueParent value) && value.metadata.isPublic

/-- A field is visible if it is public in a visible message, and its type, if declared, is visible. -/
def fieldVisible (model : Model) (field : Field) : Bool :=
  model.messageVisible (model.fieldParent field) &&
    (model.typeMessage? field).all model.messageVisible &&
    (model.typeEnum? field).all model.enumVisible && field.metadata.isPublic

/-- A method is visible if it is public in a visible service, and both its types are visible. -/
def methodVisible (model : Model) (method : Method) : Bool :=
  model.serviceVisible (model.methodParent method) &&
    model.messageVisible (model.inputOf method) && model.messageVisible (model.outputOf method) &&
    method.metadata.isPublic

/-- Whether an entity is part of the public schema, itself and by everything it depends on. -/
def isVisible (model : Model) : {kind : Kind} → Entity kind → Bool
  | .file, file => fileVisible file
  | .message, message => model.messageVisible message
  | .field, field => model.fieldVisible field
  | .oneof, oneof => model.messageVisible (model.oneofParent oneof)
  | .enum, enum => model.enumVisible enum
  | .enumValue, value => model.valueVisible value
  | .service, service => model.serviceVisible service
  | .method, method => model.methodVisible method

/-! ## Deprecation -/

/-- A file is deprecated if it says so. -/
def fileDeprecated (file : File) : Bool :=
  file.options.deprecated

/-- A message is deprecated if it, its file or a message around it says so. To ask the message directly
around it comes to the same (`Links.messageDeprecated_entity`). -/
def messageDeprecated (model : Model) (message : Message) : Bool :=
  fileDeprecated (model.resolve message.file) ||
    (model.enclosingMessages message).any (·.options.deprecated) || message.options.deprecated

/-- An enum is deprecated if it says so, or by the configured rule from the scopes around it. -/
def enumDeprecated (model : Model) (enum : Enum) : Bool :=
  let file : File := model.resolve enum.file
  let inherited := match model.config.enumDeprecation with
    | .ancestors => fileDeprecated file || (model.enumParent? enum).any model.messageDeprecated
    | .legacyVisibility => fileVisible file || (model.enumParent? enum).any model.messageVisible
  inherited || enum.options.deprecated

/-- A service is deprecated if it or its file says so. -/
def serviceDeprecated (model : Model) (service : Service) : Bool :=
  fileDeprecated (model.resolve service.file) || service.options.deprecated

/-- A value is deprecated if its enum is or it says so. -/
def valueDeprecated (model : Model) (value : EnumValue) : Bool :=
  model.enumDeprecated (model.valueParent value) || value.options.deprecated

/-- A field is deprecated if its message is, its declared type is, or it says so. -/
def fieldDeprecated (model : Model) (field : Field) : Bool :=
  model.messageDeprecated (model.fieldParent field) ||
    (model.typeMessage? field).any model.messageDeprecated ||
    (model.typeEnum? field).any model.enumDeprecated || field.options.deprecated

/-- A method is deprecated if its service is, one of its types is, or it says so. -/
def methodDeprecated (model : Model) (method : Method) : Bool :=
  model.serviceDeprecated (model.methodParent method) ||
    model.messageDeprecated (model.inputOf method) ||
    model.messageDeprecated (model.outputOf method) || method.options.deprecated

/-- Whether an entity is deprecated, itself or by something it depends on. -/
def isDeprecated (model : Model) : {kind : Kind} → Entity kind → Bool
  | .file, file => fileDeprecated file
  | .message, message => model.messageDeprecated message
  | .field, field => model.fieldDeprecated field
  | .oneof, oneof => model.messageDeprecated (model.oneofParent oneof)
  | .enum, enum => model.enumDeprecated enum
  | .enumValue, value => model.valueDeprecated value
  | .service, service => model.serviceDeprecated service
  | .method, method => model.methodDeprecated method

/-! ## Generation -/

/-- Whether output is wanted for the file that declares an entity. -/
def isGenerated (model : Model) {kind : Kind} (entity : Entity kind) : Bool :=
  (model.fileOf entity).generate

end Model

/-- Whether an entity is declared inside a message. Members are no types, so they are not nested. -/
def Entity.isNested : {kind : Kind} → Entity kind → Bool
  | .message, message => Message.isNested message
  | .enum, enum => Enum.isNested enum
  | .file, _ | .field, _ | .oneof, _ | .enumValue, _ | .service, _ | .method, _ => false

/-- A condition by which a listing may be restricted. -/
inductive Restriction
  | visible
  | notDeprecated
  | toGenerate
  | notNested
deriving DecidableEq, Repr

namespace Model

/-- Whether an entity meets a restriction. -/
def meets (model : Model) {kind : Kind} (entity : Entity kind) : Restriction → Bool
  | .visible => model.isVisible entity
  | .notDeprecated => !model.isDeprecated entity
  | .toGenerate => model.isGenerated entity
  | .notNested => !entity.isNested

/-- Applies restrictions to a listing one after the other. Restricting never changes the order. -/
def select (model : Model) (kind : Kind) (restrictions : List Restriction)
    (entities : List (Entity kind)) : List (Entity kind) :=
  restrictions.foldl (fun entities restriction =>
    entities.filter (model.meets · restriction)) entities

/-- Restrictions one after the other are one condition. -/
theorem select_eq_filter (model : Model) (kind : Kind) (restrictions : List Restriction)
    (entities : List (Entity kind)) :
    model.select kind restrictions entities =
      entities.filter fun entity => restrictions.all (model.meets entity) := by
  induction restrictions generalizing entities with
  | nil => exact (List.filter_eq_self.mpr fun _ _ => rfl).symm
  | cons restriction restrictions ih =>
      have hstep : model.select kind (restriction :: restrictions) entities =
          model.select kind restrictions (entities.filter (model.meets · restriction)) := rfl
      rw [hstep, ih, List.filter_filter]
      simp only [List.all_cons, Bool.and_comm]

end Model

end LinkedSchema
