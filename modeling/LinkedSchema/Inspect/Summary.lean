import LinkedSchema.Inspect.Filter

/-!
# Summaries

A model as a tree of records, with what a reader wants to see of each declaration, and its JSON text.

* `ModelSummary`, `FileSummary`, `MessageSummary`, ... — the records;
* `summarize` — the summary of a model under a filter;
* `ModelSummary.value` — the summary as JSON; empty lists of optional parts are left out.
-/

namespace LinkedSchema.Inspect

open Json (Value)

/-- A field in a summary. -/
structure FieldSummary where
  name : String
  number : Int
  type : String
  oneof : Option String
  visible : Bool
  deprecated : Bool
deriving DecidableEq, Repr

/-- An enum in a summary. -/
structure EnumSummary where
  id : String
  visible : Bool
  deprecated : Bool
  values : List (String × Int)
deriving DecidableEq, Repr

/-- A message in a summary. -/
structure MessageSummary where
  id : String
  visible : Bool
  deprecated : Bool
  fields : List FieldSummary
  oneofs : List String
  messages : List MessageSummary
  enums : List EnumSummary
deriving Repr

/-- A method in a summary. -/
structure MethodSummary where
  name : String
  input : String
  output : String
  clientStreaming : Bool
  serverStreaming : Bool
  visible : Bool
  deprecated : Bool
deriving DecidableEq, Repr

/-- A service in a summary. -/
structure ServiceSummary where
  id : String
  visible : Bool
  deprecated : Bool
  methods : List MethodSummary
deriving DecidableEq, Repr

/-- A file in a summary. -/
structure FileSummary where
  id : String
  name : String
  package : String
  syntaxLevel : String
  generate : Bool
  visible : Bool
  deprecated : Bool
  messages : List MessageSummary
  enums : List EnumSummary
  services : List ServiceSummary
deriving Repr

/-- The summary of a model. -/
structure ModelSummary where
  parameter : String
  packagesToGenerate : List String
  files : List FileSummary
deriving Repr

/-! ## Making summaries -/

section

variable (model : Model) (filter : Filter)

/-- The summary of a field. -/
def summarizeField (field : Field) : FieldSummary where
  name := field.name
  number := field.number
  type := field.typeText
  oneof := (model.oneofOf? field).map Oneof.name
  visible := model.fieldVisible field
  deprecated := model.fieldDeprecated field

/-- The summary of an enum with the values that are shown. -/
def summarizeEnum (enum : Enum) : EnumSummary :=
  let values : List EnumValue := filter.keep model .enumValue (model.enumValues enum)
  { id := enum.id.text
    visible := model.enumVisible enum
    deprecated := model.enumDeprecated enum
    values := values.map fun value => (value.name, value.number) }

/-- The summary of a message with what is shown of its content, nested messages down to a depth. -/
def summarizeMessage : Nat → Message → MessageSummary
  | depth, message =>
      let fields : List Field := filter.keep model .field (model.messageFields message)
      let oneofs : List Oneof := filter.keep model .oneof (model.messageOneofs message)
      let nested : List Message := filter.keep model .message (model.messageMessages message)
      let enums : List Enum := filter.keep model .enum (model.messageEnums message)
      { id := message.id.text
        visible := model.messageVisible message
        deprecated := model.messageDeprecated message
        fields := fields.map (summarizeField model)
        oneofs := oneofs.map Oneof.name
        messages := match depth with
          | 0 => []
          | depth + 1 => nested.map (summarizeMessage depth)
        enums := enums.map (summarizeEnum model filter) }

/-- The summary of a method. -/
def summarizeMethod (method : Method) : MethodSummary where
  name := method.name
  input := (model.inputOf method).id.text
  output := (model.outputOf method).id.text
  clientStreaming := method.clientStreaming
  serverStreaming := method.serverStreaming
  visible := model.methodVisible method
  deprecated := model.methodDeprecated method

/-- The summary of a service with the methods that are shown. -/
def summarizeService (service : Service) : ServiceSummary :=
  let methods : List Method := filter.keep model .method (model.serviceMethods service)
  { id := service.id.text
    visible := model.serviceVisible service
    deprecated := model.serviceDeprecated service
    methods := methods.map (summarizeMethod model) }

/-- The summary of a file with what is shown of its content. -/
def summarizeFile (file : File) : FileSummary :=
  let messages : List Message := filter.keep model .message (model.fileMessages file)
  let enums : List Enum := filter.keep model .enum (model.fileEnums file)
  let services : List Service := filter.keep model .service (model.fileServices file)
  { id := file.id.text
    name := file.name
    package := file.package
    syntaxLevel := file.syntaxLevel
    generate := file.generate
    visible := Model.fileVisible file
    deprecated := Model.fileDeprecated file
    messages := messages.map (summarizeMessage model filter (nestingLimit model))
    enums := enums.map (summarizeEnum model filter)
    services := services.map (summarizeService model filter) }

/-- The summary of a model: the files that are shown with what is shown of their content. -/
def summarize : ModelSummary where
  parameter := model.parameter
  packagesToGenerate := model.packagesToGenerate
  files := (filter.files model).map (summarizeFile model filter)

end

/-! ## Summaries as JSON -/

/-- A member that is left out if its list is empty. -/
def unlessEmpty (key : String) (items : List Value) : List (String × Value) :=
  if items.isEmpty then [] else [(key, .list items)]

/-- The JSON of a field. -/
def FieldSummary.value (field : FieldSummary) : Value :=
  .object <|
    [("name", .string field.name), ("number", .number (.integer field.number)),
      ("type", .string field.type)] ++
    (field.oneof.toList.map fun oneof => ("oneof", .string oneof)) ++
    [("visible", .bool field.visible), ("deprecated", .bool field.deprecated)]

/-- The JSON of an enum. A value is a list of its name and its number. -/
def EnumSummary.value (enum : EnumSummary) : Value :=
  .object [
    ("id", .string enum.id), ("visible", .bool enum.visible), ("deprecated", .bool enum.deprecated),
    ("values", .list <| enum.values.map fun (name, number) =>
      .list [.string name, .number (.integer number)])]

mutual

/-- The JSON of a message. -/
def MessageSummary.value : MessageSummary → Value
  | ⟨id, visible, deprecated, fields, oneofs, messages, enums⟩ =>
      .object <|
        [("id", .string id), ("visible", .bool visible), ("deprecated", .bool deprecated),
          ("fields", .list (fields.map FieldSummary.value))] ++
        unlessEmpty "oneofs" (oneofs.map .string) ++
        unlessEmpty "messages" (messageValues messages) ++
        unlessEmpty "enums" (enums.map EnumSummary.value)

/-- The JSON of messages. -/
def messageValues : List MessageSummary → List Value
  | [] => []
  | message :: messages => message.value :: messageValues messages

end

/-- The JSON of a method. -/
def MethodSummary.value (method : MethodSummary) : Value :=
  .object [
    ("name", .string method.name), ("input", .string method.input),
    ("output", .string method.output), ("client_streaming", .bool method.clientStreaming),
    ("server_streaming", .bool method.serverStreaming), ("visible", .bool method.visible),
    ("deprecated", .bool method.deprecated)]

/-- The JSON of a service. -/
def ServiceSummary.value (service : ServiceSummary) : Value :=
  .object [
    ("id", .string service.id), ("visible", .bool service.visible),
    ("deprecated", .bool service.deprecated),
    ("methods", .list (service.methods.map MethodSummary.value))]

/-- The JSON of a file. -/
def FileSummary.value (file : FileSummary) : Value :=
  .object [
    ("id", .string file.id), ("name", .string file.name), ("package", .string file.package),
    ("syntax", .string file.syntaxLevel), ("generate", .bool file.generate),
    ("visible", .bool file.visible), ("deprecated", .bool file.deprecated),
    ("messages", .list (messageValues file.messages)),
    ("enums", .list (file.enums.map EnumSummary.value)),
    ("services", .list (file.services.map ServiceSummary.value))]

/-- The JSON of a summary. -/
def ModelSummary.value (summary : ModelSummary) : Value :=
  .object [
    ("parameter", .string summary.parameter),
    ("packages_to_generate", .list (summary.packagesToGenerate.map .string)),
    ("files", .list (summary.files.map FileSummary.value))]

/-- The indented JSON text of what is shown of a model. -/
def renderJson (model : Model) (filter : Filter) : String :=
  (summarize model filter).value.pretty

end LinkedSchema.Inspect
