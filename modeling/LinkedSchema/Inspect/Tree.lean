import LinkedSchema.Inspect.Filter
import LinkedSchema.Inspect.Style

/-!
# Trees

A model as indented text, a line for each declaration, with marks on what is hidden, deprecated or
to be generated.

* `marks`, `suffix` — the marks of an entity;
* `fileLines`, `messageLines`, `enumLines`, `serviceLines` — the lines of a declaration and its
  content;
* `renderTree` — the text.
-/

namespace LinkedSchema.Inspect

section

variable (model : Model) (filter : Filter) (coloured : Bool)

/-- What sets an entity apart from a visible one in good standing. -/
def marks (kind : Kind) (entity : Entity kind) : List String :=
  (if model.isVisible entity then [] else ["hidden"]) ++
    (if model.isDeprecated entity then ["deprecated"] else [])

/-- Marks at the end of a line. -/
def suffix (marks : List String) : String :=
  if marks.isEmpty then ""
  else
    let text := "[" ++ String.intercalate ", " marks ++ "]"
    " " ++ Style.paint { colour := some .yellow } coloured text

/-- The blanks of a nesting level. -/
def indent (depth : Nat) : String :=
  String.ofList (List.replicate (2 * depth) ' ')

/-- A word in a colour. -/
def word (colour : Colour) (text : String) : String :=
  Style.paint { colour := some colour } coloured text

/-- The line of a field. -/
def fieldLine (depth : Nat) (field : Field) : String :=
  indent depth ++ "field " ++ field.name ++ " = " ++ toString field.number ++ " : " ++
    field.typeText ++ suffix coloured (marks model .field field)

/-- The line of a oneof, with its members. -/
def oneofLine (depth : Nat) (oneof : Oneof) : String :=
  let members := (model.oneofFields oneof).map Field.name
  indent depth ++ "oneof " ++ oneof.name ++ " \x7b" ++ String.intercalate ", " members ++ "\x7d"

/-- The line of a value. -/
def valueLine (depth : Nat) (value : EnumValue) : String :=
  indent depth ++ "value " ++ value.name ++ " = " ++ toString value.number ++
    suffix coloured (marks model .enumValue value)

/-- The lines of an enum and its values. -/
def enumLines (depth : Nat) (enum : Enum) : List String :=
  let values : List EnumValue := filter.keep model .enumValue (model.enumValues enum)
  (indent depth ++ word coloured .magenta "enum" ++ " " ++ enum.id.text ++
      suffix coloured (marks model .enum enum)) ::
    values.map (valueLine model coloured (depth + 1))

/-- The lines of a message and its content, nested messages down to a depth. -/
def messageLines : Nat → Nat → Message → List String
  | limit, depth, message =>
      let fields : List Field := filter.keep model .field (model.messageFields message)
      let oneofs : List Oneof := filter.keep model .oneof (model.messageOneofs message)
      let nested : List Message := filter.keep model .message (model.messageMessages message)
      let enums : List Enum := filter.keep model .enum (model.messageEnums message)
      (indent depth ++ word coloured .cyan "message" ++ " " ++ message.id.text ++
          suffix coloured (marks model .message message)) ::
        fields.map (fieldLine model coloured (depth + 1)) ++
        oneofs.map (oneofLine model (depth + 1)) ++
        (match limit with
          | 0 => []
          | limit + 1 => nested.flatMap (messageLines limit (depth + 1))) ++
        enums.flatMap (enumLines model filter coloured (depth + 1))

/-- A type of a method, and whether it is streamed. -/
def streamed (streaming : Bool) (message : Message) : String :=
  (if streaming then "stream " else "") ++ message.id.text

/-- The line of a method. -/
def methodLine (method : Method) : String :=
  indent 2 ++ "rpc " ++ method.name ++ "(" ++
    streamed method.clientStreaming (model.inputOf method) ++ ") returns (" ++
    streamed method.serverStreaming (model.outputOf method) ++ ")" ++
    suffix coloured (marks model .method method)

/-- The lines of a service and its methods. -/
def serviceLines (service : Service) : List String :=
  let methods : List Method := filter.keep model .method (model.serviceMethods service)
  (indent 1 ++ word coloured .blue "service" ++ " " ++ service.id.text ++
      suffix coloured (marks model .service service)) ::
    methods.map (methodLine model coloured)

/-- The line of a file itself. -/
def fileLine (file : File) : String :=
  let package := if file.package.isEmpty then "<none>" else file.package
  let generate := if file.generate then ["generate"] else []
  Style.paint { bold := true, colour := some .green } coloured "file" ++ " " ++
    Style.paint { bold := true } coloured file.name ++ " (package " ++ package ++ ", " ++
    file.syntaxLevel ++ ")" ++ suffix coloured (generate ++ marks model .file file)

/-- The lines of a file and its content. -/
def fileLines (file : File) : List String :=
  let messages : List Message := filter.keep model .message (model.fileMessages file)
  let enums : List Enum := filter.keep model .enum (model.fileEnums file)
  let services : List Service := filter.keep model .service (model.fileServices file)
  fileLine model coloured file ::
    messages.flatMap (messageLines model filter coloured (nestingLimit model) 1) ++
    enums.flatMap (enumLines model filter coloured 1) ++
    services.flatMap (serviceLines model filter coloured)

/-- The lines of the files that are shown. -/
def treeLines : List String :=
  (filter.files model).flatMap (fileLines model filter coloured)

end

/-- What is shown of a model as indented text. Every line ends with a line break. -/
def renderTree (model : Model) (filter : Filter) (coloured : Bool) : String :=
  String.join ((treeLines model filter coloured).map (· ++ "\n"))

end LinkedSchema.Inspect
