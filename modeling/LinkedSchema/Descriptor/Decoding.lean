import LinkedSchema.Descriptor.Basic

/-!
# Reading descriptors

The JSON rendering of descriptors. Each record lists its fields in the order in which they stand when
the record is written as a list. A field whose name has several words may be written in camel case or
with underscores; unknown fields are passed over.

* one `Json.Shape` per record, and the decoders built from them;
* `Request.ofText`, `Request.ofDescriptorSetText` — whole texts, of a request and of a bare set of
  files;
* `Request.ofBytes` — a request from bytes that may not be text at all.
-/

namespace LinkedSchema

open Json (Sized Slot Shape)

/-- A list of texts. -/
def texts : Sized (List String) :=
  Json.list fun _ => Json.text

/-- The slot for options, which every kind of declaration has. -/
def optionsSlot {σ : Type} (set : Options → σ → σ) : Slot σ :=
  .ofSized "options" [] Options.decoder set

/-- The slot for the name of a declaration. -/
def nameSlot {σ : Type} (set : String → σ → σ) : Slot σ :=
  .ofFlat "name" [] Json.text set

namespace ReservedRange

/-- The fields of a reserved range. -/
def shape : Shape ReservedRange where
  title := "ReservedRange"
  unknown := .skipped
  slots := [
    .ofFlat "start" [] Json.int32 fun start range => { range with start },
    .ofFlat "end" [] Json.int32 fun stop range => { range with stop }]

end ReservedRange

namespace FieldDescriptor

/-- The fields of a field descriptor. -/
def shape : Shape FieldDescriptor where
  title := "FieldDescriptorProto"
  unknown := .skipped
  slots := [
    nameSlot fun name field => { field with name },
    .ofFlat "number" [] Json.int32 fun number field => { field with number },
    .ofSized "label" [] FieldLabel.enumeration.decoder fun label field => { field with label },
    .ofSized "type" [] FieldType.enumeration.decoder fun type field => { field with type },
    .ofFlat "typeName" ["type_name"] (Json.optional Json.text)
      fun typeName field => { field with typeName },
    .ofFlat "defaultValue" ["default_value"] (Json.optional Json.text)
      fun defaultValue field => { field with defaultValue },
    .ofFlat "oneofIndex" ["oneof_index"] (Json.optional Json.int32)
      fun oneofIndex field => { field with oneofIndex },
    .ofFlat "jsonName" ["json_name"] (Json.optional Json.text)
      fun jsonName field => { field with jsonName },
    optionsSlot fun options field => { field with options }]

end FieldDescriptor

namespace OneofDescriptor

/-- The fields of a oneof descriptor. -/
def shape : Shape OneofDescriptor where
  title := "OneofDescriptorProto"
  unknown := .skipped
  slots := [
    nameSlot fun name oneof => { oneof with name },
    optionsSlot fun options oneof => { oneof with options }]

end OneofDescriptor

namespace EnumValueDescriptor

/-- The fields of an enum value descriptor. -/
def shape : Shape EnumValueDescriptor where
  title := "EnumValueDescriptorProto"
  unknown := .skipped
  slots := [
    nameSlot fun name value => { value with name },
    .ofFlat "number" [] Json.int32 fun number value => { value with number },
    optionsSlot fun options value => { value with options }]

end EnumValueDescriptor

namespace EnumDescriptor

/-- The fields of an enum descriptor. -/
def shape : Shape EnumDescriptor where
  title := "EnumDescriptorProto"
  unknown := .skipped
  slots := [
    nameSlot fun name enum => { enum with name },
    .ofSized "value" [] (Json.list (Json.record EnumValueDescriptor.shape {}))
      fun values enum => { enum with values },
    optionsSlot fun options enum => { enum with options }]

/-- A list of enums. -/
def listDecoder : Sized (List EnumDescriptor) :=
  Json.list (Json.record shape {})

end EnumDescriptor

namespace MessageDescriptor

/-- The fields of a message descriptor, given how the messages nested in it are read. -/
def shape (nested : Json.Decoder MessageDescriptor) : Shape MessageDescriptor where
  title := "DescriptorProto"
  unknown := .skipped
  slots := [
    nameSlot fun name message => { message with name },
    .ofSized "field" [] (Json.list (Json.record FieldDescriptor.shape {}))
      fun fields message => { message with fields },
    .ofSized "nestedType" ["nested_type"] (Json.list fun _ => nested)
      fun nested message => { message with nested },
    .ofSized "enumType" ["enum_type"] EnumDescriptor.listDecoder
      fun enums message => { message with enums },
    .ofSized "oneofDecl" ["oneof_decl"] (Json.list (Json.record OneofDescriptor.shape {}))
      fun oneofs message => { message with oneofs },
    optionsSlot fun options message => { message with options },
    .ofSized "reservedRange" ["reserved_range"] (Json.list (Json.record ReservedRange.shape {}))
      fun reservedRanges message => { message with reservedRanges },
    .ofSized "reservedName" ["reserved_name"] texts
      fun reservedNames message => { message with reservedNames }]

/-- A message. A nested message lies two containers deeper, in the record and in its list; where
there is no room for them the list is refused before anything in it is read. -/
def decoder : Sized MessageDescriptor
  | room + 2 => Json.record (shape (decoder room)) {} (room + 2)
  | room => Json.record (shape fun _ => .error (.malformed .tooDeep)) {} room

end MessageDescriptor

namespace MethodDescriptor

/-- The fields of a method descriptor. -/
def shape : Shape MethodDescriptor where
  title := "MethodDescriptorProto"
  unknown := .skipped
  slots := [
    nameSlot fun name method => { method with name },
    .ofFlat "inputType" ["input_type"] Json.text
      fun inputType method => { method with inputType },
    .ofFlat "outputType" ["output_type"] Json.text
      fun outputType method => { method with outputType },
    optionsSlot fun options method => { method with options },
    .ofFlat "clientStreaming" ["client_streaming"] Json.flag
      fun clientStreaming method => { method with clientStreaming },
    .ofFlat "serverStreaming" ["server_streaming"] Json.flag
      fun serverStreaming method => { method with serverStreaming }]

end MethodDescriptor

namespace ServiceDescriptor

/-- The fields of a service descriptor. -/
def shape : Shape ServiceDescriptor where
  title := "ServiceDescriptorProto"
  unknown := .skipped
  slots := [
    nameSlot fun name service => { service with name },
    .ofSized "method" [] (Json.list (Json.record MethodDescriptor.shape {}))
      fun methods service => { service with methods },
    optionsSlot fun options service => { service with options }]

end ServiceDescriptor

namespace Location

/-- The fields of a location. -/
def shape : Shape Location where
  title := "Location"
  unknown := .skipped
  slots := [
    .ofSized "path" [] (Json.list fun _ => Json.int32) fun path location => { location with path },
    .ofSized "span" [] (Json.list fun _ => Json.int32) fun span location => { location with span },
    .ofFlat "leadingComments" ["leading_comments"] (Json.optional Json.text)
      fun leadingComments location => { location with leadingComments },
    .ofFlat "trailingComments" ["trailing_comments"] (Json.optional Json.text)
      fun trailingComments location => { location with trailingComments },
    .ofSized "leadingDetachedComments" ["leading_detached_comments"] texts
      fun leadingDetachedComments location => { location with leadingDetachedComments }]

/-- The only field of the record that wraps the locations of a file. -/
def listShape : Shape (List Location) where
  title := "SourceCodeInfo"
  unknown := .skipped
  slots := [
    .ofSized "location" [] (Json.list (Json.record shape {})) fun locations _ => locations]

/-- The locations of a file in their wrapping record. -/
def listDecoder : Sized (List Location) :=
  Json.record listShape []

end Location

namespace FileDescriptor

/-- The fields of a file descriptor. -/
def shape : Shape FileDescriptor where
  title := "FileDescriptorProto"
  unknown := .skipped
  slots := [
    nameSlot fun name file => { file with name },
    .ofFlat "package" [] Json.text fun package file => { file with package },
    .ofSized "dependency" [] texts fun dependencies file => { file with dependencies },
    .ofSized "messageType" ["message_type"] (Json.list MessageDescriptor.decoder)
      fun messages file => { file with messages },
    .ofSized "enumType" ["enum_type"] EnumDescriptor.listDecoder
      fun enums file => { file with enums },
    .ofSized "service" [] (Json.list (Json.record ServiceDescriptor.shape {}))
      fun services file => { file with services },
    optionsSlot fun options file => { file with options },
    .ofSized "sourceCodeInfo" ["source_code_info"]
      (fun room => Json.optional (Location.listDecoder room))
      fun locations file => { file with locations },
    .ofFlat "syntax" [] (Json.optional Json.text)
      fun syntaxLevel file => { file with syntaxLevel }]

/-- A list of files. -/
def listDecoder : Sized (List FileDescriptor) :=
  Json.list (Json.record shape {})

/-- The only field of a bare set of files. -/
def setShape : Shape (List FileDescriptor) where
  title := "FileDescriptorSet"
  unknown := .skipped
  slots := [.ofSized "file" [] listDecoder fun files _ => files]

end FileDescriptor

namespace CompilerVersion

/-- The fields of a compiler version. -/
def shape : Shape CompilerVersion where
  title := "CompilerVersion"
  unknown := .skipped
  slots := [
    .ofFlat "major" [] Json.int32 fun major version => { version with major },
    .ofFlat "minor" [] Json.int32 fun minor version => { version with minor },
    .ofFlat "patch" [] Json.int32 fun patch version => { version with patch },
    .ofFlat "suffix" [] Json.text fun suffix version => { version with suffix }]

end CompilerVersion

/-- Why a request could not be read. -/
inductive DecodeError
  | json (error : Json.Error)
  /-- The bytes are no text. -/
  | notText
deriving DecidableEq, Repr

/-- The wording of a decoding error. -/
def DecodeError.message : DecodeError → String
  | .json error => "failed to parse request JSON: " ++ error.message
  | .notText => "failed to read request: stream did not contain valid UTF-8"

namespace Request

/-- The fields of a request. -/
def shape : Shape Request where
  title := "CodeGeneratorRequest"
  unknown := .skipped
  slots := [
    .ofSized "fileToGenerate" ["file_to_generate"] texts
      fun filesToGenerate request => { request with filesToGenerate },
    .ofFlat "parameter" [] (Json.optional Json.text)
      fun parameter request => { request with parameter },
    .ofSized "protoFile" ["proto_file"] FileDescriptor.listDecoder
      fun files request => { request with files },
    .ofSized "compilerVersion" ["compiler_version"]
      (fun room => Json.optional (Json.record CompilerVersion.shape {} room))
      fun compilerVersion request => { request with compilerVersion }]

/-- Reads a request from JSON text. -/
def ofText (text : String) : Except DecodeError Request :=
  (Json.decode (Json.record shape {}) text).mapError .json

/-- Reads a bare set of files from JSON text, and asks for output for the files named. -/
def ofDescriptorSetText (text : String) (filesToGenerate : List String) :
    Except DecodeError Request := do
  let files ← (Json.decode (Json.record FileDescriptor.setShape []) text).mapError .json
  return { filesToGenerate, files }

/-- Reads a request from bytes, which have to be UTF-8. -/
def ofBytes (bytes : ByteArray) : Except DecodeError Request :=
  match String.fromUTF8? bytes with
  | some text => ofText text
  | none => .error .notText

end Request

end LinkedSchema
