import LinkedSchema.Json.Decoder

/-!
# Configuration

What a model depends on besides the request: the names of the metadata extensions, by kind of
declaration, and the rule by which enums inherit deprecation. Everything has a default, so an empty
object is a valid configuration; but a key that is not known is refused.

* `ExtensionNames`, `EnumDeprecation`, `Config` — the configuration;
* `Config.ofText` — its reading;
* `FileError`, `ConfigError` — why a configuration could not be loaded.
-/

namespace LinkedSchema

open Json (Sized Slot Shape)

/-- The qualified names of the metadata extensions. -/
structure ExtensionNames where
  file : String := "template.file_meta"
  message : String := "template.message_meta"
  field : String := "template.field_meta"
  enum : String := "template.enum_meta"
  enumValue : String := "template.enum_value_meta"
  service : String := "template.service_meta"
  method : String := "template.method_meta"
deriving DecidableEq, Repr, Inhabited

/-- The rule by which an enum inherits deprecation from the scopes around it. -/
inductive EnumDeprecation
  /-- An enum is deprecated if its file or a message around it is. -/
  | ancestors
  /-- An enum is deprecated if its file or the message around it is visible. Older generators went
  by this rule. -/
  | legacyVisibility
deriving DecidableEq, Repr

/-- The rule that is in force unless another is configured. -/
instance : Inhabited EnumDeprecation := ⟨.ancestors⟩

/-- The configuration of a model. -/
structure Config where
  extensions : ExtensionNames := {}
  enumDeprecation : EnumDeprecation := default
deriving DecidableEq, Repr, Inhabited

namespace ExtensionNames

/-- The fields of the extension names. -/
def shape : Shape ExtensionNames where
  title := "MetadataExtensions"
  unknown := .refused
  slots := [
    .ofFlat "file" [] Json.text fun file names => { names with file },
    .ofFlat "message" [] Json.text fun message names => { names with message },
    .ofFlat "field" [] Json.text fun field names => { names with field },
    .ofFlat "enum" [] Json.text fun enum names => { names with enum },
    .ofFlat "enum_value" [] Json.text fun enumValue names => { names with enumValue },
    .ofFlat "service" [] Json.text fun service names => { names with service },
    .ofFlat "method" [] Json.text fun method names => { names with method }]

end ExtensionNames

namespace EnumDeprecation

/-- The rules by their names. -/
def variants : List (String × EnumDeprecation) :=
  [("ancestors", ancestors), ("legacy_visibility", legacyVisibility)]

end EnumDeprecation

/-- Why the text of a file could not be had. -/
inductive FileError
  | notFound
  | permissionDenied
  | notDirectory
  | isDirectory
  | nameTooLong
  | nulInName
  | notText
  | other (message : String)
deriving DecidableEq, Repr

/-- The wording of a file error. -/
def FileError.message : FileError → String
  | .notFound => "No such file or directory (os error 2)"
  | .permissionDenied => "Permission denied (os error 13)"
  | .notDirectory => "Not a directory (os error 20)"
  | .isDirectory => "Is a directory (os error 21)"
  | .nameTooLong => "File name too long (os error 36)"
  | .nulInName => "file name contained an unexpected NUL byte"
  | .notText => "stream did not contain valid UTF-8"
  | .other message => message

/-- Why a configuration could not be loaded. -/
inductive ConfigError
  | file (path : String) (error : FileError)
  | json (error : Json.Error)
deriving DecidableEq, Repr

/-- The wording of a configuration error. -/
def ConfigError.message : ConfigError → String
  | .file path error => "failed to read config " ++ path ++ ": " ++ error.message
  | .json error => "invalid config: " ++ error.message

namespace Config

/-- The fields of a configuration. -/
def shape : Shape Config where
  title := "ModelConfig"
  unknown := .refused
  slots := [
    .ofSized "extensions" [] (Json.record ExtensionNames.shape {})
      fun extensions config => { config with extensions },
    .ofSized "enum_deprecation" [] (Json.choice EnumDeprecation.variants)
      fun enumDeprecation config => { config with enumDeprecation }]

/-- Reads a configuration from JSON text. -/
def ofText (text : String) : Except ConfigError Config :=
  (Json.decode (Json.record shape {}) text).mapError .json

/-- Reads the configuration in a file, given what came of reading that file. -/
def ofFile (path : String) : Except FileError String → Except ConfigError Config
  | .ok text => ofText text
  | .error error => .error (.file path error)

end Config

end LinkedSchema
