import LinkedSchema.Json.Value
import LinkedSchema.Text.Uppercase

/-!
# Options of declarations

Options are kept as written, by key. Standard options are looked up by their lower camel-case JSON
name, and a standard option written with underscores is stored under that name. Custom extensions
have their qualified name in brackets as key, and that key is left alone.

* `Options`, `Options.set`, `Options.ofDictionary` — options and their construction;
* `jsonKey` — the key under which an option is stored;
* `Options.get?`, `Options.flag`, `Options.string?`, `Options.extension?` — lookups;
* `Options.decoder` — reading them.
-/

namespace LinkedSchema

/-- Drops every underscore and writes the character behind it, or behind several, in upper case.
`raised` tells that an underscore has just been dropped. -/
def camelCase (raised : Bool) : List Char → List Char
  | [] => []
  | c :: rest =>
      if c = '_' then camelCase true rest
      else if raised then Text.upper c ++ camelCase false rest
      else c :: camelCase false rest

/-- The key under which an option is stored: its lower camel-case name, but an extension in brackets
as it is. -/
def jsonKey (key : String) : String :=
  if key.toList.head? = some '[' || !key.toList.contains '_' then key
  else String.ofList (camelCase false key.toList)

/-- The options of a declaration, by stored key. -/
structure Options where
  entries : Dictionary Json.Value

namespace Options

/-- No options. -/
def empty : Options := ⟨.empty⟩

instance : Inhabited Options := ⟨empty⟩

/-- Sets an option given by any spelling of its key. -/
def set (options : Options) (key : String) (value : Json.Value) : Options :=
  ⟨options.entries.insert (jsonKey key) value⟩

/-- The options written under the given keys. Of several spellings of one option the one with the
greatest key counts. -/
def ofDictionary (written : Dictionary Json.Value) : Options :=
  written.entries.foldl (fun options entry => options.set entry.1 entry.2) empty

/-- Whether no option is set. -/
def isEmpty (options : Options) : Bool :=
  options.entries.isEmpty

/-- The value stored under a key. -/
def get? (options : Options) (key : String) : Option Json.Value :=
  options.entries.get? key

/-- Whether an option is set to true; an absent option and one of another type count as false. -/
def flag (options : Options) (key : String) : Bool :=
  ((options.get? key).bind Json.Value.asBool?).getD false

/-- The text of an option that is one. -/
def string? (options : Options) (key : String) : Option String :=
  (options.get? key).bind Json.Value.asString?

/-- The standard option that every kind of declaration has. -/
def deprecated (options : Options) : Bool :=
  options.flag "deprecated"

/-- The key of an extension, given by its qualified name with or without leading dots. -/
def extensionKey (name : String) : String :=
  "[" ++ String.ofList (name.toList.dropWhile (· == '.')) ++ "]"

/-- The value of an extension. -/
def extension? (options : Options) (name : String) : Option Json.Value :=
  options.get? (extensionKey name)

/-- Reads options: an object with any values. -/
def decoder : Json.Sized Options := fun room document =>
  ofDictionary <$> Json.dictionary Json.value room document

end Options

end LinkedSchema
