import LinkedSchema.Json.Coded
import LinkedSchema.Options

/-!
# Metadata

A declaration may carry metadata in an extension among its options: whether it is part of the public
schema, tags, free-form texts, and a hint for generators. The name of the extension depends on the
kind of declaration and is configured.

* `Visibility`, `Metadata` — the content of the extension;
* `Metadata.ofValue` — its reading, from a value that is JSON already;
* `Metadata.read` — the metadata of a declaration with given options.
-/

namespace LinkedSchema

open Json (Value Mismatch)

/-- Whether a declaration is part of the public schema. -/
inductive Visibility
  | exported
  | internal
deriving DecidableEq, Repr

namespace Visibility

/-- Declarations are public unless they say otherwise. -/
instance : Inhabited Visibility := ⟨exported⟩

/-- The symbolic name of a visibility. -/
def name : Visibility → String
  | exported => "PUBLIC"
  | internal => "PRIVATE"

/-- The number of a visibility. -/
def number : Visibility → Int
  | exported => 0
  | internal => 1

/-- Both visibilities, by ascending number. -/
def all : List Visibility :=
  [exported, internal]

/-- How a visibility is written in JSON. -/
def enumeration : Json.Enumeration Visibility where
  noun := "visibility"
  form := "VisibilityRepr"
  ofName? name := all.find? (·.name == name)
  ofNumber? number := all.find? (·.number == number)

end Visibility

/-- What a declaration says about itself in its metadata extension. -/
structure Metadata where
  visibility : Visibility := default
  tags : List String := []
  extra : Dictionary String := .empty
  /-- A hint on how to make up values of a field. -/
  generator : Option String := none
deriving DecidableEq, Inhabited

namespace Metadata

/-- Whether the declaration counts itself to the public schema. -/
def isPublic (metadata : Metadata) : Bool :=
  metadata.visibility == .exported

/-- Whether the declaration has a tag. -/
def hasTag (metadata : Metadata) (tag : String) : Bool :=
  metadata.tags.contains tag

/-- Refuses a value where something else was expected. -/
def refuse {α : Type} (expected : String) (value : Value) : Except Mismatch α :=
  .error (.wrongType value.found expected)

/-- A text. -/
def readText : Value → Except Mismatch String
  | .string text => .ok text
  | value => refuse "a string" value

/-- A list of texts. -/
def readTexts : Value → Except Mismatch (List String)
  | .list items => items.mapM readText
  | value => refuse "a sequence" value

/-- Texts by keys. -/
def readExtra : Value → Except Mismatch (Dictionary String)
  | .object members => do
      let entries ← members.mapM fun (key, value) => do return (key, ← readText value)
      return .ofList entries
  | value => refuse "a map" value

/-- A text or `null`. -/
def readGenerator : Value → Except Mismatch (Option String)
  | .null => .ok none
  | value => some <$> readText value

/-- The fields of metadata in order: the key of each, and how its value is stored. -/
def fields : List (String × (Value → Metadata → Except Mismatch Metadata)) := [
  ("visibility", fun value metadata => do
    return { metadata with visibility := ← Visibility.enumeration.ofValue value }),
  ("tags", fun value metadata => do return { metadata with tags := ← readTexts value }),
  ("extra", fun value metadata => do return { metadata with extra := ← readExtra value }),
  ("generator", fun value metadata => do
    return { metadata with generator := ← readGenerator value })]

/-- Stores the member of an object; a key that names no field is passed over. -/
def storeMember (metadata : Metadata) (member : String × Value) : Except Mismatch Metadata :=
  match fields.lookup member.1 with
  | some store => store member.2 metadata
  | none => .ok metadata

/-- The content of a metadata extension: an object, or a list of the fields in order. Fields that
are not written have their defaults. -/
def ofValue : Value → Except Mismatch Metadata
  | .object members => members.foldlM storeMember {}
  | .list items => do
      let metadata ← (fields.zip items).foldlM (fun metadata ((_, store), item) =>
        store item metadata) {}
      if fields.length < items.length then .error (.tooManyElements items.length)
      else return metadata
  | value => refuse "struct Metadata" value

/-- The metadata that options carry in an extension, if they have that extension. -/
def read (options : Options) (extension : String) : Option (Except Mismatch Metadata) :=
  (options.extension? extension).map ofValue

end Metadata

end LinkedSchema
