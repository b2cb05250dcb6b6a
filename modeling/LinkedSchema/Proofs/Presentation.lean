import LinkedSchema.Descriptor.Decoding
import Mathlib.Data.List.Nodup

/-!
# Presentations of a request

One request can be written in many ways: members in another order, keys in camel case or with
underscores, values of enumerations by name or by number, members with nothing to tell left out, and
members that no descriptor has put in. Here it is written down which documents present the same
request, by the edits that lead from one to the other.

What may stand where is told by formats: a table of the members that each kind of record has. None
of this looks at how anything is decoded; in particular the spelling with underscores is computed
from the one in camel case and not looked up.

* `Format`, `RecordKind.members` — what stands in a place, and under which names;
* `spellings`, `lowerCamel` — the keys that mean the same member, and the same standard option;
* `Json.Document.Valid`, `Json.Document.Names`, `Json.Document.Reorders` — any value whose grammar
  is right, a value of an enumeration, a value with the members of its objects in another order;
* `Format.Default` — the values that need not be written;
* `Edit` — one edit, anywhere in a document of a format.
-/

namespace LinkedSchema

open Json (Document Scalar)

/-! ## Formats -/

/-- The kinds of records of which a request is made. -/
inductive RecordKind
  | request
  | compilerVersion
  | file
  | message
  | reservedRange
  | field
  | oneof
  | enum
  | enumValue
  | service
  | method
  | sourceInfo
  | location

/-- What stands in a place of a request. -/
inductive Format
  | text
  | flag
  | integer
  | type
  | label
  | options
  /-- The content or `null`. -/
  | optional (content : Format)
  | list (item : Format)
  | record (kind : RecordKind)

/-- The members of a record by their names in camel case, in the order in which they stand where the
record is written as a list. -/
def RecordKind.members : RecordKind → List (String × Format)
  | request => [
      ("fileToGenerate", .list .text),
      ("parameter", .optional .text),
      ("protoFile", .list (.record file)),
      ("compilerVersion", .optional (.record compilerVersion))]
  | compilerVersion => [
      ("major", .integer),
      ("minor", .integer),
      ("patch", .integer),
      ("suffix", .text)]
  | file => [
      ("name", .text),
      ("package", .text),
      ("dependency", .list .text),
      ("messageType", .list (.record message)),
      ("enumType", .list (.record enum)),
      ("service", .list (.record service)),
      ("options", .options),
      ("sourceCodeInfo", .optional (.record sourceInfo)),
      ("syntax", .optional .text)]
  | message => [
      ("name", .text),
      ("field", .list (.record field)),
      ("nestedType", .list (.record message)),
      ("enumType", .list (.record enum)),
      ("oneofDecl", .list (.record oneof)),
      ("options", .options),
      ("reservedRange", .list (.record reservedRange)),
      ("reservedName", .list .text)]
  | reservedRange => [
      ("start", .integer),
      ("end", .integer)]
  | field => [
      ("name", .text),
      ("number", .integer),
      ("label", .label),
      ("type", .type),
      ("typeName", .optional .text),
      ("defaultValue", .optional .text),
      ("oneofIndex", .optional .integer),
      ("jsonName", .optional .text),
      ("options", .options)]
  | oneof => [
      ("name", .text),
      ("options", .options)]
  | enum => [
      ("name", .text),
      ("value", .list (.record enumValue)),
      ("options", .options)]
  | enumValue => [
      ("name", .text),
      ("number", .integer),
      ("options", .options)]
  | service => [
      ("name", .text),
      ("method", .list (.record method)),
      ("options", .options)]
  | method => [
      ("name", .text),
      ("inputType", .text),
      ("outputType", .text),
      ("options", .options),
      ("clientStreaming", .flag),
      ("serverStreaming", .flag)]
  | sourceInfo => [
      ("location", .list (.record location))]
  | location => [
      ("path", .list .integer),
      ("span", .list .integer),
      ("leadingComments", .optional .text),
      ("trailingComments", .optional .text),
      ("leadingDetachedComments", .list .text)]

/-! ## Keys -/

/-- A name in camel case, written with underscores. -/
def snakeCase (name : String) : String :=
  String.ofList (name.toList.flatMap fun c => if c.isUpper then ['_', c.toLower] else [c])

/-- The keys under which a member may be written: in camel case and with underscores. -/
def spellings (name : String) : List String :=
  if snakeCase name = name then [name] else [name, snakeCase name]

/-- A word with its first character in upper case. -/
def capitalize : List Char → List Char
  | [] => []
  | c :: rest => Text.upper c ++ rest

/-- The lower camel-case form of an option key: its words without the underscores between them, all
but the first one capitalized. -/
def lowerCamel (key : String) : String :=
  match key.toList.splitOn '_' with
  | [] => key
  | first :: words => String.ofList (first ++ words.flatMap capitalize)

/-- Options are standard unless their key stands in brackets. -/
def IsStandard (key : String) : Prop :=
  key.toList.head? ≠ some '['

instance (key : String) : Decidable (IsStandard key) :=
  inferInstanceAs (Decidable (_ ≠ _))

/-- What an option goes by: a standard option by the lower camel-case form of its key, an extension
by its key. -/
def optionName (key : String) : String :=
  if IsStandard key then lowerCamel key else key

namespace Json

/-- The keys of the members of an object. -/
def keys (members : List (Scalar String × Document)) : List (Except Fault String) :=
  members.map (·.1.used)

/-- What the members of an options object go by. -/
def optionNames (members : List (Scalar String × Document)) : List (Except Fault String) :=
  (keys members).map (·.map optionName)

/-! ## Values -/

namespace Document

/-- The grammar of JSON holds all through the value. Its numbers may be too large, and its texts may
hold halves of surrogate pairs. -/
inductive Valid : Document → Prop
  | null : Valid .null
  | bool (value : Bool) : Valid (.bool value)
  | number {value : Scalar Number} (h : value.skipped = .ok ()) : Valid (.number value)
  | string {value : Scalar String} (h : value.skipped = .ok ()) : Valid (.string value)
  | list {items : List Document} (hitems : ∀ item ∈ items, Valid item) :
      Valid (.list items .closed)
  | object {members : List (Scalar String × Document)}
      (hkeys : ∀ member ∈ members, member.1.skipped = .ok ())
      (hvalues : ∀ member ∈ members, Valid member.2) : Valid (.object members .closed)

/-- The value of an enumeration that has a symbolic name and a number, written by one of them. -/
inductive Names (name : String) (number : Int) : Document → Prop
  | name {value : Scalar String} (h : value.used = .ok name) : Names name number (.string value)
  | number {value : Scalar Number} (h : value.used = .ok (.integer number)) :
      Names name number (.number value)

/-- An object without a key twice has its members in another order, at the top or inside. -/
inductive Reorders : Document → Document → Prop
  | members {members others : List (Scalar String × Document)} (hperm : members.Perm others)
      (hkeys : (keys members).Nodup) : Reorders (.object members .closed) (.object others .closed)
  | item {document other : Document} (h : Reorders document other) (before behind : List Document) :
      Reorders (.list (before ++ document :: behind) .closed)
        (.list (before ++ other :: behind) .closed)
  | member {document other : Document} (h : Reorders document other) (key : Scalar String)
      (before behind : List (Scalar String × Document)) :
      Reorders (.object (before ++ (key, document) :: behind) .closed)
        (.object (before ++ (key, other) :: behind) .closed)

end Document

end Json

/-- A value that is there whether it is written or not. Nothing optional is there unless written. -/
inductive Format.Default : Format → Document → Prop
  | text {value : Scalar String} (h : value.used = .ok "") : Default .text (.string value)
  | flag : Default .flag (.bool false)
  | integer {value : Scalar Json.Number} (h : value.used = .ok (.integer 0)) :
      Default .integer (.number value)
  | type {document : Document} (h : document.Names "TYPE_DOUBLE" 1) : Default .type document
  | label {document : Document} (h : document.Names "LABEL_OPTIONAL" 1) : Default .label document
  | options : Default .options (.object [] .closed)
  | optional (content : Format) : Default (.optional content) .null
  | list (item : Format) : Default (.list item) (.list [] .closed)

/-! ## Edits -/

/-- One edit of a document that stands in a place of a format. -/
inductive Edit : Format → Document → Document → Prop
  /-- A field type by its symbolic name or its number. -/
  | type (type : FieldType) {document other : Document} (h : document.Names type.name type.number)
      (hother : other.Names type.name type.number) : Edit .type document other
  /-- A label by its symbolic name or its number. -/
  | label (label : FieldLabel) {document other : Document}
      (h : document.Names label.name label.number)
      (hother : other.Names label.name label.number) : Edit .label document other
  /-- Options, or objects in their values, in another order. -/
  | reorderOptions {document other : Document} (h : document.Reorders other) :
      Edit .options document other
  /-- A standard option with its key in another spelling, where options are told apart by any
  spelling of their keys. -/
  | respellOption {key other : Scalar String} {name otherName : String} {document : Document}
      {before behind : List (Scalar String × Document)} (hkey : key.used = .ok name)
      (hother : other.used = .ok otherName) (hstandard : IsStandard name)
      (hotherStandard : IsStandard otherName) (hsame : lowerCamel otherName = lowerCamel name)
      (hdistinct : (Json.optionNames (before ++ (key, document) :: behind)).Nodup) :
      Edit .options (.object (before ++ (key, document) :: behind) .closed)
        (.object (before ++ (other, document) :: behind) .closed)
  /-- An edit inside an optional value. -/
  | content {content : Format} {document other : Document} (h : Edit content document other) :
      Edit (.optional content) document other
  /-- An edit inside an item of a list. -/
  | item {item : Format} {document other : Document} (h : Edit item document other)
      (before behind : List Document) :
      Edit (.list item) (.list (before ++ document :: behind) .closed)
        (.list (before ++ other :: behind) .closed)
  /-- An edit inside a member of a record. -/
  | member {kind : RecordKind} {member : String × Format} {key : Scalar String} {name : String}
      {document other : Document} (hmember : member ∈ kind.members) (hkey : key.used = .ok name)
      (hname : name ∈ spellings member.1) (h : Edit member.2 document other)
      (before behind : List (Scalar String × Document)) :
      Edit (.record kind) (.object (before ++ (key, document) :: behind) .closed)
        (.object (before ++ (key, other) :: behind) .closed)
  /-- An edit inside a member of a record that is written as a list. -/
  | place {kind : RecordKind} {member : String × Format} {document other : Document}
      {before : List Document} (hmember : kind.members[before.length]? = some member)
      (h : Edit member.2 document other) (behind : List Document) :
      Edit (.record kind) (.list (before ++ document :: behind) .closed)
        (.list (before ++ other :: behind) .closed)
  /-- The members of a record in another order. -/
  | reorder (kind : RecordKind) {members others : List (Scalar String × Document)}
      (hperm : members.Perm others) :
      Edit (.record kind) (.object members .closed) (.object others .closed)
  /-- A member of a record under another of its keys. -/
  | respell {kind : RecordKind} {member : String × Format} {key other : Scalar String}
      {name otherName : String} (hmember : member ∈ kind.members) (hkey : key.used = .ok name)
      (hname : name ∈ spellings member.1) (hother : other.used = .ok otherName)
      (hotherName : otherName ∈ spellings member.1) (document : Document)
      (before behind : List (Scalar String × Document)) :
      Edit (.record kind) (.object (before ++ (key, document) :: behind) .closed)
        (.object (before ++ (other, document) :: behind) .closed)
  /-- A member that the record does not have is put in, with any value. Together with `remove` this
  puts any value in the place of the one that such a member has. -/
  | insert {kind : RecordKind} {key : Scalar String} {name : String} {document : Document}
      (hkey : key.used = .ok name) (hname : ∀ member ∈ kind.members, name ∉ spellings member.1)
      (hvalid : document.Valid) (before behind : List (Scalar String × Document)) :
      Edit (.record kind) (.object (before ++ behind) .closed)
        (.object (before ++ (key, document) :: behind) .closed)
  /-- A member that the record does not have is left out. -/
  | remove {kind : RecordKind} {key : Scalar String} {name : String}
      (hkey : key.used = .ok name) (hname : ∀ member ∈ kind.members, name ∉ spellings member.1)
      (document : Document) (before behind : List (Scalar String × Document)) :
      Edit (.record kind) (.object (before ++ (key, document) :: behind) .closed)
        (.object (before ++ behind) .closed)
  /-- A member is left out whose value is there without it. -/
  | drop {kind : RecordKind} {member : String × Format} {key : Scalar String} {name : String}
      {document : Document} (hmember : member ∈ kind.members) (hkey : key.used = .ok name)
      (hname : name ∈ spellings member.1) (hdefault : member.2.Default document)
      (before behind : List (Scalar String × Document)) :
      Edit (.record kind) (.object (before ++ (key, document) :: behind) .closed)
        (.object (before ++ behind) .closed)

end LinkedSchema
