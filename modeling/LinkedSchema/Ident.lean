/-!
# Identifiers

Every entity of a model is known by a text made from the scopes around it. Types are identified by
their fully qualified name, so that a reference to a type is its identifier and needs no search.
Members are separated from their scope by a colon, so that a field never takes the identifier of a
type nested beside it.

* `Kind` — the kinds of entities;
* `Ident` — identifiers, by kind;
* `Ident.ofFile`, `qualifiedName`, `nestedName`, `Ident.member` — how identifiers are made.
-/

namespace LinkedSchema

/-- The kinds of entities. -/
inductive Kind
  | file
  | message
  | field
  | oneof
  | enum
  | enumValue
  | service
  | method
deriving DecidableEq, Repr

/-- What messages call an entity of a kind. -/
def Kind.noun : Kind → String
  | .file => "file"
  | .message => "message"
  | .field => "field"
  | .oneof => "oneof"
  | .enum => "enum"
  | .enumValue => "enum value"
  | .service => "service"
  | .method => "method"

/-- The identifier of an entity of a kind. -/
structure Ident (kind : Kind) where
  text : String
deriving DecidableEq, Repr, Inhabited

/-- A file of a package: `.pkg:path/to/file`. -/
def Ident.ofFile (package name : String) : Ident .file :=
  ⟨"." ++ package ++ ":" ++ name⟩

/-- The name of a declaration at file level: `.pkg.Name`, or `.Name` without a package. -/
def qualifiedName (package name : String) : String :=
  if package.isEmpty then "." ++ name else "." ++ package ++ "." ++ name

/-- The name of a declaration inside a message: `.pkg.Outer.Name`. -/
def nestedName (parent name : String) : String :=
  parent ++ "." ++ name

/-- A type at file level, or nested in the message that is given. -/
def Ident.ofType {kind : Kind} (package : String) (parent : Option (Ident .message))
    (name : String) : Ident kind :=
  match parent with
  | none => ⟨qualifiedName package name⟩
  | some parent => ⟨nestedName parent.text name⟩

/-- A member of the entity with an identifier: `.pkg.Outer:name`. -/
def Ident.member {scope kind : Kind} (parent : Ident scope) (name : String) : Ident kind :=
  ⟨parent.text ++ ":" ++ name⟩

end LinkedSchema
