import LinkedSchema.Registration

/-!
# Models

A request with all its declarations registered and linked. A model is made once and then only read.

* `Model`, `Model.ofRequest` — a model and its making, with the events logged on the way;
* `Model.all`, `Model.packagesToGenerate` — listings, in the order of registration;
* `Model.get?`, `Model.fileNamed?` — lookups;
* `Model.resolve` — following a reference that registration has checked or made itself.
-/

namespace LinkedSchema

/-- Every declaration of a request, identified and linked. -/
structure Model where
  registry : Registry
  config : Config
  parameter : String
  filesToGenerate : List String
  compilerVersion : Option CompilerVersion
deriving Inhabited

/-- What comes of linking a request: the events logged, and a model or the first failure. -/
structure Linking where
  events : List Event
  outcome : Except LinkError Model

/-- The steps that register all files of a request. -/
def Request.steps (request : Request) (extensions : ExtensionNames) : List Step :=
  request.files.flatMap (·.steps extensions request.filesToGenerate)

/-- The names among those asked for that are names of no registered file. -/
def Registry.missingFiles (registry : Registry) (names : List String) : List String :=
  names.filter fun name => !registry.files.toList.any (·.name == name)

namespace Model

/-- Registers every file of a request, in the order of the request. No partial model is returned. -/
def ofRequest (request : Request) (config : Config) : Linking :=
  let (events, outcome) := ({} : Registry).run (request.steps config.extensions)
  match outcome with
  | .error error => ⟨events, .error error⟩
  | .ok registry =>
      let missing := (registry.missingFiles request.filesToGenerate).map .unknownFileToGenerate
      { events := events ++ missing ++ [.linkedRequest registry.totals]
        outcome := .ok {
          registry, config
          parameter := request.parameter.getD ""
          filesToGenerate := request.filesToGenerate
          compilerVersion := request.compilerVersion } }

/-- Whether listings show an entity: all but groups. -/
def isListed : {kind : Kind} → Entity kind → Bool
  | .field, field => Field.isListed field
  | .file, _ | .message, _ | .oneof, _ | .enum, _ | .enumValue, _ | .service, _ | .method, _ => true

/-- The entities of a kind, in the order of registration, without groups. -/
def all (model : Model) (kind : Kind) : List (Entity kind) :=
  (model.registry.arena kind).toList.filter isListed

/-- The entity with an identifier, groups included. -/
def get? (model : Model) (kind : Kind) (id : String) : Option (Entity kind) :=
  (model.registry.arena kind).get? ⟨id⟩

/-- The first file with a name. -/
def fileNamed? (model : Model) (name : String) : Option File :=
  model.registry.files.toList.find? (·.name == name)

/-- Adds a text behind a list that does not have it yet. -/
def addNew (texts : List String) (text : String) : List String :=
  if texts.contains text then texts else texts ++ [text]

/-- The packages of the files that output is wanted for, each once, in the order of the files. -/
def packagesToGenerate (model : Model) : List String :=
  (((model.all .file).filter File.generate).map File.package).foldl addNew []

/-- Follows a reference to an entity that is registered. -/
def resolve {kind : Kind} (model : Model) (id : Ident kind) : Entity kind :=
  (model.registry.arena kind).resolve id

/-- Follows references to registered entities, leaving out those that no listing shows. -/
def resolveListed {kind : Kind} (model : Model) (ids : List (Ident kind)) : List (Entity kind) :=
  (ids.map model.resolve).filter isListed

end Model

end LinkedSchema
