import LinkedSchema.Arena
import LinkedSchema.Entity

/-!
# Registries

The entities of all kinds, one arena for each, and the steps by which they are registered. A step
logs an event, checks a condition or adds an entity, and nothing else; what happens in which order is
decided by whoever lists the steps.

* `LinkError`, `Event` — what can go wrong, and what is worth logging;
* `Registry` — the arenas;
* `Step`, `Registry.perform`, `Registry.run` — one step, and several up to the first that fails.
-/

namespace LinkedSchema

/-- The two types of a method. -/
inductive Role
  | input
  | output
deriving DecidableEq, Repr

/-- The word for a role. -/
def Role.noun : Role → String
  | .input => "input"
  | .output => "output"

/-- Why a request cannot be linked. -/
inductive LinkError
  /-- The type of a method is no message that is registered by then; `known` are. -/
  | unresolvedMethodType (method : Ident .method) (role : Role) (typeName : String) (known : Nat)
  /-- A field names a oneof that its message does not have; it has `declared` of them. -/
  | oneofIndexOutOfRange (field : Ident .field) (index : Int) (declared : Nat)
  /-- Two declarations of one kind have the same identifier. -/
  | duplicateIdentifier (kind : Kind) (id : String)
deriving DecidableEq, Repr

/-- The wording of a link error. -/
def LinkError.message : LinkError → String
  | .unresolvedMethodType method role typeName known =>
      "method " ++ method.text ++ ": " ++ role.noun ++ " type " ++ typeName ++
        " is not a registered message (" ++ toString known ++ " known)"
  | .oneofIndexOutOfRange field index declared =>
      "field " ++ field.text ++ ": oneof index " ++ toString index ++ " out of range (" ++
        toString declared ++ " declared)"
  | .duplicateIdentifier kind id => "duplicate " ++ kind.noun ++ " identifier " ++ id

/-- How many entities of some kinds there are. -/
structure Totals where
  files : Nat
  messages : Nat
  fields : Nat
  enums : Nat
  services : Nat
  methods : Nat
deriving DecidableEq, Repr

/-- What is logged while a request is linked. -/
inductive Event
  /-- A metadata extension cannot be read, and default metadata is used. -/
  | malformedMetadata (extension : String) (reason : Json.Mismatch)
  /-- A file is registered with everything in it; the numbers count declarations at file level. -/
  | registeredFile (file package : String) (generate : Bool) (messages enums services : Nat)
  /-- Output is wanted for a file that is not there. -/
  | unknownFileToGenerate (file : String)
  | linkedRequest (totals : Totals)
deriving DecidableEq, Repr

/-- Whether an event is a warning, or of interest only when looking for faults. -/
def Event.isWarning : Event → Bool
  | .malformedMetadata .. | .unknownFileToGenerate _ => true
  | .registeredFile .. | .linkedRequest _ => false

/-- The wording of an event, without its particulars. -/
def Event.message : Event → String
  | .malformedMetadata .. => "ignoring malformed metadata extension"
  | .registeredFile .. => "registered file"
  | .unknownFileToGenerate _ => "file to generate is not part of the request"
  | .linkedRequest _ => "linked request"

/-- The entities of a request, by kind. -/
structure Registry where
  files : Arena .file File := .empty
  messages : Arena .message Message := .empty
  fields : Arena .field Field := .empty
  oneofs : Arena .oneof Oneof := .empty
  enums : Arena .enum Enum := .empty
  enumValues : Arena .enumValue EnumValue := .empty
  services : Arena .service Service := .empty
  methods : Arena .method Method := .empty
deriving Inhabited

namespace Registry

/-- The arena of a kind. -/
def arena (registry : Registry) : (kind : Kind) → Arena kind (Entity kind)
  | .file => registry.files
  | .message => registry.messages
  | .field => registry.fields
  | .oneof => registry.oneofs
  | .enum => registry.enums
  | .enumValue => registry.enumValues
  | .service => registry.services
  | .method => registry.methods

/-- Replaces the arena of a kind. -/
def setArena (registry : Registry) : (kind : Kind) → Arena kind (Entity kind) → Registry
  | .file, files => { registry with files }
  | .message, messages => { registry with messages }
  | .field, fields => { registry with fields }
  | .oneof, oneofs => { registry with oneofs }
  | .enum, enums => { registry with enums }
  | .enumValue, enumValues => { registry with enumValues }
  | .service, services => { registry with services }
  | .method, methods => { registry with methods }

@[simp]
theorem arena_setArena_self (registry : Registry) (kind : Kind)
    (items : Arena kind (Entity kind)) : (registry.setArena kind items).arena kind = items := by
  cases kind <;> rfl

theorem arena_setArena_of_ne (registry : Registry) {kind other : Kind}
    (items : Arena kind (Entity kind)) (h : other ≠ kind) :
    (registry.setArena kind items).arena other = registry.arena other := by
  cases kind <;> cases other <;> simp_all [arena, setArena]

/-- The numbers of entities. -/
def totals (registry : Registry) : Totals where
  files := registry.files.size
  messages := registry.messages.size
  fields := registry.fields.size
  enums := registry.enums.size
  services := registry.services.size
  methods := registry.methods.size

end Registry

/-- One step of registration. -/
inductive Step
  | log (event : Event)
  /-- A declaration is wrong by itself. -/
  | refuse (error : LinkError)
  /-- The type of a method has to be a message that is registered already. -/
  | require (method : Ident .method) (role : Role) (typeName : Ident .message)
  | declare (kind : Kind) (entity : Entity kind)

namespace Registry

/-- Takes one step. Logging leaves the registry as it is. -/
def perform (registry : Registry) : Step → Except LinkError Registry
  | .log _ => .ok registry
  | .refuse error => .error error
  | .require method role typeName =>
      if registry.messages.contains typeName then .ok registry
      else .error (.unresolvedMethodType method role typeName.text registry.messages.size)
  | .declare kind entity =>
      match (registry.arena kind).insert entity.id entity with
      | .ok (_, arena) => .ok (registry.setArena kind arena)
      | .error _ => .error (.duplicateIdentifier kind entity.id.text)

/-- Takes steps up to the first that fails. The events logged by then come with the outcome, whatever
it is. -/
def run (registry : Registry) : List Step → List Event × Except LinkError Registry
  | [] => ([], .ok registry)
  | .log event :: steps =>
      let (events, outcome) := registry.run steps
      (event :: events, outcome)
  | step :: steps =>
      match registry.perform step with
      | .ok registry => registry.run steps
      | .error error => ([], .error error)

end Registry

end LinkedSchema
