import LinkedSchema.Inspect.Summary

/-!
# Entries of a summary

A summary read from top to bottom. Each declaration that it shows makes one entry, with the depth at
which it stands and with all that the summary says of the declaration itself. What is declared in it
comes behind it as entries of their own, in the order of a walk through the records.

* `Entry`, `entryOf` — an entry, and the one that an entity should have;
* `MessageSummary.entries`, ..., `ModelSummary.entries` — the entries of the records;
* `ModelSummary.ofKind` — the entries of a kind, without their depths.
-/

namespace LinkedSchema.Inspect

/-- What a summary says of a declaration. The members of messages, enums and services stand with the
identifier of what they are members of. -/
inductive Entry
  | file (id name package syntaxLevel : String) (generate visible deprecated : Bool)
  | message (id : String) (visible deprecated : Bool)
  | field (message : String) (field : FieldSummary)
  | oneof (message name : String)
  | enum (id : String) (visible deprecated : Bool)
  | enumValue (enum name : String) (number : Int)
  | service (id : String) (visible deprecated : Bool)
  | method (service : String) (method : MethodSummary)
deriving DecidableEq, Repr

namespace Entry

/-- The kind of declaration that an entry is about. -/
def kind : Entry → Kind
  | .file .. => .file
  | .message .. => .message
  | .field .. => .field
  | .oneof .. => .oneof
  | .enum .. => .enum
  | .enumValue .. => .enumValue
  | .service .. => .service
  | .method .. => .method

/-- The identifier of the declaration that an entry is about. That of a member follows from its name
and the identifier with which it stands. -/
def id : Entry → String
  | .file id .. => id
  | .message id _ _ => id
  | .field owner member => owner ++ ":" ++ member.name
  | .oneof owner name => owner ++ ":" ++ name
  | .enum id _ _ => id
  | .enumValue owner name _ => owner ++ ":" ++ name
  | .service id _ _ => id
  | .method owner member => owner ++ ":" ++ member.name

end Entry

/-! ## Reading a summary -/

/-- An enum, then its values. -/
def EnumSummary.entries (depth : Nat) (enum : EnumSummary) : List (Nat × Entry) :=
  (depth, .enum enum.id enum.visible enum.deprecated) ::
    enum.values.map fun (name, number) => (depth + 1, .enumValue enum.id name number)

mutual

/-- A message, then its fields, its oneofs, the messages directly in it with their content, and its
enums with their values. -/
def MessageSummary.entries : Nat → MessageSummary → List (Nat × Entry)
  | depth, ⟨id, visible, deprecated, fields, oneofs, messages, enums⟩ =>
      (depth, .message id visible deprecated) ::
        (fields.map (fun field => (depth + 1, .field id field)) ++
          oneofs.map (fun name => (depth + 1, .oneof id name)) ++
          messageEntries (depth + 1) messages ++ enums.flatMap (EnumSummary.entries (depth + 1)))

/-- The entries of messages one behind the other. -/
def messageEntries : Nat → List MessageSummary → List (Nat × Entry)
  | _, [] => []
  | depth, message :: messages => message.entries depth ++ messageEntries depth messages

end

/-- A service, then its methods. -/
def ServiceSummary.entries (depth : Nat) (service : ServiceSummary) : List (Nat × Entry) :=
  (depth, .service service.id service.visible service.deprecated) ::
    service.methods.map fun method => (depth + 1, .method service.id method)

/-- A file, then its messages with their content, its enums with their values and its services with
their methods. -/
def FileSummary.entries (depth : Nat) (file : FileSummary) : List (Nat × Entry) :=
  (depth, .file file.id file.name file.package file.syntaxLevel file.generate file.visible
      file.deprecated) ::
    (file.messages.flatMap (MessageSummary.entries (depth + 1)) ++
      file.enums.flatMap (EnumSummary.entries (depth + 1)) ++
      file.services.flatMap (ServiceSummary.entries (depth + 1)))

/-- The files one behind the other. -/
def ModelSummary.entries (summary : ModelSummary) : List (Nat × Entry) :=
  summary.files.flatMap (FileSummary.entries 0)

/-- The entries of a kind in the order of the walk. -/
def ModelSummary.ofKind (summary : ModelSummary) (kind : Kind) : List Entry :=
  (summary.entries.map Prod.snd).filter (·.kind = kind)

theorem messageEntries_eq_flatMap (depth : Nat) (messages : List MessageSummary) :
    messageEntries depth messages = messages.flatMap (MessageSummary.entries depth) := by
  induction messages with
  | nil => rfl
  | cons message messages ih => rw [messageEntries, ih, List.flatMap_cons]

/-! ## Entities as entries -/

section

variable (model : Model)

/-- What a summary should say of an entity. -/
def entryOf : {kind : Kind} → Entity kind → Entry
  | .file, file =>
      .file (File.id file).text (File.name file) (File.package file) (File.syntaxLevel file)
        (File.generate file) (Model.fileVisible file) (Model.fileDeprecated file)
  | .message, message =>
      .message (Message.id message).text (model.messageVisible message)
        (model.messageDeprecated message)
  | .field, field => .field (Field.parent field).text (summarizeField model field)
  | .oneof, oneof => .oneof (Oneof.parent oneof).text (Oneof.name oneof)
  | .enum, enum =>
      .enum (Enum.id enum).text (model.enumVisible enum) (model.enumDeprecated enum)
  | .enumValue, value =>
      .enumValue (EnumValue.parent value).text (EnumValue.name value) (EnumValue.number value)
  | .service, service =>
      .service (Service.id service).text (model.serviceVisible service)
        (model.serviceDeprecated service)
  | .method, method => .method (Method.parent method).text (summarizeMethod model method)

@[simp]
theorem kind_entryOf {kind : Kind} (entity : Entity kind) : (entryOf model entity).kind = kind := by
  cases kind <;> rfl

variable (filter : Filter)

/-- A message in a summary, with the lists from which its record is made. -/
theorem entries_summarizeMessage (limit depth : Nat) (message : Message) :
    (summarizeMessage model filter limit message).entries depth =
      (depth, @entryOf model .message message) ::
        ((filter.keep model .field (model.messageFields message)).map (fun field : Field =>
            (depth + 1, .field message.id.text (summarizeField model field))) ++
          (filter.keep model .oneof (model.messageOneofs message)).map (fun oneof : Oneof =>
            (depth + 1, .oneof message.id.text oneof.name)) ++
          (match limit with
            | 0 => []
            | limit + 1 =>
                (filter.keep model .message (model.messageMessages message)).flatMap fun inner =>
                  (summarizeMessage model filter limit inner).entries (depth + 1)) ++
          (filter.keep model .enum (model.messageEnums message)).flatMap fun enum =>
            (summarizeEnum model filter enum).entries (depth + 1)) := by
  cases limit <;>
    simp [summarizeMessage, MessageSummary.entries, messageEntries_eq_flatMap, entryOf,
      List.flatMap_map, Function.comp_def]

end

end LinkedSchema.Inspect
