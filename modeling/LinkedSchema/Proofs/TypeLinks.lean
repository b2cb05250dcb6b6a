import LinkedSchema.Proofs.Containment

/-!
# Links to types

A type is named by its fully qualified name: the package and the names along the nesting, each
behind a dot. A model looks the name up as an identifier, and this finds exactly the declaration
with that fully qualified name, wherever in the request it stands.

* `Declaration.fullName`, `Declaration.text_id_message`, `Declaration.text_id_enum` — identifiers of
  types are fully qualified names;
* `Resolves` — a lookup finds the declaration that a field names, if there is one;
* `LinksTypes`, `Model.linksTypes_of_ok` — the types of fields and methods in every model.
-/

namespace LinkedSchema

/-! ## Fully qualified names -/

namespace Declaration

/-- The parts of a fully qualified name, from the outside in: the package, if there is one, the
names of the messages around the declaration, and its own name. -/
def nameParts {kind : Kind} (declaration : Declaration kind) : List String :=
  (if declaration.source.package = "" then [] else [declaration.source.package]) ++
    declaration.enclosing.reverse.map name ++ [declaration.name]

/-- The fully qualified name of a declaration. -/
def fullName {kind : Kind} (declaration : Declaration kind) : String :=
  "." ++ ".".intercalate declaration.nameParts

theorem fullName_ne_empty {kind : Kind} (declaration : Declaration kind) :
    declaration.fullName ≠ "" := by
  simp [fullName, String.append_eq_empty_iff]

/-- The name of a declaration at file level. -/
theorem topName_eq {kind : Kind} {declaration : Declaration kind}
    (h : declaration.enclosing = []) :
    declaration.source.topName declaration.name = declaration.fullName := by
  unfold FileDescriptor.topName fullName nameParts
  rw [h]
  by_cases hpackage : declaration.source.package = ""
  · simp [hpackage]
  · simp [hpackage, String.append_assoc]

/-- The name of a declaration in a message, from the name of the message. -/
theorem nested_fullName {kind : Kind} {declaration : Declaration kind}
    {around : Declaration .message} (h : declaration.enclosing = around :: around.enclosing)
    (hsource : declaration.source = around.source) :
    around.fullName ++ "." ++ declaration.name = declaration.fullName := by
  have hparts : declaration.nameParts = around.nameParts ++ [declaration.name] := by
    simp [nameParts, h, hsource]
  have hne : around.nameParts ≠ [] := by simp [nameParts]
  rw [fullName, fullName, hparts, String.intercalate_append_of_ne_nil hne (by simp),
    String.intercalate_singleton]
  simp only [String.append_assoc]

/-- The identifier of a message is its fully qualified name. -/
theorem text_id_message : (message : Declaration .message) → message.id.text = message.fullName
  | .message source position descriptor =>
      @topName_eq .message (.message source position descriptor) rfl
  | .nested around position descriptor => by
      have hnested := @nested_fullName .message (.nested around position descriptor) around rfl rfl
      rw [← hnested, ← text_id_message around]
      rfl

/-- The identifier of an enum is its fully qualified name. -/
theorem text_id_enum (enum : Declaration .enum) : enum.id.text = enum.fullName := by
  cases enum with
  | enum source position descriptor =>
      exact @topName_eq .enum (.enum source position descriptor) rfl
  | nestedEnum around position descriptor =>
      have hnested := @nested_fullName .enum (.nestedEnum around position descriptor) around rfl rfl
      rw [← hnested, ← text_id_message around]
      rfl

/-- A field names a declaration as its type: it is a field of such types, and the name of its type
is the fully qualified name of the declaration. -/
def Names {kind : Kind} (field : Declaration .field) (type : FieldType)
    (declaration : Declaration kind) : Prop :=
  field.descriptor.type = type ∧ field.descriptor.typeName = some declaration.fullName

end Declaration

/-! ## Types of fields and methods -/

/-- What was found as the type of a field is the entity of the declaration of a kind that the field
names, and nothing was found just if the field names none in the request. -/
structure Resolves (request : Request) (model : Model) (field : Declaration .field)
    (type : FieldType) {kind : Kind} (found : Option (Entity kind)) : Prop where
  eq_iff : ∀ declaration ∈ request.declarations kind,
    found = model.get? kind declaration.id.text ↔ field.Names type declaration
  eq_none_iff : found = none ↔
    ∀ declaration ∈ request.declarations kind, ¬ field.Names type declaration

/-- The types of the fields and methods of a model are the declarations with the fully qualified
names that are given for them. A field of any other type, a group included, names neither a message
nor an enum. -/
structure LinksTypes (request : Request) (model : Model) : Prop where
  field : ∀ field ∈ request.declarations .field, ∃ entity,
    model.get? .field field.id.text = some entity ∧
      @Resolves request model field .message .message (model.typeMessage? entity) ∧
      @Resolves request model field .enum .enum (model.typeEnum? entity)
  method : ∀ method ∈ request.declarations .method, ∃ entity,
    model.get? .method method.id.text = some entity ∧
      (∃ message ∈ request.declarations .message, message.fullName = method.typeName .input ∧
        model.get? .message message.id.text = some (model.inputOf entity)) ∧
      ∃ message ∈ request.declarations .message, message.fullName = method.typeName .output ∧
        model.get? .message message.id.text = some (model.outputOf entity)

/-- The type of a field refers to a message or an enum if it is of such a type and is given by name.
-/
theorem typeRef_ofField (field : FieldDescriptor) :
    TypeRef.ofField field =
      if field.type = .message ∧ field.typeName.getD "" ≠ "" then
        .message ⟨field.typeName.getD ""⟩
      else if field.type = .enum ∧ field.typeName.getD "" ≠ "" then
        .enum ⟨field.typeName.getD ""⟩
      else .scalar := by
  unfold TypeRef.ofField
  by_cases hname : field.typeName.getD "" = ""
  · simp [hname]
  · cases htype : field.type <;> simp [hname]

namespace Links

variable {request : Request} {config : Config} {model : Model}

/-- A lookup of the name of a type that is skipped for fields of other types and for empty names
finds what the field names, if full names are identifiers. -/
theorem resolves_of_lookup (h : Links request config model) {field : Declaration .field}
    {type : FieldType} {kind : Kind} {found : Option (Entity kind)}
    (hnames : ∀ declaration : Declaration kind, declaration.id.text = declaration.fullName)
    (hfound : found =
      if field.descriptor.type = type ∧ field.descriptor.typeName.getD "" ≠ "" then
        (model.registry.arena kind).get? ⟨field.descriptor.typeName.getD ""⟩
      else none) :
    Resolves request model field type found := by
  -- Both parts of the statement come down to which entity is found.
  have hsome : ∀ entity, found = some entity ↔
      ∃ declaration ∈ request.declarations kind,
        field.Names type declaration ∧ request.entity config declaration = entity := by
    intro entity
    rw [hfound]
    constructor
    · intro hlookup
      split at hlookup
      case isTrue hcondition =>
        obtain ⟨htype, hne⟩ := hcondition
        obtain ⟨declaration, hmem, hid, rfl⟩ := (h.get?_iff _ _).mp hlookup
        refine ⟨declaration, hmem, ⟨htype, ?_⟩, rfl⟩
        cases hname : field.descriptor.typeName with
        | none => exact absurd (by rw [hname, Option.getD_none]) hne
        | some name =>
            rw [← hnames, hid, hname, Option.getD_some]
      case isFalse => cases hlookup
    · intro hall
      obtain ⟨declaration, hmem, ⟨htype, hname⟩, rfl⟩ := hall
      rw [hname, Option.getD_some, if_pos ⟨htype, declaration.fullName_ne_empty⟩, ← hnames]
      exact h.get?_id hmem
  have hget : ∀ declaration ∈ request.declarations kind,
      model.get? kind declaration.id.text = some (request.entity config declaration) :=
    fun declaration hmem => h.get?_id hmem
  constructor
  · intro declaration hmem
    rw [hget declaration hmem, hsome]
    constructor
    · intro hall
      obtain ⟨other, hother, hnamed, hsame⟩ := hall
      have hid := congrArg Entity.id hsame
      rw [Declaration.id_entity, Declaration.id_entity] at hid
      exact h.eq_of_id_eq hother hmem hid ▸ hnamed
    · intro hnamed
      exact ⟨declaration, hmem, hnamed, rfl⟩
  · rw [Option.eq_none_iff_forall_ne_some]
    constructor
    · intro hnone declaration hmem hnamed
      exact hnone _ ((hsome _).mpr ⟨declaration, hmem, hnamed, rfl⟩)
    · intro hnone entity hentity
      obtain ⟨declaration, hmem, hnamed, -⟩ := (hsome entity).mp hentity
      exact hnone declaration hmem hnamed

theorem typeRef_entity (field : Declaration .field) :
    Field.typeRef (request.entity config field) = .ofField field.descriptor := by
  cases field
  rfl

/-- The message of a field is looked up under the name of its type. -/
theorem typeMessage?_entity (field : Declaration .field) :
    model.typeMessage? (request.entity config field) =
      if field.descriptor.type = .message ∧ field.descriptor.typeName.getD "" ≠ "" then
        (model.registry.arena .message).get? ⟨field.descriptor.typeName.getD ""⟩
      else none := by
  rw [Model.typeMessage?, typeRef_entity, typeRef_ofField]
  by_cases hmessage :
      field.descriptor.type = .message ∧ field.descriptor.typeName.getD "" ≠ ""
  · rw [if_pos hmessage, if_pos hmessage]
    rfl
  · rw [if_neg hmessage, if_neg hmessage]
    split_ifs <;> rfl

/-- The enum of a field is looked up under the name of its type. -/
theorem typeEnum?_entity (field : Declaration .field) :
    model.typeEnum? (request.entity config field) =
      if field.descriptor.type = .enum ∧ field.descriptor.typeName.getD "" ≠ "" then
        (model.registry.arena .enum).get? ⟨field.descriptor.typeName.getD ""⟩
      else none := by
  rw [Model.typeEnum?, typeRef_entity, typeRef_ofField]
  by_cases hmessage :
      field.descriptor.type = .message ∧ field.descriptor.typeName.getD "" ≠ ""
  · -- No type is both of a message and of an enum.
    have henum : ¬ (field.descriptor.type = .enum ∧ field.descriptor.typeName.getD "" ≠ "") := by
      rw [hmessage.1]
      simp
    rw [if_pos hmessage, if_neg henum]
  · rw [if_neg hmessage]
    split_ifs <;> rfl

end Links

/-- In every model the types of fields and methods are the declarations with the fully qualified
names that are given for them, wherever in the request these stand. -/
theorem Model.linksTypes_of_ok {request : Request} {config : Config} {model : Model}
    (h : (Model.ofRequest request config).outcome = .ok model) : LinksTypes request model := by
  have hlinks := Model.links_of_ok h
  constructor
  case field =>
    intro field hmem
    refine ⟨request.entity config field, hlinks.get?_id hmem, ?_, ?_⟩
    · exact hlinks.resolves_of_lookup Declaration.text_id_message (Links.typeMessage?_entity field)
    · exact hlinks.resolves_of_lookup Declaration.text_id_enum (Links.typeEnum?_entity field)
  case method =>
    intro method hmem
    have htype : ∀ role, ∃ message ∈ request.declarations .message,
        message.fullName = method.typeName role ∧
          model.get? .message message.id.text = some (model.resolve ⟨method.typeName role⟩) := by
      intro role
      obtain ⟨message, hmessage, hid⟩ := hlinks.exists_message_of_method hmem role
      refine ⟨message, hmessage, ?_, ?_⟩
      · rw [← message.text_id_message, hid]
      · rw [← hid, hlinks.resolve_id hmessage]
        exact hlinks.get?_id hmessage
    refine ⟨request.entity config method, hlinks.get?_id hmem, ?_⟩
    cases method
    exact ⟨htype .input, htype .output⟩

/-- The model of the example, in which a field of one file has an enum nested in a message of the
other as its type. -/
theorem Model.linksTypes_exampleRequest :
    ∃ model, (Model.ofRequest exampleRequest {}).outcome = .ok model ∧
      LinksTypes exampleRequest model := by
  obtain ⟨model, hmodel, -⟩ := exampleRequest_links
  exact ⟨model, hmodel, Model.linksTypes_of_ok hmodel⟩

end LinkedSchema
