import LinkedSchema.Proofs.Containment
import LinkedSchema.Semantics
import Mathlib.Data.Set.Insert

/-!
# Scopes

Visibility and deprecation are answered by asking the scopes around an entity and the types that it
refers to. Every answer comes down to one set for each entity: it is visible if all elements of the
set are public, and deprecated if one of them says so.

* `Model.scope` — the set of an entity, told without the properties;
* `Model.consulted`, `Links.isVisible_eq`, `Links.isDeprecated_eq` — which entities are asked, and
  what is made of their answers;
* `Model.inherits`, `Links.isDeprecated_eq_inherits` — the same for deprecation by either rule;
* `Links.mem_scope_iff`, `Links.iff_exists_mem_scope` — the set of an entity from those of the
  entities that it asks, and what follows for properties that are asked for in this way;
* `Model.FollowsScopes`, `Model.followsScopes_of_ok` — the properties of the entities of every
  model.
-/

namespace LinkedSchema

namespace Model

variable (model : Model)

/-! ## The set of an entity -/

/-- The message directly around a message or an enum. -/
def parentOf? : Sigma Entity → Option Message
  | ⟨.message, message⟩ => model.parentMessage? message
  | ⟨.enum, enum⟩ => model.enumParent? enum
  | _ => none

/-- A message is around an entity, directly or around the message that is. -/
inductive Encloses (outer : Message) : Sigma Entity → Prop
  | directly {entity : Sigma Entity} (h : model.parentOf? entity = some outer) :
      Encloses outer entity
  | around {entity : Sigma Entity} {parent : Message} (h : model.parentOf? entity = some parent)
      (houter : Encloses outer ⟨.message, parent⟩) : Encloses outer entity

variable {model} in
theorem encloses_iff {outer : Message} {entity : Sigma Entity} :
    model.Encloses outer entity ↔
      ∃ parent, model.parentOf? entity = some parent ∧
        (outer = parent ∨ model.Encloses outer ⟨.message, parent⟩) := by
  constructor
  · intro h
    cases h with
    | directly h => exact ⟨outer, h, .inl rfl⟩
    | around h houter => exact ⟨_, h, .inr houter⟩
  · rintro ⟨parent, h, rfl | houter⟩
    · exact .directly h
    · exact .around h houter

/-- A type with its file and all messages around it. -/
def typeScope (kind : Kind) (entity : Entity kind) : Set (Sigma Entity) :=
  {⟨kind, entity⟩, ⟨.file, model.fileOf entity⟩} ∪
    {inside | ∃ outer, model.Encloses outer ⟨kind, entity⟩ ∧ inside = ⟨.message, outer⟩}

/-- A service with its file. -/
def serviceScope (service : Service) : Set (Sigma Entity) :=
  {⟨.service, service⟩, ⟨.file, model.resolve service.file⟩}

/-- The entities that decide on the derived properties of an entity. -/
def scope : (kind : Kind) → Entity kind → Set (Sigma Entity)
  | .file, file => {⟨.file, file⟩}
  | .message, message => model.typeScope .message message
  | .enum, enum => model.typeScope .enum enum
  | .service, service => model.serviceScope service
  | .enumValue, value => {⟨.enumValue, value⟩} ∪ model.typeScope .enum (model.valueParent value)
  | .oneof, oneof => model.typeScope .message (model.oneofParent oneof)
  | .field, field =>
      {⟨.field, field⟩} ∪ model.typeScope .message (model.fieldParent field) ∪
        {inside | ∃ type, model.typeMessage? field = some type ∧
          inside ∈ model.typeScope .message type} ∪
        {inside | ∃ type, model.typeEnum? field = some type ∧ inside ∈ model.typeScope .enum type}
  | .method, method =>
      {⟨.method, method⟩} ∪ model.serviceScope (model.methodParent method) ∪
        model.typeScope .message (model.inputOf method) ∪
        model.typeScope .message (model.outputOf method)

end Model

namespace Entity

/-- The metadata of an entity says that it is public. -/
def IsPublic (entity : Sigma Entity) : Prop :=
  ∃ metadata, entity.2.metadata? = some metadata ∧ metadata.visibility = .exported

/-- The options of an entity say that it is deprecated. -/
def SaysDeprecated (entity : Sigma Entity) : Prop :=
  entity.2.options.get? "deprecated" = some (.bool true)

theorem all_isPublic_iff {kind : Kind} (entity : Entity kind) :
    entity.metadata?.all Metadata.isPublic = true ↔
      (kind ≠ .oneof → IsPublic ⟨kind, entity⟩) := by
  cases kind <;> simp [IsPublic, metadata?, Metadata.isPublic]

end Entity

theorem Options.deprecated_iff (options : Options) :
    options.deprecated = true ↔ options.get? "deprecated" = some (.bool true) := by
  rw [Options.deprecated, Options.flag]
  cases h : options.get? "deprecated" with
  | none => simp
  | some value => cases value <;> simp [Json.Value.asBool?]

namespace Model

variable (model : Model)

/-! ## Questions and answers -/

/-- The entities that an entity asks when a derived property is looked for. -/
def consulted : (kind : Kind) → Entity kind → List (Sigma Entity)
  | .file, _ => []
  | .message, message =>
      ⟨.file, model.resolve (Message.file message)⟩ ::
        (model.parentMessage? message).toList.map fun parent => ⟨.message, parent⟩
  | .enum, enum =>
      ⟨.file, model.resolve (Enum.file enum)⟩ ::
        (model.enumParent? enum).toList.map fun parent => ⟨.message, parent⟩
  | .service, service => [⟨.file, model.resolve (Service.file service)⟩]
  | .enumValue, value => [⟨.enum, model.valueParent value⟩]
  | .oneof, oneof => [⟨.message, model.oneofParent oneof⟩]
  | .field, field =>
      ⟨.message, model.fieldParent field⟩ ::
        ((model.typeMessage? field).toList.map (fun type => ⟨.message, type⟩) ++
          (model.typeEnum? field).toList.map fun type => ⟨.enum, type⟩)
  | .method, method =>
      [⟨.service, model.methodParent method⟩, ⟨.message, model.inputOf method⟩,
        ⟨.message, model.outputOf method⟩]

/-- Whether an entity of a kind is deprecated on account of one that it asks: if that one is, but by
the older rule an enum is if that one is visible. -/
def inherits (kind : Kind) (asked : Sigma Entity) : Bool :=
  if kind = .enum ∧ model.config.enumDeprecation = .legacyVisibility then
    model.isVisible asked.2
  else model.isDeprecated asked.2

/-- An entity is asked by another. -/
def IsConsulted (asked entity : Sigma Entity) : Prop :=
  asked ∈ model.consulted entity.1 entity.2

/-- Derived properties follow the scopes of the entities of a model. -/
structure FollowsScopes : Prop where
  /-- An entity is visible if everything in its scope is public. -/
  visible : ∀ {kind : Kind} {entity : Entity kind}, model.Has ⟨kind, entity⟩ →
    (model.isVisible entity = true ↔ ∀ inside ∈ model.scope kind entity, Entity.IsPublic inside)
  /-- By the rule of ancestors an entity is deprecated if something in its scope says so. -/
  deprecated : model.config.enumDeprecation = .ancestors →
    ∀ {kind : Kind} {entity : Entity kind}, model.Has ⟨kind, entity⟩ →
      (model.isDeprecated entity = true ↔
        ∃ inside ∈ model.scope kind entity, Entity.SaysDeprecated inside)
  /-- An entity is visible if those that it asks are, and it does not say otherwise itself. -/
  visible_eq : ∀ {kind : Kind} {entity : Entity kind}, model.Has ⟨kind, entity⟩ →
    model.isVisible entity =
      ((model.consulted kind entity).all (fun asked => model.isVisible asked.2) &&
        entity.metadata?.all Metadata.isPublic)
  /-- An entity is deprecated if one of those that it asks is, or it says so itself; a oneof cannot
  say so. -/
  deprecated_eq : model.config.enumDeprecation = .ancestors →
    ∀ {kind : Kind} {entity : Entity kind}, model.Has ⟨kind, entity⟩ →
      model.isDeprecated entity =
        ((model.consulted kind entity).any (fun asked => model.isDeprecated asked.2) ||
          (decide (kind ≠ .oneof) && entity.options.deprecated))
  /-- Asking comes to an end, whatever the types of fields refer to. -/
  terminates : ∀ {entity : Sigma Entity}, model.Has entity → Acc model.IsConsulted entity

end Model

/-! ## Entities of declarations -/

namespace Links

variable {request : Request} {config : Config} {model : Model}

/-- The messages around a message of a request. -/
theorem enclosingMessages_entity (h : Links request config model) {message : Declaration .message}
    (hmem : message ∈ request.declarations .message) :
    model.enclosingMessages (request.entity config message) =
      message.enclosing.map (request.entity config) :=
  h.map_resolve_id (Request.enclosing_subset hmem)

/-- The message directly around a message of a request. -/
theorem parentMessage?_entity (h : Links request config model) {message : Declaration .message}
    (hmem : message ∈ request.declarations .message) :
    model.parentMessage? (request.entity config message) =
      message.enclosing.head?.map (request.entity config) := by
  have henclosing := Request.enclosing_subset hmem
  cases message with
  | message => rfl
  | nested around => exact congrArg some (h.resolve_id (henclosing List.mem_cons_self))

/-- The message directly around an enum of a request. -/
theorem enumParent?_entity (h : Links request config model) {enum : Declaration .enum}
    (hmem : enum ∈ request.declarations .enum) :
    model.enumParent? (request.entity config enum) =
      enum.enclosing.head?.map (request.entity config) := by
  have henclosing := Request.enclosing_subset hmem
  cases enum with
  | enum => rfl
  | nestedEnum around => exact congrArg some (h.resolve_id (henclosing List.mem_cons_self))

/-- The messages around a nested message are its parent and those around the parent. -/
theorem enclosingMessages_nested (h : Links request config model) {around : Declaration .message}
    {position : Nat} {descriptor : MessageDescriptor}
    (hmem : .nested around position descriptor ∈ request.declarations .message) :
    model.enclosingMessages (request.entity config (.nested around position descriptor)) =
      request.entity config around :: model.enclosingMessages (request.entity config around) := by
  have haround := Request.enclosing_subset hmem List.mem_cons_self
  rw [h.enclosingMessages_entity hmem, h.enclosingMessages_entity haround]
  rfl

/-- A message is visible if it is public in a visible file and a visible message. -/
theorem messageVisible_entity (h : Links request config model) {message : Declaration .message}
    (hmem : message ∈ request.declarations .message) :
    model.messageVisible (request.entity config message) =
      (Model.fileVisible (model.resolve (Message.file (request.entity config message))) &&
        (model.parentMessage? (request.entity config message)).all model.messageVisible &&
        (Message.metadata (request.entity config message)).isPublic) := by
  rw [h.parentMessage?_entity hmem]
  cases message with
  | message => rfl
  | nested around position descriptor =>
      rw [Bool.eq_iff_iff, Model.messageVisible, h.enclosingMessages_nested hmem]
      show _ ↔ (Model.fileVisible _ && model.messageVisible (request.entity config around) && _) = true
      -- The parent stands in the same file, so the file is asked twice.
      have hfile : Message.file (request.entity config (.nested around position descriptor)) =
          Message.file (request.entity config around) := rfl
      simp only [hfile, Model.messageVisible, List.all_cons, Bool.and_eq_true]
      tauto

/-- A message is deprecated if it says so, its file does or the message around it is. -/
theorem messageDeprecated_entity (h : Links request config model) {message : Declaration .message}
    (hmem : message ∈ request.declarations .message) :
    model.messageDeprecated (request.entity config message) =
      (Model.fileDeprecated (model.resolve (Message.file (request.entity config message))) ||
        (model.parentMessage? (request.entity config message)).any model.messageDeprecated ||
        (Message.options (request.entity config message)).deprecated) := by
  rw [h.parentMessage?_entity hmem]
  cases message with
  | message => rfl
  | nested around position descriptor =>
      rw [Bool.eq_iff_iff, Model.messageDeprecated, h.enclosingMessages_nested hmem]
      show _ ↔ (Model.fileDeprecated _ ||
        model.messageDeprecated (request.entity config around) || _) = true
      have hfile : Message.file (request.entity config (.nested around position descriptor)) =
          Message.file (request.entity config around) := rfl
      simp only [hfile, Model.messageDeprecated, List.any_cons, Bool.or_eq_true]
      tauto

/-- An entity is visible if those that it asks are, and it does not say otherwise itself. -/
theorem isVisible_eq (h : Links request config model) {kind : Kind} {entity : Entity kind}
    (hentity : model.Has ⟨kind, entity⟩) :
    model.isVisible entity =
      ((model.consulted kind entity).all (fun asked => model.isVisible asked.2) &&
        entity.metadata?.all Metadata.isPublic) := by
  obtain ⟨declaration, hmem, rfl⟩ := h.exists_of_has hentity
  generalize hentity' : request.entity config declaration = entity
  cases kind with
  | message =>
      have hvisible := h.messageVisible_entity hmem
      rw [hentity'] at hvisible
      cases hparent : model.parentMessage? entity <;>
        simp [Model.isVisible, Model.consulted, Entity.metadata?, hvisible, hparent]
  | enum =>
      cases hparent : model.enumParent? entity <;>
        simp [Model.isVisible, Model.consulted, Entity.metadata?, Model.enumVisible, hparent]
  | field =>
      cases hmessage : model.typeMessage? entity <;> cases henum : model.typeEnum? entity <;>
        simp [Model.isVisible, Model.consulted, Entity.metadata?, Model.fieldVisible, hmessage,
          henum, Bool.and_assoc]
  | file | oneof | enumValue | service | method =>
      simp [Model.isVisible, Model.consulted, Entity.metadata?, Model.fileVisible,
        Model.valueVisible, Model.serviceVisible, Model.methodVisible, Bool.and_assoc]

/-- By either rule an entity is deprecated if it inherits that from one of those that it asks, or it
says so itself. -/
theorem isDeprecated_eq_inherits (h : Links request config model) {kind : Kind}
    {entity : Entity kind} (hentity : model.Has ⟨kind, entity⟩) :
    model.isDeprecated entity =
      ((model.consulted kind entity).any (model.inherits kind) ||
        (decide (kind ≠ .oneof) && entity.options.deprecated)) := by
  obtain ⟨declaration, hmem, rfl⟩ := h.exists_of_has hentity
  generalize hentity' : request.entity config declaration = entity
  cases kind with
  | message =>
      have hdeprecated := h.messageDeprecated_entity hmem
      rw [hentity'] at hdeprecated
      cases hparent : model.parentMessage? entity <;>
        simp [Model.inherits, Model.isDeprecated, Model.consulted, Entity.options, hdeprecated,
          hparent]
  | enum =>
      cases hparent : model.enumParent? entity <;> cases hrule : model.config.enumDeprecation <;>
        simp [Model.inherits, Model.isDeprecated, Model.isVisible, Model.consulted, Entity.options,
          Model.enumDeprecated, hrule, hparent]
  | field =>
      cases hmessage : model.typeMessage? entity <;> cases henum : model.typeEnum? entity <;>
        simp [Model.inherits, Model.isDeprecated, Model.consulted, Entity.options,
          Model.fieldDeprecated, hmessage, henum, Bool.or_assoc]
  | file | oneof | enumValue | service | method =>
      simp [Model.inherits, Model.isDeprecated, Model.consulted, Entity.options,
        Model.fileDeprecated, Model.valueDeprecated, Model.serviceDeprecated,
        Model.methodDeprecated, Bool.or_assoc]

/-- By the rule of ancestors an entity is deprecated if one of those that it asks is, or it says so
itself. -/
theorem isDeprecated_eq (h : Links request config model)
    (hrule : model.config.enumDeprecation = .ancestors) {kind : Kind} {entity : Entity kind}
    (hentity : model.Has ⟨kind, entity⟩) :
    model.isDeprecated entity =
      ((model.consulted kind entity).any (fun asked => model.isDeprecated asked.2) ||
        (decide (kind ≠ .oneof) && entity.options.deprecated)) := by
  have hinherits : model.inherits kind = fun asked => model.isDeprecated asked.2 := by
    funext asked
    rw [Model.inherits, if_neg (by simp [hrule])]
  rw [h.isDeprecated_eq_inherits hentity, hinherits]

/-- Asking leads from registered entities to registered ones. -/
theorem has_of_isConsulted (h : Links request config model) {asked entity : Sigma Entity}
    (hentity : model.Has entity) (hasked : model.IsConsulted asked entity) : model.Has asked := by
  refine h.has_of_leads hentity ?_
  obtain ⟨kind, entity⟩ := entity
  cases kind with
  | file => exact absurd hasked List.not_mem_nil
  | message =>
      rcases List.mem_cons.mp hasked with rfl | haround
      · exact .file entity
      · obtain ⟨parent, hparent, rfl⟩ := List.mem_map.mp haround
        exact .parent entity parent (Option.mem_toList.mp hparent)
  | enum =>
      rcases List.mem_cons.mp hasked with rfl | haround
      · exact .file entity
      · obtain ⟨parent, hparent, rfl⟩ := List.mem_map.mp haround
        exact .enumParent entity parent (Option.mem_toList.mp hparent)
  | service =>
      obtain rfl := List.mem_singleton.mp hasked
      exact .file entity
  | enumValue =>
      obtain rfl := List.mem_singleton.mp hasked
      exact .valueParent entity
  | oneof =>
      obtain rfl := List.mem_singleton.mp hasked
      exact .oneofParent entity
  | field =>
      rcases List.mem_cons.mp hasked with rfl | htypes
      · exact .fieldParent entity
      · rcases List.mem_append.mp htypes with hmessage | henum
        · obtain ⟨type, htype, rfl⟩ := List.mem_map.mp hmessage
          exact .typeMessage entity type (Option.mem_toList.mp htype)
        · obtain ⟨type, htype, rfl⟩ := List.mem_map.mp henum
          exact .typeEnum entity type (Option.mem_toList.mp htype)
  | method =>
      simp only [Model.IsConsulted, Model.consulted, List.mem_cons, List.not_mem_nil,
        or_false] at hasked
      rcases hasked with rfl | rfl | rfl
      · exact .methodParent entity
      · exact .input entity
      · exact .output entity

/-! ### The end of asking -/

theorem acc_file (file : File) : Acc model.IsConsulted ⟨.file, file⟩ :=
  ⟨_, fun _ hasked => absurd hasked List.not_mem_nil⟩

theorem acc_service (service : Service) : Acc model.IsConsulted ⟨.service, service⟩ := by
  refine ⟨_, fun asked hasked => ?_⟩
  obtain rfl := List.mem_singleton.mp hasked
  exact acc_file _

/-- A message asks its file and its parent, and the chain of parents is as long as the messages are
nested. -/
theorem acc_message (h : Links request config model) :
    ∀ {message : Declaration .message}, message ∈ request.declarations .message →
      Acc model.IsConsulted ⟨.message, request.entity config message⟩
  | .message source position descriptor, hmem => by
      refine ⟨_, fun asked hasked => ?_⟩
      rcases List.mem_cons.mp hasked with rfl | hparent
      · exact acc_file _
      · exact absurd hparent List.not_mem_nil
  | .nested around position descriptor, hmem => by
      refine ⟨_, fun asked hasked => ?_⟩
      rcases List.mem_cons.mp hasked with rfl | hparent
      · exact acc_file _
      · rw [h.parentMessage?_entity hmem] at hparent
        obtain rfl := List.mem_singleton.mp hparent
        exact h.acc_message (Request.enclosing_subset hmem List.mem_cons_self)

/-- Only files, types and services are asked. -/
theorem kind_of_isConsulted {asked entity : Sigma Entity} (h : model.IsConsulted asked entity) :
    asked.1 = .file ∨ asked.1 = .service ∨ asked.1 = .message ∨ asked.1 = .enum := by
  obtain ⟨kind, entity⟩ := entity
  revert asked
  cases kind <;> simp [Model.IsConsulted, Model.consulted, or_imp, forall_and]

/-- An enum asks no other enum. -/
theorem kind_of_isConsulted_enum {asked : Sigma Entity} {enum : Enum}
    (h : model.IsConsulted asked ⟨.enum, enum⟩) : asked.1 = .file ∨ asked.1 = .message := by
  revert asked
  simp [Model.IsConsulted, Model.consulted, or_imp, forall_and]

/-- No entity asks others without end: members ask types, types ask the messages around them, and
these ask their file. -/
theorem acc_of_has (h : Links request config model) {entity : Sigma Entity}
    (hentity : model.Has entity) : Acc model.IsConsulted entity := by
  have hmessage : ∀ {asked : Sigma Entity}, model.Has asked → asked.1 = .message →
      Acc model.IsConsulted asked := by
    rintro ⟨_, message⟩ hmessage ⟨⟩
    obtain ⟨declaration, hmem, rfl⟩ := h.exists_of_has hmessage
    exact h.acc_message hmem
  have henum : ∀ {asked : Sigma Entity}, model.Has asked → asked.1 = .enum →
      Acc model.IsConsulted asked := by
    rintro ⟨_, enum⟩ henum ⟨⟩
    refine ⟨_, fun asked hasked => ?_⟩
    have hhas := h.has_of_isConsulted henum hasked
    rcases kind_of_isConsulted_enum hasked with hkind | hkind
    · obtain ⟨_, file⟩ := asked
      cases hkind
      exact acc_file file
    · exact hmessage hhas hkind
  refine ⟨_, fun asked hasked => ?_⟩
  have hhas := h.has_of_isConsulted hentity hasked
  rcases kind_of_isConsulted hasked with hkind | hkind | hkind | hkind
  · obtain ⟨_, file⟩ := asked
    cases hkind
    exact acc_file file
  · obtain ⟨_, service⟩ := asked
    cases hkind
    exact acc_service service
  · exact hmessage hhas hkind
  · exact henum hhas hkind

/-! ### The set of an entity from those of the entities that it asks -/

/-- What is directly in a message stands in the file of the message. -/
theorem fileOf_parent (h : Links request config model) {kind : Kind} {entity : Entity kind}
    (hentity : model.Has ⟨kind, entity⟩) {parent : Message}
    (hparent : model.parentOf? ⟨kind, entity⟩ = some parent) :
    @Model.fileOf model .message parent = model.fileOf entity := by
  obtain ⟨declaration, hmem, rfl⟩ := h.exists_of_has hentity
  have henclosing := Request.enclosing_subset hmem
  rw [h.fileOf_entity hmem]
  cases declaration with
  | nested around | nestedEnum around =>
      have haround := henclosing List.mem_cons_self
      obtain rfl := Option.some.inj ((congrArg some (h.resolve_id haround)).symm.trans hparent)
      exact h.fileOf_entity haround
  | _ => cases hparent

/-- A type has itself, its file and what the message directly around it has. -/
theorem mem_typeScope_iff (h : Links request config model) {kind : Kind} {entity : Entity kind}
    (hentity : model.Has ⟨kind, entity⟩) {inside : Sigma Entity} :
    inside ∈ model.typeScope kind entity ↔
      inside = ⟨kind, entity⟩ ∨ inside = ⟨.file, model.fileOf entity⟩ ∨
        ∃ parent, model.parentOf? ⟨kind, entity⟩ = some parent ∧
          inside ∈ model.typeScope .message parent := by
  simp only [Model.typeScope, Set.mem_union, Set.mem_insert_iff, Set.mem_singleton_iff,
    Set.mem_ofPred_eq]
  constructor
  · rintro ((hself | hfile) | ⟨outer, houter, rfl⟩)
    · exact .inl hself
    · exact .inr (.inl hfile)
    · obtain ⟨parent, hparent, heq | hinner⟩ := Model.encloses_iff.mp houter
      · exact .inr (.inr ⟨parent, hparent, .inl (.inl (heq ▸ rfl))⟩)
      · exact .inr (.inr ⟨parent, hparent, .inr ⟨outer, hinner, rfl⟩⟩)
  · rintro (hself | hfile | ⟨parent, hparent, (heq | hfile) | ⟨outer, houter, rfl⟩⟩)
    · exact .inl (.inl hself)
    · exact .inl (.inr hfile)
    · exact .inr ⟨parent, .directly hparent, heq⟩
    · rw [h.fileOf_parent hentity hparent] at hfile
      exact .inl (.inr hfile)
    · exact .inr ⟨outer, .around hparent houter, rfl⟩

/-- An entity that is no oneof has itself, and every entity has what those that it asks have. -/
theorem mem_scope_iff (h : Links request config model) {kind : Kind} {entity : Entity kind}
    (hentity : model.Has ⟨kind, entity⟩) {inside : Sigma Entity} :
    inside ∈ model.scope kind entity ↔
      (kind ≠ .oneof ∧ inside = ⟨kind, entity⟩) ∨
        ∃ asked, model.IsConsulted asked ⟨kind, entity⟩ ∧ inside ∈ model.scope asked.1 asked.2 := by
  cases kind with
  | message | enum =>
      -- The files are those of the type and of its parent, and they are the same.
      simp only [Model.scope, h.mem_typeScope_iff hentity]
      simp [Model.IsConsulted, Model.consulted, Model.parentOf?, Model.fileOf]
  | service => simp [Model.scope, Model.serviceScope, Model.IsConsulted, Model.consulted]
  | file | field | oneof | enumValue | method =>
      simp [Model.scope, Model.IsConsulted, Model.consulted, or_and_right, exists_or, or_assoc]

/-- A property that an entity has just if one that it asks has it, or if the entity is no oneof and
tells so itself, is decided by what the scope of the entity tells. -/
theorem iff_exists_mem_scope (h : Links request config model) (holds tells : Sigma Entity → Prop)
    (hstep : ∀ {entity : Sigma Entity}, model.Has entity →
      (holds entity ↔ (∃ asked, model.IsConsulted asked entity ∧ holds asked) ∨
        (entity.1 ≠ .oneof ∧ tells entity)))
    {entity : Sigma Entity} (hentity : model.Has entity) :
    holds entity ↔ ∃ inside ∈ model.scope entity.1 entity.2, tells inside := by
  -- Along the entities that are asked; their answers are about their own scopes.
  induction h.acc_of_has hentity with
  | intro entity _ ih =>
      have hasked : ∀ asked, model.IsConsulted asked entity →
          (holds asked ↔ ∃ inside ∈ model.scope asked.1 asked.2, tells inside) :=
        fun asked hconsulted => ih asked hconsulted (h.has_of_isConsulted hentity hconsulted)
      rw [hstep hentity]
      constructor
      · rintro (⟨asked, hconsulted, hholds⟩ | ⟨hkind, hself⟩)
        · obtain ⟨inside, hin, htells⟩ := (hasked asked hconsulted).mp hholds
          exact ⟨inside, (h.mem_scope_iff hentity).mpr (.inr ⟨asked, hconsulted, hin⟩), htells⟩
        · exact ⟨entity, (h.mem_scope_iff hentity).mpr (.inl ⟨hkind, rfl⟩), hself⟩
      · rintro ⟨inside, hinside, htells⟩
        rcases (h.mem_scope_iff hentity).mp hinside with ⟨hkind, rfl⟩ | ⟨asked, hconsulted, hin⟩
        · exact .inr ⟨hkind, htells⟩
        · exact .inl ⟨asked, hconsulted, (hasked asked hconsulted).mpr ⟨inside, hin, htells⟩⟩

/-- An entity is visible if everything in its scope is public. -/
theorem isVisible_iff (h : Links request config model) {entity : Sigma Entity}
    (hentity : model.Has entity) :
    model.isVisible entity.2 = true ↔
      ∀ inside ∈ model.scope entity.1 entity.2, Entity.IsPublic inside := by
  -- What is found in the scope of a hidden entity is something that is not public.
  have hhidden : ¬ model.isVisible entity.2 = true ↔
      ∃ inside ∈ model.scope entity.1 entity.2, ¬ Entity.IsPublic inside := by
    refine h.iff_exists_mem_scope (fun entity => ¬ model.isVisible entity.2 = true)
      (fun inside => ¬ Entity.IsPublic inside) (fun {entity} hentity => ?_) hentity
    rw [h.isVisible_eq hentity, Bool.and_eq_true, List.all_eq_true, Entity.all_isPublic_iff,
      not_and_or]
    simp [Model.IsConsulted]
  rw [← not_iff_not, hhidden]
  simp

/-- By the rule of ancestors an entity is deprecated if something in its scope says so. -/
theorem isDeprecated_iff (h : Links request config model)
    (hrule : model.config.enumDeprecation = .ancestors) {entity : Sigma Entity}
    (hentity : model.Has entity) :
    model.isDeprecated entity.2 = true ↔
      ∃ inside ∈ model.scope entity.1 entity.2, Entity.SaysDeprecated inside := by
  refine h.iff_exists_mem_scope (fun entity => model.isDeprecated entity.2 = true)
    Entity.SaysDeprecated (fun {entity} hentity => ?_) hentity
  rw [h.isDeprecated_eq hrule hentity, Bool.or_eq_true, List.any_eq_true, Bool.and_eq_true,
    decide_eq_true_iff, Options.deprecated_iff]
  exact Iff.rfl

end Links

/-- In every model visibility and deprecation are decided by one and the same scope, and asking for
them comes to an end. -/
theorem Model.followsScopes_of_ok {request : Request} {config : Config} {model : Model}
    (h : (Model.ofRequest request config).outcome = .ok model) : model.FollowsScopes := by
  have hlinks := Model.links_of_ok h
  exact {
    visible := fun hentity => hlinks.isVisible_iff hentity
    deprecated := fun hrule _ _ hentity => hlinks.isDeprecated_iff hrule hentity
    visible_eq := fun hentity => hlinks.isVisible_eq hentity
    deprecated_eq := fun hrule _ _ hentity => hlinks.isDeprecated_eq hrule hentity
    terminates := fun hentity => hlinks.acc_of_has hentity }

/-- A file with messages that refer to themselves and to each other, one of them deprecated. -/
def circularFile : FileDescriptor where
  name := "tree.proto"
  package := "tree"
  messages := [
    { name := "Node"
      fields := [
        { name := "next", number := 1, type := .message, typeName := some ".tree.Node" },
        { name := "leaf", number := 2, type := .message, typeName := some ".tree.Leaf" }] },
    { name := "Leaf"
      fields := [{ name := "root", number := 1, type := .message, typeName := some ".tree.Node" }]
      options := Options.empty.set "deprecated" (.bool true) }]

/-- A request of that file. -/
def circularRequest : Request where
  files := [circularFile]

/-- Of the fields of the circular messages all are deprecated that touch the deprecated message. -/
theorem Model.followsScopes_circularRequest :
    ∃ model, (Model.ofRequest circularRequest {}).outcome = .ok model ∧ model.FollowsScopes ∧
      (model.all .field).map (fun field => (field.id.text, model.isDeprecated field)) =
        [(".tree.Node:next", false), (".tree.Node:leaf", true), (".tree.Leaf:root", true)] := by
  obtain ⟨model, hmodel, -⟩ :=
    @Model.exists_ofRequest_eq_ok circularRequest {} (by decide +kernel)
  refine ⟨model, hmodel, Model.followsScopes_of_ok hmodel, ?_⟩
  have hfields : (Model.ofRequest circularRequest {}).outcome.toOption.map (fun model =>
      (model.all .field).map fun field => (field.id.text, model.isDeprecated field)) =
        some [(".tree.Node:next", false), (".tree.Node:leaf", true), (".tree.Leaf:root", true)] := by
    decide +kernel
  rw [hmodel] at hfields
  exact Option.some.inj hfields

end LinkedSchema
