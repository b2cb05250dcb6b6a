import LinkedSchema.Proofs.Listing
import Mathlib.Data.List.Perm.Subperm
import Mathlib.Logic.Relation

/-!
# Containment

The declarations of a model form a forest with the files as its roots, and the references between
entities are faithful to it. Navigation only ever follows references to what is registered.

* `Entity.members`, `Entity.references` — the identifiers that an entity keeps;
* `Model.Leads` — one step of navigation;
* `Model.Owns` — one entity is declared directly in another;
* `Model.Contained`, `Model.contained_of_ok` — what holds of these in every model.
-/

namespace LinkedSchema

namespace Entity

/-- The reference to an entity. -/
def reference {kind : Kind} (entity : Entity kind) : Reference :=
  ⟨kind, entity.id⟩

/-- What an entity keeps of the declarations directly in it, by the kind that is looked for. -/
def members : {kind : Kind} → Entity kind → (child : Kind) → List (Ident child)
  | .file, file, .message => File.messages file
  | .file, file, .enum => File.enums file
  | .file, file, .service => File.services file
  | .message, message, .field => Message.fields message
  | .message, message, .message => Message.messages message
  | .message, message, .enum => Message.enums message
  | .message, message, .oneof => Message.oneofs message
  | .enum, enum, .enumValue => Enum.values enum
  | .service, service, .method => Service.methods service
  | _, _, _ => []

/-- All references of an entity to declarations that have to be part of the request. The type of a
field is not among them. -/
def references : {kind : Kind} → Entity kind → List Reference
  | .file, file =>
      (File.messages file).map (.mk .message) ++ (File.enums file).map (.mk .enum) ++
        (File.services file).map (.mk .service)
  | .message, message =>
      ⟨.file, Message.file message⟩ :: ((Message.enclosing message).map (.mk .message) ++
        (Message.fields message).map (.mk .field) ++
        (Message.messages message).map (.mk .message) ++
        (Message.enums message).map (.mk .enum) ++ (Message.oneofs message).map (.mk .oneof))
  | .field, field =>
      ⟨.message, Field.parent field⟩ :: (Field.oneof field).toList.map (.mk .oneof)
  | .oneof, oneof =>
      ⟨.message, Oneof.parent oneof⟩ :: (Oneof.fields oneof).map (.mk .field)
  | .enum, enum =>
      ⟨.file, Enum.file enum⟩ :: ((Enum.parent enum).toList.map (.mk .message) ++
        (Enum.values enum).map (.mk .enumValue))
  | .enumValue, value => [⟨.enum, EnumValue.parent value⟩]
  | .service, service =>
      ⟨.file, Service.file service⟩ :: (Service.methods service).map (.mk .method)
  | .method, method =>
      [⟨.service, Method.parent method⟩, ⟨.message, Method.input method⟩,
        ⟨.message, Method.output method⟩]

end Entity

namespace Model

/-- The entity is registered, as it is. -/
def Has (model : Model) (entity : Sigma Entity) : Prop :=
  entity.2 ∈ (model.registry.arena entity.1).toList

/-- Something is registered under a reference. -/
def Registers (model : Model) (reference : Reference) : Prop :=
  (model.registry.arena reference.kind).contains reference.id = true

/-- One step of navigation leads from an entity to another. -/
inductive Leads (model : Model) : Sigma Entity → Sigma Entity → Prop
  | file {kind : Kind} (entity : Entity kind) :
      Leads model ⟨kind, entity⟩ ⟨.file, model.fileOf entity⟩
  | enclosing (message around : Message) (h : around ∈ model.enclosingMessages message) :
      Leads model ⟨.message, message⟩ ⟨.message, around⟩
  | parent (message parent : Message) (h : model.parentMessage? message = some parent) :
      Leads model ⟨.message, message⟩ ⟨.message, parent⟩
  | root (message : Message) : Leads model ⟨.message, message⟩ ⟨.message, model.root message⟩
  | enumParent (enum : Enum) (parent : Message) (h : model.enumParent? enum = some parent) :
      Leads model ⟨.enum, enum⟩ ⟨.message, parent⟩
  | fieldParent (field : Field) :
      Leads model ⟨.field, field⟩ ⟨.message, model.fieldParent field⟩
  | oneofParent (oneof : Oneof) :
      Leads model ⟨.oneof, oneof⟩ ⟨.message, model.oneofParent oneof⟩
  | valueParent (value : EnumValue) :
      Leads model ⟨.enumValue, value⟩ ⟨.enum, model.valueParent value⟩
  | methodParent (method : Method) :
      Leads model ⟨.method, method⟩ ⟨.service, model.methodParent method⟩
  | oneof (field : Field) (oneof : Oneof) (h : model.oneofOf? field = some oneof) :
      Leads model ⟨.field, field⟩ ⟨.oneof, oneof⟩
  | typeMessage (field : Field) (message : Message) (h : model.typeMessage? field = some message) :
      Leads model ⟨.field, field⟩ ⟨.message, message⟩
  | typeEnum (field : Field) (enum : Enum) (h : model.typeEnum? field = some enum) :
      Leads model ⟨.field, field⟩ ⟨.enum, enum⟩
  | input (method : Method) : Leads model ⟨.method, method⟩ ⟨.message, model.inputOf method⟩
  | output (method : Method) : Leads model ⟨.method, method⟩ ⟨.message, model.outputOf method⟩
  | child {kind child : Kind} (entity : Entity kind) (member : Entity child)
      (h : member ∈ model.children entity child) : Leads model ⟨kind, entity⟩ ⟨child, member⟩

/-- A registered entity is the one that another says it is declared in. -/
def Owns (model : Model) (owner member : Sigma Entity) : Prop :=
  model.Has owner ∧ member.2.owner? = some owner.2.reference

/-- What holds of the references between the entities of a model. -/
structure Contained (model : Model) : Prop where
  /-- Whatever navigation reaches from a registered entity is registered, and so is everything that
  it refers to. -/
  closed : ∀ {entity reached : Sigma Entity}, model.Has entity →
    Relation.ReflTransGen model.Leads entity reached →
      model.Has reached ∧ ∀ reference ∈ reached.2.references, model.Registers reference
  /-- Everything but files is declared in something. -/
  owned : ∀ {entity : Sigma Entity}, model.Has entity → entity.1 ≠ .file →
    ∃ owner, model.Owns owner entity
  /-- An entity occurs once among the members of its owner, and nowhere else. -/
  once : ∀ {owner entity : Sigma Entity}, model.Has owner → model.Has entity →
    (owner.2.members entity.1).count entity.2.id =
      if entity.2.owner? = some owner.2.reference then 1 else 0
  /-- An entity stands in the same file as its owner. -/
  sameFile : ∀ {owner entity : Sigma Entity}, model.Has entity → model.Owns owner entity →
    model.fileOf entity.2 = model.fileOf owner.2
  /-- Going from owner to owner ends at the file of an entity. -/
  rooted : ∀ {entity : Sigma Entity}, model.Has entity →
    Relation.ReflTransGen model.Owns ⟨.file, model.fileOf entity.2⟩ entity
  /-- What is listed below an entity is the part of the listing of the model that it owns. -/
  children : ∀ {owner : Sigma Entity} (child : Kind), model.Has owner → owner.1 ≠ .oneof →
    model.children owner.2 child =
      (model.all child).filter fun member => member.owner? = some owner.2.reference
  /-- A oneof owns no fields; it lists those that name it, each once. -/
  oneofFields : ∀ {oneof : Oneof}, model.Has ⟨.oneof, oneof⟩ →
    (model.oneofFields oneof =
      (model.all .field).filter fun field : Field => field.oneof = some oneof.id) ∧
    ∀ {field : Field}, model.Has ⟨.field, field⟩ →
      oneof.fields.count field.id = if field.oneof = some oneof.id then 1 else 0

end Model

/-! ## References of the entity of a declaration -/

namespace Declaration

variable (extensions : ExtensionNames) (filesToGenerate : List String)

/-- An entity keeps the identifiers of what is declared directly in its declaration, in order. -/
theorem members_entity {kind : Kind} (declaration : Declaration kind) (child : Kind) :
    (declaration.entity extensions filesToGenerate).members child =
      (declaration.members child).map Declaration.id := by
  cases kind <;> cases child <;> try exact rfl
  case file.message | file.enum | file.service =>
    cases declaration with
    | file file =>
        refine Eq.symm (map_map_zipIdx _ fun descriptor position => ?_)
        exact congrArg Ident.mk (qualifiedName_eq file descriptor.name).symm
  case message.message | message.enum | message.field | message.oneof =>
    dsimp only [entity, entityWith, Entity.members, Message.ofDescriptor, FileDescriptor.scope]
    rw [declaration.ofType_message]
    exact Eq.symm (map_map_zipIdx _ fun descriptor position => rfl)
  case enum.enumValue =>
    dsimp only [entity, entityWith, Entity.members, Enum.ofDescriptor, FileDescriptor.scope]
    rw [declaration.ofType_enum]
    exact Eq.symm (map_map_zipIdx _ fun descriptor position => rfl)
  case service.method =>
    dsimp only [entity, entityWith, Entity.members, Service.ofDescriptor, FileDescriptor.scope]
    rw [declaration.ofType_service]
    exact Eq.symm (map_map_zipIdx _ fun descriptor position => rfl)

/-- The fields of its message that name a oneof. -/
def fieldsOf : Declaration .oneof → List (Declaration .field)
  | .oneof around position _ => around.fields.filter (·.oneofIndex == some (position : Int))

/-- A oneof keeps the identifiers of the fields that name it, in order. -/
theorem fields_oneof_entity (oneof : Declaration .oneof) :
    Oneof.fields (oneof.entity extensions filesToGenerate) =
      oneof.fieldsOf.map Declaration.id := by
  cases oneof with
  | oneof around position descriptor =>
      show (around.descriptor.fields.filter (·.oneofIndex == some (position : Int))).map
        (around.id.member ·.name) = _
      rw [← List.zipIdx_map_fst 0 around.descriptor.fields, List.filter_map, List.map_map,
        fieldsOf, fields, List.filter_map, List.map_map]
      rfl

theorem atIndex?_eq_some_iff {α : Type} {items : List α} {index : Int} {item : α} :
    atIndex? items index = some item ↔
      ∃ position : Nat, index = position ∧ items[position]? = some item := by
  unfold atIndex?
  constructor
  · intro h
    split at h
    case isTrue hindex => exact ⟨index.toNat, by omega, h⟩
    case isFalse => cases h
  · intro hall
    obtain ⟨position, rfl, h⟩ := hall
    rwa [if_pos (by omega), Int.toNat_natCast]

theorem getElem?_oneofs {around : Declaration .message} {position : Nat} :
    around.oneofs[position]? =
      around.descriptor.oneofs[position]?.map (.oneof around position) := by
  rw [oneofs, List.getElem?_map, List.getElem?_zipIdx, Option.map_map, Nat.zero_add]
  rfl

/-- The oneof of a field is the one of its message that the field names. -/
theorem oneofId?_eq_some_iff {around : Declaration .message} {field : Declaration .field}
    (h : field ∈ around.fields) {id : Ident .oneof} :
    field.oneofId? = some id ↔
      ∃ oneof ∈ around.oneofs, field ∈ oneof.fieldsOf ∧ oneof.id = id := by
  obtain ⟨⟨descriptor, place⟩, -, rfl⟩ := List.mem_map.mp h
  rw [oneofId?, Option.bind_eq_some_iff]
  constructor
  · intro hall
    obtain ⟨index, hindex, hid⟩ := hall
    obtain ⟨position, rfl, hposition⟩ := atIndex?_eq_some_iff.mp hid
    rw [List.getElem?_map, getElem?_oneofs, Option.map_map, Option.map_eq_some_iff] at hposition
    obtain ⟨oneof, honeof, rfl⟩ := hposition
    have hmem : Declaration.oneof around position oneof ∈ around.oneofs :=
      List.mem_of_getElem? (by rw [getElem?_oneofs, honeof, Option.map_some])
    refine ⟨_, hmem, List.mem_filter.mpr ⟨h, ?_⟩, rfl⟩
    exact beq_iff_eq.mpr hindex
  · intro hall
    obtain ⟨oneof, honeof, hfield, rfl⟩ := hall
    obtain ⟨position, hposition⟩ := List.mem_iff_getElem?.mp honeof
    have hat := hposition
    rw [getElem?_oneofs, Option.map_eq_some_iff] at hposition
    obtain ⟨found, -, rfl⟩ := hposition
    refine ⟨position, beq_iff_eq.mp (List.mem_filter.mp hfield).2, ?_⟩
    rw [atIndex?_eq_some_iff]
    exact ⟨position, rfl, by rw [List.getElem?_map, hat, Option.map_some]⟩

end Declaration

/-! ## Registered references -/

namespace Links

variable {request : Request} {config : Config} {model : Model} {kind : Kind}

/-- The entity of a declaration is registered. -/
theorem has_entity (h : Links request config model) {declaration : Declaration kind}
    (hmem : declaration ∈ request.declarations kind) :
    model.Has ⟨kind, request.entity config declaration⟩ := by
  rw [Model.Has, h.toList_eq]
  exact List.mem_map_of_mem hmem

/-- The declarations of a request can be referred to. -/
theorem registers_id (h : Links request config model) {declaration : Declaration kind}
    (hmem : declaration ∈ request.declarations kind) :
    model.Registers ⟨kind, declaration.id⟩ := by
  rw [Model.Registers, Arena.contains_eq_isSome_get?, h.get?_id hmem, Option.isSome_some]

/-- What a lookup finds is registered. -/
theorem has_of_get? (h : Links request config model) {id : Ident kind} {entity : Entity kind}
    (hentity : (model.registry.arena kind).get? id = some entity) :
    model.Has ⟨kind, entity⟩ := by
  obtain ⟨declaration, hmem, -, rfl⟩ := (h.get?_iff id entity).mp hentity
  exact h.has_entity hmem

/-- A reference to something registered leads there. -/
theorem has_resolve (h : Links request config model) {id : Ident kind}
    (hid : model.Registers ⟨kind, id⟩) : model.Has ⟨kind, model.resolve id⟩ := by
  rw [Model.Registers, Arena.contains_eq_isSome_get?, Option.isSome_iff_exists] at hid
  obtain ⟨entity, hentity⟩ := hid
  rw [Model.resolve, Arena.resolve, hentity]
  exact h.has_of_get? hentity

/-- The types of a method are messages of the request. -/
theorem exists_message_of_method (h : Links request config model) {method : Declaration .method}
    (hmem : method ∈ request.declarations .method) (role : Role) :
    ∃ message ∈ request.declarations .message, message.id = ⟨method.typeName role⟩ := by
  obtain ⟨file, hfile, hmethod⟩ := Request.mem_declarations.mp hmem
  obtain ⟨position, hposition⟩ := List.mem_iff_getElem?.mp hfile
  obtain ⟨message, hmessage, htext⟩ :=
    h.consistent.methodType position file hposition method hmethod role
  obtain ⟨source, hsource, hdeclared⟩ := List.mem_flatMap.mp hmessage
  exact ⟨message, Request.mem_declarations.mpr ⟨source, List.mem_of_mem_take hsource, hdeclared⟩,
    congrArg Ident.mk htext⟩

/-- All references of the entity of a declaration are to something registered. -/
theorem registers_references (h : Links request config model) {declaration : Declaration kind}
    (hmem : declaration ∈ request.declarations kind) :
    ∀ reference ∈ (request.entity config declaration).references, model.Registers reference := by
  have hmembers : ∀ child, ∀ id ∈ (request.entity config declaration).members child,
      model.Registers ⟨child, id⟩ := by
    intro child id hid
    rw [Declaration.members_entity] at hid
    obtain ⟨member, hmember, rfl⟩ := List.mem_map.mp hid
    exact h.registers_id ((Request.members_sublist hmem child).subset hmember)
  have hfile := h.registers_id (Request.file_source_mem hmem)
  have henclosing : ∀ id ∈ declaration.enclosing.map Declaration.id,
      model.Registers ⟨.message, id⟩ := by
    rw [List.forall_mem_map]
    exact fun message hmessage => h.registers_id (Request.enclosing_subset hmem hmessage)
  cases kind with
  | file =>
      simp only [Entity.references, List.forall_mem_append, List.forall_mem_map]
      exact ⟨⟨hmembers .message, hmembers .enum⟩, hmembers .service⟩
  | message =>
      simp only [Entity.references, List.forall_mem_append, List.forall_mem_map,
        List.forall_mem_cons]
      exact ⟨hfile, ⟨⟨⟨henclosing, hmembers .field⟩, hmembers .message⟩, hmembers .enum⟩,
        hmembers .oneof⟩
  | field =>
      cases declaration with
      | field around position descriptor =>
          have haround := Request.mem_members_of_around? hmem rfl
          simp only [Entity.references, List.forall_mem_map, List.forall_mem_cons]
          refine ⟨h.registers_id haround.1, fun id hid => ?_⟩
          obtain ⟨oneof, honeof, -, rfl⟩ :=
            (Declaration.oneofId?_eq_some_iff haround.2).mp (Option.mem_toList.mp hid)
          exact h.registers_id ((Request.members_sublist haround.1 .oneof).subset honeof)
  | oneof =>
      have hfields := declaration.fields_oneof_entity config.extensions request.filesToGenerate
      cases declaration with
      | oneof around position descriptor =>
          have haround := (Request.mem_members_of_around? hmem rfl).1
          simp only [Entity.references, List.forall_mem_map, List.forall_mem_cons, hfields]
          refine ⟨h.registers_id haround, fun field hfield => ?_⟩
          exact h.registers_id ((Request.members_sublist haround .field).subset
            (List.mem_of_mem_filter hfield))
  | enum =>
      simp only [Entity.references, List.forall_mem_append, List.forall_mem_map,
        List.forall_mem_cons]
      refine ⟨hfile, fun id hid => henclosing id ?_, hmembers .enumValue⟩
      have hhead : declaration.enclosing.head?.map Declaration.id = some id :=
        Option.mem_toList.mp hid
      rw [← List.head?_map] at hhead
      exact List.mem_of_head? hhead
  | enumValue =>
      cases declaration with
      | enumValue around position descriptor =>
          simp only [Entity.references, List.forall_mem_cons]
          exact ⟨h.registers_id (Request.mem_members_of_around? hmem rfl).1, nofun⟩
  | service =>
      simp only [Entity.references, List.forall_mem_map, List.forall_mem_cons]
      exact ⟨hfile, hmembers .method⟩
  | method =>
      have htype : ∀ role, model.Registers ⟨.message, ⟨declaration.typeName role⟩⟩ := by
        intro role
        obtain ⟨message, hmessage, hid⟩ := h.exists_message_of_method hmem role
        exact hid ▸ h.registers_id hmessage
      cases declaration with
      | method around position descriptor =>
          simp only [Entity.references, List.forall_mem_cons]
          exact ⟨h.registers_id (Request.mem_members_of_around? hmem rfl).1, htype .input,
            htype .output, nofun⟩

/-- Every registered entity is the one of a declaration of the request. -/
theorem exists_of_has (h : Links request config model) {entity : Entity kind}
    (hentity : model.Has ⟨kind, entity⟩) :
    ∃ declaration ∈ request.declarations kind, request.entity config declaration = entity := by
  rw [Model.Has, h.toList_eq] at hentity
  exact List.mem_map.mp hentity

end Links

/-! ## Navigation -/

/-- Apart from the fields of a oneof, what is listed below an entity are its members. -/
theorem Model.children_eq (model : Model) {kind : Kind} (hkind : kind ≠ .oneof)
    (entity : Entity kind) (child : Kind) :
    model.children entity child = model.resolveListed (entity.members child) := by
  cases kind <;> cases child <;> first | rfl | exact absurd rfl hkind

/-- The members of an entity are among its references. -/
theorem Entity.mem_references_of_mem_members {kind child : Kind} {entity : Entity kind}
    {id : Ident child} (h : id ∈ entity.members child) : ⟨child, id⟩ ∈ entity.references := by
  cases kind <;> cases child <;> first | exact absurd h List.not_mem_nil | skip
  all_goals
    have hmem := List.mem_map_of_mem (f := Reference.mk _) h
    simp only [Entity.references, List.mem_cons, List.mem_append]
    simp only [Entity.members] at hmem
    simp [hmem]

namespace Links

variable {request : Request} {config : Config} {model : Model}

/-- Navigation leads from registered entities to registered ones. -/
theorem has_of_leads (h : Links request config model) {entity next : Sigma Entity}
    (hentity : model.Has entity) (hleads : model.Leads entity next) : model.Has next := by
  obtain ⟨declaration, hmem, heq⟩ := h.exists_of_has hentity
  -- Each step but that to the type of a field follows one of the references of the entity.
  have hregisters : ∀ reference ∈ entity.2.references, model.Registers reference := by
    rw [← heq]
    exact h.registers_references hmem
  have hlisted : ∀ {kind : Kind} {ids : List (Ident kind)} {member : Entity kind},
      member ∈ model.resolveListed ids → (∀ id ∈ ids, ⟨kind, id⟩ ∈ entity.2.references) →
        model.Has ⟨kind, member⟩ := by
    intro kind ids member hmember hids
    obtain ⟨id, hid, rfl⟩ := List.mem_map.mp (List.mem_of_mem_filter hmember)
    exact h.has_resolve (hregisters _ (hids id hid))
  have henclosing : ∀ {message around : Message}, entity = ⟨.message, message⟩ →
      around ∈ model.enclosingMessages message → model.Has ⟨.message, around⟩ := by
    rintro message around rfl haround
    obtain ⟨id, hid, rfl⟩ := List.mem_map.mp haround
    exact h.has_resolve (hregisters _ (by simp [Entity.references, hid]))
  cases hleads with
  | file entity =>
      rw [show entity = _ from heq.symm, h.fileOf_entity hmem]
      exact h.has_entity (Request.file_source_mem hmem)
  | enclosing message around haround => exact henclosing rfl haround
  | parent message parent hparent =>
      refine henclosing rfl (List.mem_of_head? ?_)
      rw [Model.enclosingMessages, List.head?_map]
      exact hparent
  | root message =>
      cases hlast : (model.enclosingMessages message).getLast? with
      | none =>
          rw [Model.root, List.getLastD_eq_getLast?, hlast]
          exact hentity
      | some outermost =>
          rw [Model.root, List.getLastD_eq_getLast?, hlast]
          exact henclosing rfl (List.mem_of_getLast? hlast)
  | enumParent enum parent hparent =>
      obtain ⟨id, hid, rfl⟩ := Option.map_eq_some_iff.mp hparent
      exact h.has_resolve (hregisters _ (by simp [Entity.references, hid]))
  | fieldParent | oneofParent | valueParent | methodParent =>
      exact h.has_resolve (hregisters _ List.mem_cons_self)
  | oneof field oneof honeof =>
      obtain ⟨id, hid, rfl⟩ := Option.map_eq_some_iff.mp honeof
      exact h.has_resolve (hregisters _ (by simp [Entity.references, hid]))
  | typeMessage field message hmessage =>
      cases htype : field.typeRef with
      | message id =>
          rw [Model.typeMessage?, htype] at hmessage
          exact h.has_of_get? hmessage
      | scalar | enum id => simp [Model.typeMessage?, htype] at hmessage
  | typeEnum field enum henum =>
      cases htype : field.typeRef with
      | enum id =>
          rw [Model.typeEnum?, htype] at henum
          exact h.has_of_get? henum
      | scalar | message id => simp [Model.typeEnum?, htype] at henum
  | input | output => exact h.has_resolve (hregisters _ (by simp [Entity.references]))
  | @child kind child entity member hmember =>
      by_cases hkind : kind = .oneof
      · subst hkind
        cases child <;> first | exact absurd hmember List.not_mem_nil | skip
        exact hlisted hmember fun id hid => by simp [Entity.references, hid]
      · rw [model.children_eq hkind] at hmember
        exact hlisted hmember fun id hid => Entity.mem_references_of_mem_members hid

end Links

/-! ## Owners -/

/-- A part of a list without repetitions, in the order of the list, is what a filter keeps that
accepts just its elements. -/
theorem filter_eq_of_sublist {α : Type} {items part : List α} {accept : α → Bool}
    (hpart : part.Sublist items) (hitems : items.Nodup)
    (haccept : ∀ item ∈ items, accept item = true ↔ item ∈ part) : items.filter accept = part := by
  -- The part is kept whole, and what is kept is no longer than the part.
  have hkept : part.filter accept = part :=
    List.filter_eq_self.mpr fun item hitem => (haccept item (hpart.subset hitem)).mpr hitem
  have hsub : part.Sublist (items.filter accept) := hkept ▸ hpart.filter accept
  have hsubset : items.filter accept ⊆ part := by
    intro item hitem
    obtain ⟨hmem, haccepted⟩ := List.mem_filter.mp hitem
    exact (haccept item hmem).mp haccepted
  have hlength := (List.Nodup.subperm (hitems.filter accept) hsubset).length_le
  exact (hsub.eq_of_length_le hlength).symm

namespace Links

variable {request : Request} {config : Config} {model : Model} {kind outer : Kind}

/-- A declaration is a member of just the declaration that its entity refers to as its owner. -/
theorem mem_members_iff (h : Links request config model) {owner : Declaration outer}
    {declaration : Declaration kind} (howner : owner ∈ request.declarations outer)
    (hmem : declaration ∈ request.declarations kind) :
    declaration ∈ owner.members kind ↔
      (request.entity config declaration).owner? =
        some (request.entity config owner).reference := by
  rw [Declaration.owner?_entity, Entity.reference, Declaration.id_entity,
    Option.map_eq_some_iff]
  constructor
  · intro hmember
    exact ⟨_, Declaration.around?_of_mem_members hmember, rfl⟩
  · intro hall
    obtain ⟨⟨other, around⟩, haround, hsame⟩ := hall
    obtain ⟨hmemAround, hmember⟩ := Request.mem_members_of_around? hmem haround
    obtain ⟨rfl, hid⟩ := Reference.mk.inj hsame
    obtain rfl := h.eq_of_id_eq hmemAround howner (eq_of_heq hid)
    exact hmember

/-- Among the identifiers of some declarations of a request, in order, that of a declaration occurs
once if the declaration is one of them, and else not at all. -/
theorem count_id (h : Links request config model) {part : List (Declaration kind)}
    {declaration : Declaration kind} (hpart : part.Sublist (request.declarations kind))
    (hmem : declaration ∈ request.declarations kind) {accepted : Prop} [Decidable accepted]
    (haccepted : declaration ∈ part ↔ accepted) :
    (part.map Declaration.id).count declaration.id = if accepted then 1 else 0 := by
  have hnodup : (part.map Declaration.id).Nodup :=
    (hpart.map Declaration.id).nodup (h.consistent.distinct kind)
  have hid : declaration.id ∈ part.map Declaration.id ↔ accepted := by
    rw [← haccepted]
    constructor
    · intro hmap
      obtain ⟨other, hother, heq⟩ := List.mem_map.mp hmap
      exact h.eq_of_id_eq (hpart.subset hother) hmem heq ▸ hother
    · exact List.mem_map_of_mem
  rw [hnodup.count]
  simp only [hid]

/-- References to some declarations of a request, in order, lead to what a filter keeps of the
listing that accepts just their entities. -/
theorem resolveListed_eq_filter (h : Links request config model) {part : List (Declaration kind)}
    {accept : Entity kind → Bool} (hpart : part.Sublist (request.declarations kind))
    (haccept : ∀ declaration ∈ request.declarations kind,
      accept (request.entity config declaration) = true ↔ declaration ∈ part) :
    model.resolveListed (part.map Declaration.id) = (model.all kind).filter accept := by
  have hnodup : (request.declarations kind).Nodup := (h.consistent.distinct kind).of_map _
  have hkept : (request.declarations kind).filter (accept ∘ request.entity config) = part :=
    filter_eq_of_sublist hpart hnodup haccept
  rw [Model.resolveListed, h.map_resolve_id hpart.subset, Model.all, h.toList_eq,
    List.filter_filter]
  rw [← hkept, ← List.filter_map, List.filter_filter]
  simp only [Bool.and_comm]

/-- A oneof is named by just the fields that say so. -/
theorem mem_fieldsOf_iff (h : Links request config model) {oneof : Declaration .oneof}
    {field : Declaration .field} (honeof : oneof ∈ request.declarations .oneof)
    (hfield : field ∈ request.declarations .field) :
    field ∈ oneof.fieldsOf ↔ field.oneofId? = some oneof.id := by
  cases oneof with
  | oneof around position descriptor =>
      obtain ⟨haround, hmember⟩ := Request.mem_members_of_around? honeof rfl
      constructor
      · intro hmem
        rw [Declaration.oneofId?_eq_some_iff (List.mem_of_mem_filter hmem)]
        exact ⟨_, hmember, hmem, rfl⟩
      · intro hid
        cases field with
        | field other place fieldDescriptor =>
            obtain ⟨hother, hfields⟩ := Request.mem_members_of_around? hfield rfl
            obtain ⟨found, hfound, hmem, hsame⟩ :=
              (Declaration.oneofId?_eq_some_iff hfields).mp hid
            have hdeclared := (Request.members_sublist hother .oneof).subset hfound
            exact h.eq_of_id_eq hdeclared honeof hsame ▸ hmem

theorem fieldsOf_sublist {oneof : Declaration .oneof}
    (honeof : oneof ∈ request.declarations .oneof) :
    oneof.fieldsOf.Sublist (request.declarations .field) := by
  cases oneof with
  | oneof around position descriptor =>
      obtain ⟨haround, -⟩ := Request.mem_members_of_around? honeof rfl
      exact List.filter_sublist.trans (Request.members_sublist haround .field)

/-- A oneof lists just the fields that refer to it. -/
theorem oneofFields_eq (h : Links request config model) {oneof : Declaration .oneof}
    (honeof : oneof ∈ request.declarations .oneof) :
    model.oneofFields (request.entity config oneof) =
      (model.all .field).filter fun field : Field =>
        field.oneof = some (Oneof.id (request.entity config oneof)) := by
  have hid : Oneof.id (request.entity config oneof) = oneof.id :=
    oneof.id_entity config.extensions request.filesToGenerate
  rw [Model.oneofFields, oneof.fields_oneof_entity, hid]
  refine h.resolveListed_eq_filter (fieldsOf_sublist honeof) fun field hfield => ?_
  rw [decide_eq_true_iff, h.mem_fieldsOf_iff honeof hfield]
  cases field
  exact Iff.rfl

/-- A oneof keeps a field that refers to it once, and no other field. -/
theorem count_oneofFields (h : Links request config model) {oneof : Declaration .oneof}
    {field : Declaration .field} (honeof : oneof ∈ request.declarations .oneof)
    (hfield : field ∈ request.declarations .field) :
    (Oneof.fields (request.entity config oneof)).count (Field.id (request.entity config field)) =
      if Field.oneof (request.entity config field) =
          some (Oneof.id (request.entity config oneof)) then 1
      else 0 := by
  have hid : Oneof.id (request.entity config oneof) = oneof.id :=
    oneof.id_entity config.extensions request.filesToGenerate
  have hfieldId : Field.id (request.entity config field) = field.id :=
    field.id_entity config.extensions request.filesToGenerate
  rw [oneof.fields_oneof_entity, hid, hfieldId]
  refine h.count_id (fieldsOf_sublist honeof) hfield ?_
  rw [h.mem_fieldsOf_iff honeof hfield]
  cases field
  exact Iff.rfl

/-- Everything but files has an owner. -/
theorem exists_owns (h : Links request config model) {declaration : Declaration kind}
    (hmem : declaration ∈ request.declarations kind) (hkind : kind ≠ .file) :
    ∃ owner, model.Owns owner ⟨kind, request.entity config declaration⟩ := by
  have haround : ∃ around, declaration.around? = some around := by
    cases declaration with
    | file => exact absurd rfl hkind
    | _ => exact ⟨_, rfl⟩
  obtain ⟨⟨outer, owner⟩, haround⟩ := haround
  obtain ⟨howner, hmember⟩ := Request.mem_members_of_around? hmem haround
  exact ⟨⟨outer, request.entity config owner⟩, h.has_entity howner,
    (h.mem_members_iff howner hmem).mp hmember⟩

/-- The owners of the declarations of a file lead to the file. -/
theorem rooted_entity (h : Links request config model) {declaration : Declaration kind}
    (hmem : declaration ∈ request.declarations kind) :
    Relation.ReflTransGen model.Owns
      ⟨.file, request.entity config (.file declaration.source)⟩
      ⟨kind, request.entity config declaration⟩ := by
  obtain ⟨file, hfile, hdeclared⟩ := Request.mem_declarations.mp hmem
  rw [FileDescriptor.source_of_mem hdeclared]
  -- From the file inwards, each member adds the step from its owner to the path.
  refine @FileDescriptor.declaration_induction file (fun {kind} declaration =>
    Relation.ReflTransGen model.Owns ⟨.file, request.entity config (.file file)⟩
      ⟨kind, request.entity config declaration⟩) .refl ?_ kind declaration hdeclared
  intro outer child owner member howner hmember hpath
  have hinside : ∀ {kind : Kind} {declaration : Declaration kind},
      declaration ∈ file.declarations kind → declaration ∈ request.declarations kind :=
    fun hin => Request.mem_declarations.mpr ⟨file, hfile, hin⟩
  have hmemMember := (FileDescriptor.members_sublist howner child).subset hmember
  refine hpath.tail ⟨h.has_entity (hinside howner), ?_⟩
  exact (h.mem_members_iff (hinside howner) (hinside hmemMember)).mp hmember

end Links

/-- In every model the references between entities are closed, the entities form a forest with the
files as its roots, and what is listed below an entity is the part of the listing that it owns. -/
theorem Model.contained_of_ok {request : Request} {config : Config} {model : Model}
    (h : (Model.ofRequest request config).outcome = .ok model) : model.Contained := by
  have hlinks := Model.links_of_ok h
  constructor
  case closed =>
    intro entity reached hentity hpath
    have hreached : model.Has reached := by
      induction hpath with
      | refl => exact hentity
      | tail _ hstep ih => exact hlinks.has_of_leads ih hstep
    obtain ⟨declaration, hmem, heq⟩ := hlinks.exists_of_has hreached
    rw [← heq]
    exact ⟨hreached, hlinks.registers_references hmem⟩
  case owned =>
    rintro ⟨kind, entity⟩ hentity hkind
    obtain ⟨declaration, hmem, rfl⟩ := hlinks.exists_of_has hentity
    exact hlinks.exists_owns hmem hkind
  case once =>
    rintro ⟨outer, owner⟩ ⟨kind, entity⟩ howner hentity
    obtain ⟨ownerDeclaration, hmemOwner, rfl⟩ := hlinks.exists_of_has howner
    obtain ⟨declaration, hmem, rfl⟩ := hlinks.exists_of_has hentity
    dsimp only
    rw [Declaration.members_entity, Declaration.id_entity]
    exact hlinks.count_id (Request.members_sublist hmemOwner kind) hmem
      (hlinks.mem_members_iff hmemOwner hmem)
  case sameFile =>
    rintro ⟨outer, owner⟩ ⟨kind, entity⟩ hentity ⟨howner, howned⟩
    obtain ⟨ownerDeclaration, hmemOwner, rfl⟩ := hlinks.exists_of_has howner
    obtain ⟨declaration, hmem, rfl⟩ := hlinks.exists_of_has hentity
    have hmember := (hlinks.mem_members_iff hmemOwner hmem).mpr howned
    dsimp only
    rw [hlinks.fileOf_entity hmem, hlinks.fileOf_entity hmemOwner,
      Declaration.source_of_mem_members hmember]
  case rooted =>
    rintro ⟨kind, entity⟩ hentity
    obtain ⟨declaration, hmem, rfl⟩ := hlinks.exists_of_has hentity
    dsimp only
    rw [hlinks.fileOf_entity hmem]
    exact hlinks.rooted_entity hmem
  case children =>
    rintro ⟨outer, owner⟩ child howner hkind
    obtain ⟨declaration, hmem, rfl⟩ := hlinks.exists_of_has howner
    dsimp only
    rw [model.children_eq hkind, Declaration.members_entity]
    refine hlinks.resolveListed_eq_filter (Request.members_sublist hmem child) ?_
    intro member hmember
    rw [decide_eq_true_iff, hlinks.mem_members_iff hmem hmember]
  case oneofFields =>
    intro oneof honeof
    obtain ⟨declaration, hmem, rfl⟩ := hlinks.exists_of_has honeof
    refine ⟨hlinks.oneofFields_eq hmem, ?_⟩
    intro field hfield
    obtain ⟨fieldDeclaration, hmemField, rfl⟩ := hlinks.exists_of_has hfield
    exact hlinks.count_oneofFields hmem hmemField

/-- The model of the example, in which a oneof, a group and references between files occur. -/
theorem Model.contained_exampleRequest :
    ∃ model, (Model.ofRequest exampleRequest {}).outcome = .ok model ∧ model.Contained := by
  obtain ⟨model, hmodel, -⟩ := exampleRequest_links
  exact ⟨model, hmodel, Model.contained_of_ok hmodel⟩

end LinkedSchema
