import LinkedSchema.Proofs.Containment
import LinkedSchema.Semantics

/-!
# Oneofs and listings of fields

A field names its oneof by a position among the oneofs of its message, and the oneof keeps the fields
that name it. The two are computed apart, from the field and from the message around it; here they are
brought together, and with them the three listings in which a field may be shown. No listing shows a
group, though a oneof keeps it and a lookup finds it.

* `Model.shown` — what a listing shows under some restrictions;
* `Model.IsMember`, `Model.ListsFields` — what holds of oneofs, of their members and of listings of
  fields;
* `Declaration.exists_oneof_of_index` — the oneof at the position that a field names;
* `Links.count_filter_all` — how often a part of a listing shows a declaration;
* `Model.listsFields_of_ok` — the oneofs and the listings of every model.
-/

namespace LinkedSchema

namespace Model

/-- What a listing shows under some restrictions, by identifier. -/
def shown (model : Model) (kind : Kind) (restrictions : List Restriction)
    (entities : List (Entity kind)) : List (Ident kind) :=
  (model.select kind restrictions entities).map Entity.id

/-- A field that is no group and meets some restrictions. -/
def Admits (model : Model) (restrictions : List Restriction) (field : Field) : Prop :=
  field.type ≠ .group ∧ ∀ restriction ∈ restrictions, @meets model .field field restriction

instance (model : Model) (restrictions : List Restriction) (field : Field) :
    Decidable (model.Admits restrictions field) :=
  inferInstanceAs (Decidable (_ ∧ _))

/-- A field is a member of a oneof: of the one at a position among the oneofs of the message around it,
and of no other. -/
structure IsMember (model : Model) (index : Int) (field : Field) (oneof : Oneof) : Prop where
  listed : oneof ∈ model.all .oneof
  position : atIndex? (model.messageOneofs (model.fieldParent field)) index = some oneof
  parent : oneof.parent = field.parent
  leads : model.oneofOf? field = some oneof
  once : oneof.fields.count field.id = 1
  only : ∀ other ∈ model.all .oneof, other ≠ oneof → field.id ∉ Oneof.fields other

/-- What holds of the oneofs in a model of a request and of the listings of its fields. -/
structure ListsFields (request : Request) (model : Model) : Prop where
  /-- A field whose descriptor has an index is a member of the oneof at that position. -/
  member : ∀ {declaration : Declaration .field} {index : Int},
    declaration ∈ request.declarations .field → declaration.oneofIndex = some index →
      ∃ (field : Field) (oneof : Oneof), model.get? .field declaration.id.text = some field ∧
        Carries model field declaration ∧ model.IsMember index field oneof
  /-- A field whose descriptor has none is a member of no oneof. -/
  free : ∀ {declaration : Declaration .field},
    declaration ∈ request.declarations .field → declaration.oneofIndex = none →
      ∃ field : Field, model.get? .field declaration.id.text = some field ∧
        Carries model field declaration ∧ model.oneofOf? field = none ∧
          ∀ oneof ∈ model.all .oneof, field.id ∉ Oneof.fields oneof
  /-- A oneof keeps the fields of its message that name its position, in the order in which they are
  declared. -/
  ordered : ∀ {around : Declaration .message} {position : Nat} {descriptor : OneofDescriptor},
    .oneof around position descriptor ∈ request.declarations .oneof →
      ∃ oneof : Oneof, (model.messageOneofs (model.oneofParent oneof))[position]? = some oneof ∧
        Carries model oneof (.oneof around position descriptor) ∧
        oneof.fields =
          (around.fields.filter (·.oneofIndex = some (position : Int))).map Declaration.id
  /-- A lookup finds every field, groups included. -/
  found : ∀ {field : Field}, model.Has ⟨.field, field⟩ →
    model.get? .field field.id.text = some field
  /-- The listing of the model shows a field once, if it is no group and meets the restrictions, -/
  all : ∀ {field : Field} (restrictions : List Restriction), model.Has ⟨.field, field⟩ →
    (model.shown .field restrictions (model.all .field)).count field.id =
      if model.Admits restrictions field then 1 else 0
  /-- and so do the listing of its message, -/
  messageFields : ∀ {message : Message} {field : Field} (restrictions : List Restriction),
    model.Has ⟨.message, message⟩ → model.Has ⟨.field, field⟩ →
      (model.shown .field restrictions (model.messageFields message)).count field.id =
        if field.parent = message.id ∧ model.Admits restrictions field then 1 else 0
  /-- and the listing of its oneof. -/
  oneofFields : ∀ {oneof : Oneof} {field : Field} (restrictions : List Restriction),
    model.Has ⟨.oneof, oneof⟩ → model.Has ⟨.field, field⟩ →
      (model.shown .field restrictions (model.oneofFields oneof)).count field.id =
        if field.oneof = some oneof.id ∧ model.Admits restrictions field then 1 else 0
  /-- Restrictions keep whatever meets all of them, in its order, -/
  kept : ∀ {kind : Kind} (restrictions : List Restriction) (entities : List (Entity kind)),
    model.select kind restrictions entities =
      entities.filter fun entity => ∀ restriction ∈ restrictions, model.meets entity restriction
  /-- so that their own order and repetition make no difference. -/
  alike : ∀ {kind : Kind} {restrictions others : List Restriction} (entities : List (Entity kind)),
    (∀ restriction, restriction ∈ others ↔ restriction ∈ restrictions) →
      model.select kind others entities = model.select kind restrictions entities

theorem select_eq_filter_forall (model : Model) (kind : Kind) (restrictions : List Restriction)
    (entities : List (Entity kind)) :
    model.select kind restrictions entities =
      entities.filter fun entity =>
        ∀ restriction ∈ restrictions, model.meets entity restriction := by
  rw [select_eq_filter]
  refine List.filter_congr fun entity _ => ?_
  rw [Bool.eq_iff_iff, List.all_eq_true, decide_eq_true_iff]

end Model

/-! ## Members of oneofs -/

theorem atIndex?_map {α β : Type} (f : α → β) (items : List α) (index : Int) :
    atIndex? (items.map f) index = (atIndex? items index).map f := by
  unfold atIndex?
  split
  · exact List.getElem?_map
  · rfl

theorem exists_atIndex?_eq_some {α : Type} {items : List α} {index : Int} (hlow : 0 ≤ index)
    (hhigh : index < items.length) : ∃ item ∈ items, atIndex? items index = some item := by
  have hlength : index.toNat < items.length := by omega
  refine ⟨items[index.toNat], List.getElem_mem hlength, ?_⟩
  rw [atIndex?, if_pos hlow, List.getElem?_eq_getElem hlength]

namespace Declaration

/-- A field that names a position belongs to the oneof that its message has there. -/
theorem exists_oneof_of_index {around : Declaration .message} {place : Nat}
    {descriptor : FieldDescriptor} {index : Int}
    (hrange : (Declaration.field around place descriptor).OneofInRange)
    (hindex : descriptor.oneofIndex = some index) :
    ∃ oneof ∈ around.oneofs, atIndex? around.oneofs index = some oneof ∧
      (Declaration.field around place descriptor).oneofId? = some oneof.id := by
  obtain ⟨hlow, hhigh⟩ := hrange index hindex
  have hlength : around.oneofs.length = around.descriptor.oneofs.length := by simp [oneofs]
  rw [oneofCount, ← hlength] at hhigh
  obtain ⟨oneof, honeof, hat⟩ := exists_atIndex?_eq_some hlow hhigh
  refine ⟨oneof, honeof, hat, ?_⟩
  rw [oneofId?, hindex, Option.bind_some, atIndex?_map, hat, Option.map_some]

/-- A oneof stands at its position among the oneofs of its message. -/
theorem getElem?_oneofs_of_mem {around : Declaration .message} {position : Nat}
    {descriptor : OneofDescriptor} (h : .oneof around position descriptor ∈ around.oneofs) :
    around.oneofs[position]? = some (.oneof around position descriptor) := by
  obtain ⟨place, hplace⟩ := List.mem_iff_getElem?.mp h
  have hfound := hplace
  rw [getElem?_oneofs, Option.map_eq_some_iff] at hfound
  obtain ⟨found, -, hsame⟩ := hfound
  obtain ⟨-, rfl, -⟩ := Declaration.oneof.inj hsame
  exact hplace

end Declaration

namespace Links

variable {request : Request} {config : Config} {model : Model} {kind : Kind}

/-- A lookup by the text of an identifier finds the declaration. -/
theorem get?_text (h : Links request config model) {declaration : Declaration kind}
    (hmem : declaration ∈ request.declarations kind) :
    model.get? kind declaration.id.text = some (request.entity config declaration) :=
  h.get?_id hmem

/-- The entity of a declaration that is listed is in the listing of its kind. -/
theorem mem_all (h : Links request config model) {declaration : Declaration kind}
    (hmem : declaration ∈ request.declarations kind) (hlisted : declaration.isListed = true) :
    request.entity config declaration ∈ model.all kind := by
  rw [h.all_eq]
  exact List.mem_map_of_mem (List.mem_filter.mpr ⟨hmem, hlisted⟩)

/-- The oneofs of a message are those of its declaration, in order. -/
theorem messageOneofs_entity (h : Links request config model) {message : Declaration .message}
    (hmem : message ∈ request.declarations .message) :
    model.messageOneofs (request.entity config message) =
      message.oneofs.map (request.entity config) := by
  have hids : Message.oneofs (request.entity config message) =
      message.oneofs.map Declaration.id :=
    message.members_entity config.extensions request.filesToGenerate .oneof
  have honeofs : message.oneofs ⊆ request.declarations .oneof :=
    (Request.members_sublist hmem .oneof).subset
  rw [Model.messageOneofs, hids, Model.resolveListed, h.map_resolve_id honeofs]
  exact List.filter_eq_self.mpr fun _ _ => rfl

/-- A oneof keeps the fields that refer to it, each once. -/
theorem count_fields_entity (h : Links request config model) {field : Declaration .field}
    {oneof : Declaration .oneof} (hfield : field ∈ request.declarations .field)
    (honeof : oneof ∈ request.declarations .oneof) :
    (Oneof.fields (request.entity config oneof)).count (Field.id (request.entity config field)) =
      if field.oneofId? = some oneof.id then 1 else 0 := by
  have hid : Oneof.id (request.entity config oneof) = oneof.id :=
    oneof.id_entity config.extensions request.filesToGenerate
  rw [h.count_oneofFields honeof hfield, hid]
  cases field
  rfl

/-- A field that names a position is a member of the oneof there. -/
theorem exists_isMember (h : Links request config model) {field : Declaration .field} {index : Int}
    (hmem : field ∈ request.declarations .field) (hindex : field.oneofIndex = some index) :
    ∃ oneof : Oneof, model.IsMember index (request.entity config field) oneof := by
  cases field with
  | field around place descriptor =>
      obtain ⟨haround, -⟩ := Request.mem_members_of_around? hmem rfl
      obtain ⟨oneof, honeof, hat, hid⟩ :=
        Declaration.exists_oneof_of_index (h.consistent.oneofIndex _ hmem) hindex
      have hmemOneof := (Request.members_sublist haround .oneof).subset honeof
      refine ⟨request.entity config oneof, ?_⟩
      constructor
      case listed => exact h.mem_all hmemOneof (by cases oneof; rfl)
      case position =>
        show atIndex? (model.messageOneofs (model.resolve around.id)) index = _
        rw [h.resolve_id haround, h.messageOneofs_entity haround, atIndex?_map, hat,
          Option.map_some]
      case parent =>
        obtain ⟨⟨oneofDescriptor, position⟩, -, rfl⟩ := List.mem_map.mp honeof
        rfl
      case leads =>
        show (Declaration.field around place descriptor).oneofId?.map model.resolve = _
        rw [hid, Option.map_some, h.resolve_id hmemOneof]
      case once => rw [h.count_fields_entity hmem hmemOneof, if_pos hid]
      case only =>
        intro other hother hne
        obtain ⟨declaration, hmemOther, rfl⟩ := h.exists_of_has (List.mem_of_mem_filter hother)
        rw [← List.count_eq_zero, h.count_fields_entity hmem hmemOther, if_neg]
        intro hidOther
        have hsame := Option.some.inj (hid.symm.trans hidOther)
        exact hne (h.eq_of_id_eq hmemOneof hmemOther hsame ▸ rfl)

/-- A field that names no position is a member of no oneof. -/
theorem id_not_mem_fields (h : Links request config model) {field : Declaration .field}
    (hmem : field ∈ request.declarations .field) (hindex : field.oneofIndex = none) {oneof : Oneof}
    (honeof : oneof ∈ model.all .oneof) :
    Field.id (request.entity config field) ∉ oneof.fields := by
  obtain ⟨declaration, hmemOneof, rfl⟩ := h.exists_of_has (List.mem_of_mem_filter honeof)
  have hnone : field.oneofId? = none := by
    cases field
    exact congrArg (Option.bind · _) hindex
  rw [← List.count_eq_zero, h.count_fields_entity hmem hmemOneof, hnone, if_neg nofun]

/-! ## Listings of fields -/

/-- The part of a listing that a condition keeps shows a declaration once, if the declaration is
listed and meets the condition, and else not at all. -/
theorem count_filter_all (h : Links request config model) {declaration : Declaration kind}
    (hmem : declaration ∈ request.declarations kind) (accept : Entity kind → Bool) :
    (((model.all kind).filter accept).map Entity.id).count
        (request.entity config declaration).id =
      if declaration.isListed = true ∧ accept (request.entity config declaration) = true then 1
      else 0 := by
  have hids : (((model.all kind).filter accept).map Entity.id) =
      ((request.declarations kind).filter fun other =>
        accept (request.entity config other) && other.isListed).map Declaration.id := by
    rw [h.all_eq, List.filter_map, List.filter_filter, List.map_map]
    exact List.map_congr_left fun other _ => other.id_entity _ _
  rw [hids, Declaration.id_entity]
  refine h.count_id List.filter_sublist hmem ?_
  rw [List.mem_filter, Bool.and_eq_true]
  simp only [hmem, true_and, and_comm]

/-- A restricted part of the listing of fields shows a field once, if the field is in the part, is no
group and meets the restrictions. -/
theorem count_shown (h : Links request config model) {field : Field}
    (hfield : model.Has ⟨.field, field⟩) (restrictions : List Restriction) (accept : Field → Bool) :
    (model.shown .field restrictions ((model.all .field).filter accept)).count field.id =
      if accept field = true ∧ model.Admits restrictions field then 1 else 0 := by
  obtain ⟨declaration, hmem, rfl⟩ := h.exists_of_has hfield
  rw [Model.shown, Model.select_eq_filter_forall, List.filter_filter]
  refine (h.count_filter_all hmem _).trans (if_congr ?_ rfl rfl)
  have hlisted := declaration.isListed_entity config.extensions request.filesToGenerate
  rw [← hlisted, Bool.and_eq_true, decide_eq_true_iff, Model.Admits]
  simp only [Model.isListed, Field.isListed, bne_iff_ne]
  tauto

/-- The listing of a message is made of the fields that refer to it. -/
theorem messageFields_eq (h : Links request config model) {message : Message}
    (hmessage : model.Has ⟨.message, message⟩) :
    model.messageFields message =
      (model.all .field).filter fun field : Field => field.parent = message.id := by
  obtain ⟨declaration, hmem, rfl⟩ := h.exists_of_has hmessage
  have hids : Message.fields (request.entity config declaration) =
      (declaration.members .field).map Declaration.id :=
    declaration.members_entity config.extensions request.filesToGenerate .field
  rw [Model.messageFields, hids]
  refine h.resolveListed_eq_filter (Request.members_sublist hmem .field) fun field hfield => ?_
  rw [h.mem_members_iff hmem hfield, decide_eq_true_iff]
  simp [Entity.owner?, Entity.reference, Entity.id]

end Links

/-- In every model a field is a member of the oneof that its descriptor names and of no other, oneofs
keep their members in the order of declaration, and restricted listings show each field that is no
group where it belongs, once. -/
theorem Model.listsFields_of_ok {request : Request} {config : Config} {model : Model}
    (h : (Model.ofRequest request config).outcome = .ok model) : model.ListsFields request := by
  have hlinks := Model.links_of_ok h
  constructor
  case member =>
    intro declaration index hmem hindex
    obtain ⟨oneof, hmember⟩ := hlinks.exists_isMember hmem hindex
    exact ⟨_, oneof, hlinks.get?_text hmem, hlinks.carries_entity hmem, hmember⟩
  case free =>
    intro declaration hmem hindex
    refine ⟨_, hlinks.get?_text hmem, hlinks.carries_entity hmem, ?_,
      fun oneof honeof => hlinks.id_not_mem_fields hmem hindex honeof⟩
    cases declaration
    exact congrArg (Option.map model.resolve ∘ (Option.bind · _)) hindex
  case ordered =>
    intro around position descriptor hmem
    obtain ⟨haround, hmember⟩ := Request.mem_members_of_around? hmem rfl
    refine ⟨_, ?_, hlinks.carries_entity hmem, ?_⟩
    · show (model.messageOneofs (model.resolve around.id))[position]? = _
      rw [hlinks.resolve_id haround, hlinks.messageOneofs_entity haround, List.getElem?_map,
        Declaration.getElem?_oneofs_of_mem hmember, Option.map_some]
    · rw [Declaration.fields_oneof_entity, Declaration.fieldsOf]
      exact congrArg (List.map _) (List.filter_congr fun field _ => Bool.beq_eq_decide_eq _ _)
  case found =>
    intro field hfield
    obtain ⟨declaration, hmem, rfl⟩ := hlinks.exists_of_has hfield
    have hid : Field.id (request.entity config declaration) = declaration.id :=
      declaration.id_entity config.extensions request.filesToGenerate
    rw [hid]
    exact hlinks.get?_text hmem
  case all =>
    intro field restrictions hfield
    have hcount := hlinks.count_shown hfield restrictions fun _ => true
    rw [List.filter_true] at hcount
    simpa using hcount
  case messageFields =>
    intro message field restrictions hmessage hfield
    rw [hlinks.messageFields_eq hmessage, hlinks.count_shown hfield]
    simp only [decide_eq_true_iff]
  case oneofFields =>
    intro oneof field restrictions honeof hfield
    obtain ⟨declaration, hmem, rfl⟩ := hlinks.exists_of_has honeof
    rw [hlinks.oneofFields_eq hmem, hlinks.count_shown hfield]
    simp only [decide_eq_true_iff]
  case kept => exact fun restrictions => model.select_eq_filter_forall _ restrictions
  case alike =>
    intro kind restrictions others entities hsame
    rw [model.select_eq_filter_forall, model.select_eq_filter_forall]
    simp only [hsame]

/-- A message with two oneofs of which the members are interleaved and one is a group, and with a
message in it that has a oneof of its own. -/
def interleavedRequest : Request where
  files := [{
    name := "rows.proto"
    messages := [
      { name := "Row"
        fields := [
          { name := "text", number := 1, oneofIndex := some 1 },
          { name := "left", number := 2, oneofIndex := some 0 },
          { name := "block", number := 3, type := .group, oneofIndex := some 1 },
          { name := "right", number := 4, oneofIndex := some 0 },
          { name := "plain", number := 5 }]
        nested := [
          { name := "Cell"
            fields := [{ name := "text", number := 1, oneofIndex := some 0 }]
            oneofs := [{ name := "content" }] }]
        oneofs := [{ name := "side" }, { name := "content" }] }] }]

/-- The group is kept by its oneof, found by a lookup and shown by no listing. -/
theorem Model.listsFields_interleavedRequest :
    ∃ model, (Model.ofRequest interleavedRequest {}).outcome = .ok model ∧
      model.ListsFields interleavedRequest ∧
      (model.all .oneof).map Oneof.fields =
        [[⟨".Row:left"⟩, ⟨".Row:right"⟩], [⟨".Row:text"⟩, ⟨".Row:block"⟩], [⟨".Row.Cell:text"⟩]] ∧
      (model.all .oneof).map (fun oneof =>
          model.shown .field [.visible, .notDeprecated, .visible] (model.oneofFields oneof)) =
        [[⟨".Row:left"⟩, ⟨".Row:right"⟩], [⟨".Row:text"⟩], [⟨".Row.Cell:text"⟩]] ∧
      (model.get? .field ".Row:block").map Field.type = some .group := by
  obtain ⟨model, hmodel, -⟩ :=
    @Model.exists_ofRequest_eq_ok interleavedRequest {} (by decide +kernel)
  let members (model : Model) : List (List (Ident .field)) := (model.all .oneof).map Oneof.fields
  let listed (model : Model) : List (List (Ident .field)) :=
    (model.all .oneof).map fun oneof =>
      model.shown .field [.visible, .notDeprecated, .visible] (model.oneofFields oneof)
  let block (model : Model) : Option FieldType := (model.get? .field ".Row:block").map Field.type
  exact ⟨model, hmodel, Model.listsFields_of_ok hmodel,
    Model.eq_of_toOption_map members hmodel (by decide +kernel),
    Model.eq_of_toOption_map listed hmodel (by decide +kernel),
    Model.eq_of_toOption_map block hmodel (by decide +kernel)⟩

end LinkedSchema
