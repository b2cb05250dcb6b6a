import LinkedSchema.Proofs.Scopes

/-!
# Models inside larger models

A model extends another if it finds whatever the other one finds, unchanged. Then both tell the same
of every entity of the smaller model, since whatever an entity refers to is registered beside it. The
type of a field is the exception: it need not be part of the smaller model, and may be found in the
larger one only.

* `View`, `Model.view` — what a model tells of an entity beyond what the entity keeps;
* `Model.Extends` — one model extends another;
* `Links.view_eq` — entities whose types are the same in both models have the same view;
* `Links.isVisible_of_larger`, `Links.isDeprecated_larger_of` — what a type that is found only in the
  larger model can change;
* `Model.extends_of_subset` — requests with more files have larger models.
-/

namespace LinkedSchema

/-! ## Views -/

/-- What a model tells of an entity beyond what the entity keeps. Where entities of a kind have no
such thing there is nothing. -/
structure View where
  file : File
  /-- What the entity is declared in, unless that is the file. -/
  parent? : Option (Sigma Entity) := none
  /-- The messages around a message, the innermost first. -/
  enclosing : List Message := []
  root? : Option Message := none
  oneof? : Option Oneof := none
  typeMessage? : Option Message := none
  typeEnum? : Option Enum := none
  input? : Option Message := none
  output? : Option Message := none
  children : (child : Kind) → List (Entity child)
  visible : Bool
  deprecated : Bool
  generated : Bool

namespace Model

/-- What a model tells of entities of every kind. -/
def commonView (model : Model) {kind : Kind} (entity : Entity kind) : View where
  file := model.fileOf entity
  children := model.children entity
  visible := model.isVisible entity
  deprecated := model.isDeprecated entity
  generated := model.isGenerated entity

/-- All that a model tells of an entity. -/
def view (model : Model) : {kind : Kind} → Entity kind → View
  | .file, file => @model.commonView .file file
  | .message, message =>
      { @model.commonView .message message with
        parent? := (model.parentMessage? message).map (Sigma.mk .message)
        enclosing := model.enclosingMessages message
        root? := some (model.root message) }
  | .field, field =>
      { @model.commonView .field field with
        parent? := some ⟨.message, model.fieldParent field⟩
        oneof? := model.oneofOf? field
        typeMessage? := model.typeMessage? field
        typeEnum? := model.typeEnum? field }
  | .oneof, oneof =>
      { @model.commonView .oneof oneof with
        parent? := some ⟨.message, model.oneofParent oneof⟩ }
  | .enum, enum =>
      { @model.commonView .enum enum with
        parent? := (model.enumParent? enum).map (Sigma.mk .message) }
  | .enumValue, value =>
      { @model.commonView .enumValue value with
        parent? := some ⟨.enum, model.valueParent value⟩ }
  | .service, service => @model.commonView .service service
  | .method, method =>
      { @model.commonView .method method with
        parent? := some ⟨.service, model.methodParent method⟩
        input? := some (model.inputOf method)
        output? := some (model.outputOf method) }

@[simp]
theorem visible_view (model : Model) {kind : Kind} (entity : Entity kind) :
    (model.view entity).visible = model.isVisible entity := by
  cases kind <;> rfl

@[simp]
theorem deprecated_view (model : Model) {kind : Kind} (entity : Entity kind) :
    (model.view entity).deprecated = model.isDeprecated entity := by
  cases kind <;> rfl

/-! ## Extensions -/

/-- What a field refers to as its type, whether that is part of a model or not. -/
def typeReference? (field : Field) : Option Reference :=
  match field.typeRef with
  | .scalar => none
  | .message id => some ⟨.message, id⟩
  | .enum id => some ⟨.enum, id⟩

/-- An entity is a field whose type is not part of a model but is part of a larger one. -/
def LinksLater (model larger : Model) : {kind : Kind} → Entity kind → Prop
  | .field, field => ∃ type, typeReference? field = some type ∧
      ¬ model.Registers type ∧ larger.Registers type
  | .file, _ | .message, _ | .oneof, _ | .enum, _ | .enumValue, _ | .service, _ | .method, _ => False

/-- A model extends another: it goes by the same configuration, and finds whatever the other one
finds, as it is there. -/
structure Extends (model larger : Model) : Prop where
  config : larger.config = model.config
  get? : ∀ {kind : Kind} {id : Ident kind} {entity : Entity kind},
    (model.registry.arena kind).get? id = some entity →
      (larger.registry.arena kind).get? id = some entity

namespace Extends

variable {model larger : Model} {kind : Kind}

/-- A reference to something registered leads to the same entity in both models. -/
theorem resolve_eq (h : model.Extends larger) {id : Ident kind}
    (hid : model.Registers ⟨kind, id⟩) : larger.resolve id = model.resolve id := by
  rw [Model.Registers, Arena.contains_eq_isSome_get?, Option.isSome_iff_exists] at hid
  obtain ⟨entity, hentity⟩ := hid
  rw [Model.resolve, Model.resolve, Arena.resolve, Arena.resolve, h.get? hentity, hentity]

theorem map_resolve_eq (h : model.Extends larger) {ids : List (Ident kind)}
    (hids : ∀ id ∈ ids, model.Registers ⟨kind, id⟩) :
    ids.map larger.resolve = ids.map model.resolve :=
  List.map_congr_left fun id hid => h.resolve_eq (hids id hid)

theorem resolveListed_eq (h : model.Extends larger) {ids : List (Ident kind)}
    (hids : ∀ id ∈ ids, model.Registers ⟨kind, id⟩) :
    larger.resolveListed ids = model.resolveListed ids := by
  rw [Model.resolveListed, Model.resolveListed, h.map_resolve_eq hids]

theorem option_map_resolve_eq (h : model.Extends larger) {id? : Option (Ident kind)}
    (hid : ∀ id ∈ id?, model.Registers ⟨kind, id⟩) :
    id?.map larger.resolve = id?.map model.resolve := by
  cases id? with
  | none => rfl
  | some id => exact congrArg some (h.resolve_eq (hid id rfl))

/-- A lookup finds the same in both models, unless it finds something in the larger one only. -/
theorem get?_eq (h : model.Extends larger) {id : Ident kind}
    (hid : larger.Registers ⟨kind, id⟩ → model.Registers ⟨kind, id⟩) :
    (larger.registry.arena kind).get? id = (model.registry.arena kind).get? id := by
  simp only [Model.Registers, Arena.contains_eq_isSome_get?] at hid
  cases hfound : (model.registry.arena kind).get? id with
  | some entity => exact h.get? hfound
  | none =>
      rw [hfound] at hid
      exact Option.not_isSome_iff_eq_none.mp fun hlarger => absurd (hid hlarger) (by simp)

/-- The type of a field is found alike, unless it is part of the larger model only. -/
theorem types_eq (h : model.Extends larger) {field : Field}
    (hlater : ¬ @LinksLater model larger .field field) :
    larger.typeMessage? field = model.typeMessage? field ∧
      larger.typeEnum? field = model.typeEnum? field := by
  have hregisters : ∀ type, typeReference? field = some type →
      larger.Registers type → model.Registers type := by
    intro type htype hlarger
    by_contra hmodel
    exact hlater ⟨type, htype, hmodel, hlarger⟩
  unfold typeReference? at hregisters
  unfold Model.typeMessage? Model.typeEnum?
  cases htype : field.typeRef with
  | scalar => exact ⟨rfl, rfl⟩
  | message id =>
      rw [htype] at hregisters
      exact ⟨@get?_eq _ _ .message h id (hregisters _ rfl), rfl⟩
  | enum id =>
      rw [htype] at hregisters
      exact ⟨rfl, @get?_eq _ _ .enum h id (hregisters _ rfl)⟩

/-- An entity that is asked has no type that could be found later. -/
theorem not_linksLater_of_isConsulted {asked entity : Sigma Entity}
    (hasked : model.IsConsulted asked entity) : ¬ model.LinksLater larger asked.2 := by
  obtain ⟨kind, asked⟩ := asked
  rcases Links.kind_of_isConsulted hasked with hkind | hkind | hkind | hkind
  all_goals
    cases hkind
    exact not_false

/-- The type of a field that is part of the larger model only is not found in the smaller one. -/
theorem types_eq_none {field : Field} (hlater : @LinksLater model larger .field field) :
    model.typeMessage? field = none ∧ model.typeEnum? field = none := by
  obtain ⟨type, htype, hmodel, -⟩ := hlater
  unfold typeReference? at htype
  unfold Model.typeMessage? Model.typeEnum?
  simp only [Model.Registers, Arena.contains_eq_isSome_get?, Option.not_isSome_iff_eq_none]
    at hmodel
  cases href : field.typeRef with
  | scalar => exact ⟨rfl, rfl⟩
  | message id =>
      rw [href] at htype
      cases htype
      exact ⟨hmodel, rfl⟩
  | enum id =>
      rw [href] at htype
      cases htype
      exact ⟨rfl, hmodel⟩

end Extends

end Model

/-- Conditions that agree on the elements of a list are alike for the list. -/
theorem all_congr_of_mem {α : Type} {items : List α} {p q : α → Bool}
    (h : ∀ item ∈ items, p item = q item) : items.all p = items.all q := by
  rw [Bool.eq_iff_iff, List.all_eq_true, List.all_eq_true]
  exact forall₂_congr fun item hitem => by rw [h item hitem]

theorem any_congr_of_mem {α : Type} {items : List α} {p q : α → Bool}
    (h : ∀ item ∈ items, p item = q item) : items.any p = items.any q := by
  rw [List.any_eq_not_all_not, List.any_eq_not_all_not,
    all_congr_of_mem fun item hitem => by rw [h item hitem]]

namespace Links

open Model (Extends)

variable {request : Request} {config : Config} {model larger : Model}

/-- Whatever a registered entity refers to is registered. -/
theorem registers_of_has (h : Links request config model) {entity : Sigma Entity}
    (hentity : model.Has entity) : ∀ reference ∈ entity.2.references, model.Registers reference := by
  obtain ⟨declaration, hmem, heq⟩ := h.exists_of_has hentity
  rw [← heq]
  exact h.registers_references hmem

/-! ### Navigation in an extension -/

variable (h : Links request config model) (hext : model.Extends larger)
include h hext

theorem fieldParent_eq {field : Field} (hfield : model.Has ⟨.field, field⟩) :
    larger.fieldParent field = model.fieldParent field :=
  hext.resolve_eq (h.registers_of_has hfield _ List.mem_cons_self)

theorem oneofParent_eq {oneof : Oneof} (honeof : model.Has ⟨.oneof, oneof⟩) :
    larger.oneofParent oneof = model.oneofParent oneof :=
  hext.resolve_eq (h.registers_of_has honeof _ List.mem_cons_self)

theorem valueParent_eq {value : EnumValue} (hvalue : model.Has ⟨.enumValue, value⟩) :
    larger.valueParent value = model.valueParent value :=
  hext.resolve_eq (h.registers_of_has hvalue _ List.mem_cons_self)

theorem methodParent_eq {method : Method} (hmethod : model.Has ⟨.method, method⟩) :
    larger.methodParent method = model.methodParent method :=
  hext.resolve_eq (h.registers_of_has hmethod _ List.mem_cons_self)

theorem inputOf_eq {method : Method} (hmethod : model.Has ⟨.method, method⟩) :
    larger.inputOf method = model.inputOf method :=
  hext.resolve_eq (h.registers_of_has hmethod _ (by simp [Entity.references]))

theorem outputOf_eq {method : Method} (hmethod : model.Has ⟨.method, method⟩) :
    larger.outputOf method = model.outputOf method :=
  hext.resolve_eq (h.registers_of_has hmethod _ (by simp [Entity.references]))

theorem enclosingMessages_eq {message : Message} (hmessage : model.Has ⟨.message, message⟩) :
    larger.enclosingMessages message = model.enclosingMessages message :=
  hext.map_resolve_eq fun id hid =>
    h.registers_of_has hmessage _ (by simp [Entity.references, hid])

theorem parentMessage?_eq {message : Message} (hmessage : model.Has ⟨.message, message⟩) :
    larger.parentMessage? message = model.parentMessage? message :=
  hext.option_map_resolve_eq fun id hid =>
    h.registers_of_has hmessage _ (by simp [Entity.references, List.mem_of_head? hid])

theorem enumParent?_eq {enum : Enum} (henum : model.Has ⟨.enum, enum⟩) :
    larger.enumParent? enum = model.enumParent? enum :=
  hext.option_map_resolve_eq fun id hid =>
    h.registers_of_has henum _ (by simp [Entity.references, Option.mem_def.mp hid])

theorem oneofOf?_eq {field : Field} (hfield : model.Has ⟨.field, field⟩) :
    larger.oneofOf? field = model.oneofOf? field :=
  hext.option_map_resolve_eq fun id hid =>
    h.registers_of_has hfield _ (by simp [Entity.references, Option.mem_def.mp hid])

/-- The file of an entity is the same in an extension. -/
theorem fileOf_eq {kind : Kind} {entity : Entity kind} (hentity : model.Has ⟨kind, entity⟩) :
    larger.fileOf entity = model.fileOf entity := by
  have hleads := fun next => @Links.has_of_leads request config model h ⟨kind, entity⟩ next hentity
  cases kind with
  | file => rfl
  | message | enum | service =>
      exact hext.resolve_eq (h.registers_of_has hentity _ List.mem_cons_self)
  | field =>
      have hparent := hleads _ (.fieldParent entity)
      show larger.resolve (larger.fieldParent entity).file = _
      rw [h.fieldParent_eq hext hentity]
      exact hext.resolve_eq (h.registers_of_has hparent _ List.mem_cons_self)
  | oneof =>
      have hparent := hleads _ (.oneofParent entity)
      show larger.resolve (larger.oneofParent entity).file = _
      rw [h.oneofParent_eq hext hentity]
      exact hext.resolve_eq (h.registers_of_has hparent _ List.mem_cons_self)
  | enumValue =>
      have hparent := hleads _ (.valueParent entity)
      show larger.resolve (larger.valueParent entity).file = _
      rw [h.valueParent_eq hext hentity]
      exact hext.resolve_eq (h.registers_of_has hparent _ List.mem_cons_self)
  | method =>
      have hparent := hleads _ (.methodParent entity)
      show larger.resolve (larger.methodParent entity).file = _
      rw [h.methodParent_eq hext hentity]
      exact hext.resolve_eq (h.registers_of_has hparent _ List.mem_cons_self)

/-- What is listed below an entity is the same in an extension. -/
theorem children_eq {kind : Kind} {entity : Entity kind} (hentity : model.Has ⟨kind, entity⟩)
    (child : Kind) : larger.children entity child = model.children entity child := by
  have hregisters := h.registers_of_has hentity
  by_cases hkind : kind = .oneof
  · subst hkind
    cases child <;> first | rfl | skip
    exact hext.resolveListed_eq fun id hid => hregisters _ (by simp [Entity.references, hid])
  · rw [larger.children_eq hkind, model.children_eq hkind]
    exact hext.resolveListed_eq fun id hid =>
      hregisters _ (Entity.mem_references_of_mem_members hid)

/-- In an extension an entity asks those that it asked before, unless it is a field with a type that
was not found before. -/
theorem consulted_eq {kind : Kind} {entity : Entity kind} (hentity : model.Has ⟨kind, entity⟩)
    (hlater : ¬ model.LinksLater larger entity) :
    larger.consulted kind entity = model.consulted kind entity := by
  have hfile := h.fileOf_eq hext hentity
  cases kind with
  | file => rfl
  | message =>
      change larger.resolve (Message.file entity) = model.resolve (Message.file entity) at hfile
      simp only [Model.consulted, hfile, h.parentMessage?_eq hext hentity]
  | enum =>
      change larger.resolve (Enum.file entity) = model.resolve (Enum.file entity) at hfile
      simp only [Model.consulted, hfile, h.enumParent?_eq hext hentity]
  | service =>
      change larger.resolve (Service.file entity) = model.resolve (Service.file entity) at hfile
      simp only [Model.consulted, hfile]
  | oneof => simp only [Model.consulted, h.oneofParent_eq hext hentity]
  | enumValue => simp only [Model.consulted, h.valueParent_eq hext hentity]
  | field =>
      obtain ⟨hmessage, henum⟩ := hext.types_eq hlater
      simp only [Model.consulted, h.fieldParent_eq hext hentity, hmessage, henum]
  | method =>
      simp only [Model.consulted, h.methodParent_eq hext hentity, h.inputOf_eq hext hentity,
        h.outputOf_eq hext hentity]

/-- In an extension an entity asks at least those that it asked before. -/
theorem consulted_subset {kind : Kind} {entity : Entity kind} (hentity : model.Has ⟨kind, entity⟩) :
    model.consulted kind entity ⊆ larger.consulted kind entity := by
  by_cases hlater : model.LinksLater larger entity
  · cases kind with
    | field =>
        obtain ⟨hmessage, henum⟩ := Extends.types_eq_none hlater
        simp [Model.consulted, h.fieldParent_eq hext hentity, hmessage, henum]
    | _ => exact hlater.elim
  · rw [h.consulted_eq hext hentity hlater]
    exact List.Subset.refl _

/-! ### Derived properties in an extension -/

variable {other : Request} {rule : Config} (hlarger : Links other rule larger)
include hlarger

theorem has_larger {entity : Sigma Entity} (hentity : model.Has entity) : larger.Has entity := by
  obtain ⟨kind, entity⟩ := entity
  obtain ⟨declaration, hmem, rfl⟩ := h.exists_of_has hentity
  exact hlarger.has_of_get? (hext.get? (h.get?_id hmem))

/-- An extension finds an entity as visible as it was, unless it finds the type of a field that was
not found before. -/
theorem isVisible_larger {entity : Sigma Entity} (hentity : model.Has entity)
    (hlater : ¬ model.LinksLater larger entity.2) :
    larger.isVisible entity.2 = model.isVisible entity.2 := by
  -- Along the entities that are asked, of which none is a field.
  induction h.acc_of_has hentity with
  | intro entity _ ih =>
      have hasked : ∀ asked ∈ model.consulted entity.1 entity.2,
          larger.isVisible asked.2 = model.isVisible asked.2 := fun asked hasked =>
        ih asked hasked (h.has_of_isConsulted hentity hasked)
          (Extends.not_linksLater_of_isConsulted hasked)
      rw [hlarger.isVisible_eq (h.has_larger hext hlarger hentity), h.isVisible_eq hentity,
        h.consulted_eq hext hentity hlater, all_congr_of_mem hasked]

/-- An extension finds an entity as deprecated as it was, unless it finds the type of a field that
was not found before. -/
theorem isDeprecated_larger {entity : Sigma Entity} (hentity : model.Has entity)
    (hlater : ¬ model.LinksLater larger entity.2) :
    larger.isDeprecated entity.2 = model.isDeprecated entity.2 := by
  induction h.acc_of_has hentity with
  | intro entity _ ih =>
      -- What is inherited is deprecation or, by the older rule, visibility.
      have hasked : ∀ asked ∈ model.consulted entity.1 entity.2,
          larger.inherits entity.1 asked = model.inherits entity.1 asked := by
        intro asked hasked
        have hhas := h.has_of_isConsulted hentity hasked
        have hnot := @Extends.not_linksLater_of_isConsulted _ larger _ _ hasked
        rw [Model.inherits, Model.inherits, hext.config, ih asked hasked hhas hnot,
          h.isVisible_larger hext hlarger hhas hnot]
      rw [hlarger.isDeprecated_eq_inherits (h.has_larger hext hlarger hentity),
        h.isDeprecated_eq_inherits hentity, h.consulted_eq hext hentity hlater,
        any_congr_of_mem hasked]

/-- What is visible in an extension was visible before. -/
theorem isVisible_of_larger {entity : Sigma Entity} (hentity : model.Has entity)
    (hvisible : larger.isVisible entity.2 = true) : model.isVisible entity.2 = true := by
  rw [hlarger.isVisible_eq (h.has_larger hext hlarger hentity), Bool.and_eq_true,
    List.all_eq_true] at hvisible
  rw [h.isVisible_eq hentity, Bool.and_eq_true, List.all_eq_true]
  refine ⟨fun asked hasked => ?_, hvisible.2⟩
  rw [← h.isVisible_larger hext hlarger (h.has_of_isConsulted hentity hasked)
    (Extends.not_linksLater_of_isConsulted hasked)]
  exact hvisible.1 asked (h.consulted_subset hext hentity hasked)

/-- What was deprecated before is deprecated in an extension. -/
theorem isDeprecated_larger_of {entity : Sigma Entity} (hentity : model.Has entity)
    (hdeprecated : model.isDeprecated entity.2 = true) : larger.isDeprecated entity.2 = true := by
  by_cases hlater : model.LinksLater larger entity.2
  · rw [h.isDeprecated_eq_inherits hentity, Bool.or_eq_true, List.any_eq_true] at hdeprecated
    rw [hlarger.isDeprecated_eq_inherits (h.has_larger hext hlarger hentity), Bool.or_eq_true,
      List.any_eq_true]
    refine hdeprecated.imp_left fun hall => ?_
    obtain ⟨asked, hasked, hinherits⟩ := hall
    refine ⟨asked, h.consulted_subset hext hentity hasked, ?_⟩
    have hhas := h.has_of_isConsulted hentity hasked
    have hnot := @Extends.not_linksLater_of_isConsulted _ larger _ _ hasked
    rw [Model.inherits, h.isDeprecated_larger hext hlarger hhas hnot,
      h.isVisible_larger hext hlarger hhas hnot, hext.config]
    exact hinherits
  · rw [h.isDeprecated_larger hext hlarger hentity hlater]
    exact hdeprecated

/-- An extension tells the same of an entity, unless it finds the type of a field that was not found
before. -/
theorem view_eq {kind : Kind} {entity : Entity kind} (hentity : model.Has ⟨kind, entity⟩)
    (hlater : ¬ model.LinksLater larger entity) : larger.view entity = model.view entity := by
  have hcommon : larger.commonView entity = model.commonView entity := by
    have hfile := h.fileOf_eq hext hentity
    have hchildren : larger.children entity = model.children entity :=
      funext (h.children_eq hext hentity)
    have hvisible := h.isVisible_larger hext hlarger hentity hlater
    have hdeprecated := h.isDeprecated_larger hext hlarger hentity hlater
    simp only [Model.commonView, Model.isGenerated, hfile, hchildren, hvisible, hdeprecated]
  cases kind with
  | file | service => exact hcommon
  | message =>
      have hroot : larger.root entity = model.root entity := by
        rw [Model.root, Model.root, h.enclosingMessages_eq hext hentity]
      simp only [Model.view, hcommon, h.parentMessage?_eq hext hentity,
        h.enclosingMessages_eq hext hentity, hroot]
  | field =>
      obtain ⟨hmessage, henum⟩ := hext.types_eq hlater
      simp only [Model.view, hcommon, h.fieldParent_eq hext hentity, h.oneofOf?_eq hext hentity,
        hmessage, henum]
  | oneof => simp only [Model.view, hcommon, h.oneofParent_eq hext hentity]
  | enum => simp only [Model.view, hcommon, h.enumParent?_eq hext hentity]
  | enumValue => simp only [Model.view, hcommon, h.valueParent_eq hext hentity]
  | method =>
      simp only [Model.view, hcommon, h.methodParent_eq hext hentity, h.inputOf_eq hext hentity,
        h.outputOf_eq hext hentity]

end Links

/-- Of its request the entity of a declaration depends on what output is wanted for, and on nothing
else. -/
theorem Request.entity_eq {before after : Request}
    (h : after.filesToGenerate = before.filesToGenerate) (config : Config) (kind : Kind) :
    @Request.entity after config kind = @Request.entity before config kind := by
  funext declaration
  rw [Request.entity, Request.entity, h]

namespace Model

variable {before after : Request} {config : Config} {model larger : Model}

/-- A model goes by the configuration with which it was made. -/
theorem config_of_ok (h : (ofRequest before config).outcome = .ok model) : model.config = config := by
  rw [outcome_ofRequest] at h
  cases hrun : (({} : Registry).run (before.steps config.extensions)).2 with
  | error error =>
      rw [hrun] at h
      cases h
  | ok registry =>
      rw [hrun] at h
      cases h
      rfl

/-- A request that has the files of another one and asks for the same output has a model that
extends that of the other. -/
theorem extends_of_subset (hbefore : (ofRequest before config).outcome = .ok model)
    (hafter : (ofRequest after config).outcome = .ok larger)
    (hgenerate : after.filesToGenerate = before.filesToGenerate) (hfiles : before.files ⊆ after.files) :
    model.Extends larger where
  config := (config_of_ok hafter).trans (config_of_ok hbefore).symm
  get? := by
    intro kind id entity hentity
    obtain ⟨declaration, hmem, rfl, rfl⟩ := ((links_of_ok hbefore).get?_iff id entity).mp hentity
    obtain ⟨file, hfile, hdeclaration⟩ := Request.mem_declarations.mp hmem
    rw [(links_of_ok hafter).get?_iff]
    exact ⟨declaration, Request.mem_declarations.mpr ⟨file, hfiles hfile, hdeclaration⟩, rfl,
      congrFun (Request.entity_eq hgenerate config kind) declaration⟩

end Model

end LinkedSchema
