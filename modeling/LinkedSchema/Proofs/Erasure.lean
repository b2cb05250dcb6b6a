import LinkedSchema.Proofs.Extension
import LinkedSchema.Proofs.MapOptions

/-!
# Models that differ in some of what they keep

Two models are alike up to an erasure if they hold the same entities once some of what entities keep
is erased: some options, the metadata, or the mark that output is wanted. References are never erased,
so navigation leads to entities that are alike again. A property is the same in both models as soon as
it is computed from what is not erased.

* `Erasure`, `Entity.erase`, `View.erase` — what is erased, from entities and from what a model tells
  of them;
* `Model.Alike` — models that are alike up to an erasure;
* `Model.Alike.view` — alike models tell the same of entities that are alike;
* `Model.Alike.isVisible`, `Model.Alike.isDeprecated` — when they answer alike whether an entity is
  visible or deprecated.
-/

namespace LinkedSchema

/-- What entities keep, up to what is erased: each function tells what is left. -/
structure Erasure where
  options : Options → Options := id
  metadata : Metadata → Metadata := id
  /-- What is left of the mark that output is wanted for a file. -/
  generate : Bool → Bool := id

namespace Entity

/-- The entity without what is erased. -/
def erase (erasure : Erasure) : (kind : Kind) → Entity kind → Entity kind
  | .file, file => ({ (file : File) with
      metadata := erasure.metadata (File.metadata file)
      options := erasure.options (File.options file)
      generate := erasure.generate (File.generate file) } : File)
  | .message, message => ({ (message : Message) with
      metadata := erasure.metadata (Message.metadata message)
      options := erasure.options (Message.options message) } : Message)
  | .field, field => ({ (field : Field) with
      metadata := erasure.metadata (Field.metadata field)
      options := erasure.options (Field.options field) } : Field)
  | .oneof, oneof => ({ (oneof : Oneof) with
      options := erasure.options (Oneof.options oneof) } : Oneof)
  | .enum, enum => ({ (enum : Enum) with
      metadata := erasure.metadata (Enum.metadata enum)
      options := erasure.options (Enum.options enum) } : Enum)
  | .enumValue, value => ({ (value : EnumValue) with
      metadata := erasure.metadata (EnumValue.metadata value)
      options := erasure.options (EnumValue.options value) } : EnumValue)
  | .service, service => ({ (service : Service) with
      metadata := erasure.metadata (Service.metadata service)
      options := erasure.options (Service.options service) } : Service)
  | .method, method => ({ (method : Method) with
      metadata := erasure.metadata (Method.metadata method)
      options := erasure.options (Method.options method) } : Method)

variable (erasure : Erasure) {kind : Kind} (entity : Entity kind)

@[simp]
theorem id_erase : (entity.erase erasure kind).id = entity.id := by
  cases kind <;> rfl

@[simp]
theorem isListed_erase : Model.isListed (entity.erase erasure kind) = Model.isListed entity := by
  cases kind <;> rfl

variable {erasure} in
/-- What can be read off entities without what is erased is the same for entities that are alike. -/
theorem read_eq {α : Type} {a b : Entity kind} (read : Entity kind → α)
    (hread : ∀ entity, read (entity.erase erasure kind) = read entity)
    (hab : b.erase erasure kind = a.erase erasure kind) : read b = read a := by
  rw [← hread b, hab, hread]

/-- Erasing keeps to what a listing shows. -/
theorem map_erase_filter_isListed (entities : List (Entity kind)) :
    (entities.filter Model.isListed).map (erase erasure kind) =
      (entities.map (erase erasure kind)).filter Model.isListed := by
  rw [List.filter_map]
  refine congrArg _ (List.filter_congr fun entity _ => ?_)
  exact (isListed_erase erasure entity).symm

end Entity

/-- What a model tells of an entity without what is erased, and without the answers whether the
entity is visible or deprecated. -/
def View.erase (erasure : Erasure) (view : View) : View where
  file := Entity.erase erasure .file view.file
  parent? := view.parent?.map fun parent => ⟨parent.1, Entity.erase erasure parent.1 parent.2⟩
  enclosing := view.enclosing.map (Entity.erase erasure .message)
  root? := view.root?.map (Entity.erase erasure .message)
  oneof? := view.oneof?.map (Entity.erase erasure .oneof)
  typeMessage? := view.typeMessage?.map (Entity.erase erasure .message)
  typeEnum? := view.typeEnum?.map (Entity.erase erasure .enum)
  input? := view.input?.map (Entity.erase erasure .message)
  output? := view.output?.map (Entity.erase erasure .message)
  children := fun child => (view.children child).map (Entity.erase erasure child)
  visible := false
  deprecated := false
  generated := erasure.generate view.generated

namespace Model

/-- Two models that hold the same entities, in the same order, up to what is erased. -/
structure Alike (erasure : Erasure) (model other : Model) : Prop where
  toList : ∀ kind, ((other.registry.arena kind).toList).map (Entity.erase erasure kind) =
    ((model.registry.arena kind).toList).map (Entity.erase erasure kind)
  get? : ∀ {kind : Kind} (id : Ident kind),
    ((other.registry.arena kind).get? id).map (Entity.erase erasure kind) =
      ((model.registry.arena kind).get? id).map (Entity.erase erasure kind)

namespace Alike

variable {erasure : Erasure} {model other : Model} (h : Alike erasure model other)
include h

/-! ### Navigation -/

/-- A reference leads to the same entity in both models, up to what is erased. -/
theorem resolve {kind : Kind} {id same : Ident kind} (hid : same = id) :
    Entity.erase erasure kind (other.resolve same) =
      Entity.erase erasure kind (model.resolve id) := by
  subst hid
  rw [Model.resolve, Model.resolve, Arena.resolve, Arena.resolve,
    ← Option.getD_map (Entity.erase erasure kind), h.get?, Option.getD_map]

theorem map_resolve {kind : Kind} {ids same : List (Ident kind)} (hids : same = ids) :
    (same.map other.resolve).map (Entity.erase erasure kind) =
      (ids.map model.resolve).map (Entity.erase erasure kind) := by
  subst hids
  rw [List.map_map, List.map_map]
  exact List.map_congr_left fun id _ => h.resolve rfl

theorem resolveListed {kind : Kind} {ids same : List (Ident kind)} (hids : same = ids) :
    (other.resolveListed same).map (Entity.erase erasure kind) =
      (model.resolveListed ids).map (Entity.erase erasure kind) := by
  rw [Model.resolveListed, Model.resolveListed, Entity.map_erase_filter_isListed,
    Entity.map_erase_filter_isListed, h.map_resolve hids]

theorem option_map_resolve {kind : Kind} {id? same? : Option (Ident kind)} (hid : same? = id?) :
    (same?.map other.resolve).map (Entity.erase erasure kind) =
      (id?.map model.resolve).map (Entity.erase erasure kind) := by
  subst hid
  cases same? with
  | none => rfl
  | some id => exact congrArg some (h.resolve rfl)

theorem fieldParent {a b : Field}
    (hab : Entity.erase erasure .field b = Entity.erase erasure .field a) :
    Entity.erase erasure .message (other.fieldParent b) =
      Entity.erase erasure .message (model.fieldParent a) :=
  h.resolve (Entity.read_eq Field.parent (fun _ => rfl) hab)

theorem oneofParent {a b : Oneof}
    (hab : Entity.erase erasure .oneof b = Entity.erase erasure .oneof a) :
    Entity.erase erasure .message (other.oneofParent b) =
      Entity.erase erasure .message (model.oneofParent a) :=
  h.resolve (Entity.read_eq Oneof.parent (fun _ => rfl) hab)

theorem valueParent {a b : EnumValue}
    (hab : Entity.erase erasure .enumValue b = Entity.erase erasure .enumValue a) :
    Entity.erase erasure .enum (other.valueParent b) =
      Entity.erase erasure .enum (model.valueParent a) :=
  h.resolve (Entity.read_eq EnumValue.parent (fun _ => rfl) hab)

theorem methodParent {a b : Method}
    (hab : Entity.erase erasure .method b = Entity.erase erasure .method a) :
    Entity.erase erasure .service (other.methodParent b) =
      Entity.erase erasure .service (model.methodParent a) :=
  h.resolve (Entity.read_eq Method.parent (fun _ => rfl) hab)

theorem inputOf {a b : Method}
    (hab : Entity.erase erasure .method b = Entity.erase erasure .method a) :
    Entity.erase erasure .message (other.inputOf b) =
      Entity.erase erasure .message (model.inputOf a) :=
  h.resolve (Entity.read_eq Method.input (fun _ => rfl) hab)

theorem outputOf {a b : Method}
    (hab : Entity.erase erasure .method b = Entity.erase erasure .method a) :
    Entity.erase erasure .message (other.outputOf b) =
      Entity.erase erasure .message (model.outputOf a) :=
  h.resolve (Entity.read_eq Method.output (fun _ => rfl) hab)

/-- The file of an entity is the same in both models, up to what is erased. -/
theorem fileOf {kind : Kind} {a b : Entity kind}
    (hab : Entity.erase erasure kind b = Entity.erase erasure kind a) :
    Entity.erase erasure .file (other.fileOf b) = Entity.erase erasure .file (model.fileOf a) := by
  cases kind with
  | file => exact hab
  | message => exact h.resolve (Entity.read_eq Message.file (fun _ => rfl) hab)
  | enum => exact h.resolve (Entity.read_eq Enum.file (fun _ => rfl) hab)
  | service => exact h.resolve (Entity.read_eq Service.file (fun _ => rfl) hab)
  | field => exact h.resolve (Entity.read_eq Message.file (fun _ => rfl) (h.fieldParent hab))
  | oneof => exact h.resolve (Entity.read_eq Message.file (fun _ => rfl) (h.oneofParent hab))
  | enumValue => exact h.resolve (Entity.read_eq Enum.file (fun _ => rfl) (h.valueParent hab))
  | method => exact h.resolve (Entity.read_eq Service.file (fun _ => rfl) (h.methodParent hab))

theorem children {kind : Kind} {a b : Entity kind}
    (hab : Entity.erase erasure kind b = Entity.erase erasure kind a) (child : Kind) :
    (other.children b child).map (Entity.erase erasure child) =
      (model.children a child).map (Entity.erase erasure child) := by
  by_cases hkind : kind = .oneof
  · subst hkind
    cases child <;> first | rfl | skip
    exact h.resolveListed (Entity.read_eq Oneof.fields (fun _ => rfl) hab)
  · have hmembers : b.members child = a.members child :=
      Entity.read_eq (Entity.members · child) (fun _ => by cases kind <;> cases child <;> rfl) hab
    rw [other.children_eq hkind, model.children_eq hkind]
    exact h.resolveListed hmembers

theorem typeMessage? {a b : Field}
    (hab : Entity.erase erasure .field b = Entity.erase erasure .field a) :
    (other.typeMessage? b).map (Entity.erase erasure .message) =
      (model.typeMessage? a).map (Entity.erase erasure .message) := by
  have htype : b.typeRef = a.typeRef := Entity.read_eq Field.typeRef (fun _ => rfl) hab
  rw [Model.typeMessage?, Model.typeMessage?, htype]
  cases a.typeRef with
  | message id => exact @h.get? .message id
  | scalar | enum => rfl

theorem typeEnum? {a b : Field}
    (hab : Entity.erase erasure .field b = Entity.erase erasure .field a) :
    (other.typeEnum? b).map (Entity.erase erasure .enum) =
      (model.typeEnum? a).map (Entity.erase erasure .enum) := by
  have htype : b.typeRef = a.typeRef := Entity.read_eq Field.typeRef (fun _ => rfl) hab
  rw [Model.typeEnum?, Model.typeEnum?, htype]
  cases a.typeRef with
  | enum id => exact @h.get? .enum id
  | scalar | message => rfl

theorem root {a b : Message}
    (hab : Entity.erase erasure .message b = Entity.erase erasure .message a) :
    Entity.erase erasure .message (other.root b) =
      Entity.erase erasure .message (model.root a) := by
  have henclosing := h.map_resolve (Entity.read_eq Message.enclosing (fun _ => rfl) hab)
  rw [Model.root, Model.root, ← List.getLastD_map (f := Entity.erase erasure .message),
    ← List.getLastD_map (f := Entity.erase erasure .message)]
  exact congrArg₂ List.getLastD henclosing hab

/-- Alike models tell the same of entities that are alike, up to what is erased. -/
theorem view {kind : Kind} {a b : Entity kind}
    (hab : Entity.erase erasure kind b = Entity.erase erasure kind a) :
    (other.view b).erase erasure = (model.view a).erase erasure := by
  have hfile := h.fileOf hab
  have hgenerated : erasure.generate (other.isGenerated b) =
      erasure.generate (model.isGenerated a) := congrArg File.generate hfile
  have hchildren (child : Kind) := h.children hab child
  -- What is around an entity goes into the view together with its kind.
  have hparent {outer : Kind} {owner? same? : Option (Entity outer)}
      (howner : same?.map (Entity.erase erasure outer) =
        owner?.map (Entity.erase erasure outer)) :
      (same?.map (Sigma.mk outer)).map
          (fun parent => (⟨parent.1, Entity.erase erasure parent.1 parent.2⟩ : Sigma Entity)) =
        (owner?.map (Sigma.mk outer)).map
          fun parent => ⟨parent.1, Entity.erase erasure parent.1 parent.2⟩ := by
    have hmap := congrArg (Option.map (Sigma.mk outer)) howner
    rwa [Option.map_map, Option.map_map] at hmap ⊢
  cases kind with
  | file | service =>
      simp only [View.erase, Model.view, commonView, hfile, hgenerated, hchildren]
  | message =>
      have hparent := hparent
        (h.option_map_resolve (Entity.read_eq Message.parent? (fun _ => rfl) hab))
      have henclosing := h.map_resolve (Entity.read_eq Message.enclosing (fun _ => rfl) hab)
      simp only [View.erase, Model.view, commonView, hfile, hgenerated, hchildren,
        parentMessage?, hparent, enclosingMessages, henclosing, Option.map_some, h.root hab]
  | field =>
      have honeof := h.option_map_resolve (Entity.read_eq Field.oneof (fun _ => rfl) hab)
      simp only [View.erase, Model.view, commonView, hfile, hgenerated, hchildren, Option.map_some,
        h.fieldParent hab, oneofOf?, honeof, h.typeMessage? hab, h.typeEnum? hab]
  | oneof =>
      simp only [View.erase, Model.view, commonView, hfile, hgenerated, hchildren, Option.map_some,
        h.oneofParent hab]
  | enum =>
      have hparent := hparent
        (h.option_map_resolve (Entity.read_eq Enum.parent (fun _ => rfl) hab))
      simp only [View.erase, Model.view, commonView, hfile, hgenerated, hchildren, enumParent?,
        hparent]
  | enumValue =>
      simp only [View.erase, Model.view, commonView, hfile, hgenerated, hchildren, Option.map_some,
        h.valueParent hab]
  | method =>
      simp only [View.erase, Model.view, commonView, hfile, hgenerated, hchildren, Option.map_some,
        h.methodParent hab, h.inputOf hab, h.outputOf hab]

end Alike

end Model

/-! ## Derived properties -/

/-- Conditions that agree on elements with the same image agree on lists with the same images. -/
theorem all_eq_of_map_eq {α β : Type} {f : α → β} {p q : α → Bool}
    (hpq : ∀ a b, f b = f a → q b = p a) {items others : List α} (h : others.map f = items.map f) :
    others.all q = items.all p := by
  induction items generalizing others with
  | nil =>
      rw [List.map_nil, List.map_eq_nil_iff] at h
      rw [h, List.all_nil, List.all_nil]
  | cons item items ih =>
      obtain ⟨other, others, rfl, hhead, htail⟩ := List.map_eq_cons_iff.mp h
      rw [List.all_cons, List.all_cons, hpq item other hhead, ih htail]

theorem any_eq_of_map_eq {α β : Type} {f : α → β} {p q : α → Bool}
    (hpq : ∀ a b, f b = f a → q b = p a) {items others : List α} (h : others.map f = items.map f) :
    others.any q = items.any p := by
  have hnot (a b : α) (hab : f b = f a) : (!q b) = !p a := congrArg not (hpq a b hab)
  rw [List.any_eq_not_all_not, List.any_eq_not_all_not, all_eq_of_map_eq hnot h]

theorem option_all_eq_of_map_eq {α β : Type} {f : α → β} {p q : α → Bool}
    (hpq : ∀ a b, f b = f a → q b = p a) {item? other? : Option α}
    (h : other?.map f = item?.map f) : other?.all q = item?.all p := by
  cases item? with
  | none =>
      rw [Option.map_none, Option.map_eq_none_iff] at h
      rw [h]
      rfl
  | some item =>
      obtain ⟨other, rfl, hmap⟩ := Option.map_eq_some_iff.mp h
      exact hpq item other hmap

theorem option_any_eq_of_map_eq {α β : Type} {f : α → β} {p q : α → Bool}
    (hpq : ∀ a b, f b = f a → q b = p a) {item? other? : Option α}
    (h : other?.map f = item?.map f) : other?.any q = item?.any p := by
  cases item? with
  | none =>
      rw [Option.map_none, Option.map_eq_none_iff] at h
      rw [h]
      rfl
  | some item =>
      obtain ⟨other, rfl, hmap⟩ := Option.map_eq_some_iff.mp h
      exact hpq item other hmap

namespace Model

/-- An entity is an enum, or asks one for its deprecation. -/
def AsksEnum (model : Model) : {kind : Kind} → Entity kind → Prop
  | .enum, _ | .enumValue, _ => True
  | .field, field => ∃ enum, model.typeEnum? field = some enum
  | .file, _ | .message, _ | .oneof, _ | .service, _ | .method, _ => False

namespace Alike

variable {erasure : Erasure} {model other : Model} (h : Alike erasure model other)
include h

section Visible

variable (hpublic : ∀ metadata, (erasure.metadata metadata).isPublic = metadata.isPublic)
include hpublic

theorem messageVisible {a b : Message}
    (hab : Entity.erase erasure .message b = Entity.erase erasure .message a) :
    other.messageVisible b = model.messageVisible a := by
  have hfile := Entity.read_eq fileVisible (fun _ => hpublic _)
    (h.resolve (Entity.read_eq Message.file (fun _ => rfl) hab))
  have hself (c d : Message) :=
    @Entity.read_eq erasure .message _ c d (fun message : Message => message.metadata.isPublic)
      fun _ => hpublic _
  have henclosing := h.map_resolve (Entity.read_eq Message.enclosing (fun _ => rfl) hab)
  rw [Model.messageVisible, Model.messageVisible, hfile, hself a b hab, enclosingMessages,
    enclosingMessages, all_eq_of_map_eq hself henclosing]

theorem enumVisible {a b : Enum}
    (hab : Entity.erase erasure .enum b = Entity.erase erasure .enum a) :
    other.enumVisible b = model.enumVisible a := by
  have hfile := Entity.read_eq fileVisible (fun _ => hpublic _)
    (h.resolve (Entity.read_eq Enum.file (fun _ => rfl) hab))
  have hself := Entity.read_eq (fun enum : Enum => enum.metadata.isPublic)
    (fun _ => hpublic _) hab
  have hparent := h.option_map_resolve (Entity.read_eq Enum.parent (fun _ => rfl) hab)
  rw [Model.enumVisible, Model.enumVisible, hfile, hself, enumParent?, enumParent?,
    option_all_eq_of_map_eq (fun _ _ => h.messageVisible hpublic) hparent]

theorem serviceVisible {a b : Service}
    (hab : Entity.erase erasure .service b = Entity.erase erasure .service a) :
    other.serviceVisible b = model.serviceVisible a := by
  have hfile := Entity.read_eq fileVisible (fun _ => hpublic _)
    (h.resolve (Entity.read_eq Service.file (fun _ => rfl) hab))
  have hself := Entity.read_eq (fun service : Service => service.metadata.isPublic)
    (fun _ => hpublic _) hab
  rw [Model.serviceVisible, Model.serviceVisible, hfile, hself]

/-- If it cannot be seen that something is erased from metadata, then alike models answer alike
whether entities are visible. -/
theorem isVisible {kind : Kind} {a b : Entity kind}
    (hab : Entity.erase erasure kind b = Entity.erase erasure kind a) :
    other.isVisible b = model.isVisible a := by
  cases kind with
  | file => exact Entity.read_eq fileVisible (fun _ => hpublic _) hab
  | message => exact h.messageVisible hpublic hab
  | enum => exact h.enumVisible hpublic hab
  | service => exact h.serviceVisible hpublic hab
  | oneof => exact h.messageVisible hpublic (h.oneofParent hab)
  | enumValue =>
      have hself := Entity.read_eq (fun value : EnumValue => value.metadata.isPublic)
        (fun _ => hpublic _) hab
      show other.valueVisible b = model.valueVisible a
      rw [valueVisible, valueVisible, h.enumVisible hpublic (h.valueParent hab), hself]
  | field =>
      have hself := Entity.read_eq (fun field : Field => field.metadata.isPublic)
        (fun _ => hpublic _) hab
      show other.fieldVisible b = model.fieldVisible a
      rw [fieldVisible, fieldVisible, h.messageVisible hpublic (h.fieldParent hab), hself,
        option_all_eq_of_map_eq (fun _ _ => h.messageVisible hpublic) (h.typeMessage? hab),
        option_all_eq_of_map_eq (fun _ _ => h.enumVisible hpublic) (h.typeEnum? hab)]
  | method =>
      have hself := Entity.read_eq (fun method : Method => method.metadata.isPublic)
        (fun _ => hpublic _) hab
      show other.methodVisible b = model.methodVisible a
      rw [methodVisible, methodVisible, h.serviceVisible hpublic (h.methodParent hab), hself,
        h.messageVisible hpublic (h.inputOf hab), h.messageVisible hpublic (h.outputOf hab)]

end Visible

section Deprecated

variable (hdeprecated : ∀ options, (erasure.options options).deprecated = options.deprecated)
include hdeprecated

theorem messageDeprecated {a b : Message}
    (hab : Entity.erase erasure .message b = Entity.erase erasure .message a) :
    other.messageDeprecated b = model.messageDeprecated a := by
  have hfile := Entity.read_eq fileDeprecated (fun _ => hdeprecated _)
    (h.resolve (Entity.read_eq Message.file (fun _ => rfl) hab))
  have hself (c d : Message) :=
    @Entity.read_eq erasure .message _ c d (fun message : Message => message.options.deprecated)
      fun _ => hdeprecated _
  have henclosing := h.map_resolve (Entity.read_eq Message.enclosing (fun _ => rfl) hab)
  rw [Model.messageDeprecated, Model.messageDeprecated, hfile, hself a b hab, enclosingMessages,
    enclosingMessages, any_eq_of_map_eq hself henclosing]

/-- By the rule that asks the scopes around them, enums are alike in deprecation. -/
theorem enumDeprecated_of_ancestors (hmodel : model.config.enumDeprecation = .ancestors)
    (hother : other.config.enumDeprecation = .ancestors) {a b : Enum}
    (hab : Entity.erase erasure .enum b = Entity.erase erasure .enum a) :
    other.enumDeprecated b = model.enumDeprecated a := by
  have hfile := Entity.read_eq fileDeprecated (fun _ => hdeprecated _)
    (h.resolve (Entity.read_eq Enum.file (fun _ => rfl) hab))
  have hself := Entity.read_eq (fun enum : Enum => enum.options.deprecated)
    (fun _ => hdeprecated _) hab
  have hparent := h.option_map_resolve (Entity.read_eq Enum.parent (fun _ => rfl) hab)
  simp only [Model.enumDeprecated, hmodel, hother, hfile, hself, enumParent?,
    option_any_eq_of_map_eq (fun _ _ => h.messageDeprecated hdeprecated) hparent]

/-- If visibility is alike, then enums are alike in deprecation by every rule. -/
theorem enumDeprecated_of_public
    (hpublic : ∀ metadata, (erasure.metadata metadata).isPublic = metadata.isPublic)
    (hrule : other.config.enumDeprecation = model.config.enumDeprecation) {a b : Enum}
    (hab : Entity.erase erasure .enum b = Entity.erase erasure .enum a) :
    other.enumDeprecated b = model.enumDeprecated a := by
  cases hmodel : model.config.enumDeprecation with
  | ancestors => exact h.enumDeprecated_of_ancestors hdeprecated hmodel (hrule.trans hmodel) hab
  | legacyVisibility =>
      have hfile := Entity.read_eq fileVisible (fun _ => hpublic _)
        (h.resolve (Entity.read_eq Enum.file (fun _ => rfl) hab))
      have hself := Entity.read_eq (fun enum : Enum => enum.options.deprecated)
        (fun _ => hdeprecated _) hab
      have hparent := h.option_map_resolve (Entity.read_eq Enum.parent (fun _ => rfl) hab)
      simp only [Model.enumDeprecated, hrule, hmodel, hfile, hself, enumParent?,
        option_any_eq_of_map_eq (fun _ _ => h.messageVisible hpublic) hparent]

theorem serviceDeprecated {a b : Service}
    (hab : Entity.erase erasure .service b = Entity.erase erasure .service a) :
    other.serviceDeprecated b = model.serviceDeprecated a := by
  have hfile := Entity.read_eq fileDeprecated (fun _ => hdeprecated _)
    (h.resolve (Entity.read_eq Service.file (fun _ => rfl) hab))
  have hself := Entity.read_eq (fun service : Service => service.options.deprecated)
    (fun _ => hdeprecated _) hab
  rw [Model.serviceDeprecated, Model.serviceDeprecated, hfile, hself]

/-- If it cannot be seen that something is erased from options, then alike models answer alike
whether entities are deprecated, provided that they do so for enums where enums are asked. -/
theorem isDeprecated {kind : Kind} {a b : Entity kind}
    (hab : Entity.erase erasure kind b = Entity.erase erasure kind a)
    (henum : model.AsksEnum a → ∀ c d : Enum,
      Entity.erase erasure .enum d = Entity.erase erasure .enum c →
        other.enumDeprecated d = model.enumDeprecated c) :
    other.isDeprecated b = model.isDeprecated a := by
  cases kind with
  | file => exact Entity.read_eq fileDeprecated (fun _ => hdeprecated _) hab
  | message => exact h.messageDeprecated hdeprecated hab
  | enum => exact henum trivial a b hab
  | service => exact h.serviceDeprecated hdeprecated hab
  | oneof => exact h.messageDeprecated hdeprecated (h.oneofParent hab)
  | enumValue =>
      have hself := Entity.read_eq (fun value : EnumValue => value.options.deprecated)
        (fun _ => hdeprecated _) hab
      show other.valueDeprecated b = model.valueDeprecated a
      rw [valueDeprecated, valueDeprecated, henum trivial _ _ (h.valueParent hab), hself]
  | field =>
      have hself := Entity.read_eq (fun field : Field => field.options.deprecated)
        (fun _ => hdeprecated _) hab
      have htype : (other.typeEnum? b).any other.enumDeprecated =
          (model.typeEnum? a).any model.enumDeprecated := by
        have htypes := h.typeEnum? hab
        cases htype : model.typeEnum? a with
        | some enum => exact option_any_eq_of_map_eq (henum ⟨enum, htype⟩) (htype ▸ htypes)
        | none =>
            rw [htype, Option.map_none, Option.map_eq_none_iff] at htypes
            rw [htypes]
            rfl
      show other.fieldDeprecated b = model.fieldDeprecated a
      rw [fieldDeprecated, fieldDeprecated, h.messageDeprecated hdeprecated (h.fieldParent hab),
        hself, htype,
        option_any_eq_of_map_eq (fun _ _ => h.messageDeprecated hdeprecated) (h.typeMessage? hab)]
  | method =>
      have hself := Entity.read_eq (fun method : Method => method.options.deprecated)
        (fun _ => hdeprecated _) hab
      show other.methodDeprecated b = model.methodDeprecated a
      rw [methodDeprecated, methodDeprecated, h.serviceDeprecated hdeprecated (h.methodParent hab),
        hself, h.messageDeprecated hdeprecated (h.inputOf hab),
        h.messageDeprecated hdeprecated (h.outputOf hab)]

end Deprecated

end Alike

end Model

end LinkedSchema
