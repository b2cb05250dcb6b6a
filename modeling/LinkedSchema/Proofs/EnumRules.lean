import LinkedSchema.Proofs.Independence

/-!
# The two rules for enums

Whether an enum is deprecated depends on its scopes, and the configuration says how. By the older rule
it is on account of a visible file or message around it. Nothing in a file is visible unless the file
is, so the messages have no say, however deep the enum stands.

Registration does not look at the rule, so that a request has the same declarations by both; only enums
and what asks them answer differently.

* `Model.withRule` — a model that goes by another rule;
* `Links.enumDeprecated_legacy` — enums by the older rule;
* `Model.isVisible_withRule`, `Model.isDeprecated_withRule` — what another rule leaves as it is;
* `Model.RulesDiffer`, `Model.rulesDiffer` — the models of a request by the two rules.
-/

namespace LinkedSchema

namespace Model

/-- A model that goes by a rule for enums and is otherwise the same. -/
def withRule (model : Model) (rule : EnumDeprecation) : Model :=
  { model with config := { model.config with enumDeprecation := rule } }

section

variable (model : Model) (rule : EnumDeprecation) {kind : Kind} (entity : Entity kind)

/-- What is around an entity does not depend on the rule, -/
theorem fileOf_withRule : (model.withRule rule).fileOf entity = model.fileOf entity := by
  cases kind <;> rfl

/-- and neither does what is declared in it. -/
theorem children_withRule (child : Kind) :
    (model.withRule rule).children entity child = model.children entity child := by
  cases kind <;> cases child <;> rfl

/-- No entity is visible by one rule and hidden by the other. -/
theorem isVisible_withRule : (model.withRule rule).isVisible entity = model.isVisible entity := by
  cases kind <;> rfl

theorem isGenerated_withRule :
    (model.withRule rule).isGenerated entity = model.isGenerated entity :=
  congrArg File.generate (model.fileOf_withRule rule entity)

variable {entity}

/-- Only enums are deprecated by one rule and not by the other, and what asks an enum. -/
theorem isDeprecated_withRule (h : ¬model.AsksEnum entity) :
    (model.withRule rule).isDeprecated entity = model.isDeprecated entity := by
  cases kind with
  | enum | enumValue => exact absurd trivial h
  | field =>
      have hnone : model.typeEnum? entity = none :=
        Option.eq_none_iff_forall_ne_some.mpr fun enum henum => h ⟨enum, henum⟩
      have hnoneRule : (model.withRule rule).typeEnum? entity = none := hnone
      show (model.withRule rule).fieldDeprecated entity = model.fieldDeprecated entity
      rw [fieldDeprecated, fieldDeprecated, hnone, hnoneRule]
      rfl
  | _ => rfl

end

/-- What becomes of a model if it goes by the older rule. -/
structure RulesDiffer (model legacy : Model) : Prop where
  /-- The same is listed, -/
  listing : ∀ kind, legacy.all kind = model.all kind
  /-- found, -/
  found : ∀ (kind : Kind) (id : String), legacy.get? kind id = model.get? kind id
  /-- and declared in each entity. -/
  children : ∀ {kind : Kind} (entity : Entity kind) (child : Kind),
    legacy.children entity child = model.children entity child
  /-- By the older rule an enum is deprecated if its file is visible or it says so itself, whatever is
  said of the messages around it. -/
  legacyEnum : ∀ {enum : Enum}, legacy.Has ⟨.enum, enum⟩ →
    @isDeprecated legacy .enum enum =
      (@isVisible legacy .file (@fileOf legacy .enum enum) || enum.options.deprecated)
  /-- Every entity is visible by both rules or by none, -/
  visible : ∀ {kind : Kind} (entity : Entity kind), legacy.isVisible entity = model.isVisible entity
  /-- and generated likewise. -/
  generated : ∀ {kind : Kind} (entity : Entity kind),
    legacy.isGenerated entity = model.isGenerated entity
  /-- So it is with deprecation, but for enums, their values, and fields of which the type is an enum
  that is declared. -/
  deprecated : ∀ {kind : Kind} {entity : Entity kind}, ¬model.AsksEnum entity →
    legacy.isDeprecated entity = model.isDeprecated entity

end Model

namespace Links

variable {request : Request} {config : Config} {model : Model}

/-- If a message around an enum is visible then so is the file. -/
theorem fileVisible_of_enumParent? (h : Links request config model) {enum : Enum} {parent : Message}
    (henum : model.Has ⟨.enum, enum⟩) (hparent : model.enumParent? enum = some parent)
    (hvisible : model.messageVisible parent = true) :
    Model.fileVisible (model.resolve enum.file) = true := by
  have hfile : model.resolve parent.file = model.resolve enum.file :=
    @fileOf_parent request config model h .enum enum henum parent hparent
  rw [Model.messageVisible, Bool.and_eq_true, Bool.and_eq_true, hfile] at hvisible
  exact hvisible.1.1

/-- By the older rule an enum takes after its file alone. -/
theorem enumDeprecated_legacy (h : Links request config model)
    (hrule : model.config.enumDeprecation = .legacyVisibility) {enum : Enum}
    (henum : model.Has ⟨.enum, enum⟩) :
    model.enumDeprecated enum =
      (Model.fileVisible (model.resolve enum.file) || enum.options.deprecated) := by
  have hinherited : (Model.fileVisible (model.resolve enum.file) ||
      (model.enumParent? enum).any model.messageVisible) =
        Model.fileVisible (model.resolve enum.file) := by
    cases hparent : model.enumParent? enum with
    | none => exact Bool.or_false _
    | some parent =>
        rw [Option.any_some, Bool.or_eq_left_iff_imp]
        exact h.fileVisible_of_enumParent? henum hparent
  rw [Model.enumDeprecated, hrule]
  exact congrArg (· || enum.options.deprecated) hinherited

end Links

namespace Model

variable (request : Request) (config : Config)

/-- The rule decides neither whether a request is linked nor what is registered. -/
theorem outcome_withRule (rule : EnumDeprecation) :
    (ofRequest request { config with enumDeprecation := rule }).outcome =
      (ofRequest request config).outcome.map (·.withRule rule) := by
  rw [outcome_ofRequest, outcome_ofRequest]
  cases (({} : Registry).run (request.steps config.extensions)).2 <;> rfl

/-- By both rules a request is linked or fails alike, and the two models answer alike but for the
deprecation of enums and of what asks an enum. By the older rule an enum takes after its file alone. -/
theorem rulesDiffer :
    Matching RulesDiffer (ofRequest request { config with enumDeprecation := .ancestors }).outcome
      (ofRequest request { config with enumDeprecation := .legacyVisibility }).outcome := by
  have hlegacy := outcome_withRule request config .legacyVisibility
  rw [outcome_withRule request config .ancestors, hlegacy]
  cases houtcome : (ofRequest request config).outcome with
  | error error => exact .failed error
  | ok linked =>
      rw [houtcome] at hlegacy
      have hlinks := links_of_ok hlegacy
      exact .linked {
        listing := fun _ => rfl
        found := fun _ _ => rfl
        children := (linked.withRule .ancestors).children_withRule .legacyVisibility
        legacyEnum := hlinks.enumDeprecated_legacy rfl
        visible := (linked.withRule .ancestors).isVisible_withRule .legacyVisibility
        generated := (linked.withRule .ancestors).isGenerated_withRule .legacyVisibility
        deprecated := (linked.withRule .ancestors).isDeprecated_withRule .legacyVisibility }

end Model

/-- In the example, of which the files are visible, the older rule makes the enum deprecated, and with
it the field that has it as its type. -/
theorem Model.rulesDiffer_exampleRequest :
    ∃ model legacy, (Model.ofRequest exampleRequest {}).outcome = .ok model ∧
      (Model.ofRequest exampleRequest { enumDeprecation := .legacyVisibility }).outcome =
        .ok legacy ∧
      Model.RulesDiffer model legacy ∧
      (model.all .enum).map model.isDeprecated = [false] ∧
      (legacy.all .enum).map legacy.isDeprecated = [true] ∧
      (model.all .field).map model.isDeprecated = [false, false, false] ∧
      (legacy.all .field).map legacy.isDeprecated = [false, false, true] := by
  obtain ⟨model, hmodel, -⟩ := exampleRequest_links
  obtain ⟨legacy, hlegacy, hdiffer⟩ := (Model.rulesDiffer exampleRequest {}).exists_of_ok hmodel
  let deprecated (kind : Kind) (model : Model) : List Bool := (model.all kind).map model.isDeprecated
  exact ⟨model, legacy, hmodel, hlegacy, hdiffer,
    Model.eq_of_toOption_map (deprecated .enum) hmodel (by decide +kernel),
    Model.eq_of_toOption_map (deprecated .enum) hlegacy (by decide +kernel),
    Model.eq_of_toOption_map (deprecated .field) hmodel (by decide +kernel),
    Model.eq_of_toOption_map (deprecated .field) hlegacy (by decide +kernel)⟩

end LinkedSchema
