import LinkedSchema.Proofs.Registration

/-!
# Linked requests

A run over the steps of a request succeeds exactly if no check fails, and then the registry holds
the entities of all declarations. This joins what is said of declarations with what is said of
models, and everything about linked models starts from here.

* `Informed` — that methods are checked against the messages introduced before them;
* `Registry.Holds.run_checks` — a run over the steps of checks;
* `Links`, `Model.links_of_ok` — what a model holds of the request that it was made of;
* `Model.ofRequest_outcome` — which requests are linked, and how linking fails;
* `Links.get?_iff`, `Links.resolve_id`, `Links.map_resolve_id` — lookups in terms of declarations.
-/

namespace LinkedSchema

/-! ## What methods are checked against -/

/-- The messages that a method may name are those introduced by the checks before it. -/
def Informed (earlier : List Check) : List Check → Prop
  | [] => True
  | check :: checks =>
      (∀ known method role, check = .methodType known method role →
        known = introduced .message earlier) ∧
      Informed (earlier ++ [check]) checks

theorem informed_append {earlier checks more : List Check} :
    Informed earlier (checks ++ more) ↔
      Informed earlier checks ∧ Informed (earlier ++ checks) more := by
  induction checks generalizing earlier with
  | nil => simp [Informed]
  | cons check checks ih => simp [Informed, ih, and_assoc]

/-- Checks that introduce no messages are informed if they know those introduced before them. -/
theorem informed_of_introduced_eq_nil {earlier checks : List Check}
    (hintroduced : introduced .message checks = [])
    (hknown : ∀ known method role, .methodType known method role ∈ checks →
      known = introduced .message earlier) : Informed earlier checks := by
  induction checks generalizing earlier with
  | nil => trivial
  | cons check checks ih =>
      have hsplit : introduced .message [check] = [] ∧ introduced .message checks = [] := by
        rw [← List.append_eq_nil_iff, ← introduced_append]
        exact hintroduced
      refine ⟨fun known method role h => hknown known method role (h ▸ List.mem_cons_self),
        ih hsplit.2 fun known method role h => ?_⟩
      rw [introduced_append, hsplit.1, List.append_nil]
      exact hknown known method role (List.mem_cons_of_mem _ h)

/-- Checks without methods are informed. -/
theorem informed_of_not_mem {earlier checks : List Check}
    (h : ∀ known method role, .methodType known method role ∉ checks) :
    Informed earlier checks := by
  induction checks generalizing earlier with
  | nil => trivial
  | cons check checks ih =>
      constructor
      · rintro known method role rfl
        exact absurd List.mem_cons_self (h known method role)
      · exact ih fun known method role hmem => h known method role (List.mem_cons_of_mem _ hmem)

/-- The methods of a file know the messages of the file besides the earlier ones. -/
theorem FileDescriptor.informed_checks (file : FileDescriptor) (earlier : List Check) :
    Informed earlier
      (file.checks (introduced .message earlier ++ file.declarations .message)) := by
  generalize hknown : introduced .message earlier ++ file.declarations .message = known
  rw [checks, ← List.cons_append, informed_append]
  constructor
  · refine informed_of_not_mem fun names method role h => ?_
    simp [Declaration.methodType_not_mem_messageChecks, Declaration.enumChecks] at h
  · refine informed_of_introduced_eq_nil
      (Declaration.introduced_services_of_ne (by decide) (by decide) _ _) ?_
    intro names method role h
    have hmem : .methodType names method role ∈ file.checks known := by
      rw [checks, ← List.cons_append]
      exact List.mem_append_right _ h
    -- What the services introduce is left out on both sides, since it contains no message.
    have hall := file.introduced_checks known .message
    rw [checks, ← List.cons_append, introduced_append,
      Declaration.introduced_services_of_ne (by decide) (by decide), List.append_nil] at hall
    rw [(methodType_mem_checks.mp hmem).1, introduced_append, hall, hknown]

/-- The checks of the files behind given ones are informed, if the earlier checks introduced the
messages of those. -/
theorem Request.informed_checks_from {request : Request} (files : List FileDescriptor) :
    ∀ {before : List FileDescriptor} {earlier : List Check}, request.files = before ++ files →
      introduced .message earlier = before.flatMap (·.declarations .message) →
      Informed earlier ((files.zipIdx before.length).flatMap fun (file, position) =>
        file.checks (request.messagesUpTo position)) := by
  induction files with
  | nil =>
      intro before earlier hfiles hearlier
      trivial
  | cons file files ih =>
      intro before earlier hfiles hearlier
      -- The file stands at the position that is the number of files before it.
      have hknown : request.messagesUpTo before.length =
          introduced .message earlier ++ file.declarations .message := by
        rw [messagesUpTo, hfiles, List.take_length_add_append, List.flatMap_append, hearlier]
        simp
      have hfile := file.informed_checks earlier
      rw [← hknown] at hfile
      have hrest := @ih (before ++ [file])
        (earlier ++ file.checks (request.messagesUpTo before.length)) (by simp [hfiles])
        (by simp [hearlier, FileDescriptor.introduced_checks])
      rw [List.length_append, List.length_singleton] at hrest
      rw [List.zipIdx_cons, List.flatMap_cons, informed_append]
      exact ⟨hfile, hrest⟩

/-- All methods of a request are checked against the messages introduced before them. -/
theorem Request.informed_checks (request : Request) : Informed [] request.checks :=
  @Request.informed_checks_from request request.files [] [] rfl rfl

/-! ## Runs over checks -/

section

variable (extensions : ExtensionNames) (filesToGenerate : List String)

/-- An attempt to register a declaration ends like one that reports nothing. -/
theorem declareWithMetadata_endAlike (kind : Kind) (extension : String) (options : Options)
    (entity : Metadata → Entity kind) :
    EndAlike (declareWithMetadata kind extension options entity)
      [.declare kind (entity (Metadata.effective options extension))] := by
  intro registry
  unfold declareWithMetadata Metadata.effective
  cases Metadata.read options extension with
  | none => rfl
  | some reading => cases reading <;> rfl

/-- The steps of the check of an identifier end like the registration of the entity. -/
theorem Check.steps_distinct_endAlike {kind : Kind} (declaration : Declaration kind) :
    EndAlike (Check.steps extensions filesToGenerate (.distinct kind declaration))
      [.declare kind (declaration.entity extensions filesToGenerate)] := by
  have hend (extension : String) := declareWithMetadata_endAlike kind extension declaration.options
    (declaration.entityWith extensions filesToGenerate)
  simp only [Declaration.entity, Declaration.metadata, Check.steps]
  cases extensions.ofKind? kind with
  | none => exact fun _ => rfl
  | some extension => exact hend extension

/-- The entities as which the declarations introduced by checks are registered. -/
def entitiesOf (checks : List Check) (kind : Kind) : List (Entity kind) :=
  (introduced kind checks).map (Declaration.entity extensions filesToGenerate)

theorem map_id_entitiesOf (checks : List Check) (kind : Kind) :
    (entitiesOf extensions filesToGenerate checks kind).map Entity.id =
      (introduced kind checks).map Declaration.id := by
  rw [entitiesOf, List.map_map]
  exact List.map_congr_left fun declaration _ =>
    declaration.id_entity extensions filesToGenerate

theorem entitiesOf_append_distinct {kind : Kind} (checks : List Check)
    (declaration : Declaration kind) :
    entitiesOf extensions filesToGenerate (checks ++ [.distinct kind declaration]) =
      Function.update (entitiesOf extensions filesToGenerate checks) kind
        (entitiesOf extensions filesToGenerate checks kind ++
          [declaration.entity extensions filesToGenerate]) := by
  funext other
  by_cases hkind : other = kind
  · subst hkind
    simp [entitiesOf]
  · rw [Function.update_of_ne hkind, entitiesOf, introduced_append,
      introduced_distinct_of_ne (Ne.symm hkind), introduced_nil, List.append_nil, entitiesOf]

/-- Steps taken from a registry end with an error, if one is given, and otherwise with a registry
that holds everything that some checks introduce. -/
def Registry.EndsWith (registry : Registry) (steps : List Step) (error? : Option LinkError)
    (checks : List Check) : Prop :=
  match error? with
  | some error => (registry.run steps).2 = .error error
  | none => ∃ next, (registry.run steps).2 = .ok next ∧
      next.Holds (entitiesOf extensions filesToGenerate checks)

section

variable {extensions filesToGenerate} {registry : Registry} {earlier : List Check}

/-- A check of an identifier fails if the identifier is taken, and registers the declaration
otherwise. -/
theorem Registry.Holds.run_distinct {kind : Kind}
    (h : registry.Holds (entitiesOf extensions filesToGenerate earlier))
    (declaration : Declaration kind) :
    registry.EndsWith extensions filesToGenerate
      (Check.steps extensions filesToGenerate (.distinct kind declaration))
      ((Check.distinct kind declaration).error? earlier)
      (earlier ++ [.distinct kind declaration]) := by
  have hid := declaration.id_entity extensions filesToGenerate
  have hids := map_id_entitiesOf extensions filesToGenerate earlier kind
  have hend := Check.steps_distinct_endAlike extensions filesToGenerate declaration registry
  simp only [Registry.EndsWith, Check.error?, hend]
  by_cases htaken : declaration.id ∈ (introduced kind earlier).map Declaration.id
  · have hperform := h.perform_declare_taken (by rw [hids, hid]; exact htaken)
    rw [hid] at hperform
    rw [if_pos htaken, run_cons_of_error [] hperform]
  · obtain ⟨next, hperform, hnext⟩ :=
      h.perform_declare_free (by rw [hids, hid]; exact htaken)
    rw [if_neg htaken]
    refine ⟨next, ?_, ?_⟩
    · rw [run_cons_of_ok [] (by simp) hperform]
      rfl
    · rw [entitiesOf_append_distinct]
      exact hnext

/-- A check of a oneof depends on the field alone, and registers nothing. -/
theorem Registry.Holds.run_oneofIndex
    (h : registry.Holds (entitiesOf extensions filesToGenerate earlier))
    (field : Declaration .field) :
    registry.EndsWith extensions filesToGenerate
      (Check.steps extensions filesToGenerate (.oneofIndex field))
      ((Check.oneofIndex field).error? earlier) (earlier ++ [.oneofIndex field]) := by
  have hsame : entitiesOf extensions filesToGenerate (earlier ++ [.oneofIndex field]) =
      entitiesOf extensions filesToGenerate earlier := by
    funext kind
    simp [entitiesOf]
  simp only [Registry.EndsWith, Check.error?, Check.steps, hsame]
  cases field.oneofIndex with
  | none => exact ⟨registry, rfl, h⟩
  | some index =>
      dsimp only
      by_cases hrange : 0 ≤ index ∧ index < field.oneofCount
      · rw [if_pos hrange, if_pos hrange]
        exact ⟨registry, rfl, h⟩
      · rw [if_neg hrange, if_neg hrange]
        rfl

/-- A check of the type of a method looks the type up among the messages so far, and registers
nothing. -/
theorem Registry.Holds.run_methodType
    (h : registry.Holds (entitiesOf extensions filesToGenerate earlier))
    (method : Declaration .method) (role : Role) :
    registry.EndsWith extensions filesToGenerate
      (Check.steps extensions filesToGenerate
        (.methodType (introduced .message earlier) method role))
      ((Check.methodType (introduced .message earlier) method role).error? earlier)
      (earlier ++ [.methodType (introduced .message earlier) method role]) := by
  have hsame : entitiesOf extensions filesToGenerate
      (earlier ++ [.methodType (introduced .message earlier) method role]) =
      entitiesOf extensions filesToGenerate earlier := by
    funext kind
    simp [entitiesOf]
  -- The registry compares identifiers and the check compares texts.
  have hmem : (⟨method.typeName role⟩ : Ident .message) ∈
        (entitiesOf extensions filesToGenerate earlier .message).map Entity.id ↔
      method.typeName role ∈ (introduced .message earlier).map (·.id.text) := by
    rw [map_id_entitiesOf]
    simp only [List.mem_map]
    exact exists_congr fun message => and_congr_right fun _ =>
      ⟨congrArg Ident.text, fun htext => congrArg Ident.mk htext⟩
  have hperform := h.perform_require method.id role ⟨method.typeName role⟩
  simp only [hmem] at hperform
  simp only [Registry.EndsWith, Check.error?, Check.steps, hsame]
  by_cases hknown : method.typeName role ∈ (introduced .message earlier).map (·.id.text)
  · rw [if_pos hknown] at hperform ⊢
    refine ⟨registry, ?_, h⟩
    rw [run_cons_of_ok [] (by simp) hperform]
    rfl
  · rw [if_neg hknown] at hperform ⊢
    rw [run_cons_of_error [] hperform, entitiesOf, List.length_map]

/-- A run over the steps of checks ends with the error of the first check that fails, or registers
everything that the checks introduce. -/
theorem Registry.Holds.run_checks (checks : List Check)
    (h : registry.Holds (entitiesOf extensions filesToGenerate earlier))
    (hinformed : Informed earlier checks) :
    registry.EndsWith extensions filesToGenerate
      (checks.flatMap (Check.steps extensions filesToGenerate)) (firstError earlier checks)
      (earlier ++ checks) := by
  induction checks generalizing registry earlier with
  | nil =>
      rw [List.append_nil]
      exact ⟨registry, rfl, h⟩
  | cons check checks ih =>
      have hcheck : registry.EndsWith extensions filesToGenerate
          (check.steps extensions filesToGenerate) (check.error? earlier)
          (earlier ++ [check]) := by
        cases check with
        | distinct kind declaration => exact h.run_distinct declaration
        | oneofIndex field => exact h.run_oneofIndex field
        | methodType known method role =>
            obtain rfl := hinformed.1 known method role rfl
            exact h.run_methodType method role
      rw [List.flatMap_cons, firstError]
      cases herror : check.error? earlier with
      | some error =>
          rw [herror, Registry.EndsWith] at hcheck
          rw [Registry.EndsWith, run_append_snd, hcheck]
      | none =>
          rw [herror] at hcheck
          obtain ⟨next, hrun, hnext⟩ := hcheck
          have hrest := ih hnext hinformed.2
          rw [List.append_assoc, List.singleton_append] at hrest
          -- The run goes on from where the first check left it.
          have hgoes : (registry.run (check.steps extensions filesToGenerate ++
              checks.flatMap (Check.steps extensions filesToGenerate))).2 =
              (next.run (checks.flatMap (Check.steps extensions filesToGenerate))).2 := by
            rw [run_append_snd, hrun]
          unfold Registry.EndsWith
          rw [hgoes]
          exact hrest

end

end

/-! ## Models of requests -/

/-- The entity as which a declaration of a request is registered. -/
abbrev Request.entity (request : Request) (config : Config) {kind : Kind}
    (declaration : Declaration kind) : Entity kind :=
  declaration.entity config.extensions request.filesToGenerate

/-- A model of a request: the request is consistent, and the registry holds each of its declarations
in order. -/
structure Links (request : Request) (config : Config) (model : Model) : Prop where
  consistent : request.Consistent
  holds : model.registry.Holds fun kind => (request.declarations kind).map (request.entity config)

section

variable (request : Request) (config : Config)

/-- The outcome of a request is that of the run over its steps. -/
theorem Model.outcome_ofRequest :
    (Model.ofRequest request config).outcome =
      match (({} : Registry).run (request.steps config.extensions)).2 with
      | .error error => .error error
      | .ok registry => .ok {
          registry, config
          parameter := request.parameter.getD ""
          filesToGenerate := request.filesToGenerate
          compilerVersion := request.compilerVersion } := by
  unfold Model.ofRequest
  rcases ({} : Registry).run (request.steps config.extensions) with ⟨events, outcome⟩
  cases outcome <;> rfl

/-- The run over the steps of a request ends with the error of the first check that fails, or with a
registry of all declarations. -/
theorem Request.run_steps :
    ({} : Registry).EndsWith config.extensions request.filesToGenerate
      (request.steps config.extensions) (firstError [] request.checks) request.checks := by
  have hstart : ({} : Registry).Holds
      (entitiesOf config.extensions request.filesToGenerate []) := Registry.holds_empty
  have hend : (({} : Registry).run (request.steps config.extensions)).2 = _ :=
    request.steps_endAlike config.extensions request.filesToGenerate {}
  unfold Registry.EndsWith
  rw [hend]
  exact hstart.run_checks request.checks request.informed_checks

variable {request}

/-- A request with a check that fails is not linked. -/
theorem Model.ofRequest_eq_error {error : LinkError}
    (h : firstError [] request.checks = some error) :
    (Model.ofRequest request config).outcome = .error error := by
  have hrun := request.run_steps config
  rw [h, Registry.EndsWith] at hrun
  rw [Model.outcome_ofRequest, hrun]

/-- A request of which no check fails has a model. -/
theorem Model.exists_ofRequest_eq_ok (h : firstError [] request.checks = none) :
    ∃ model, (Model.ofRequest request config).outcome = .ok model ∧
      Links request config model := by
  have hentities : entitiesOf config.extensions request.filesToGenerate request.checks =
      fun kind => (request.declarations kind).map (request.entity config) := by
    funext kind
    rw [entitiesOf, request.introduced_checks]
  have hrun := request.run_steps config
  rw [h] at hrun
  obtain ⟨registry, hrun, hholds⟩ := hrun
  rw [hentities] at hholds
  refine ⟨_, by rw [Model.outcome_ofRequest, hrun], ?_⟩
  exact ⟨request.firstError_checks_eq_none_iff.mp h, hholds⟩

variable {config}

/-- Whatever comes of linking a request is a model of it. -/
theorem Model.links_of_ok {model : Model}
    (h : (Model.ofRequest request config).outcome = .ok model) : Links request config model := by
  cases herror : firstError [] request.checks with
  | some error =>
      rw [Model.ofRequest_eq_error config herror] at h
      cases h
  | none =>
      obtain ⟨linked, hlinked, hlinks⟩ := Model.exists_ofRequest_eq_ok config herror
      rw [hlinked] at h
      cases h
      exact hlinks

/-- What is computed from the outcome of linking is computed from the model. -/
theorem Model.eq_of_toOption_map {α : Type} {model : Model} {value : α} (f : Model → α)
    (h : (Model.ofRequest request config).outcome = .ok model)
    (hvalue : (Model.ofRequest request config).outcome.toOption.map f = some value) :
    f model = value := by
  rw [h] at hvalue
  exact Option.some.inj hvalue

variable (request config)

/-- A request is linked exactly if it is consistent. Otherwise linking fails with the error of the
first check that fails, where the order of the checks is that of registration. -/
theorem Model.ofRequest_outcome :
    ((∃ model, (Model.ofRequest request config).outcome = .ok model) ↔ request.Consistent) ∧
      ∀ error, (Model.ofRequest request config).outcome = .error error ↔
        ∃ earlier check later, request.checks = earlier ++ check :: later ∧
          firstError [] earlier = none ∧ check.error? earlier = some error := by
  constructor
  · constructor
    · intro hall
      obtain ⟨model, hmodel⟩ := hall
      exact (Model.links_of_ok hmodel).consistent
    · intro hconsistent
      obtain ⟨model, hmodel, -⟩ := Model.exists_ofRequest_eq_ok config
        (request.firstError_checks_eq_none_iff.mpr hconsistent)
      exact ⟨model, hmodel⟩
  · intro error
    have hsplit := @firstError_eq_some_iff [] request.checks error
    simp only [List.nil_append] at hsplit
    rw [← hsplit]
    constructor
    · intro houtcome
      cases hfirst : firstError [] request.checks with
      | some found =>
          rw [Model.ofRequest_eq_error config hfirst] at houtcome
          cases houtcome
          rfl
      | none =>
          obtain ⟨model, hmodel, -⟩ := Model.exists_ofRequest_eq_ok config hfirst
          rw [hmodel] at houtcome
          cases houtcome
    · exact Model.ofRequest_eq_error config

end

namespace Links

variable {request : Request} {config : Config} {model : Model} {kind : Kind}

/-- The arena of a kind lists the declarations of the request. -/
theorem toList_eq (h : Links request config model) (kind : Kind) :
    (model.registry.arena kind).toList = (request.declarations kind).map (request.entity config) :=
  h.holds.toList_eq kind

/-- Declarations with the same identifier are the same. -/
theorem eq_of_id_eq (h : Links request config model) {declaration other : Declaration kind}
    (hmem : declaration ∈ request.declarations kind) (hother : other ∈ request.declarations kind)
    (hid : declaration.id = other.id) : declaration = other :=
  List.inj_on_of_nodup_map (h.consistent.distinct kind) hmem hother hid

/-- An identifier is looked up among the declarations of the request. -/
theorem get?_iff (h : Links request config model) (id : Ident kind) (entity : Entity kind) :
    (model.registry.arena kind).get? id = some entity ↔
      ∃ declaration ∈ request.declarations kind,
        declaration.id = id ∧ request.entity config declaration = entity := by
  rw [h.holds.get?_iff, List.mem_map]
  constructor
  · intro hall
    obtain ⟨⟨declaration, hmem, rfl⟩, hid⟩ := hall
    rw [Declaration.id_entity] at hid
    exact ⟨declaration, hmem, hid, rfl⟩
  · intro hall
    obtain ⟨declaration, hmem, hid, rfl⟩ := hall
    exact ⟨⟨declaration, hmem, rfl⟩, by rw [Declaration.id_entity, hid]⟩

/-- A declaration is found under its identifier. -/
theorem get?_id (h : Links request config model) {declaration : Declaration kind}
    (hmem : declaration ∈ request.declarations kind) :
    (model.registry.arena kind).get? declaration.id = some (request.entity config declaration) :=
  (h.get?_iff _ _).mpr ⟨declaration, hmem, rfl, rfl⟩

/-- A reference to a declaration leads to its entity. -/
theorem resolve_id (h : Links request config model) {declaration : Declaration kind}
    (hmem : declaration ∈ request.declarations kind) :
    model.resolve declaration.id = request.entity config declaration := by
  rw [Model.resolve, Arena.resolve, h.get?_id hmem, Option.getD_some]

/-- References to several declarations lead to their entities. -/
theorem map_resolve_id (h : Links request config model) {part : List (Declaration kind)}
    (hpart : part ⊆ request.declarations kind) :
    (part.map Declaration.id).map model.resolve = part.map (request.entity config) := by
  rw [List.map_map]
  exact List.map_congr_left fun declaration hmem => h.resolve_id (hpart hmem)

end Links

/-! ## An example

Two files, of which the second refers to the first. The results on models are applied to it where
they have hypotheses. -/

/-- A file with a message that has something of each kind in it. -/
def shapesFile : FileDescriptor where
  name := "shapes.proto"
  package := "geo"
  messages := [
    { name := "Shape"
      fields := [
        { name := "center", number := 1, type := .message
          typeName := some ".geo.Shape.Point", oneofIndex := some 0 },
        { name := "legacy", number := 2, type := .group, typeName := some ".geo.Shape.Point" }]
      nested := [{ name := "Point", fields := [{ name := "x", number := 1 }] }]
      enums := [{ name := "Color", values := [{ name := "RED" }] }]
      oneofs := [{ name := "place" }] }]

/-- A file without a package that uses the types of the other one. -/
def searchFile : FileDescriptor where
  name := "search.proto"
  messages := [
    { name := "Query"
      fields := [
        { name := "color", number := 1, type := .enum, typeName := some ".geo.Shape.Color" }] }]
  services := [
    { name := "Search"
      methods := [{ name := "Find", inputType := ".Query", outputType := ".geo.Shape" }] }]

/-- A request of both files. -/
def exampleRequest : Request where
  files := [shapesFile, searchFile]

/-- The example is linked. -/
theorem exampleRequest_links :
    ∃ model, (Model.ofRequest exampleRequest {}).outcome = .ok model ∧
      Links exampleRequest {} model :=
  Model.exists_ofRequest_eq_ok {} (by decide +kernel)

end LinkedSchema
