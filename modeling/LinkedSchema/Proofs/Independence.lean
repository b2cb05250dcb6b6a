import LinkedSchema.Proofs.Erasure

/-!
# Requests that differ in what is erased

Linking never looks at options, metadata or the files that output is wanted for. So requests whose
files differ in nothing but options are linked together or fail with the same error, and their models
are alike up to an erasure as soon as what it leaves of the options settles what it leaves of
everything that is read from them.

* `Declaration.erase_entityWith` — erasing from the entity of a declaration;
* `Erasure.Settles` — what is left of options settles what is left of metadata;
* `Model.alike_of_ok` — models of requests that differ in what is erased;
* `Model.Matching`, `Model.matching_of_files` — outcomes that are the same error or related models;
* `Model.SameUpTo`, `Model.Alike.sameUpTo` — what alike models show.
-/

namespace LinkedSchema

/-! ## Entities of declarations with other options -/

/-- What an erasure takes from anything but options. -/
def Erasure.besidesOptions (erasure : Erasure) : Erasure :=
  { erasure with options := fun options => options }

namespace Declaration

variable (erasure : Erasure)

/-- Erasing from the entity of a declaration is the same as making the entity of the declaration with
what is left of its options. Of the configuration and of the files that output is wanted for only
what is left of metadata and marks counts. -/
theorem erase_entityWith {kind : Kind} (declaration : Declaration kind)
    {extensions names : ExtensionNames} {filesToGenerate wanted : List String}
    {metadata read : Metadata} (hmetadata : erasure.metadata metadata = erasure.metadata read)
    (hgenerate : ∀ name, erasure.generate (filesToGenerate.contains name) =
      erasure.generate (wanted.contains name)) :
    Entity.erase erasure kind (declaration.entityWith extensions filesToGenerate metadata) =
      Entity.erase erasure.besidesOptions kind
        ((declaration.mapOptions erasure.options).entityWith names wanted read) := by
  have hgenerated := hgenerate declaration.source.name
  cases declaration with
  | file =>
      simp only [entityWith, Entity.erase, File.ofDescriptor, hmetadata, hgenerated]
      simp [mapOptions, FileDescriptor.scope, source, Declaration.descriptor, FileDescriptor.mapOptions,
        EnumDescriptor.mapOptions, ServiceDescriptor.mapOptions, Erasure.besidesOptions,
        Function.comp_def]
  | message | nested =>
      simp only [entityWith, Entity.erase, Message.ofDescriptor, hmetadata]
      simp [mapOptions, FileDescriptor.scope, source, Declaration.descriptor, enclosing, path,
        FileDescriptor.mapOptions, EnumDescriptor.mapOptions, FieldDescriptor.mapOptions,
        OneofDescriptor.mapOptions, Erasure.besidesOptions, Function.comp_def]
  | enum | nestedEnum =>
      simp only [entityWith, Entity.erase, Enum.ofDescriptor, hmetadata]
      simp [mapOptions, FileDescriptor.scope, source, Declaration.descriptor, enclosing, path,
        FileDescriptor.mapOptions, EnumDescriptor.mapOptions, EnumValueDescriptor.mapOptions,
        Erasure.besidesOptions, Function.comp_def]
  | field =>
      simp only [entityWith, Entity.erase, Field.ofDescriptor, mapOptions, hmetadata]
      simp [FileDescriptor.scope, FileDescriptor.mapOptions, FieldDescriptor.mapOptions, oneofId?,
        TypeRef.ofField, oneofs_mapOptions, Erasure.besidesOptions, Function.comp_def]
  | oneof =>
      simp only [entityWith, Entity.erase, Oneof.ofDescriptor, mapOptions]
      simp [FileDescriptor.scope, descriptor_mapOptions_message,
        FileDescriptor.mapOptions, FieldDescriptor.mapOptions, OneofDescriptor.mapOptions,
        Erasure.besidesOptions, Function.comp_def, List.filter_map]
  | enumValue =>
      simp only [entityWith, Entity.erase, EnumValue.ofDescriptor, mapOptions, hmetadata]
      simp [FileDescriptor.scope, FileDescriptor.mapOptions, EnumValueDescriptor.mapOptions,
        Erasure.besidesOptions]
  | service =>
      simp only [entityWith, Entity.erase, Service.ofDescriptor, mapOptions, hmetadata]
      simp [FileDescriptor.scope, source, Declaration.descriptor, path,
        FileDescriptor.mapOptions, ServiceDescriptor.mapOptions, MethodDescriptor.mapOptions,
        Erasure.besidesOptions, Function.comp_def]
  | method =>
      simp only [entityWith, Entity.erase, Method.ofDescriptor, mapOptions, hmetadata]
      simp [FileDescriptor.scope, FileDescriptor.mapOptions, MethodDescriptor.mapOptions,
        Erasure.besidesOptions]

/-- The options of a declaration with other options. -/
theorem options_mapOptions (f : Options → Options) {kind : Kind} (declaration : Declaration kind) :
    (declaration.mapOptions f).options = f declaration.options := by
  cases declaration <;> first | rfl | exact MessageDescriptor.options_mapOptions f _

end Declaration

/-- What is left of the metadata of declarations is known from what is left of their options, by the
names of one configuration as by those of another. -/
def Erasure.Settles (erasure : Erasure) (extensions names : ExtensionNames) : Prop :=
  ∀ {kind : Kind} (declaration : Declaration kind),
    erasure.metadata (declaration.metadata extensions) =
      erasure.metadata ((declaration.mapOptions erasure.options).metadata names)

/-! ## Models of requests that differ in what is erased -/

namespace Links

variable {request : Request} {config : Config} {model : Model}

/-- A lookup finds what a search through everything that is registered finds. -/
theorem get?_eq_find? (h : Links request config model) {kind : Kind} (id : Ident kind) :
    (model.registry.arena kind).get? id =
      (model.registry.arena kind).toList.find? (·.id = id) := by
  have hget (entity : Entity kind) : (model.registry.arena kind).get? id = some entity ↔
      entity ∈ (model.registry.arena kind).toList ∧ entity.id = id := by
    rw [h.holds.get?_iff, h.toList_eq]
  cases hfound : (model.registry.arena kind).toList.find? (·.id = id) with
  | some entity =>
      have hid := List.find?_some hfound
      exact (hget entity).mpr ⟨List.mem_of_find?_eq_some hfound, of_decide_eq_true hid⟩
  | none =>
      refine Option.eq_none_iff_forall_ne_some.mpr fun entity hentity => ?_
      obtain ⟨hmem, hid⟩ := (hget entity).mp hentity
      exact absurd (decide_eq_true hid) (List.find?_eq_none.mp hfound entity hmem)

end Links

namespace Model

variable {erasure : Erasure} {request other : Request} {config rule : Config}
  {model changed : Model}

/-- Requests that differ in what is erased have models that are alike. -/
theorem alike_of_ok (hmodel : (ofRequest request config).outcome = .ok model)
    (hchanged : (ofRequest other rule).outcome = .ok changed)
    (hfiles : (other.mapOptions erasure.options).files = (request.mapOptions erasure.options).files)
    (hconfig : erasure.Settles config.extensions config.extensions)
    (hrule : erasure.Settles rule.extensions config.extensions)
    (hgenerate : ∀ name, erasure.generate (other.filesToGenerate.contains name) =
      erasure.generate (request.filesToGenerate.contains name)) :
    Alike erasure model changed := by
  have hlinks := links_of_ok hmodel
  have hlinksChanged := links_of_ok hchanged
  have hdeclarations (kind : Kind) :
      (other.declarations kind).map (·.mapOptions erasure.options) =
        (request.declarations kind).map (·.mapOptions erasure.options) := by
    rw [← Request.declarations_mapOptions, ← Request.declarations_mapOptions,
      Request.declarations, Request.declarations, hfiles]
  have htoList (kind : Kind) :
      (changed.registry.arena kind).toList.map (Entity.erase erasure kind) =
        (model.registry.arena kind).toList.map (Entity.erase erasure kind) := by
    -- Both come from the declarations with what is left of their options.
    have hentity : Entity.erase erasure kind ∘ request.entity config =
        (Entity.erase erasure.besidesOptions kind ∘ request.entity config) ∘
          Declaration.mapOptions erasure.options := by
      funext declaration
      exact declaration.erase_entityWith erasure (hconfig declaration) fun _ => rfl
    have hchanged : Entity.erase erasure kind ∘ other.entity rule =
        (Entity.erase erasure.besidesOptions kind ∘ request.entity config) ∘
          Declaration.mapOptions erasure.options := by
      funext declaration
      exact declaration.erase_entityWith erasure (hrule declaration) hgenerate
    rw [hlinks.toList_eq, hlinksChanged.toList_eq, List.map_map, List.map_map, hentity, hchanged,
      List.comp_map _ (Declaration.mapOptions _), List.comp_map _ (Declaration.mapOptions _)]
    exact congrArg _ (hdeclarations kind)
  refine ⟨htoList, fun {kind} id => ?_⟩
  have hsearch (entities : List (Entity kind)) :
      (entities.find? (·.id = id)).map (Entity.erase erasure kind) =
        (entities.map (Entity.erase erasure kind)).find? (·.id = id) := by
    rw [List.find?_map]
    simp only [Function.comp_def, Entity.id_erase]
  rw [hlinks.get?_eq_find?, hlinksChanged.get?_eq_find?, hsearch, hsearch, htoList]

/-- Two outcomes of linking match: both are the same error, or both are models, between which a
relation holds. -/
inductive Matching (related : Model → Model → Prop) :
    Except LinkError Model → Except LinkError Model → Prop
  | failed (error : LinkError) : Matching related (.error error) (.error error)
  | linked {model changed : Model} (h : related model changed) :
      Matching related (.ok model) (.ok changed)

/-- Requests whose files differ in options only are linked together or fail together, whatever the
configuration and the files that output is wanted for. -/
theorem matching_of_files {related : Model → Model → Prop} {f : Options → Options}
    (hfiles : (other.mapOptions f).files = (request.mapOptions f).files)
    (hrelated : ∀ model changed, (ofRequest request config).outcome = .ok model →
      (ofRequest other rule).outcome = .ok changed → related model changed) :
    Matching related (ofRequest request config).outcome (ofRequest other rule).outcome := by
  have herror := Request.firstError_eq_of_mapOptions_eq hfiles
  cases hfirst : firstError [] request.checks with
  | some error =>
      rw [hfirst] at herror
      rw [ofRequest_eq_error config hfirst, ofRequest_eq_error rule herror]
      exact .failed error
  | none =>
      rw [hfirst] at herror
      obtain ⟨model, hmodel, -⟩ := exists_ofRequest_eq_ok config hfirst
      obtain ⟨changed, hchanged, -⟩ := exists_ofRequest_eq_ok rule herror
      rw [hmodel, hchanged]
      exact .linked (hrelated model changed hmodel hchanged)

namespace Matching

variable {related : Model → Model → Prop} {outcome after : Except LinkError Model}

/-- If one of two outcomes that match is a model then so is the other. -/
theorem exists_of_ok (h : Matching related outcome after) (hmodel : outcome = .ok model) :
    ∃ changed, after = .ok changed ∧ related model changed := by
  cases h with
  | failed => cases hmodel
  | linked h =>
      cases hmodel
      exact ⟨_, rfl, h⟩

end Matching

/-! ## What alike models show -/

/-- The two models find the two entities under one identifier. -/
def Counterparts (model changed : Model) {kind : Kind} (a b : Entity kind) : Prop :=
  ∃ id, model.get? kind id = some a ∧ changed.get? kind id = some b

/-- Two models show the same up to what is erased, but for the answers whether entities are visible or
deprecated. -/
structure SameUpTo (erasure : Erasure) (model changed : Model) : Prop where
  /-- Listings show the same, in the same order. -/
  listing : ∀ kind, (changed.all kind).map (Entity.erase erasure kind) =
    (model.all kind).map (Entity.erase erasure kind)
  /-- The same is found under every identifier. -/
  found : ∀ (kind : Kind) (id : String), (changed.get? kind id).map (Entity.erase erasure kind) =
    (model.get? kind id).map (Entity.erase erasure kind)
  /-- The same file is found under every name. -/
  named : ∀ name, (changed.fileNamed? name).map (Entity.erase erasure .file) =
    (model.fileNamed? name).map (Entity.erase erasure .file)
  /-- The same is told of what is found: the file, the scopes, the types and the members. -/
  told : ∀ {kind : Kind} {a b : Entity kind}, model.Counterparts changed a b →
    (changed.view b).erase erasure = (model.view a).erase erasure

/-- Entities that alike models find under one identifier are the same up to what is erased. -/
theorem Alike.erase_eq (h : Alike erasure model changed) {kind : Kind} {a b : Entity kind}
    (hab : model.Counterparts changed a b) :
    Entity.erase erasure kind b = Entity.erase erasure kind a := by
  obtain ⟨id, ha, hb⟩ := hab
  have hfound := @h.get? kind ⟨id⟩
  rw [Model.get?] at ha hb
  rw [ha, hb] at hfound
  exact Option.some.inj hfound

/-- Alike models show the same. -/
theorem Alike.sameUpTo (h : Alike erasure model changed) : SameUpTo erasure model changed where
  listing kind := by
    rw [all, all, Entity.map_erase_filter_isListed, Entity.map_erase_filter_isListed, h.toList]
  found _ id := h.get? ⟨id⟩
  named name := by
    have hsearch (files : List File) :
        (files.find? (·.name == name)).map (Entity.erase erasure .file) =
          (files.map (Entity.erase erasure .file)).find? (File.name · == name) := by
      rw [List.find?_map]
      rfl
    have hfiles : changed.registry.files.toList.map (Entity.erase erasure .file) =
        model.registry.files.toList.map (Entity.erase erasure .file) := h.toList .file
    rw [fileNamed?, fileNamed?, hsearch, hsearch, hfiles]
  told hab := h.view (h.erase_eq hab)

/-- If nothing is erased of the marks that output is wanted, then alike models list the same packages
to generate. -/
theorem Alike.packagesToGenerate (h : Alike erasure model changed)
    (hgenerate : ∀ wanted, erasure.generate wanted = wanted) :
    changed.packagesToGenerate = model.packagesToGenerate := by
  have hpackages (files : List File) : (files.filter File.generate).map File.package =
      ((files.map (Entity.erase erasure .file)).filter File.generate).map File.package := by
    have hwanted : File.generate ∘ Entity.erase erasure .file = File.generate :=
      funext fun file => hgenerate file.generate
    rw [List.filter_map, List.map_map, hwanted]
    rfl
  have hfiles : (changed.all .file).map (Entity.erase erasure .file) =
      (model.all .file).map (Entity.erase erasure .file) := h.sameUpTo.listing .file
  rw [Model.packagesToGenerate, Model.packagesToGenerate, hpackages (changed.all .file), hfiles,
    ← hpackages]

/-- What a model keeps of its request besides the files. -/
theorem request_of_ok (h : (ofRequest request config).outcome = .ok model) :
    model.parameter = request.parameter.getD "" ∧
      model.filesToGenerate = request.filesToGenerate ∧
      model.compilerVersion = request.compilerVersion := by
  rw [outcome_ofRequest] at h
  cases hrun : (({} : Registry).run (request.steps config.extensions)).2 with
  | error error =>
      rw [hrun] at h
      cases h
  | ok registry =>
      rw [hrun] at h
      cases h
      exact ⟨rfl, rfl, rfl⟩

end Model

end LinkedSchema
