import LinkedSchema.Navigation
import LinkedSchema.Proofs.Linking
import Mathlib.Data.List.Forall2

/-!
# Listings

The listing of a kind is the walk over the declarations of that kind: nothing is lost, repeated or
put in another place, and each entity carries what its descriptor and its place in the request say.

* `Entity.owner?` — what an entity says that it is declared in;
* `Entity.Copies` — what an entity takes over from its descriptor;
* `Carries` — an entity is that of a declaration;
* `Links.filter_all_eq` — what is left of a listing, file by file;
* `Model.all_carries` — listings and walks.
-/

namespace LinkedSchema

namespace Entity

/-- The reference of an entity to what is around it: the message, enum or service that it is
declared in, and at file level the file. -/
def owner? : {kind : Kind} → Entity kind → Option Reference
  | .file, _ => none
  | .message, message =>
      match Message.parent? message with
      | some parent => some ⟨.message, parent⟩
      | none => some ⟨.file, Message.file message⟩
  | .field, field => some ⟨.message, Field.parent field⟩
  | .oneof, oneof => some ⟨.message, Oneof.parent oneof⟩
  | .enum, enum =>
      match Enum.parent enum with
      | some parent => some ⟨.message, parent⟩
      | none => some ⟨.file, Enum.file enum⟩
  | .enumValue, value => some ⟨.enum, EnumValue.parent value⟩
  | .service, service => some ⟨.file, Service.file service⟩
  | .method, method => some ⟨.service, Method.parent method⟩

/-- An entity agrees with a descriptor in whatever it takes over unchanged, apart from its name and
its options. Texts that are not written are empty, and the syntax level that is not written is the
oldest. -/
def Copies : {kind : Kind} → Entity kind → DescriptorOf kind → Prop
  | .file, file, descriptor =>
      File.package file = descriptor.package ∧
        File.syntaxLevel file = descriptor.syntaxLevel.getD "proto2" ∧
        File.dependencies file = descriptor.dependencies
  | .message, message, descriptor =>
      Message.reservedRanges message = descriptor.reservedRanges ∧
        Message.reservedNames message = descriptor.reservedNames
  | .field, field, descriptor =>
      Field.number field = descriptor.number ∧ Field.label field = descriptor.label ∧
        Field.type field = descriptor.type ∧
        Field.defaultValue field = descriptor.defaultValue.getD "" ∧
        Field.jsonName field = descriptor.jsonName.getD ""
  | .enumValue, value, descriptor => EnumValue.number value = descriptor.number
  | .method, method, descriptor =>
      Method.clientStreaming method = descriptor.clientStreaming ∧
        Method.serverStreaming method = descriptor.serverStreaming
  | .oneof, _, _ | .enum, _, _ | .service, _, _ => True

end Entity

/-- An entity is that of a declaration: it has the identifier, the name, the options and the further
content of the declaration, and a model leads from it to the file and to the owner of the
declaration. -/
structure Carries (model : Model) {kind : Kind} (entity : Entity kind)
    (declaration : Declaration kind) : Prop where
  id : entity.id = declaration.id
  name : entity.name = declaration.name
  options : entity.options = declaration.options
  copies : entity.Copies declaration.descriptor
  owner : entity.owner? = declaration.around?.map fun around => around.2.reference
  file : (model.fileOf entity).id = (Declaration.file declaration.source).id

namespace Declaration

variable (extensions : ExtensionNames) (filesToGenerate : List String) {kind : Kind}

theorem name_entity (declaration : Declaration kind) :
    (declaration.entity extensions filesToGenerate).name = declaration.name := by
  cases declaration <;> rfl

theorem options_entity (declaration : Declaration kind) :
    (declaration.entity extensions filesToGenerate).options = declaration.options := by
  cases declaration <;> rfl

theorem copies_entity (declaration : Declaration kind) :
    (declaration.entity extensions filesToGenerate).Copies declaration.descriptor := by
  cases declaration with
  | file => exact ⟨rfl, rfl, rfl⟩
  | message | nested => exact ⟨rfl, rfl⟩
  | field => exact ⟨rfl, rfl, rfl, rfl, rfl⟩
  | enumValue => exact rfl
  | method => exact ⟨rfl, rfl⟩
  | oneof | enum | nestedEnum | service => trivial

/-- An entity refers to what is around its declaration. -/
theorem owner?_entity (declaration : Declaration kind) :
    (declaration.entity extensions filesToGenerate).owner? =
      declaration.around?.map fun around => around.2.reference := by
  cases declaration <;> rfl

/-- Listings show the entities of the declarations that are listed. -/
theorem isListed_entity (declaration : Declaration kind) :
    Model.isListed (declaration.entity extensions filesToGenerate) = declaration.isListed := by
  cases declaration <;> rfl

end Declaration

namespace Links

variable {request : Request} {config : Config} {model : Model} {kind : Kind}

/-- The listing of a kind is made from the declarations that are listed. -/
theorem all_eq (h : Links request config model) (kind : Kind) :
    model.all kind =
      ((request.declarations kind).filter (·.isListed)).map (request.entity config) := by
  have hlisted : Model.isListed ∘ @Request.entity request config kind = Declaration.isListed := by
    funext declaration
    exact declaration.isListed_entity config.extensions request.filesToGenerate
  rw [Model.all, h.toList_eq, List.filter_map, hlisted]

/-- The listing of files is made from the files of the request. -/
theorem all_file (h : Links request config model) :
    model.all .file = request.files.map fun file => request.entity config (.file file) := by
  have hlisted : Declaration.isListed ∘ Declaration.file = fun _ => true := rfl
  rw [h.all_eq, request.declarations_file, List.filter_map, hlisted, List.filter_true, List.map_map]
  rfl

/-- What a filter leaves of the listing of a kind is made file by file, if for each declaration it
decides on the file and on the declaration in it. -/
theorem filter_all_eq (h : Links request config model) {accept : Entity kind → Bool}
    {acceptFile : FileDescriptor → Bool} {kept : Declaration kind → Bool}
    (haccept : ∀ file ∈ request.files, ∀ declaration ∈ file.declarations kind,
      (accept (request.entity config declaration) && declaration.isListed) =
        (acceptFile file && kept declaration)) :
    (model.all kind).filter accept =
      (request.files.filter acceptFile).flatMap fun file =>
        ((file.declarations kind).filter kept).map (request.entity config) := by
  have hfiles : ∀ file ∈ request.files, ∀ declaration ∈ file.declarations kind,
      (accept (request.entity config declaration) && declaration.isListed) = true →
        acceptFile file = true := by
    intro file hfile declaration hdeclaration haccepted
    rw [haccept file hfile declaration hdeclaration, Bool.and_eq_true] at haccepted
    exact haccepted.1
  rw [h.all_eq, List.filter_map, List.filter_filter, Request.declarations]
  refine (congrArg (List.map _) (Declaration.filter_flatMap_eq hfiles)).trans ?_
  rw [List.map_flatMap]
  refine List.flatMap_congr fun file hfile => congrArg (List.map _) ?_
  obtain ⟨hmem, haccepted⟩ := List.mem_filter.mp hfile
  refine List.filter_congr fun declaration hdeclaration => ?_
  rw [haccept file hmem declaration hdeclaration, haccepted, Bool.true_and]

/-- From the entity of a declaration a model leads to the file of the declaration. -/
theorem fileOf_entity (h : Links request config model) {declaration : Declaration kind}
    (hmem : declaration ∈ request.declarations kind) :
    model.fileOf (request.entity config declaration) =
      request.entity config (.file declaration.source) := by
  have hfile := h.resolve_id (Request.file_source_mem hmem)
  -- A member has no reference to its file and goes through what is around it.
  have haround : ∀ {outer : Kind} {owner : Declaration outer},
      declaration.around? = some ⟨outer, owner⟩ →
        model.resolve owner.id = request.entity config owner :=
    fun howner => h.resolve_id (Request.mem_members_of_around? hmem howner).1
  cases declaration with
  | file => rfl
  | message | nested | enum | nestedEnum | service => exact hfile
  | field around | oneof around =>
      show model.resolve (Message.file (model.resolve around.id)) = _
      rw [haround rfl]
      exact hfile
  | enumValue around =>
      show model.resolve (Enum.file (model.resolve around.id)) = _
      rw [haround rfl]
      exact hfile
  | method around =>
      show model.resolve (Service.file (model.resolve around.id)) = _
      rw [haround rfl]
      exact hfile

/-- The entity of a declaration of the request carries the declaration. -/
theorem carries_entity (h : Links request config model) {declaration : Declaration kind}
    (hmem : declaration ∈ request.declarations kind) :
    Carries model (request.entity config declaration) declaration where
  id := declaration.id_entity _ _
  name := declaration.name_entity _ _
  options := declaration.options_entity _ _
  copies := declaration.copies_entity _ _
  owner := declaration.owner?_entity _ _
  file := by
    rw [h.fileOf_entity hmem]
    exact (Declaration.file declaration.source).id_entity _ _

end Links

/-- The listing of a kind is the walk over the declarations of the kind, without groups: each of
them is shown once, in the order of the walk, by an entity that carries it. -/
theorem Model.all_carries {request : Request} {config : Config} {model : Model}
    (h : (Model.ofRequest request config).outcome = .ok model) (kind : Kind) :
    List.Forall₂ (Carries model) (model.all kind)
      ((request.declarations kind).filter (·.isListed)) := by
  have hlinks := Model.links_of_ok h
  rw [hlinks.all_eq, List.forall₂_map_left_iff, List.forall₂_same]
  intro declaration hmem
  exact hlinks.carries_entity (List.mem_of_mem_filter hmem)

/-- Of the fields of the example the group is not shown, and those of nested messages come behind
those of the message around them. -/
theorem Model.all_carries_exampleRequest :
    ∃ model, (Model.ofRequest exampleRequest {}).outcome = .ok model ∧
      List.Forall₂ (Carries model) (model.all .field)
        ((exampleRequest.declarations .field).filter (·.isListed)) ∧
      (model.all .field).map Entity.id =
        [⟨".geo.Shape:center"⟩, ⟨".geo.Shape.Point:x"⟩, ⟨".Query:color"⟩] := by
  obtain ⟨model, hmodel, -⟩ := exampleRequest_links
  have hcarries := Model.all_carries hmodel .field
  have hids : (model.all .field).map Entity.id =
      ((exampleRequest.declarations .field).filter (·.isListed)).map Declaration.id := by
    rw [← List.forall₂_eq_eq_eq, List.forall₂_map_left_iff, List.forall₂_map_right_iff]
    exact hcarries.imp fun _ _ h => h.id
  refine ⟨model, hmodel, hcarries, ?_⟩
  rw [hids]
  decide +kernel

end LinkedSchema
