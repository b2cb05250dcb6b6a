import LinkedSchema.Proofs.Extension

/-!
# Lists of files

What a model owes to the list of files that it is made of. Files behind those of a request change
nothing of what comes of the request, except that they may declare types that its fields name. The
order of the files decides whether a request is linked, since a method names messages that come
before it, but of the model it decides only on the order of the listings.

* `Model.GrowsInto`, `Model.growsInto_of_append` — files added behind those of a request;
* `Model.Rearranges`, `Model.rearranges_of_perm` — the same files in another order.
-/

namespace LinkedSchema

/-! ## Files added behind others -/

/-- The steps of files behind others come behind the steps of those. -/
theorem Request.steps_append {before after : Request} {more : List FileDescriptor}
    (hfiles : after.files = before.files ++ more)
    (hgenerate : after.filesToGenerate = before.filesToGenerate) (extensions : ExtensionNames) :
    after.steps extensions =
      before.steps extensions ++ more.flatMap (·.steps extensions after.filesToGenerate) := by
  rw [Request.steps, Request.steps, hfiles, List.flatMap_append, hgenerate]

/-- The declarations of files behind others come behind the declarations of those. -/
theorem Request.declarations_append {before after : Request} {more : List FileDescriptor}
    (hfiles : after.files = before.files ++ more) (kind : Kind) :
    after.declarations kind = before.declarations kind ++ more.flatMap (·.declarations kind) := by
  rw [Request.declarations, Request.declarations, hfiles, List.flatMap_append]

namespace Model

/-- A model becomes another one when files are added behind those that it was made of. -/
structure GrowsInto (model larger : Model) : Prop where
  /-- Listings go on where they ended. -/
  listing : ∀ kind, model.all kind <+: larger.all kind
  /-- What was found is found, as it was. -/
  found : ∀ {kind : Kind} {id : String} {entity : Entity kind},
    model.get? kind id = some entity → larger.get? kind id = some entity
  /-- The same is told of an entity, unless it is a field with a type that came with the added
  files. -/
  told : ∀ {kind : Kind} {id : String} {entity : Entity kind}, model.get? kind id = some entity →
    ¬ model.LinksLater larger entity → larger.view entity = model.view entity
  /-- In particular it is as visible and as deprecated as it was. -/
  derived : ∀ {kind : Kind} {id : String} {entity : Entity kind},
    model.get? kind id = some entity → ¬ model.LinksLater larger entity →
      larger.isVisible entity = model.isVisible entity ∧
        larger.isDeprecated entity = model.isDeprecated entity
  /-- With its type a field can only become hidden or deprecated. -/
  later : ∀ {id : String} {field : Field}, model.get? .field id = some field →
    @LinksLater model larger .field field →
      (@isVisible larger .field field = true → @isVisible model .field field = true) ∧
        (@isDeprecated model .field field = true → @isDeprecated larger .field field = true)

/-- Linking that fails is not mended by more files. -/
theorem outcome_append_of_error {before after : Request} {more : List FileDescriptor}
    {config : Config} (hfiles : after.files = before.files ++ more)
    (hgenerate : after.filesToGenerate = before.filesToGenerate) {error : LinkError}
    (h : (ofRequest before config).outcome = .error error) :
    (ofRequest after config).outcome = .error error := by
  rw [outcome_ofRequest] at h ⊢
  rw [Request.steps_append hfiles hgenerate, Registry.run_append_snd]
  cases hrun : (({} : Registry).run (before.steps config.extensions)).2 with
  | ok registry =>
      rw [hrun] at h
      cases h
  | error found =>
      rw [hrun] at h
      cases h
      rfl

end Model

/-- Listings of requests with more files begin like those of the request. -/
theorem Links.all_prefix {before after : Request} {more : List FileDescriptor} {config : Config}
    {model larger : Model} (h : Links before config model) (hlarger : Links after config larger)
    (hfiles : after.files = before.files ++ more)
    (hgenerate : after.filesToGenerate = before.filesToGenerate) (kind : Kind) :
    model.all kind <+: larger.all kind := by
  rw [h.all_eq, hlarger.all_eq, Request.declarations_append hfiles, List.filter_append,
    List.map_append, Request.entity_eq hgenerate]
  exact List.prefix_append _ _

namespace Model

/-- Files added behind those of a request are conservative: if the request is not linked, then it is
not linked with them either, and for the same reason; and if it is linked with them, then it is linked
without them, to a model that grows into the larger one. -/
theorem growsInto_of_append {before after : Request} {more : List FileDescriptor} (config : Config)
    (hfiles : after.files = before.files ++ more)
    (hgenerate : after.filesToGenerate = before.filesToGenerate) :
    (∀ error, (ofRequest before config).outcome = .error error →
      (ofRequest after config).outcome = .error error) ∧
    ∀ larger, (ofRequest after config).outcome = .ok larger →
      ∃ model, (ofRequest before config).outcome = .ok model ∧ model.GrowsInto larger := by
  refine ⟨fun error herror => outcome_append_of_error hfiles hgenerate herror,
    fun larger hlarger => ?_⟩
  cases houtcome : (ofRequest before config).outcome with
  | error error =>
      rw [outcome_append_of_error hfiles hgenerate houtcome] at hlarger
      cases hlarger
  | ok model =>
      have hlinks := links_of_ok houtcome
      have hlinksLarger := links_of_ok hlarger
      have hext : model.Extends larger := extends_of_subset houtcome hlarger hgenerate
        (hfiles ▸ List.subset_append_left _ _)
      have htold : ∀ {kind : Kind} {id : String} {entity : Entity kind},
          model.get? kind id = some entity → ¬ model.LinksLater larger entity →
            larger.view entity = model.view entity := fun hentity hlater =>
        hlinks.view_eq hext hlinksLarger (hlinks.has_of_get? hentity) hlater
      refine ⟨model, rfl, ?_⟩
      exact {
        listing := hlinks.all_prefix hlinksLarger hfiles hgenerate
        found := fun hentity => hext.get? hentity
        told := htold
        derived := fun hentity hlater => by
          have hview := htold hentity hlater
          constructor
          · rw [← visible_view, hview, visible_view]
          · rw [← deprecated_view, hview, deprecated_view]
        later := fun hfield _ =>
          ⟨hlinks.isVisible_of_larger hext hlinksLarger (hlinks.has_of_get? hfield),
            hlinks.isDeprecated_larger_of hext hlinksLarger (hlinks.has_of_get? hfield)⟩ }

end Model

/-- A file with a field that has the type of another file. -/
def queryFile : FileDescriptor :=
  { searchFile with services := [] }

/-- That other file, as no part of the public schema. -/
def hiddenShapesFile : FileDescriptor :=
  { shapesFile with
    options := Options.empty.set "[template.file_meta]"
      (.object [("visibility", .string Visibility.internal.name)]) }

/-- A field is visible as long as the file with its type is missing. With that file, which is hidden,
it is hidden too. -/
theorem Model.growsInto_queryFile :
    ∃ model larger, (Model.ofRequest { files := [queryFile] } {}).outcome = .ok model ∧
      (Model.ofRequest { files := [queryFile, hiddenShapesFile] } {}).outcome = .ok larger ∧
      model.GrowsInto larger ∧
      (model.all .field).map (fun field => (field.id.text, model.isVisible field)) =
        [(".Query:color", true)] ∧
      (larger.all .field).map (fun field => (field.id.text, larger.isVisible field)) =
        [(".Query:color", false), (".geo.Shape:center", false), (".geo.Shape.Point:x", false)] := by
  have hafter := @Model.exists_ofRequest_eq_ok { files := [queryFile, hiddenShapesFile] } {}
    (by decide +kernel)
  obtain ⟨larger, hlarger, -⟩ := hafter
  obtain ⟨-, hlinks⟩ := @Model.growsInto_of_append { files := [queryFile] }
    { files := [queryFile, hiddenShapesFile] } [hiddenShapesFile] {} rfl rfl
  obtain ⟨model, hmodel, hgrows⟩ := hlinks larger hlarger
  let fieldVisibility (model : Model) : List (String × Bool) :=
    (model.all .field).map fun field => (field.id.text, model.isVisible field)
  exact ⟨model, larger, hmodel, hlarger, hgrows,
    Model.eq_of_toOption_map fieldVisibility hmodel (by decide +kernel),
    Model.eq_of_toOption_map fieldVisibility hlarger (by decide +kernel)⟩

/-! ## Files in another order -/

/-- Among elements with different keys the one with a given key is the same in every order. -/
theorem filter_key_eq_of_perm {α β : Type} [DecidableEq β] {items others : List α} (key : α → β)
    (h : items.Perm others) (hnodup : (items.map key).Nodup) (value : β) :
    items.filter (key · = value) = others.filter (key · = value) := by
  have hperm := h.filter (key · = value)
  generalize hfound : items.filter (key · = value) = found at hperm
  have hlength : found.length ≤ 1 := by
    have hkeys : found.map key = List.replicate found.length value := by
      rw [← List.length_map key, List.eq_replicate_length, List.forall_mem_map, ← hfound]
      exact fun item hitem => of_decide_eq_true (List.mem_filter.mp hitem).2
    have hsub : (found.map key).Sublist (items.map key) := hfound ▸ List.filter_sublist.map key
    rw [← List.nodup_replicate, ← hkeys]
    exact hnodup.sublist hsub
  match found with
  | [] => exact (List.nil_perm.mp hperm).symm
  | [item] => exact (List.perm_singleton.mp hperm.symm).symm

namespace Model

/-- Two models differ in nothing but the order of the files in their listings. -/
structure Rearranges (model other : Model) : Prop where
  /-- The same is found under every identifier. -/
  found : ∀ (kind : Kind) (id : String), other.get? kind id = model.get? kind id
  /-- The same is told of everything that is found. -/
  told : ∀ {kind : Kind} {id : String} {entity : Entity kind}, model.get? kind id = some entity →
    other.view entity = model.view entity
  /-- Listings show the same. -/
  listing : ∀ kind, (model.all kind).Perm (other.all kind)
  /-- What a listing shows of one file it shows in the same order. -/
  inFile : ∀ (kind : Kind) (file : Ident .file),
    (other.all kind).filter (fun entity => (other.fileOf entity).id = file) =
      (model.all kind).filter fun entity => (model.fileOf entity).id = file

end Model

namespace Links

variable {request : Request} {config : Config} {model : Model}

/-- What the listing of a kind shows of a file is made from the declarations of the file. -/
theorem filter_fileOf_all (h : Links request config model) (kind : Kind) (id : Ident .file) :
    ((model.all kind).filter fun entity => (model.fileOf entity).id = id) =
      (request.files.filter fun file => (Declaration.file file).id = id).flatMap fun file =>
        ((file.declarations kind).filter (·.isListed)).map (request.entity config) := by
  refine h.filter_all_eq fun file hfile declaration hdeclaration => ?_
  -- A declaration is asked for the identifier of its file, and that is the one it stands in.
  have hmem := Request.mem_declarations.mpr ⟨file, hfile, hdeclaration⟩
  have hid : File.id (request.entity config (.file file)) = (Declaration.file file).id :=
    (Declaration.file file).id_entity _ _
  rw [h.fileOf_entity hmem, FileDescriptor.source_of_mem hdeclaration, hid]

/-- The files of a request have different identifiers. -/
theorem nodup_file_ids (h : Links request config model) :
    (request.files.map fun file => (Declaration.file file).id).Nodup := by
  have hdistinct := h.consistent.distinct .file
  rwa [request.declarations_file, List.map_map] at hdistinct

end Links

/-- The order of the files of a request decides on nothing but the order of the listings: if a request
is linked with its files in two orders, then the models find the same under every identifier and tell
the same of it, and their listings show the same, file by file in the same order. -/
theorem Model.rearranges_of_perm {request reordered : Request} {config : Config}
    {model other : Model} (hfiles : request.files.Perm reordered.files)
    (hgenerate : reordered.filesToGenerate = request.filesToGenerate)
    (hmodel : (Model.ofRequest request config).outcome = .ok model)
    (hother : (Model.ofRequest reordered config).outcome = .ok other) : model.Rearranges other := by
  have hlinks := Model.links_of_ok hmodel
  have hlinksOther := Model.links_of_ok hother
  have hext := Model.extends_of_subset hmodel hother hgenerate hfiles.subset
  have hback := Model.extends_of_subset hother hmodel hgenerate.symm hfiles.symm.subset
  have hentity := Request.entity_eq hgenerate config
  -- Each model extends the other, so that neither has a type that the other lacks.
  have hregisters : ∀ reference, other.Registers reference → model.Registers reference := by
    rintro ⟨kind, id⟩ hid
    rw [Model.Registers, Arena.contains_eq_isSome_get?, Option.isSome_iff_exists] at hid ⊢
    obtain ⟨entity, hfound⟩ := hid
    exact ⟨entity, hback.get? hfound⟩
  have hlater : ∀ {kind : Kind} (entity : Entity kind), ¬ model.LinksLater other entity := by
    intro kind entity hlater
    cases kind with
    | field =>
        obtain ⟨type, -, hmissing, hfound⟩ := hlater
        exact hmissing (hregisters type hfound)
    | _ => exact hlater
  exact {
    found := fun kind id => hext.get?_eq (hregisters _)
    told := fun {kind id entity} hfound =>
      hlinks.view_eq hext hlinksOther (hlinks.has_of_get? hfound) (hlater entity)
    listing := fun kind => by
      rw [hlinks.all_eq, hlinksOther.all_eq, hentity]
      exact ((hfiles.flatMap_right _).filter _).map _
    inFile := fun kind file => by
      rw [hlinks.filter_fileOf_all, hlinksOther.filter_fileOf_all, hentity,
        filter_key_eq_of_perm _ hfiles hlinks.nodup_file_ids] }

/-- Of two files the one that refers to the other may come first or last. -/
theorem Model.rearranges_queryFile :
    ∃ model other, (Model.ofRequest { files := [shapesFile, queryFile] } {}).outcome = .ok model ∧
      (Model.ofRequest { files := [queryFile, shapesFile] } {}).outcome = .ok other ∧
      model.Rearranges other ∧
      (model.all .message).map Entity.id = [⟨".geo.Shape"⟩, ⟨".geo.Shape.Point"⟩, ⟨".Query"⟩] ∧
      (other.all .message).map Entity.id = [⟨".Query"⟩, ⟨".geo.Shape"⟩, ⟨".geo.Shape.Point"⟩] := by
  obtain ⟨model, hmodel, -⟩ := @Model.exists_ofRequest_eq_ok { files := [shapesFile, queryFile] } {}
    (by decide +kernel)
  obtain ⟨other, hother, -⟩ := @Model.exists_ofRequest_eq_ok { files := [queryFile, shapesFile] } {}
    (by decide +kernel)
  have hfiles : [shapesFile, queryFile].Perm [queryFile, shapesFile] := .swap _ _ _
  let messages (model : Model) : List (Ident .message) := (model.all .message).map Entity.id
  have hrearranges := @Model.rearranges_of_perm { files := [shapesFile, queryFile] }
    { files := [queryFile, shapesFile] } {} model other hfiles rfl hmodel hother
  exact ⟨model, other, hmodel, hother, hrearranges,
    Model.eq_of_toOption_map messages hmodel (by decide +kernel),
    Model.eq_of_toOption_map messages hother (by decide +kernel)⟩

end LinkedSchema
