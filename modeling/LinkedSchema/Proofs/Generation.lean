import LinkedSchema.Proofs.FileLists
import LinkedSchema.Proofs.Independence
import Mathlib.Data.List.Induction

/-!
# Files that output is wanted for

A request names the files that output is wanted for. That marks what these files declare, and settles
which packages are listed for generation; nothing else of a model depends on it.

* `keepsFirst_foldl_addNew` — a listing without repetitions, in the order of first occurrence;
* `Model.Marks` — what the named files decide;
* `Model.marks_of_ok` — the marks of every model, and that a model differs in nothing but marks when
  other files are named.
-/

namespace LinkedSchema

/-! ## First occurrences -/

/-- A list has the elements of another, each once and in the order in which they first occur. -/
structure KeepsFirst (kept texts : List String) : Prop where
  nodup : kept.Nodup
  mem_iff : ∀ text, text ∈ kept ↔ text ∈ texts
  ordered : kept.Pairwise fun earlier later => texts.idxOf earlier < texts.idxOf later

/-- Adding what is new, text by text, keeps the first occurrences. -/
theorem keepsFirst_foldl_addNew (texts : List String) :
    KeepsFirst (texts.foldl Model.addNew []) texts := by
  induction texts using List.reverseRecOn with
  | nil => exact ⟨.nil, fun _ => Iff.rfl, .nil⟩
  | append_singleton texts text ih =>
      obtain ⟨hnodup, hmem, hordered⟩ := ih
      rw [List.foldl_append, List.foldl_cons, List.foldl_nil]
      generalize texts.foldl Model.addNew [] = kept at *
      -- What has occurred keeps its place when a text comes behind it.
      have hplace {earlier : String} (h : earlier ∈ kept) :
          (texts ++ [text]).idxOf earlier = texts.idxOf earlier :=
        List.idxOf_append_of_mem ((hmem earlier).mp h)
      have hbefore : kept.Pairwise fun earlier later =>
          (texts ++ [text]).idxOf earlier < (texts ++ [text]).idxOf later :=
        hordered.imp_of_mem fun ha hb hlt => by rwa [hplace ha, hplace hb]
      simp only [Model.addNew, List.contains_iff_mem]
      split
      case isTrue hknown =>
        refine ⟨hnodup, fun other => ?_, hbefore⟩
        rw [List.mem_append, List.mem_singleton, ← hmem other]
        exact ⟨.inl, fun hall => hall.elim id fun heq => heq ▸ hknown⟩
      case isFalse hnew =>
        have hnotMem : text ∉ texts := fun h => hnew ((hmem text).mpr h)
        refine ⟨?_, fun other => ?_, ?_⟩
        · rw [List.nodup_append_comm, List.singleton_append, List.nodup_cons]
          exact ⟨hnew, hnodup⟩
        · rw [List.mem_append, List.mem_append, hmem other]
        · refine List.pairwise_append.mpr ⟨hbefore, List.pairwise_singleton _ _, ?_⟩
          intro earlier hearlier later hlater
          have hlt := List.idxOf_lt_length_of_mem ((hmem earlier).mp hearlier)
          rw [List.mem_singleton.mp hlater, hplace hearlier, List.idxOf_append_of_notMem hnotMem]
          omega

/-! ## Marks -/

/-- The packages of the files that a request names, file by file. -/
def Request.namedPackages (request : Request) : List String :=
  (request.files.filter fun file => request.filesToGenerate.contains file.name).map (·.package)

namespace Model

/-- The marks of a model are those of the files that a request names. -/
structure Marks (request : Request) (model : Model) : Prop where
  /-- Output is wanted for an entity if the file that declares it is named. -/
  generated : ∀ {kind : Kind} {id : String} {entity : Entity kind},
    model.get? kind id = some entity →
      ∃ file ∈ request.files, ∃ declaration ∈ file.declarations kind,
        declaration.id = ⟨id⟩ ∧ (model.fileOf entity).name = file.name ∧
          (model.isGenerated entity = true ↔ file.name ∈ request.filesToGenerate)
  /-- A package is listed if one of its files is named. -/
  listed : ∀ package, package ∈ model.packagesToGenerate ↔
    ∃ file ∈ request.files, file.package = package ∧ file.name ∈ request.filesToGenerate
  /-- Packages are listed once, in the order in which they first occur. -/
  ordered : KeepsFirst model.packagesToGenerate request.namedPackages

end Model

namespace Links

variable {request : Request} {config : Config} {model : Model}

/-- The packages to generate come from the files that the request names. -/
theorem packagesToGenerate_eq (h : Links request config model) :
    model.packagesToGenerate = request.namedPackages.foldl Model.addNew [] := by
  rw [Model.packagesToGenerate, h.all_file, List.filter_map, List.map_map]
  rfl

/-- The marks of a model are those of the files that its request names. -/
theorem marks (h : Links request config model) : model.Marks request where
  generated := by
    intro kind id entity hentity
    obtain ⟨declaration, hmem, hid, rfl⟩ := (h.get?_iff ⟨id⟩ entity).mp hentity
    obtain ⟨file, hfile, hdeclaration⟩ := Request.mem_declarations.mp hmem
    obtain rfl := FileDescriptor.source_of_mem hdeclaration
    refine ⟨_, hfile, declaration, hdeclaration, hid, ?_, ?_⟩
    · rw [h.fileOf_entity hmem]
      rfl
    · rw [Model.isGenerated, h.fileOf_entity hmem]
      exact List.contains_iff_mem
  listed := by
    intro package
    rw [h.packagesToGenerate_eq, (keepsFirst_foldl_addNew _).mem_iff, Request.namedPackages,
      List.mem_map]
    simp only [List.mem_filter, List.contains_iff_mem, and_assoc]
    exact exists_congr fun file => and_congr_right fun _ => and_comm
  ordered := by
    rw [h.packagesToGenerate_eq]
    exact keepsFirst_foldl_addNew _

end Links

/-- Erases the mark that output is wanted for a file. -/
def Erasure.ofMarks : Erasure where
  generate := fun _ => false

theorem Erasure.settles_ofMarks (extensions : ExtensionNames) :
    ofMarks.Settles extensions extensions := by
  intro kind declaration
  show declaration.metadata extensions = _
  rw [Declaration.metadata, Declaration.metadata, Declaration.options_mapOptions]
  rfl

namespace Model

/-- The files that output is wanted for decide on the marks of a model, and on nothing else: requests
with the same files are linked together or fail together, whatever files they name, and their models
show the same but for the marks. -/
theorem marks_of_ok (request : Request) (config : Config) :
    (∀ model, (ofRequest request config).outcome = .ok model → model.Marks request) ∧
    ∀ other : Request, other.files = request.files →
      Matching (fun model changed => SameUpTo .ofMarks model changed ∧
          ∀ {kind : Kind} {a b : Entity kind}, model.Counterparts changed a b →
            changed.isVisible b = model.isVisible a ∧
              changed.isDeprecated b = model.isDeprecated a)
        (ofRequest request config).outcome (ofRequest other config).outcome := by
  refine ⟨fun model hmodel => (links_of_ok hmodel).marks, fun other hfiles => ?_⟩
  have hfiles : (other.mapOptions id).files = (request.mapOptions id).files := by
    rw [Request.mapOptions, Request.mapOptions, hfiles]
  refine matching_of_files hfiles fun model changed hmodel hchanged => ?_
  have halike : Alike .ofMarks model changed :=
    alike_of_ok hmodel hchanged hfiles (Erasure.settles_ofMarks _) (Erasure.settles_ofMarks _)
      fun _ => rfl
  have hrule : changed.config.enumDeprecation = model.config.enumDeprecation := by
    rw [config_of_ok hchanged, config_of_ok hmodel]
  refine ⟨halike.sameUpTo, fun hab => ⟨?_, ?_⟩⟩
  · exact halike.isVisible (fun _ => rfl) (halike.erase_eq hab)
  · refine halike.isDeprecated (fun _ => rfl) (halike.erase_eq hab) fun _ enum same hsame => ?_
    exact halike.enumDeprecated_of_public (fun _ => rfl) (fun _ => rfl) hrule hsame

end Model

/-- A request of two files of which the second is named, twice and next to a name of no file. -/
def namedRequest : Request where
  filesToGenerate := ["query.proto", "search.proto", "search.proto"]
  files := [shapesFile, queryFile]

/-- Of the two files only the second is generated; if the first is named instead, then only that
changes. -/
theorem Model.marks_namedRequest :
    ∃ model changed, (Model.ofRequest namedRequest {}).outcome = .ok model ∧
      (Model.ofRequest { namedRequest with filesToGenerate := ["shapes.proto"] } {}).outcome =
        .ok changed ∧
      model.Marks namedRequest ∧ Model.SameUpTo .ofMarks model changed ∧
      model.packagesToGenerate = [""] ∧ changed.packagesToGenerate = ["geo"] ∧
      (model.all .message).map model.isGenerated = [false, false, true] ∧
      (changed.all .message).map changed.isGenerated = [true, true, false] := by
  obtain ⟨model, hmodel, -⟩ := @Model.exists_ofRequest_eq_ok namedRequest {} (by decide +kernel)
  obtain ⟨hmarks, hframe⟩ := Model.marks_of_ok namedRequest {}
  obtain ⟨changed, hchanged, hsame, -⟩ :=
    (hframe { namedRequest with filesToGenerate := ["shapes.proto"] } rfl).exists_of_ok hmodel
  let generated (model : Model) : List Bool := (model.all .message).map model.isGenerated
  exact ⟨model, changed, hmodel, hchanged, hmarks model hmodel, hsame,
    Model.eq_of_toOption_map Model.packagesToGenerate hmodel (by decide +kernel),
    Model.eq_of_toOption_map Model.packagesToGenerate hchanged (by decide +kernel),
    Model.eq_of_toOption_map generated hmodel (by decide +kernel),
    Model.eq_of_toOption_map generated hchanged (by decide +kernel)⟩

end LinkedSchema
