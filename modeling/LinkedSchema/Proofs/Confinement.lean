import LinkedSchema.GoPackage
import LinkedSchema.Proofs.Dictionary
import LinkedSchema.Proofs.FileLists
import LinkedSchema.Proofs.Independence

/-!
# What extensions and deprecation cannot reach

Metadata, standard options and deprecation are all read from the same options. Metadata is stored
under keys in brackets and standard options under others, so neither the names of the extensions nor
anything written under a key in brackets, readable or not, is seen in what comes of linking a request,
except in metadata and in visibility. The other way round, visibility does not see deprecation.

* `Options.restrict`, `Options.standard`, `Options.withoutDeprecated` — the options under some of the
  keys;
* `Model.Undisturbed` — models that differ in nothing but extensions and what comes of them;
* `Model.extensions_confined` — what names and values of extensions, and deprecation, can change.
-/

namespace LinkedSchema

/-! ## Options by their keys -/

namespace Options

/-- The options under the keys that are kept. -/
def restrict (keep : String → Bool) (options : Options) : Options :=
  ⟨options.entries.restrict keep⟩

/-- Whether a key is that of an extension: it begins with a bracket. -/
def isExtensionKey (key : String) : Bool :=
  key.toList.head? == some '['

/-- The options that are no extensions. -/
def standard (options : Options) : Options :=
  options.restrict (!isExtensionKey ·)

/-- The options but for the one that every kind of declaration has. -/
def withoutDeprecated (options : Options) : Options :=
  options.restrict (· != "deprecated")

section

variable {keep : String → Bool} (options : Options) {key : String}

theorem get?_restrict_of (hkey : keep key = true) :
    (options.restrict keep).get? key = options.get? key := by
  rw [get?, get?, restrict, Dictionary.get?_restrict, if_pos hkey]

/-- An option under a key that is not kept makes no difference. -/
theorem restrict_set_of_not (hkey : keep (jsonKey key) = false) (value : Json.Value) :
    (options.set key value).restrict keep = options.restrict keep := by
  rw [restrict, set, Dictionary.restrict_insert_of_not _ _ hkey, restrict]

end

/-- Options that agree on a key agree on the flag under it. -/
theorem flag_eq_of_get?_eq {options other : Options} {key : String}
    (h : other.get? key = options.get? key) : other.flag key = options.flag key := by
  rw [flag, flag, h]

/-- Options that agree on a key agree on the text under it. -/
theorem string?_eq_of_get?_eq {options other : Options} {key : String}
    (h : other.get? key = options.get? key) : other.string? key = options.string? key := by
  rw [string?, string?, h]

/-- The key of an extension is one. -/
theorem isExtensionKey_extensionKey (name : String) :
    isExtensionKey (extensionKey name) = true := by
  simp [isExtensionKey, extensionKey]

/-- Metadata is not read from the option that every kind of declaration has. -/
theorem effective_withoutDeprecated (options : Options) (extension : String) :
    Metadata.effective options.withoutDeprecated extension =
      Metadata.effective options extension := by
  have hkey : (extensionKey extension != "deprecated") = true := by
    rw [bne_iff_ne]
    intro heq
    have hbracket := isExtensionKey_extensionKey extension
    rw [heq] at hbracket
    exact absurd hbracket (by decide)
  have hvalue : options.withoutDeprecated.extension? extension = options.extension? extension :=
    options.get?_restrict_of hkey
  rw [Metadata.effective, Metadata.effective, Metadata.read, Metadata.read, hvalue]

end Options

/-! ## Erasures -/

namespace Erasure

/-- Erases metadata. -/
def ofMetadata : Erasure where
  metadata := fun _ => {}

/-- Erases extensions, and the metadata that is read from them. -/
def ofExtensions : Erasure where
  options := Options.standard
  metadata := fun _ => {}

/-- Erases the option that every kind of declaration has. -/
def ofDeprecated : Erasure where
  options := Options.withoutDeprecated

theorem settles_ofDeprecated (extensions : ExtensionNames) :
    ofDeprecated.Settles extensions extensions := by
  intro kind declaration
  show declaration.metadata extensions = _
  rw [Declaration.metadata, Declaration.metadata, Declaration.options_mapOptions]
  cases extensions.ofKind? kind with
  | none => rfl
  | some extension => exact (Options.effective_withoutDeprecated _ extension).symm

end Erasure

/-! ## Confinement -/

namespace Model

/-- A model differs from another in nothing but what is erased and what comes of visibility. -/
structure Undisturbed (erasure : Erasure) (model changed : Model) : Prop
    extends SameUpTo erasure model changed where
  parameter : changed.parameter = model.parameter
  filesToGenerate : changed.filesToGenerate = model.filesToGenerate
  compilerVersion : changed.compilerVersion = model.compilerVersion
  packagesToGenerate : changed.packagesToGenerate = model.packagesToGenerate
  generated : ∀ {kind : Kind} {a b : Entity kind}, model.Counterparts changed a b →
    changed.isGenerated b = model.isGenerated a
  goPackage : ∀ {a b : File}, @Counterparts model changed .file a b →
    b.goPackageName = a.goPackageName ∧ b.goPackageImport = a.goPackageImport
  mapEntry : ∀ {a b : Message}, @Counterparts model changed .message a b →
    b.isMapEntry = a.isMapEntry
  /-- By the older rule deprecation of enums comes of visibility; otherwise it is the same, and by
  the other rule all deprecation is. -/
  deprecated : ∀ {kind : Kind} {a b : Entity kind}, model.Counterparts changed a b →
    model.config.enumDeprecation = .ancestors ∨ ¬ model.AsksEnum a →
      changed.isDeprecated b = model.isDeprecated a

variable {request other : Request} {config rule : Config}

/-- Models that are alike once something is erased that no standard option shows are undisturbed. -/
theorem Alike.undisturbed {erasure : Erasure} {model changed : Model}
    (hmodel : (ofRequest request config).outcome = .ok model)
    (hchanged : (ofRequest other rule).outcome = .ok changed)
    (h : Alike erasure model changed)
    (hoptions : ∀ (options : Options) (key : String), Options.isExtensionKey key = false →
      (erasure.options options).get? key = options.get? key)
    (hgenerate : ∀ wanted, erasure.generate wanted = wanted)
    (hparameter : other.parameter = request.parameter)
    (hfilesToGenerate : other.filesToGenerate = request.filesToGenerate)
    (hcompilerVersion : other.compilerVersion = request.compilerVersion)
    (hrule : rule.enumDeprecation = config.enumDeprecation) :
    Undisturbed erasure model changed := by
  obtain ⟨hkeptParameter, hkeptFiles, hkeptVersion⟩ := request_of_ok hmodel
  obtain ⟨hparameterChanged, hfilesChanged, hversionChanged⟩ := request_of_ok hchanged
  have hdeprecated (options : Options) :
      (erasure.options options).deprecated = options.deprecated :=
    Options.flag_eq_of_get?_eq (hoptions options "deprecated" (by decide))
  exact {
    h.sameUpTo with
    parameter := by rw [hkeptParameter, hparameterChanged, hparameter]
    filesToGenerate := by rw [hkeptFiles, hfilesChanged, hfilesToGenerate]
    compilerVersion := by rw [hkeptVersion, hversionChanged, hcompilerVersion]
    packagesToGenerate := h.packagesToGenerate hgenerate
    generated := fun hab => by
      have hfile := h.fileOf (h.erase_eq hab)
      exact Entity.read_eq File.generate (fun file => hgenerate (File.generate file)) hfile
    goPackage := fun {a b} hab => by
      have hname : b.name = a.name := Entity.read_eq File.name (fun _ => rfl) (h.erase_eq hab)
      have hpackage : b.goPackage? = a.goPackage? := by
        refine Entity.read_eq File.goPackage? (fun file => ?_) (h.erase_eq hab)
        show ((erasure.options file.options).string? "goPackage").filter _ = _
        rw [Options.string?_eq_of_get?_eq (hoptions file.options "goPackage" (by decide))]
        rfl
      rw [File.goPackageName, File.goPackageName, File.goPackageImport, File.goPackageImport,
        hpackage, hname]
      exact ⟨rfl, rfl⟩
    mapEntry := fun hab => by
      refine Entity.read_eq Message.isMapEntry (fun message => ?_) (h.erase_eq hab)
      exact Options.flag_eq_of_get?_eq (hoptions message.options "mapEntry" (by decide))
    deprecated := fun hab hwhen => by
      refine h.isDeprecated hdeprecated (h.erase_eq hab) fun hasks enum same hsame => ?_
      have hancestors := hwhen.resolve_right (not_not_intro hasks)
      refine h.enumDeprecated_of_ancestors hdeprecated hancestors ?_ hsame
      rwa [config_of_ok hchanged, hrule, ← config_of_ok hmodel] }

/-- Neither the names of the extensions nor anything that is written under keys in brackets disturbs
a model, or whether there is one; and visibility depends neither on what is marked as deprecated nor
on the rule by which enums inherit that. -/
theorem extensions_confined (request : Request) (config : Config) :
    (∀ extensions : ExtensionNames,
      Matching (Undisturbed .ofMetadata) (ofRequest request config).outcome
        (ofRequest request { config with extensions }).outcome) ∧
    (∀ other : Request, other.mapOptions Options.standard = request.mapOptions Options.standard →
      Matching (Undisturbed .ofExtensions) (ofRequest request config).outcome
        (ofRequest other config).outcome) ∧
    (∀ (other : Request) (enumDeprecation : EnumDeprecation),
      other.mapOptions Options.withoutDeprecated = request.mapOptions Options.withoutDeprecated →
        Matching (fun model changed => SameUpTo .ofDeprecated model changed ∧
            ∀ {kind : Kind} {a b : Entity kind}, model.Counterparts changed a b →
              changed.isVisible b = model.isVisible a)
          (ofRequest request config).outcome
          (ofRequest other { config with enumDeprecation }).outcome) := by
  refine ⟨fun extensions => ?_, fun other hother => ?_, fun other enumDeprecation hother => ?_⟩
  · refine @matching_of_files request request _ _ _ id rfl fun model changed hmodel hchanged => ?_
    have halike : Alike .ofMetadata model changed :=
      alike_of_ok hmodel hchanged rfl (fun _ => rfl) (fun _ => rfl) fun _ => rfl
    exact halike.undisturbed hmodel hchanged (fun _ _ _ => rfl) (fun _ => rfl) rfl rfl rfl rfl
  · have hfiles := congrArg Request.files hother
    refine matching_of_files hfiles fun model changed hmodel hchanged => ?_
    obtain ⟨hfilesToGenerate, hparameter, hcompilerVersion⟩ := Request.eq_of_mapOptions_eq hother
    have halike : Alike .ofExtensions model changed :=
      alike_of_ok hmodel hchanged hfiles (fun _ => rfl) (fun _ => rfl)
        fun name => by rw [hfilesToGenerate]
    exact halike.undisturbed hmodel hchanged
      (fun options key hkey => options.get?_restrict_of (by rw [hkey]; rfl)) (fun _ => rfl)
      hparameter hfilesToGenerate hcompilerVersion rfl
  · have hfiles := congrArg Request.files hother
    refine matching_of_files hfiles fun model changed hmodel hchanged => ?_
    obtain ⟨hfilesToGenerate, -, -⟩ := Request.eq_of_mapOptions_eq hother
    have halike : Alike .ofDeprecated model changed :=
      alike_of_ok hmodel hchanged hfiles (Erasure.settles_ofDeprecated config.extensions)
        (Erasure.settles_ofDeprecated config.extensions) fun name => by rw [hfilesToGenerate]
    exact ⟨halike.sameUpTo, fun hab => halike.isVisible (fun _ => rfl) (halike.erase_eq hab)⟩

end Model

/-- The file of the example, marked as deprecated. -/
def deprecatedShapesFile : FileDescriptor :=
  { shapesFile with options := Options.empty.set "deprecated" (.bool true) }

/-- What hides a file changes nothing but what is visible, and what marks it as deprecated hides
nothing. -/
theorem Model.extensions_confined_shapesFile :
    ∃ model hidden deprecated,
      (Model.ofRequest { files := [shapesFile] } {}).outcome = .ok model ∧
      (Model.ofRequest { files := [hiddenShapesFile] } {}).outcome = .ok hidden ∧
      (Model.ofRequest { files := [deprecatedShapesFile] } {}).outcome = .ok deprecated ∧
      Model.Undisturbed .ofExtensions model hidden ∧
      Model.SameUpTo .ofDeprecated model deprecated ∧
      (model.all .message).map (fun message =>
        (model.isVisible message, model.isDeprecated message)) = [(true, false), (true, false)] ∧
      (hidden.all .message).map (fun message =>
        (hidden.isVisible message, hidden.isDeprecated message)) =
          [(false, false), (false, false)] ∧
      (deprecated.all .message).map (fun message =>
        (deprecated.isVisible message, deprecated.isDeprecated message)) =
          [(true, true), (true, true)] := by
  obtain ⟨model, hmodel, -⟩ := @Model.exists_ofRequest_eq_ok { files := [shapesFile] } {}
    (by decide +kernel)
  have hhidden : (Request.mapOptions Options.standard { files := [hiddenShapesFile] }) =
      Request.mapOptions Options.standard { files := [shapesFile] } := by
    have hoptions : hiddenShapesFile.options.standard = shapesFile.options.standard :=
      Options.restrict_set_of_not _ (by decide) _
    rw [Request.mapOptions, Request.mapOptions, List.map_singleton, List.map_singleton,
      FileDescriptor.mapOptions, FileDescriptor.mapOptions, hoptions]
    rfl
  have hdeprecated :
      (Request.mapOptions Options.withoutDeprecated { files := [deprecatedShapesFile] }) =
        Request.mapOptions Options.withoutDeprecated { files := [shapesFile] } := by
    have hoptions : deprecatedShapesFile.options.withoutDeprecated =
        shapesFile.options.withoutDeprecated :=
      Options.restrict_set_of_not _ (by decide) _
    rw [Request.mapOptions, Request.mapOptions, List.map_singleton, List.map_singleton,
      FileDescriptor.mapOptions, FileDescriptor.mapOptions, hoptions]
    rfl
  obtain ⟨-, hextensions, hvisible⟩ := Model.extensions_confined { files := [shapesFile] } {}
  obtain ⟨hidden, hhidden, hundisturbed⟩ := (hextensions _ hhidden).exists_of_ok hmodel
  obtain ⟨deprecated, hdeprecated, hsame, -⟩ :=
    (hvisible _ .ancestors hdeprecated).exists_of_ok hmodel
  let told (model : Model) : List (Bool × Bool) := (model.all .message).map fun message =>
    (model.isVisible message, model.isDeprecated message)
  exact ⟨model, hidden, deprecated, hmodel, hhidden, hdeprecated, hundisturbed, hsame,
    Model.eq_of_toOption_map told hmodel (by decide +kernel),
    Model.eq_of_toOption_map told hhidden (by decide +kernel),
    Model.eq_of_toOption_map told hdeprecated (by decide +kernel)⟩

end LinkedSchema
