import LinkedSchema.Proofs.FileLists
import LinkedSchema.Proofs.Walk

/-!
# Diagnostics

What is logged while a request is linked. Of a file there is a warning for each declaration whose
metadata is there but cannot be read, and behind them an entry for the file; when all files are
registered, a warning for each name that is asked for in vain, and an entry for the request.

A warning is logged before its declaration is registered, which may fail. So the entries of a file that
fails are the first of its warnings, and nothing comes behind them.

* `Declaration.warning?` — the warning about a declaration, read off its options;
* `FileDescriptor.events` — the entries of a file that is registered;
* `Registry.run_fst_of_ok`, `Registry.run_fst_prefix` — the entries of a run, and of one that fails;
* `Request.FailsAt` — the place of the file in which linking fails;
* `Request.Diagnosed`, `Model.diagnosed` — the whole log, of every request.
-/

namespace LinkedSchema

/-! ## What there is to log -/

/-- The warning about a declaration: its metadata extension is there, but it cannot be read. -/
def Declaration.warning? (extensions : ExtensionNames) (declaration : Sigma Declaration) :
    Option Event :=
  (extensions.ofKind? declaration.1).bind fun extension =>
    match (declaration.2.options.extension? extension).map Metadata.ofValue with
    | some (.error reason) => some (.malformedMetadata extension reason)
    | some (.ok _) | none => none

namespace FileDescriptor

variable (extensions : ExtensionNames) (filesToGenerate : List String) (file : FileDescriptor)

/-- The warnings about the declarations of a file, in the order in which they are registered. That is
the order of the walk through the file, which meets each declaration once
(`FileDescriptor.ofKind_walk`); only oneofs are registered before the fields of their message and not
behind them, but they have no metadata. -/
def warnings : List Event :=
  (Declaration.file file).walk.filterMap (Declaration.warning? extensions)

/-- The entry for a file that is registered. -/
def registration : Event :=
  .registeredFile file.name file.package (filesToGenerate.contains file.name) file.messages.length
    file.enums.length file.services.length

/-- All entries of a file that is registered. -/
def events : List Event :=
  file.warnings extensions ++ [file.registration filesToGenerate]

end FileDescriptor

namespace Request

/-- The numbers of declarations of a request, nested ones and groups included. -/
def totals (request : Request) : Totals where
  files := (request.declarations .file).length
  messages := (request.declarations .message).length
  fields := (request.declarations .field).length
  enums := (request.declarations .enum).length
  services := (request.declarations .service).length
  methods := (request.declarations .method).length

/-- The names among those asked for that are names of no file, as often as they are asked for. -/
def unknownFiles (request : Request) : List String :=
  request.filesToGenerate.filter fun name => !request.files.any (·.name == name)

/-- A request with only the first of its files. -/
def firstFiles (request : Request) (count : Nat) : Request :=
  { request with files := request.files.take count }

/-- Linking fails in the file at a position: the files before it are linked, but not with it. -/
structure FailsAt (request : Request) (config : Config) (position : Nat) (error : LinkError) :
    Prop where
  before : ∃ model, (Model.ofRequest (request.firstFiles position) config).outcome = .ok model
  fails : (Model.ofRequest (request.firstFiles (position + 1)) config).outcome = .error error

/-- What is logged while a request is linked. -/
structure Diagnosed (request : Request) (config : Config) : Prop where
  /-- The log of a request that is linked: its files in their order, the names that are asked for in
  vain, and the numbers of all declarations. -/
  linked : ∀ model, (Model.ofRequest request config).outcome = .ok model →
    (Model.ofRequest request config).events =
      request.files.flatMap (·.events config.extensions request.filesToGenerate) ++
        request.unknownFiles.map .unknownFileToGenerate ++ [.linkedRequest request.totals]
  /-- A declaration that is warned about is registered with default metadata. -/
  default : ∀ model, (Model.ofRequest request config).outcome = .ok model →
    ∀ {kind : Kind}, ∀ declaration ∈ request.declarations kind, ∀ event,
      Declaration.warning? config.extensions ⟨kind, declaration⟩ = some event →
        ∃ entity, model.get? kind declaration.id.text = some entity ∧ entity.metadata? = some {}
  /-- Linking that fails does so in a file. -/
  stops : ∀ error, (Model.ofRequest request config).outcome = .error error →
    ∃ position, request.FailsAt config position error
  /-- The log of a request that fails in a file: the files before it, and the first of its
  warnings. -/
  failed : ∀ position error, request.FailsAt config position error →
    (Model.ofRequest request config).outcome = .error error ∧
      ∃ file warnings, request.files[position]? = some file ∧
        warnings <+: file.warnings config.extensions ∧
        (Model.ofRequest request config).events =
          (request.files.take position).flatMap
            (·.events config.extensions request.filesToGenerate) ++ warnings
  /-- Then just the files before it are logged as registered. -/
  registered : ∀ position error, request.FailsAt config position error →
    (Model.ofRequest request config).events.filter (·.message = "registered file") =
      (request.files.take position).map (·.registration request.filesToGenerate)
  /-- And the request is not logged as linked. -/
  unfinished : ∀ position error, request.FailsAt config position error →
    ∀ event ∈ (Model.ofRequest request config).events, event.message ≠ "linked request"

end Request

/-! ## Entries of runs -/

/-- The event that a step logs. -/
def Step.event? : Step → Option Event
  | .log event => some event
  | .refuse _ | .require _ _ _ | .declare _ _ => none

/-- The events that steps log if none of them fails. -/
def logged (steps : List Step) : List Event :=
  steps.flatMap (·.event?.toList)

@[simp]
theorem logged_append (steps more : List Step) :
    logged (steps ++ more) = logged steps ++ logged more :=
  List.flatMap_append

theorem logged_flatMap {α : Type} (items : List α) (f : α → List Step) :
    logged (items.flatMap f) = items.flatMap fun item => logged (f item) :=
  List.flatMap_assoc

namespace Registry

/-- One step of a run: it logs its event and hands the registry on, or it fails and logs nothing. -/
theorem run_cons (registry : Registry) (step : Step) (steps : List Step) :
    registry.run (step :: steps) =
      match registry.perform step with
      | .ok next => (step.event?.toList ++ (next.run steps).1, (next.run steps).2)
      | .error error => ([], .error error) := by
  cases hperform : registry.perform step with
  | error error => rw [run_cons_of_error steps hperform]
  | ok next =>
      cases step with
      | log event =>
          cases hperform
          rfl
      | _ => exact run_cons_of_ok steps (by simp) hperform

/-- A run up to its end logs everything. -/
theorem run_fst_of_ok {registry next : Registry} {steps : List Step}
    (h : (registry.run steps).2 = .ok next) : (registry.run steps).1 = logged steps := by
  induction steps generalizing registry with
  | nil => rfl
  | cons step steps ih =>
      rw [run_cons] at h ⊢
      cases hperform : registry.perform step with
      | ok after =>
          rw [hperform] at h
          exact congrArg (step.event?.toList ++ ·) (ih h)
      | error error =>
          rw [hperform] at h
          cases h

/-- A run that fails logs what comes before the failure. -/
theorem run_fst_prefix (registry : Registry) (steps : List Step) :
    (registry.run steps).1 <+: logged steps := by
  induction steps generalizing registry with
  | nil => exact List.prefix_refl _
  | cons step steps ih =>
      rw [run_cons]
      cases registry.perform step with
      | ok after => exact (List.prefix_append_right_inj step.event?.toList).mpr (ih after)
      | error error => exact List.nil_prefix

end Registry

/-! ## Entries of checks -/

section

variable (extensions : ExtensionNames) (filesToGenerate : List String)

/-- The warning about a declaration, if there is one. -/
def Declaration.report (declaration : Sigma Declaration) : List Event :=
  (Declaration.warning? extensions declaration).toList

/-- What a check logs, whether or not it fails: the check of an identifier comes with the warning about
the declaration. -/
def Check.report : Check → List Event
  | .distinct kind declaration => Declaration.report extensions ⟨kind, declaration⟩
  | .oneofIndex _ | .methodType _ _ _ => []

theorem Check.logged_steps (check : Check) :
    logged (check.steps extensions filesToGenerate) = check.report extensions := by
  cases check with
  | distinct kind declaration =>
      dsimp only [steps, report, Declaration.report, Declaration.warning?]
      cases extensions.ofKind? kind with
      | none => rfl
      | some extension =>
          dsimp only [Option.bind_some, declareWithMetadata, Metadata.read]
          cases (declaration.options.extension? extension).map Metadata.ofValue with
          | none => rfl
          | some reading => cases reading <;> rfl
  | oneofIndex field =>
      dsimp only [steps]
      cases field.oneofIndex with
      | none => rfl
      | some index =>
          dsimp only
          split <;> rfl
  | methodType known method role => rfl

namespace Declaration

/-- Lists of declarations are reported on declaration by declaration. -/
theorem report_flatMap {kind : Kind} {declarations : List (Declaration kind)}
    {checks : Declaration kind → List Check}
    (h : ∀ declaration ∈ declarations, (checks declaration).flatMap (Check.report extensions) =
      declaration.walk.flatMap (report extensions)) :
    (declarations.flatMap checks).flatMap (Check.report extensions) =
      (declarations.flatMap walk).flatMap (report extensions) := by
  rw [List.flatMap_assoc, List.flatMap_assoc]
  exact List.flatMap_congr h

theorem report_enumChecks (enum : Declaration .enum) :
    enum.enumChecks.flatMap (Check.report extensions) =
      enum.walk.flatMap (report extensions) := by
  rw [enumChecks, walk_enum, List.flatMap_cons, List.flatMap_cons, List.flatMap_map,
    List.flatMap_map]
  rfl

theorem report_serviceChecks (known : List (Declaration .message)) (service : Declaration .service) :
    (service.serviceChecks known).flatMap (Check.report extensions) =
      service.walk.flatMap (report extensions) := by
  rw [serviceChecks, walk_service, List.flatMap_cons, List.flatMap_cons, List.flatMap_assoc,
    List.flatMap_map]
  refine congrArg (_ ++ ·) (List.flatMap_congr fun method _ => ?_)
  rw [methodChecks, List.flatMap_cons, List.flatMap_cons, List.flatMap_singleton]
  rfl

/-- The checks of a message report on the declarations that the walk through it meets. -/
theorem report_messageChecks (message : Declaration .message) :
    message.messageChecks.flatMap (Check.report extensions) =
      message.walk.flatMap (report extensions) := by
  induction message using message_induction with
  | step message ih =>
      -- Oneofs are met at another place than they are checked, but there is nothing to report.
      have honeofs : (message.oneofs.map (Check.distinct .oneof)).flatMap
          (Check.report extensions) = [] := by
        rw [List.flatMap_map]
        exact List.flatMap_eq_nil_iff.mpr fun _ _ => rfl
      have hwalked : (message.oneofs.map (Sigma.mk .oneof)).flatMap (report extensions) = [] := by
        rw [List.flatMap_map]
        exact List.flatMap_eq_nil_iff.mpr fun _ _ => rfl
      have hfields : (message.fields.flatMap fieldChecks).flatMap (Check.report extensions) =
          (message.fields.map (Sigma.mk .field)).flatMap (report extensions) := by
        rw [List.flatMap_assoc, List.flatMap_map]
        refine List.flatMap_congr fun field _ => ?_
        rw [fieldChecks, List.flatMap_cons, List.flatMap_singleton]
        rfl
      have hmessages := report_flatMap extensions ih
      have henums := report_flatMap extensions fun enum (_ : enum ∈ message.enums) =>
        report_enumChecks extensions enum
      rw [messageChecks_eq, walk_message]
      simp only [List.flatMap_cons, List.flatMap_append, honeofs, hwalked, hfields, hmessages,
        henums, List.nil_append, List.append_nil]
      rfl

end Declaration

/-- The checks of a file report on all of its declarations. -/
theorem FileDescriptor.report_checks (file : FileDescriptor) (known : List (Declaration .message)) :
    (file.checks known).flatMap (Check.report extensions) = file.warnings extensions := by
  have hmessages := Declaration.report_flatMap extensions
    fun message (_ : message ∈ file.topMessages) => message.report_messageChecks extensions
  have henums := Declaration.report_flatMap extensions
    fun enum (_ : enum ∈ file.topEnums) => enum.report_enumChecks extensions
  have hservices := Declaration.report_flatMap extensions
    fun service (_ : service ∈ file.topServices) => service.report_serviceChecks extensions known
  rw [warnings, List.filterMap_eq_flatMap_toList, checks, Declaration.walk_file]
  simp only [List.flatMap_cons, List.flatMap_append, Declaration.source, hmessages, henums,
    hservices]
  rfl

end

/-! ## Entries of files -/

section

variable {extensions : ExtensionNames} {filesToGenerate : List String}

theorem FileDescriptor.logged_checks (file : FileDescriptor) (known : List (Declaration .message)) :
    logged ((file.checks known).flatMap (Check.steps extensions filesToGenerate)) =
      file.warnings extensions := by
  rw [logged_flatMap, ← file.report_checks extensions known]
  exact List.flatMap_congr fun check _ => check.logged_steps extensions filesToGenerate

namespace Registry

/-- A file that is registered has all its entries. -/
theorem run_file_of_ok {registry next : Registry} {file : FileDescriptor}
    (h : (registry.run (file.steps extensions filesToGenerate)).2 = .ok next) :
    (registry.run (file.steps extensions filesToGenerate)).1 =
      file.events extensions filesToGenerate := by
  rw [file.steps_alike extensions filesToGenerate [] registry] at h ⊢
  rw [run_fst_of_ok h, logged_append, file.logged_checks]
  rfl

/-- A file that fails has only the first of its warnings. -/
theorem run_file_of_error {registry : Registry} {file : FileDescriptor} {error : LinkError}
    (h : (registry.run (file.steps extensions filesToGenerate)).2 = .error error) :
    (registry.run (file.steps extensions filesToGenerate)).1 <+: file.warnings extensions := by
  rw [file.steps_alike extensions filesToGenerate [] registry] at h ⊢
  rw [run_append_snd] at h
  rw [run_append_fst]
  -- The entry for the file comes last, so it is not what fails.
  cases hchecks : (registry.run ((file.checks []).flatMap
      (Check.steps extensions filesToGenerate))).2 with
  | ok next =>
      rw [hchecks] at h
      cases h
  | error found =>
      rw [← @FileDescriptor.logged_checks extensions filesToGenerate file []]
      exact registry.run_fst_prefix _

/-- Files that are registered one after the other have all their entries. -/
theorem run_files_of_ok {registry next : Registry} {files : List FileDescriptor}
    (h : (registry.run (files.flatMap (·.steps extensions filesToGenerate))).2 = .ok next) :
    (registry.run (files.flatMap (·.steps extensions filesToGenerate))).1 =
      files.flatMap (·.events extensions filesToGenerate) := by
  induction files generalizing registry with
  | nil => rfl
  | cons file files ih =>
      rw [List.flatMap_cons, run_append_snd] at h
      rw [List.flatMap_cons, List.flatMap_cons, run_append_fst]
      cases hfile : (registry.run (file.steps extensions filesToGenerate)).2 with
      | error error =>
          rw [hfile] at h
          cases h
      | ok after =>
          rw [hfile] at h
          rw [← run_file_of_ok hfile, ← ih h]

end Registry

end

/-! ## Entries of requests -/

variable {request : Request} {config : Config}

namespace Model

/-- The run behind a model, and what is logged when it has come to its end. -/
theorem run_of_ok {model : Model} (h : (ofRequest request config).outcome = .ok model) :
    (({} : Registry).run (request.steps config.extensions)).2 = .ok model.registry ∧
      (ofRequest request config).events =
        (({} : Registry).run (request.steps config.extensions)).1 ++
          (model.registry.missingFiles request.filesToGenerate).map .unknownFileToGenerate ++
            [.linkedRequest model.registry.totals] := by
  revert h
  unfold ofRequest
  rcases ({} : Registry).run (request.steps config.extensions) with ⟨events, outcome⟩
  cases outcome with
  | error error => nofun
  | ok registry =>
      rintro ⟨⟩
      exact ⟨rfl, rfl⟩

/-- The run behind a failure, and what is logged by then. -/
theorem run_of_error {error : LinkError}
    (h : (ofRequest request config).outcome = .error error) :
    (({} : Registry).run (request.steps config.extensions)).2 = .error error ∧
      (ofRequest request config).events =
        (({} : Registry).run (request.steps config.extensions)).1 := by
  revert h
  unfold ofRequest
  rcases ({} : Registry).run (request.steps config.extensions) with ⟨events, outcome⟩
  cases outcome with
  | ok registry => nofun
  | error found =>
      rintro ⟨⟩
      exact ⟨rfl, rfl⟩

end Model

namespace Links

variable {model : Model}

/-- The numbers of entities are those of declarations. -/
theorem totals_eq (h : Links request config model) : model.registry.totals = request.totals := by
  have hsize (kind : Kind) :
      (model.registry.arena kind).size = (request.declarations kind).length := by
    rw [h.holds.size_eq, List.length_map]
  exact Totals.mk.injEq .. |>.mpr ⟨hsize .file, hsize .message, hsize .field, hsize .enum,
    hsize .service, hsize .method⟩

/-- The names of registered files are those of the files of the request. -/
theorem missingFiles_eq (h : Links request config model) :
    model.registry.missingFiles request.filesToGenerate = request.unknownFiles := by
  have hfiles : model.registry.files.toList =
      request.files.map fun file => request.entity config (.file file) := by
    refine (h.toList_eq .file).trans ?_
    rw [request.declarations_file, List.map_map]
    rfl
  rw [Registry.missingFiles, Request.unknownFiles, hfiles]
  refine List.filter_congr fun name _ => ?_
  rw [List.any_map]
  rfl

end Links

/-! ## Requests that fail -/

namespace Request

theorem files_eq_append (request : Request) (count : Nat) :
    request.files = (request.firstFiles count).files ++ request.files.drop count :=
  (List.take_append_drop count request.files).symm

/-- Linking that fails with the first files fails with all of them, and logs the same. -/
theorem events_of_firstFiles {count : Nat} {error : LinkError}
    (h : (Model.ofRequest (request.firstFiles count) config).outcome = .error error) :
    (Model.ofRequest request config).outcome = .error error ∧
      (Model.ofRequest request config).events =
        (Model.ofRequest (request.firstFiles count) config).events := by
  have hall := Model.outcome_append_of_error (request.files_eq_append count) rfl h
  obtain ⟨houtcome, hevents⟩ := Model.run_of_error h
  refine ⟨hall, ?_⟩
  rw [(Model.run_of_error hall).2, hevents, steps_append (request.files_eq_append count) rfl,
    Registry.run_append_fst, houtcome]

/-- Linking that fails does so in some file. -/
theorem exists_failsAt {error : LinkError}
    (h : (Model.ofRequest request config).outcome = .error error) :
    ∃ position, request.FailsAt config position error := by
  -- Files are taken away from behind, up to the last one without which linking does not fail.
  have hfirst : ∀ count,
      (Model.ofRequest (request.firstFiles count) config).outcome = .error error →
        ∃ position, request.FailsAt config position error := by
    intro count
    induction count with
    | zero => nofun
    | succ count ih =>
        intro hfails
        cases hbefore : (Model.ofRequest (request.firstFiles count) config).outcome with
        | ok model => exact ⟨count, ⟨model, hbefore⟩, hfails⟩
        | error found =>
            have hfound := (events_of_firstFiles hbefore).1
            rw [h] at hfound
            cases hfound
            exact ih hbefore
  have hall : request.firstFiles request.files.length = request := by
    rw [firstFiles, List.take_length]
  exact hfirst request.files.length (by rw [hall, h])

namespace FailsAt

variable {position : Nat} {error : LinkError}

/-- There is a file at the place in which linking fails. -/
theorem exists_file (h : request.FailsAt config position error) :
    ∃ file, request.files[position]? = some file := by
  obtain ⟨model, hmodel⟩ := h.before
  by_contra hnone
  rw [← Option.isSome_iff_exists, Option.not_isSome_iff_eq_none, List.getElem?_eq_none_iff] at hnone
  have hsame : request.firstFiles (position + 1) = request.firstFiles position := by
    rw [firstFiles, firstFiles, List.take_of_length_le hnone,
      List.take_of_length_le (Nat.le_succ_of_le hnone)]
  have hfails := h.fails
  rw [hsame, hmodel] at hfails
  cases hfails

/-- The log of a request that fails in a file. -/
theorem events_eq (h : request.FailsAt config position error) :
    ∃ file warnings, request.files[position]? = some file ∧
      warnings <+: file.warnings config.extensions ∧
      (Model.ofRequest request config).events =
        (request.files.take position).flatMap
          (·.events config.extensions request.filesToGenerate) ++ warnings := by
  obtain ⟨file, hfile⟩ := h.exists_file
  obtain ⟨model, hmodel⟩ := h.before
  have hbefore := (Model.run_of_ok hmodel).1
  obtain ⟨hfails, hevents⟩ := Model.run_of_error h.fails
  have hfiles : (request.firstFiles (position + 1)).files =
      (request.firstFiles position).files ++ [file] := by
    rw [firstFiles, firstFiles, List.take_add_one, hfile]
    rfl
  rw [steps_append hfiles rfl, List.flatMap_singleton] at hfails hevents
  rw [Registry.run_append_snd, hbefore] at hfails
  rw [Registry.run_append_fst, hbefore] at hevents
  refine ⟨file, _, hfile, Registry.run_file_of_error hfails, ?_⟩
  rw [(events_of_firstFiles h.fails).2, hevents]
  exact congrArg (· ++ _) (Registry.run_files_of_ok hbefore)

end FailsAt

end Request

/-! ## The whole log -/

/-- A warning is about an extension that is there and cannot be read. -/
theorem Declaration.warning?_eq_some_iff {extensions : ExtensionNames}
    {declaration : Sigma Declaration} {event : Event} :
    Declaration.warning? extensions declaration = some event ↔
      ∃ extension value reason, extensions.ofKind? declaration.1 = some extension ∧
        declaration.2.options.extension? extension = some value ∧
        Metadata.ofValue value = .error reason ∧ event = .malformedMetadata extension reason := by
  rw [warning?, Option.bind_eq_some_iff]
  constructor
  · rintro ⟨extension, hextension, hevent⟩
    cases hvalue : declaration.2.options.extension? extension with
    | none => simp [hvalue] at hevent
    | some value =>
        cases hreading : Metadata.ofValue value with
        | ok metadata => simp [hvalue, hreading] at hevent
        | error reason =>
            refine ⟨extension, value, reason, hextension, hvalue, hreading, ?_⟩
            simpa [hvalue, hreading] using hevent.symm
  · rintro ⟨extension, value, reason, hextension, hvalue, hreading, rfl⟩
    exact ⟨extension, hextension, by simp [hvalue, hreading]⟩

/-- A declaration that is warned about has default metadata. -/
theorem Declaration.metadata?_of_warning? {extensions : ExtensionNames}
    {filesToGenerate : List String} {kind : Kind} {declaration : Declaration kind} {event : Event}
    (h : Declaration.warning? extensions ⟨kind, declaration⟩ = some event) :
    (declaration.entity extensions filesToGenerate).metadata? = some {} := by
  obtain ⟨extension, value, reason, hextension, hvalue, hreading, -⟩ :=
    Declaration.warning?_eq_some_iff.mp h
  have hmetadata : declaration.metadata extensions = {} := by
    simp only [metadata, hextension, Metadata.effective, Metadata.read]
    rw [show declaration.options.extension? extension = some value from hvalue, Option.map_some,
      hreading]
  rw [entity, hmetadata]
  cases declaration with
  | oneof => cases hextension
  | _ => rfl

namespace FileDescriptor

variable {extensions : ExtensionNames} {filesToGenerate : List String} {file : FileDescriptor}

theorem message_of_mem_warnings {event : Event} (h : event ∈ file.warnings extensions) :
    event.message = "ignoring malformed metadata extension" := by
  obtain ⟨declaration, -, hwarning⟩ := List.mem_filterMap.mp h
  obtain ⟨extension, value, reason, -, -, -, rfl⟩ := Declaration.warning?_eq_some_iff.mp hwarning
  rfl

theorem filter_warnings {warnings : List Event} (h : warnings <+: file.warnings extensions) :
    warnings.filter (·.message = "registered file") = [] := by
  rw [List.filter_eq_nil_iff]
  intro event hevent
  simp [message_of_mem_warnings (h.subset hevent)]

theorem filter_events :
    (file.events extensions filesToGenerate).filter (·.message = "registered file") =
      [file.registration filesToGenerate] := by
  rw [events, List.filter_append, filter_warnings (List.prefix_refl _)]
  rfl

theorem message_of_mem_events {event : Event} (h : event ∈ file.events extensions filesToGenerate) :
    event.message ≠ "linked request" := by
  rcases List.mem_append.mp h with hwarning | hregistration
  · rw [message_of_mem_warnings hwarning]
    decide
  · rw [List.mem_singleton.mp hregistration]
    show "registered file" ≠ "linked request"
    decide

end FileDescriptor

/-- The log of every request is complete, and nothing in it is repeated. -/
theorem Model.diagnosed (request : Request) (config : Config) : request.Diagnosed config where
  linked model h := by
    have hlinks := Model.links_of_ok h
    obtain ⟨hrun, hevents⟩ := run_of_ok h
    rw [hevents, hlinks.missingFiles_eq, hlinks.totals_eq]
    exact congrArg (· ++ _ ++ _) (Registry.run_files_of_ok hrun)
  default model h kind declaration hmem event hwarning := by
    have hlinks := Model.links_of_ok h
    exact ⟨request.entity config declaration, hlinks.get?_id hmem,
      Declaration.metadata?_of_warning? hwarning⟩
  stops error h := Request.exists_failsAt h
  failed position error h := ⟨(Request.events_of_firstFiles h.fails).1, h.events_eq⟩
  registered position error h := by
    obtain ⟨file, warnings, -, hfirst, hevents⟩ := h.events_eq
    rw [hevents, List.filter_append, FileDescriptor.filter_warnings hfirst, List.append_nil,
      List.filter_flatMap, List.map_eq_flatMap]
    exact List.flatMap_congr fun file _ => FileDescriptor.filter_events
  unfinished position error h := by
    obtain ⟨file, warnings, -, hfirst, hevents⟩ := h.events_eq
    rw [hevents]
    intro event hevent
    rcases List.mem_append.mp hevent with hbefore | hwarning
    · obtain ⟨registered, -, hmem⟩ := List.mem_flatMap.mp hbefore
      exact FileDescriptor.message_of_mem_events hmem
    · rw [FileDescriptor.message_of_mem_warnings (hfirst.subset hwarning)]
      decide

/-- A message with metadata of which only a part can be read. -/
def hiddenMessage (name : String) : MessageDescriptor where
  name := name
  options := Options.empty.set "[template.message_meta]"
    (.object [("tags", .list [.string "api"]), ("visibility", .string "HIDDEN")])

/-- The second file fails at its second message, which is warned about before it is refused. -/
example : (Model.ofRequest { files := [
      { name := "reply.proto", messages := [hiddenMessage "Reply"] },
      { name := "echo.proto", messages := [hiddenMessage "Echo", hiddenMessage "Echo"] }] }
    {}).events.map Event.message =
      ["ignoring malformed metadata extension", "registered file",
        "ignoring malformed metadata extension", "ignoring malformed metadata extension"] := by
  decide +kernel

end LinkedSchema
