import LinkedSchema.Proofs.Pruning

/-!
# References in a summary

A summary that is restricted to what is visible has no dangling references: whatever it shows of
fields and methods refers to types that it shows too, each in its file and inside all the messages
around it. A field or a method asks its types whether they are visible, so they are; and what is around
something visible is visible, so that no record on the way to a type is left out.

* `Level`, `Descends` — the records at a level of a summary, and the ways into it;
* `ModelSummary.Lists` — a type has its record at its place;
* `Links.exists_level_of_message` — the place of a visible message;
* `NoDangling`, `noDangling_of_ok` — references lead to records, and from what is not deprecated to
  what is not.
-/

namespace LinkedSchema.Inspect

/-! ## Places in a summary -/

/-- The records of messages and enums that stand beside each other. -/
structure Level where
  messages : List MessageSummary
  enums : List EnumSummary

/-- The identifiers of the records of a kind of types. -/
def Level.ids (level : Level) : Kind → List String
  | .message => level.messages.map (·.id)
  | .enum => level.enums.map (·.id)
  | _ => []

/-- The records directly in a message. -/
def MessageSummary.level (message : MessageSummary) : Level :=
  ⟨message.messages, message.enums⟩

/-- The records at the level of a file. -/
def FileSummary.level (file : FileSummary) : Level :=
  ⟨file.messages, file.enums⟩

/-- The way into a level: from another one through records of messages with given identifiers, the
outermost first. -/
inductive Descends : Level → List String → Level → Prop
  | stay (level : Level) : Descends level [] level
  | enter {level inner : Level} {outer : MessageSummary} {path : List String}
      (houter : outer ∈ level.messages) (hinner : Descends outer.level path inner) :
      Descends level (outer.id :: path) inner

/-- A way goes on into a message at its end. -/
theorem Descends.append {level inner : Level} {path : List String} (h : Descends level path inner)
    {message : MessageSummary} (hmessage : message ∈ inner.messages) :
    Descends level (path ++ [message.id]) message.level := by
  induction h with
  | stay level => exact .enter hmessage (.stay _)
  | enter houter _ ih => exact .enter houter (ih hmessage)

end LinkedSchema.Inspect

namespace LinkedSchema.Model

/-- The messages around a type, the innermost first. -/
def messagesAround (model : Model) : {kind : Kind} → Entity kind → List Message
  | .message, message => model.enclosingMessages message
  | .enum, enum =>
      match model.enumParent? enum with
      | some parent => parent :: model.enclosingMessages parent
      | none => []
  | _, _ => []

end LinkedSchema.Model

namespace LinkedSchema.Inspect

/-- A summary has a record for a type, under its file and under all messages around it. -/
def ModelSummary.Lists (summary : ModelSummary) (model : Model) {kind : Kind}
    (type : Entity kind) : Prop :=
  ∃ file ∈ summary.files, file.id = (model.fileOf type).id.text ∧
    ∃ level, Descends file.level ((model.messagesAround type).reverse.map (·.id.text)) level ∧
      type.id.text ∈ level.ids kind

/-- References of what is kept lead to what is kept. -/
structure NoDangling (model : Model) : Prop where
  /-- The declared type of a field in the summary of what is visible has a record there. -/
  field : ∀ {id : String} {field : Field}, model.get? .field id = some field →
    id ∈ ((summarize model ⟨false, true⟩).ofKind .field).map Entry.id →
      (∀ type, model.typeMessage? field = some type →
        @ModelSummary.Lists (summarize model ⟨false, true⟩) model .message type) ∧
      ∀ type, model.typeEnum? field = some type →
        @ModelSummary.Lists (summarize model ⟨false, true⟩) model .enum type
  /-- Both types of a method in the summary of what is visible have records there. -/
  method : ∀ {id : String} {method : Method}, model.get? .method id = some method →
    id ∈ ((summarize model ⟨false, true⟩).ofKind .method).map Entry.id →
      @ModelSummary.Lists (summarize model ⟨false, true⟩) model .message (model.inputOf method) ∧
        @ModelSummary.Lists (summarize model ⟨false, true⟩) model .message (model.outputOf method)
  /-- A field in a listing of what is not deprecated has no deprecated type. -/
  fieldNotDeprecated : ∀ {restrictions : List Restriction} {fields : List Field} {field : Field},
    .notDeprecated ∈ restrictions → field ∈ model.select .field restrictions fields →
      (∀ type, model.typeMessage? field = some type → model.messageDeprecated type = false) ∧
        ∀ type, model.typeEnum? field = some type → model.enumDeprecated type = false
  /-- A method in a listing of what is not deprecated has no deprecated type. -/
  methodNotDeprecated : ∀ {restrictions : List Restriction} {methods : List Method}
    {method : Method}, .notDeprecated ∈ restrictions →
      method ∈ model.select .method restrictions methods →
        model.messageDeprecated (model.inputOf method) = false ∧
          model.messageDeprecated (model.outputOf method) = false

end LinkedSchema.Inspect

namespace LinkedSchema.Links

open Inspect

variable {request : Request} {config : Config} {model : Model}

/-- The messages around a type of a request. -/
theorem messagesAround_message (h : Links request config model) {message : Declaration .message}
    (hmem : message ∈ request.declarations .message) :
    model.messagesAround (request.entity config message) =
      message.enclosing.map (request.entity config) :=
  h.enclosingMessages_entity hmem

theorem messagesAround_enum (h : Links request config model) {enum : Declaration .enum}
    (hmem : enum ∈ request.declarations .enum) :
    model.messagesAround (request.entity config enum) =
      enum.enclosing.map (request.entity config) := by
  show (match model.enumParent? (request.entity config enum) with
    | some parent => parent :: model.enclosingMessages parent
    | none => []) = _
  rw [h.enumParent?_entity hmem]
  cases enum with
  | enum => rfl
  | nestedEnum around =>
      have haround := Request.enclosing_subset hmem List.mem_cons_self
      exact congrArg _ (h.enclosingMessages_entity haround)

/-- A member of something that is listed as visible has a record among the others, if it is visible
itself. -/
theorem mem_keep_children (h : Links request config model) {kind child : Kind}
    (hkind : kind ≠ .oneof) {owner : Declaration kind}
    (howner : owner ∈ request.declarations kind) {member : Declaration child}
    (hmember : member ∈ owner.members child) (hlisted : member.isListed = true)
    (hvisible : model.isVisible (request.entity config member) = true) :
    request.entity config member ∈ Filter.keep ⟨false, true⟩ model child
      (model.children (request.entity config owner) child) := by
  rw [h.keep_children _ hkind howner]
  refine List.mem_map_of_mem (List.mem_filter.mpr ⟨hmember, ?_⟩)
  rw [isShown, hlisted, hvisible]
  rfl

/-- A way to the record of a message goes on into the record. -/
theorem descends_append {file inner : Level} {around : Declaration .message}
    (hdescends : Descends file (around.enclosing.reverse.map (·.id.text)) inner) {limit : Nat}
    (hrecord : summarizeMessage model ⟨false, true⟩ limit (request.entity config around) ∈
      inner.messages) :
    Descends file ((around :: around.enclosing).reverse.map (·.id.text))
      (summarizeMessage model ⟨false, true⟩ limit (request.entity config around)).level := by
  have hid : (summarizeMessage model ⟨false, true⟩ limit (request.entity config around)).id =
      around.id.text := by
    have hentity := around.id_entity config.extensions request.filesToGenerate
    cases limit <;> exact congrArg Ident.text hentity
  have hway := hdescends.append hrecord
  rw [hid] at hway
  rw [List.reverse_cons, List.map_append]
  exact hway

/-- A visible message has a record inside those of all messages around it, and the limit on nesting is
met nowhere inside it. -/
theorem exists_level_of_message (h : Links request config model) :
    ∀ message : Declaration .message, message ∈ request.declarations .message →
      model.isVisible (request.entity config message) = true →
        ∃ level limit,
          Descends (summarizeFile model ⟨false, true⟩
              (request.entity config (.file message.source))).level
            (message.enclosing.reverse.map (·.id.text)) level ∧
          summarizeMessage model ⟨false, true⟩ limit (request.entity config message) ∈
            level.messages ∧
          message.preorder.length ≤ limit
  | .message source position descriptor, hmem, hvisible => by
      obtain ⟨hfile, hmember⟩ := Request.mem_members_of_around? hmem rfl
      have hkept := h.mem_keep_children (by decide) hfile hmember rfl hvisible
      exact ⟨_, _, .stay _, List.mem_map_of_mem hkept,
        h.length_preorder_le (Request.source_mem_files hmem) hmember⟩
  | .nested around position descriptor, hmem, hvisible => by
      obtain ⟨haround, hmember⟩ := Request.mem_members_of_around? hmem rfl
      have haroundVisible := h.isVisible_of_mem_members haround hmember hvisible
      obtain ⟨level, limit, hdescends, hrecord, hlimit⟩ :=
        exists_level_of_message h around haround haroundVisible
      -- The limit goes down by one on the way inwards, and so does the number of messages inside.
      have hlength := Declaration.length_preorder_lt hmember
      obtain ⟨rest, rfl⟩ : ∃ rest, limit = rest + 1 := ⟨limit - 1, by omega⟩
      have hkept := h.mem_keep_children (by decide) haround hmember rfl hvisible
      refine ⟨_, rest, descends_append hdescends hrecord, ?_, by omega⟩
      exact List.mem_map_of_mem (f := summarizeMessage model ⟨false, true⟩ rest) hkept
termination_by message => sizeOf message
decreasing_by
  simp only [Declaration.nested.sizeOf_spec]
  omega

/-- The file of a declaration has its record in the summary of what is visible, hidden or not. -/
theorem summarizeFile_mem (h : Links request config model) {file : FileDescriptor}
    (hfile : file ∈ request.files) :
    summarizeFile model ⟨false, true⟩ (request.entity config (.file file)) ∈
      (summarize model ⟨false, true⟩).files := by
  have hfiles : (⟨false, true⟩ : Inspect.Filter).files model =
      request.files.map fun file => request.entity config (.file file) := by
    rw [h.files_eq]
    exact congrArg _ (List.filter_eq_self.mpr fun _ _ => rfl)
  rw [summarize, hfiles, List.map_map]
  exact List.mem_map_of_mem hfile

/-- A type has its record at the place to which the messages around its declaration lead. -/
theorem lists_of_descends (h : Links request config model) {kind : Kind} {type : Declaration kind}
    (hmem : type ∈ request.declarations kind)
    (haround : model.messagesAround (request.entity config type) =
      type.enclosing.map (request.entity config)) {level : Level}
    (hdescends : Descends
      (summarizeFile model ⟨false, true⟩ (request.entity config (.file type.source))).level
      (type.enclosing.reverse.map (·.id.text)) level)
    (hid : (request.entity config type).id.text ∈ level.ids kind) :
    (summarize model ⟨false, true⟩).Lists model (request.entity config type) := by
  refine ⟨_, h.summarizeFile_mem (Request.source_mem_files hmem), ?_, level, ?_, hid⟩
  · rw [h.fileOf_entity hmem]
    rfl
  · have hids : (fun message : Message => message.id.text) ∘
        @Request.entity request config .message =
          fun message : Declaration .message => message.id.text :=
      funext fun message => congrArg Ident.text (message.id_entity _ _)
    rw [haround, ← List.map_reverse, List.map_map, hids]
    exact hdescends

/-- A visible message has its record in the summary of what is visible. -/
theorem lists_message (h : Links request config model) {message : Message}
    (hmessage : model.Has ⟨.message, message⟩) (hvisible : model.messageVisible message = true) :
    @ModelSummary.Lists (summarize model ⟨false, true⟩) model .message message := by
  obtain ⟨message, hmem, rfl⟩ := h.exists_of_has hmessage
  obtain ⟨level, limit, hdescends, hrecord, -⟩ := h.exists_level_of_message message hmem hvisible
  refine h.lists_of_descends hmem (h.messagesAround_message hmem) hdescends ?_
  cases limit <;> exact List.mem_map_of_mem (f := MessageSummary.id) hrecord

/-- A visible enum has its record in the summary of what is visible. -/
theorem lists_enum (h : Links request config model) {enum : Enum}
    (henum : model.Has ⟨.enum, enum⟩) (hvisible : model.enumVisible enum = true) :
    @ModelSummary.Lists (summarize model ⟨false, true⟩) model .enum enum := by
  obtain ⟨enum, hmem, rfl⟩ := h.exists_of_has henum
  have hplace := h.messagesAround_enum hmem
  cases enum with
  | enum source position descriptor =>
      obtain ⟨hfile, hmember⟩ := Request.mem_members_of_around? hmem rfl
      have hkept := h.mem_keep_children (by decide) hfile hmember rfl hvisible
      have hrecord := List.mem_map_of_mem (f := summarizeEnum model ⟨false, true⟩) hkept
      exact h.lists_of_descends hmem hplace (.stay _)
        (List.mem_map_of_mem (f := EnumSummary.id) hrecord)
  | nestedEnum around position descriptor =>
      obtain ⟨haround, hmember⟩ := Request.mem_members_of_around? hmem rfl
      have haroundVisible := h.isVisible_of_mem_members haround hmember hvisible
      obtain ⟨level, limit, hdescends, hrecord, -⟩ :=
        h.exists_level_of_message around haround haroundVisible
      have hkept := h.mem_keep_children (by decide) haround hmember rfl hvisible
      have hrecordEnum := List.mem_map_of_mem (f := summarizeEnum model ⟨false, true⟩) hkept
      refine h.lists_of_descends hmem hplace (descends_append hdescends hrecord) ?_
      cases limit <;> exact List.mem_map_of_mem (f := EnumSummary.id) hrecordEnum

/-- An entity whose identifier is that of an entry in the summary of what is visible is visible. -/
theorem isVisible_of_mem_summarize (hmodel : (Model.ofRequest request config).outcome = .ok model)
    {kind : Kind} (hkind : kind ≠ .file) {id : String} {entity : Entity kind}
    (hentity : model.get? kind id = some entity)
    (hid : id ∈ ((summarize model ⟨false, true⟩).ofKind kind).map Entry.id) :
    model.isVisible entity = true := by
  have h := Model.links_of_ok hmodel
  obtain ⟨-, hids⟩ := ofKind_summarize_of_ok hmodel ⟨false, true⟩ hkind
  rw [hids, List.mem_map] at hid
  obtain ⟨found, hfound, hid⟩ := hid
  rw [Filter.restrictions, Model.select_eq_filter, List.mem_filter] at hfound
  obtain ⟨hlisted, hvisible⟩ := hfound
  -- Under the identifier of the entry just the listed entity is found.
  have hsame : found = entity := by
    have hmem : found ∈ (model.registry.arena kind).toList := List.mem_of_mem_filter hlisted
    have hget : (model.registry.arena kind).get? found.id = some found :=
      (h.holds.get?_iff _ _).mpr ⟨h.toList_eq kind ▸ hmem, rfl⟩
    have hident : found.id = ⟨id⟩ := congrArg Ident.mk hid
    rw [hident] at hget
    exact Option.some.inj (hget.symm.trans hentity)
  simpa [Model.meets, hsame] using hvisible

end LinkedSchema.Links

namespace LinkedSchema.Inspect

open Links

/-- Nothing in a listing of what is not deprecated is deprecated. -/
theorem isDeprecated_of_mem_select {model : Model} {kind : Kind} {restrictions : List Restriction}
    {entities : List (Entity kind)} {entity : Entity kind}
    (hrestricted : .notDeprecated ∈ restrictions)
    (hentity : entity ∈ model.select kind restrictions entities) :
    model.isDeprecated entity = false := by
  rw [Model.select_eq_filter, List.mem_filter, List.all_eq_true] at hentity
  have hmeets := hentity.2 .notDeprecated hrestricted
  rwa [Model.meets, Bool.not_eq_true'] at hmeets

/-- In every model the visible view has no dangling references, and what is not deprecated refers to
nothing that is, whichever rule enums go by. -/
theorem noDangling_of_ok {request : Request} {config : Config} {model : Model}
    (hmodel : (Model.ofRequest request config).outcome = .ok model) : NoDangling model := by
  have h := Model.links_of_ok hmodel
  constructor
  case field =>
    intro id field hfield hid
    have hvisible : model.fieldVisible field = true :=
      @isVisible_of_mem_summarize _ _ _ hmodel .field (by decide) id field hfield hid
    simp only [Model.fieldVisible, Bool.and_eq_true] at hvisible
    obtain ⟨⟨⟨-, hmessage⟩, henum⟩, -⟩ := hvisible
    have hhas := @has_of_get? _ _ _ .field h ⟨id⟩ field hfield
    refine ⟨fun type htype => ?_, fun type htype => ?_⟩
    · rw [htype] at hmessage
      exact h.lists_message (h.has_of_leads hhas (.typeMessage field type htype)) hmessage
    · rw [htype] at henum
      exact h.lists_enum (h.has_of_leads hhas (.typeEnum field type htype)) henum
  case method =>
    intro id method hmethod hid
    have hvisible : model.methodVisible method = true :=
      @isVisible_of_mem_summarize _ _ _ hmodel .method (by decide) id method hmethod hid
    simp only [Model.methodVisible, Bool.and_eq_true] at hvisible
    obtain ⟨⟨⟨-, hinput⟩, houtput⟩, -⟩ := hvisible
    have hhas := @has_of_get? _ _ _ .method h ⟨id⟩ method hmethod
    exact ⟨h.lists_message (h.has_of_leads hhas (.input method)) hinput,
      h.lists_message (h.has_of_leads hhas (.output method)) houtput⟩
  case fieldNotDeprecated =>
    intro restrictions fields field hrestricted hfield
    have hdeprecated : model.fieldDeprecated field = false :=
      isDeprecated_of_mem_select hrestricted hfield
    simp only [Model.fieldDeprecated, Bool.or_eq_false_iff] at hdeprecated
    obtain ⟨⟨⟨-, hmessage⟩, henum⟩, -⟩ := hdeprecated
    refine ⟨fun type htype => ?_, fun type htype => ?_⟩
    · rwa [htype] at hmessage
    · rwa [htype] at henum
  case methodNotDeprecated =>
    intro restrictions methods method hrestricted hmethod
    have hdeprecated : model.methodDeprecated method = false :=
      isDeprecated_of_mem_select hrestricted hmethod
    simp only [Model.methodDeprecated, Bool.or_eq_false_iff] at hdeprecated
    exact ⟨hdeprecated.1.1.2, hdeprecated.1.2⟩

/-- The first of the two files of the example, with a message that is hidden. -/
def partlyHiddenShapesFile : FileDescriptor :=
  { shapesFile with
    messages := shapesFile.messages ++ [
      { name := "Draft"
        fields := [{ name := "shape", number := 1, type := .message
                     typeName := some ".geo.Shape" }]
        options := hiddenMessageOptions }] }

/-- A file with a field that refers to the hidden message and one that refers to an enum. -/
def mixedQueryFile : FileDescriptor where
  name := "mixed.proto"
  messages := [
    { name := "Mixed"
      fields := [
        { name := "draft", number := 1, type := .message, typeName := some ".geo.Draft" },
        { name := "color", number := 2, type := .enum, typeName := some ".geo.Shape.Color" }] }]

/-- The field that refers to the hidden message is left out, and the enum that the other one refers to
has its record inside a message of the other file. -/
theorem noDangling_mixedQueryFile :
    ∃ model, (Model.ofRequest { files := [partlyHiddenShapesFile, mixedQueryFile] } {}).outcome =
        .ok model ∧
      NoDangling model ∧
      ((summarize model ⟨false, true⟩).ofKind .field).map Entry.id =
        [".geo.Shape:center", ".geo.Shape.Point:x", ".Mixed:color"] ∧
      (summarize model ⟨false, true⟩).files.map (fun file =>
          (file.id, file.messages.map fun message => (message.id, message.enums.map (·.id)))) =
        [(".geo:shapes.proto", [(".geo.Shape", [".geo.Shape.Color"])]),
          (".:mixed.proto", [(".Mixed", [])])] := by
  obtain ⟨model, hmodel, -⟩ :=
    @Model.exists_ofRequest_eq_ok { files := [partlyHiddenShapesFile, mixedQueryFile] } {}
      (by decide +kernel)
  let fields (model : Model) : List String :=
    ((summarize model ⟨false, true⟩).ofKind .field).map Entry.id
  let enums (model : Model) : List (String × List (String × List String)) :=
    (summarize model ⟨false, true⟩).files.map fun file =>
      (file.id, file.messages.map fun message => (message.id, message.enums.map (·.id)))
  exact ⟨model, hmodel, noDangling_of_ok hmodel,
    Model.eq_of_toOption_map fields hmodel (by decide +kernel),
    Model.eq_of_toOption_map enums hmodel (by decide +kernel)⟩

end LinkedSchema.Inspect
