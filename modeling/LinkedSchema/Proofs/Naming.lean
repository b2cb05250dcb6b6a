import LinkedSchema.Inspect.Tree
import LinkedSchema.Proofs.Pruning

/-!
# Names in a tree

The indented text has one line for each declaration that a filter leaves of the walk through the
files. A line names its declaration, the types that the declaration refers to, and in the case of a
oneof the members of the oneof. Where only visible declarations are shown, everything that has a line
is visible and so are the types in the lines; but members of a oneof are named whether they have a line
of their own or not.

* `Declaration.depth`, `ownLine`, `shownWalk` — the declarations that have a line, and their lines;
* `Links.treeLines_eq` — the text is made of these lines;
* `printed`, `named` — the entities that have a line, and those that a line names;
* `NamesOnlyVisible`, `TreeNames`, `renderTree_names_of_ok` — when all that is named is visible, and
  what holds in any case;
* `not_namesOnlyVisible_replyRequest` — a hidden field in the line of its oneof.
-/

namespace LinkedSchema

/-- The number of declarations around a declaration. -/
def Declaration.depth : {kind : Kind} → Declaration kind → Nat
  | _, .file _ => 0
  | _, .message _ _ _ => 1
  | _, .nested around _ _ => around.depth + 1
  | _, .field around _ _ => around.depth + 1
  | _, .oneof around _ _ => around.depth + 1
  | _, .enum _ _ _ => 1
  | _, .nestedEnum around _ _ => around.depth + 1
  | _, .enumValue around _ _ => around.depth + 1
  | _, .service _ _ _ => 1
  | _, .method around _ _ => around.depth + 1

/-- A member stands one level deeper. -/
theorem Declaration.depth_of_mem_members {kind child : Kind} {owner : Declaration kind}
    {member : Declaration child} (h : member ∈ owner.members child) :
    member.depth = owner.depth + 1 := by
  cases kind <;> cases child <;> try exact absurd h List.not_mem_nil
  case file.message | file.enum | file.service =>
      cases owner
      obtain ⟨_, _, rfl⟩ := List.mem_map.mp h
      rfl
  all_goals
    obtain ⟨_, _, rfl⟩ := List.mem_map.mp h
    rfl

namespace Inspect

section

variable (model : Model) (coloured : Bool)

/-- The line of an entity, without what is declared in it. -/
def ownLine (depth : Nat) : {kind : Kind} → Entity kind → String
  | .file, file => fileLine model coloured file
  | .message, message =>
      indent depth ++ word coloured .cyan "message" ++ " " ++ (Message.id message).text ++
        suffix coloured (marks model .message message)
  | .field, field => fieldLine model coloured depth field
  | .oneof, oneof => oneofLine model depth oneof
  | .enum, enum =>
      indent depth ++ word coloured .magenta "enum" ++ " " ++ (Enum.id enum).text ++
        suffix coloured (marks model .enum enum)
  | .enumValue, value => valueLine model coloured depth value
  | .service, service =>
      indent depth ++ word coloured .blue "service" ++ " " ++ (Service.id service).text ++
        suffix coloured (marks model .service service)
  | .method, method => methodLine model coloured method

/-- The entities that the line of an entity names: itself, the types of fields and methods as far as
they are registered, and the members of oneofs. -/
def named : {kind : Kind} → Entity kind → List (Sigma Entity)
  | .field, field =>
      ⟨.field, field⟩ :: ((model.typeMessage? field).toList.map (fun type => ⟨.message, type⟩) ++
        (model.typeEnum? field).toList.map fun type => ⟨.enum, type⟩)
  | .oneof, oneof =>
      ⟨.oneof, oneof⟩ :: (model.oneofFields oneof).map fun member => ⟨.field, member⟩
  | .method, method =>
      [⟨.method, method⟩, ⟨.message, model.inputOf method⟩, ⟨.message, model.outputOf method⟩]
  | kind, entity => [⟨kind, entity⟩]

variable (request : Request) (config : Config) (filter : Filter)

/-- The line of a declaration. -/
def lineOf (declaration : Sigma Declaration) : String :=
  ownLine model coloured declaration.2.depth (request.entity config declaration.2)

/-- The declarations that have a line: of every file that is shown the file itself, hidden or not, and
what is shown of the walk through it. -/
def shownWalk : List (Sigma Declaration) :=
  (request.files.filter (isFileShown request config filter)).flatMap fun file =>
    ⟨.file, .file file⟩ ::
      (Declaration.file file).walk.tail.filter (isShown request config model filter)

/-- The entities of a kind that have a line, in the order of their lines. -/
def printed (kind : Kind) : List (Entity kind) :=
  (ofKind kind (shownWalk model request config filter)).map (request.entity config)

/-- Apart from files, all that is named in the text is visible, and the line of a oneof names just the
members that have a line of their own. -/
structure NamesOnlyVisible : Prop where
  /-- What a line names is visible. -/
  visible : ∀ {kind : Kind}, kind ≠ .file → ∀ entity ∈ printed model request config filter kind,
    ∀ name ∈ named model entity, model.isVisible name.2 = true
  /-- The members in the line of a oneof are those that have lines. -/
  members : ∀ oneof ∈ printed model request config filter .oneof,
    model.oneofFields oneof = (printed model request config filter .field).filter
      fun field : Field => field.oneof = some (Oneof.id oneof)

/-- What the text names where only visible declarations are shown. -/
structure TreeNames : Prop where
  /-- The text is made of the lines of declarations. -/
  text : renderTree model filter coloured =
    String.join ((shownWalk model request config filter).map fun declaration =>
      lineOf model coloured request config declaration ++ "\n")
  /-- Apart from files, what has a line is visible. -/
  shown : ∀ {kind : Kind}, kind ≠ .file → ∀ entity ∈ printed model request config filter kind,
    model.isVisible entity = true
  /-- Apart from the members of a oneof, what a line names besides is visible too. -/
  others : ∀ {kind : Kind}, kind ≠ .file → kind ≠ .oneof →
    ∀ entity ∈ printed model request config filter kind, ∀ name ∈ named model entity,
      model.isVisible name.2 = true
  /-- Of the members in the line of a oneof those have lines that are visible. -/
  members : ∀ oneof ∈ printed model request config filter .oneof,
    ((printed model request config filter .field).filter
        fun field : Field => field.oneof = some (Oneof.id oneof)) =
      (model.oneofFields oneof).filter fun field => @Model.isVisible model .field field
  /-- So all that is named is visible just if no oneof that has a line has a hidden member. -/
  onlyVisible_iff : NamesOnlyVisible model request config filter ↔
    ∀ oneof ∈ printed model request config filter .oneof, ∀ field ∈ model.oneofFields oneof,
      @Model.isVisible model .field field = true

end

end Inspect

/-! ## Lines and walks -/

namespace Links

open Inspect

variable {request : Request} {config : Config} {model : Model}
variable (filter : Filter) (coloured : Bool)

/-- The line of a member. -/
theorem lineOf_member {kind child : Kind} {owner : Declaration kind} {member : Declaration child}
    (h : member ∈ owner.members child) :
    lineOf model coloured request config ⟨child, member⟩ =
      ownLine model coloured (owner.depth + 1) (request.entity config member) := by
  rw [lineOf, Declaration.depth_of_mem_members h]

/-- The lines of members without content. -/
theorem lines_leaves (h : Links request config model) {kind : Kind} (hkind : kind ≠ .oneof)
    {owner : Declaration kind} (howner : owner ∈ request.declarations kind) (child : Kind) :
    (filter.keep model child (model.children (request.entity config owner) child)).map
        (ownLine model coloured (owner.depth + 1)) =
      (((owner.members child).map (Sigma.mk child)).filter
        (isShown request config model filter)).map (lineOf model coloured request config) :=
  h.map_keep_children filter hkind howner child fun _ hmember =>
    (lineOf_member coloured hmember).symm

/-- The lines of an enum. -/
theorem lines_enum (h : Links request config model) {enum : Declaration .enum}
    (hmem : enum ∈ request.declarations .enum)
    (hshown : isShown request config model filter ⟨.enum, enum⟩ = true) :
    enumLines model filter coloured enum.depth (request.entity config enum) =
      (enum.walk.filter (isShown request config model filter)).map
        (lineOf model coloured request config) := by
  rw [Declaration.walk_enum, List.filter_cons_of_pos hshown, List.map_cons]
  exact congrArg₂ List.cons rfl (h.lines_leaves filter coloured (by decide) hmem .enumValue)

/-- The lines of a service. -/
theorem lines_service (h : Links request config model) {service : Declaration .service}
    (hmem : service ∈ request.declarations .service)
    (hshown : isShown request config model filter ⟨.service, service⟩ = true) :
    serviceLines model filter coloured (request.entity config service) =
      (service.walk.filter (isShown request config model filter)).map
        (lineOf model coloured request config) := by
  rw [Declaration.walk_service, List.filter_cons_of_pos hshown, List.map_cons]
  -- Services stand in files only, so their depth is fixed.
  have hdepth : service.depth = 1 := by
    cases service
    rfl
  refine congrArg₂ List.cons ?_ (h.lines_leaves filter coloured (by decide) hmem .method)
  rw [lineOf, hdepth]
  rfl

/-- The lines of a message, if the limit on nesting is no less than the number of messages inside
it. -/
theorem lines_message (h : Links request config model) (message : Declaration .message)
    (hmem : message ∈ request.declarations .message)
    (hshown : isShown request config model filter ⟨.message, message⟩ = true) (limit : Nat)
    (hlimit : message.preorder.length ≤ limit) :
    messageLines model filter coloured limit message.depth (request.entity config message) =
      (message.walk.filter (isShown request config model filter)).map
        (lineOf model coloured request config) := by
  -- As for the entries of a summary, the limit cuts nothing off.
  induction message using Declaration.message_induction generalizing limit with
  | step message ih =>
      have hpos := List.length_pos_of_mem message.self_mem_preorder
      obtain ⟨rest, rfl⟩ : ∃ rest, limit = rest + 1 := ⟨limit - 1, by omega⟩
      rw [messageLines, Declaration.walk_message, List.filter_cons_of_pos hshown, List.map_cons]
      simp only [List.filter_append, List.map_append, List.cons_append]
      refine congrArg₂ _ rfl
        (congrArg₂ _ (congrArg₂ _ (congrArg₂ _ ?fields ?oneofs) ?nested) ?enums)
      case fields => exact h.lines_leaves filter coloured (by decide) hmem .field
      case oneofs => exact h.lines_leaves filter coloured (by decide) hmem .oneof
      case nested =>
        have hsub := (Request.members_sublist hmem .message).subset
        refine h.flatMap_keep_children filter (by decide) hmem .message
          fun inner hinner hinnerShown => ?_
        have hlength := Declaration.length_preorder_lt hinner
        have hdepth := @Declaration.depth_of_mem_members .message .message _ _ hinner
        rw [← hdepth]
        exact ih inner hinner (hsub hinner) hinnerShown rest (by omega)
      case enums =>
        have hsub := (Request.members_sublist hmem .enum).subset
        refine h.flatMap_keep_children filter (by decide) hmem .enum fun enum henum henumShown => ?_
        rw [← @Declaration.depth_of_mem_members .message .enum _ _ henum]
        exact h.lines_enum filter coloured (hsub henum) henumShown

/-- The lines of a file: that of the file itself, hidden or not, then those of what is shown of the
walk through it. -/
theorem lines_file (h : Links request config model) {file : FileDescriptor}
    (hfile : file ∈ request.files) :
    fileLines model filter coloured (request.entity config (.file file)) =
      lineOf model coloured request config ⟨.file, .file file⟩ ::
        ((Declaration.file file).walk.tail.filter (isShown request config model filter)).map
          (lineOf model coloured request config) := by
  have hmem := Request.file_mem hfile
  have hsub := fun child => (Request.members_sublist hmem child).subset
  have hdepth : ∀ {child : Kind} {member : Declaration child},
      member ∈ (Declaration.file file).members child → member.depth = 1 :=
    Declaration.depth_of_mem_members
  rw [fileLines, Declaration.walk_file, List.tail_cons]
  simp only [List.filter_append, List.map_append, List.cons_append]
  refine congrArg₂ _ rfl (congrArg₂ _ (congrArg₂ _ ?messages ?enums) ?services)
  case messages =>
    refine h.flatMap_keep_children filter (by decide) hmem .message fun message hmessage hshown => ?_
    rw [← @hdepth .message message hmessage]
    exact h.lines_message filter coloured message (hsub .message hmessage) hshown _
      (h.length_preorder_le hfile hmessage)
  case enums =>
    refine h.flatMap_keep_children filter (by decide) hmem .enum fun enum henum hshown => ?_
    rw [← @hdepth .enum enum henum]
    exact h.lines_enum filter coloured (hsub .enum henum) hshown
  case services =>
    exact h.flatMap_keep_children filter (by decide) hmem .service fun service hservice hshown =>
      h.lines_service filter coloured (hsub .service hservice) hshown

/-- The lines of the text are those of the declarations that have a line. -/
theorem treeLines_eq (h : Links request config model) :
    treeLines model filter coloured =
      (shownWalk model request config filter).map (lineOf model coloured request config) := by
  rw [treeLines, h.files_eq, shownWalk, List.flatMap_map, List.map_flatMap]
  refine List.flatMap_congr fun file hfile => ?_
  rw [h.lines_file filter coloured (List.mem_of_mem_filter hfile), List.map_cons]

/-! ## What has a line -/

/-- The entities that have a line are those of the listing with the restrictions of the filter. -/
theorem printed_eq (h : Links request config model) {kind : Kind} (hkind : kind ≠ .file) :
    printed model request config filter kind =
      model.select kind filter.restrictions (model.all kind) := by
  rw [printed, shownWalk, h.select_all, ofKind_flatMap, List.map_flatMap]
  refine List.flatMap_congr fun file _ => ?_
  rw [ofKind_cons_of_ne hkind.symm, ofKind_filter, ← file.ofKind_walk, Declaration.walk_file,
    List.tail_cons, ofKind_cons_of_ne hkind.symm]

theorem mem_printed_iff (h : Links request config model) {kind : Kind} (hkind : kind ≠ .file)
    {entity : Entity kind} :
    entity ∈ printed model request config filter kind ↔
      entity ∈ model.all kind ∧ (!filter.generatedOnly || model.isGenerated entity) = true ∧
        (!filter.visibleOnly || model.isVisible entity) = true := by
  rw [h.printed_eq filter hkind, Model.select_eq_filter, List.mem_filter, all_restrictions,
    Bool.and_eq_true]

/-- Apart from the members of a oneof, a line names the entity and those that it asks. -/
theorem named_subset {kind : Kind} (hkind : kind ≠ .oneof) (entity : Entity kind) :
    named model entity ⊆ ⟨kind, entity⟩ :: model.consulted kind entity := by
  cases kind with
  | oneof => exact absurd rfl hkind
  | field =>
      refine List.cons_subset_cons _ ?_
      exact List.subset_cons_self _ _
  | method =>
      refine List.cons_subset_cons _ ?_
      exact List.subset_cons_self _ _
  | _ => simp [named]

/-- What the line of a visible entity names is visible, apart from the members of a oneof. -/
theorem isVisible_of_mem_named (h : Links request config model) {kind : Kind}
    (hkind : kind ≠ .oneof) {entity : Entity kind} (hentity : model.Has ⟨kind, entity⟩)
    (hvisible : model.isVisible entity = true) {name : Sigma Entity}
    (hname : name ∈ named model entity) : model.isVisible name.2 = true := by
  rcases List.mem_cons.mp (named_subset hkind entity hname) with rfl | hasked
  · exact hvisible
  · rw [h.isVisible_eq hentity, Bool.and_eq_true, List.all_eq_true] at hvisible
    exact hvisible.1 name hasked

/-- The members of a oneof stand in its file. -/
theorem fileOf_of_mem_oneofFields (h : Links request config model) {oneof : Declaration .oneof}
    (honeof : oneof ∈ request.declarations .oneof) {field : Field}
    (hfield : field ∈ model.oneofFields (request.entity config oneof)) :
    @Model.fileOf model .field field = model.fileOf (request.entity config oneof) := by
  rw [Model.oneofFields, oneof.fields_oneof_entity] at hfield
  obtain ⟨id, hid, rfl⟩ := List.mem_map.mp (List.mem_of_mem_filter hfield)
  obtain ⟨declaration, hmember, rfl⟩ := List.mem_map.mp hid
  have hmem := (fieldsOf_sublist honeof).subset hmember
  rw [h.resolve_id hmem, h.fileOf_entity hmem, h.fileOf_entity honeof]
  cases oneof with
  | oneof around position descriptor =>
      have hfields : declaration ∈ around.members .field := List.mem_of_mem_filter hmember
      rw [Declaration.source_of_mem_members hfields]
      rfl

variable {filter} (hfilter : filter.visibleOnly = true)
include hfilter

/-- What has a line is visible, apart from files. -/
theorem isVisible_of_mem_printed (h : Links request config model) {kind : Kind}
    (hkind : kind ≠ .file) {entity : Entity kind}
    (hentity : entity ∈ printed model request config filter kind) :
    model.isVisible entity = true := by
  have hvisible := ((h.mem_printed_iff filter hkind).mp hentity).2.2
  rwa [hfilter, Bool.not_true, Bool.false_or] at hvisible

/-- Of the members of a oneof that has a line, the visible ones have lines. -/
theorem filter_printed_field (h : Links request config model) {oneof : Oneof}
    (honeof : oneof ∈ printed model request config filter .oneof) :
    ((printed model request config filter .field).filter
        fun field : Field => field.oneof = some (Oneof.id oneof)) =
      (model.oneofFields oneof).filter fun field => @Model.isVisible model .field field := by
  obtain ⟨hall, hgenerated, -⟩ := (h.mem_printed_iff filter (by decide)).mp honeof
  obtain ⟨declaration, hmem, rfl⟩ := h.exists_of_has (List.mem_of_mem_filter hall)
  rw [h.printed_eq filter (by decide), Model.select_eq_filter, List.filter_comm,
    ← h.oneofFields_eq hmem]
  refine List.filter_congr fun field hfield => ?_
  -- The oneof is in a file that is shown, and its members are in the same file.
  have hfile := h.fileOf_of_mem_oneofFields hmem hfield
  rw [Model.isGenerated, ← hfile] at hgenerated
  rw [all_restrictions, Model.isGenerated, hgenerated, hfilter, Bool.true_and, Bool.not_true,
    Bool.false_or]

/-- All that is named is visible exactly if no oneof that has a line has a hidden member. -/
theorem namesOnlyVisible_iff (h : Links request config model) :
    NamesOnlyVisible model request config filter ↔
      ∀ oneof ∈ printed model request config filter .oneof, ∀ field ∈ model.oneofFields oneof,
        @Model.isVisible model .field field = true := by
  constructor
  · intro hnames oneof honeof field hfield
    have hnamed : ⟨.field, field⟩ ∈ @named model .oneof oneof :=
      List.mem_cons_of_mem _ (List.mem_map_of_mem hfield)
    exact hnames.visible (by decide) oneof honeof _ hnamed
  · intro hmembers
    constructor
    case visible =>
      intro kind hkind entity hentity name hname
      have hvisible := h.isVisible_of_mem_printed hfilter hkind hentity
      by_cases honeof : kind = .oneof
      · subst honeof
        rcases List.mem_cons.mp hname with rfl | hmember
        · exact hvisible
        · obtain ⟨field, hfield, rfl⟩ := List.mem_map.mp hmember
          exact hmembers entity hentity field hfield
      · have hall := ((h.mem_printed_iff filter hkind).mp hentity).1
        exact h.isVisible_of_mem_named honeof (List.mem_of_mem_filter hall) hvisible hname
    case members =>
      intro oneof honeof
      rw [h.filter_printed_field hfilter honeof, List.filter_eq_self.mpr]
      exact hmembers oneof honeof

end Links

namespace Inspect

/-- Where only visible declarations are shown, the text has lines for visible declarations only and
names nothing hidden in them, except that the line of a oneof names the hidden members of the oneof
besides those that have lines of their own. -/
theorem renderTree_names_of_ok {request : Request} {config : Config} {model : Model}
    (h : (Model.ofRequest request config).outcome = .ok model) {filter : Filter}
    (hfilter : filter.visibleOnly = true) (coloured : Bool) :
    TreeNames model coloured request config filter := by
  have hlinks := Model.links_of_ok h
  constructor
  case text =>
    rw [renderTree, hlinks.treeLines_eq, List.map_map]
    rfl
  case shown =>
    exact fun hkind _ hentity => hlinks.isVisible_of_mem_printed hfilter hkind hentity
  case others =>
    intro kind hkind honeof entity hentity name hname
    have hall := ((hlinks.mem_printed_iff filter hkind).mp hentity).1
    exact hlinks.isVisible_of_mem_named honeof (List.mem_of_mem_filter hall)
      (hlinks.isVisible_of_mem_printed hfilter hkind hentity) hname
  case members => exact fun oneof honeof => hlinks.filter_printed_field hfilter honeof
  case onlyVisible_iff => exact hlinks.namesOnlyVisible_iff hfilter

/-- In the example, where nothing is hidden, all that is named is visible. -/
theorem renderTree_names_exampleRequest :
    ∃ model, (Model.ofRequest exampleRequest {}).outcome = .ok model ∧
      TreeNames model false exampleRequest {} ⟨false, true⟩ ∧
      NamesOnlyVisible model exampleRequest {} ⟨false, true⟩ := by
  obtain ⟨model, hmodel, hlinks⟩ := exampleRequest_links
  have hnames := @renderTree_names_of_ok _ _ _ hmodel ⟨false, true⟩ rfl false
  have hmembers : (model.all .oneof).all (fun oneof => (model.oneofFields oneof).all fun field =>
      @Model.isVisible model .field field) = true :=
    Model.eq_of_toOption_map (fun model => (model.all .oneof).all fun oneof =>
      (model.oneofFields oneof).all fun field => @Model.isVisible model .field field) hmodel
      (by decide +kernel)
  simp only [List.all_eq_true] at hmembers
  refine ⟨model, hmodel, hnames, hnames.onlyVisible_iff.mpr fun oneof honeof => ?_⟩
  exact hmembers oneof ((hlinks.mem_printed_iff _ (by decide)).mp honeof).1

/-- A file with a oneof that has a hidden member beside a public one. -/
def replyFile : FileDescriptor where
  name := "reply.proto"
  messages := [
    { name := "Reply"
      fields := [
        { name := "text", number := 1, oneofIndex := some 0 },
        { name := "trace", number := 2, oneofIndex := some 0
          options := Options.empty.set "[template.field_meta]"
            (.object [("visibility", .string Visibility.internal.name)]) }]
      oneofs := [{ name := "result" }] }]

/-- A request of that file. -/
def replyRequest : Request where
  files := [replyFile]

/-- The hidden field has no line, but the line of the oneof names it. -/
theorem not_namesOnlyVisible_replyRequest :
    ∃ model, (Model.ofRequest replyRequest {}).outcome = .ok model ∧
      renderTree model ⟨false, true⟩ false =
        "file reply.proto (package <none>, proto2)\n  message .Reply\n" ++
          "    field text = 1 : double\n    oneof result \x7btext, trace\x7d\n" ∧
      ¬ NamesOnlyVisible model replyRequest {} ⟨false, true⟩ := by
  obtain ⟨model, hmodel, hlinks⟩ := @Model.exists_ofRequest_eq_ok replyRequest {} (by decide +kernel)
  have hmembers : (model.all .oneof).any (fun oneof => @Model.isVisible model .oneof oneof &&
      (model.oneofFields oneof).any fun field => !@Model.isVisible model .field field) = true :=
    Model.eq_of_toOption_map (fun model => (model.all .oneof).any fun oneof =>
      @Model.isVisible model .oneof oneof &&
        (model.oneofFields oneof).any fun field => !@Model.isVisible model .field field) hmodel
      (by decide +kernel)
  refine ⟨model, hmodel, ?_, fun hnames => ?_⟩
  · exact Model.eq_of_toOption_map (fun model => renderTree model ⟨false, true⟩ false) hmodel
      (by decide +kernel)
  · simp only [List.any_eq_true, Bool.and_eq_true, Bool.not_eq_true'] at hmembers
    obtain ⟨oneof, hall, hvisible, field, hfield, hhidden⟩ := hmembers
    have honeof : oneof ∈ printed model replyRequest {} ⟨false, true⟩ .oneof :=
      (hlinks.mem_printed_iff _ (by decide)).mpr ⟨hall, rfl, hvisible⟩
    rw [(hlinks.namesOnlyVisible_iff rfl).mp hnames oneof honeof field hfield] at hhidden
    cases hhidden

end Inspect

end LinkedSchema
