import LinkedSchema.Proofs.Scopes
import LinkedSchema.Proofs.Summaries
import LinkedSchema.Proofs.Walk

/-!
# Summaries and listings

A summary leaves out a hidden declaration with everything in it, and a restricted listing looks at
each declaration on its own. Both show the same declarations in the same order: nothing inside a
hidden declaration is visible, and output is wanted for a whole file.

* `Filter.restrictions` — the restrictions of a listing that say what a filter says;
* `isShown`, `entry`, `shownEntries` — whether a summary shows a declaration, and as what;
* `Links.isVisible_of_mem_members` — visibility is inherited inwards only;
* `Links.map_keep_children`, `Links.flatMap_keep_children` — what is made of the members that are
  kept, from the declarations;
* `Links.entries_message`, ... — the entries of a record are the walk through its declaration,
  without what is not shown;
* `ofKind_summarize_of_ok` — the entries of a summary and the listings, kind by kind.
-/

namespace LinkedSchema.Inspect

/-- The restrictions on a listing that say what a filter says. -/
def Filter.restrictions (filter : Filter) : List Restriction :=
  (if filter.generatedOnly then [.toGenerate] else []) ++
    if filter.visibleOnly then [.visible] else []

section

variable (request : Request) (config : Config) (model : Model) (filter : Filter)

/-- Whether a summary shows a declaration inside a file that it shows. -/
def isShown (declaration : Sigma Declaration) : Bool :=
  declaration.2.isListed &&
    (!filter.visibleOnly || model.isVisible (request.entity config declaration.2))

/-- Whether a summary shows a file. -/
def isFileShown (file : FileDescriptor) : Bool :=
  !filter.generatedOnly || (request.entity config (.file file) : File).generate

/-- The entry of a declaration. -/
def entry (declaration : Sigma Declaration) : Entry :=
  entryOf model (request.entity config declaration.2)

/-- The entries of what a summary shows of a walk. -/
def shownEntries (walk : List (Sigma Declaration)) : List Entry :=
  (walk.filter (isShown request config model filter)).map (entry request config model)

theorem shownEntries_cons_of_shown {declaration : Sigma Declaration}
    (h : isShown request config model filter declaration = true) (walk : List (Sigma Declaration)) :
    shownEntries request config model filter (declaration :: walk) =
      entry request config model declaration :: shownEntries request config model filter walk := by
  rw [shownEntries, List.filter_cons_of_pos h, List.map_cons, shownEntries]

theorem shownEntries_append (walk more : List (Sigma Declaration)) :
    shownEntries request config model filter (walk ++ more) =
      shownEntries request config model filter walk ++
        shownEntries request config model filter more := by
  simp only [shownEntries, List.filter_append, List.map_append]

end

/-! ## Filters as conditions -/

theorem keep_eq_filter (filter : Filter) (model : Model) (kind : Kind)
    (entities : List (Entity kind)) :
    filter.keep model kind entities =
      entities.filter fun entity => !filter.visibleOnly || model.isVisible entity := by
  unfold Filter.keep
  cases filter.visibleOnly with
  | false => simp
  | true => simp [Model.select, Model.meets]

/-- Restrictions from a filter. -/
theorem all_restrictions (filter : Filter) (model : Model) {kind : Kind} (entity : Entity kind) :
    filter.restrictions.all (model.meets entity) =
      ((!filter.generatedOnly || model.isGenerated entity) &&
        (!filter.visibleOnly || model.isVisible entity)) := by
  unfold Filter.restrictions
  cases filter.generatedOnly <;> cases filter.visibleOnly <;> simp [Model.meets]

end LinkedSchema.Inspect

/-! ## Visibility is inherited -/

namespace LinkedSchema.Links

open Inspect

variable {request : Request} {config : Config} {model : Model}

/-- A member asks its owner. -/
theorem isConsulted_of_mem_members (h : Links request config model) {kind child : Kind}
    {owner : Declaration kind} (howner : owner ∈ request.declarations kind)
    {member : Declaration child} (hmember : member ∈ owner.members child) :
    model.IsConsulted ⟨kind, request.entity config owner⟩
      ⟨child, request.entity config member⟩ := by
  have hresolve := h.resolve_id howner
  have hmem : member ∈ request.declarations child :=
    (Request.members_sublist howner child).subset hmember
  rw [← hresolve]
  cases kind <;> cases child <;> try exact absurd hmember List.not_mem_nil
  case message.message =>
    refine List.mem_cons_of_mem _ ?_
    obtain ⟨_, _, rfl⟩ := List.mem_map.mp hmember
    rw [h.parentMessage?_entity hmem, hresolve]
    exact List.mem_singleton.mpr rfl
  case message.enum =>
    refine List.mem_cons_of_mem _ ?_
    obtain ⟨_, _, rfl⟩ := List.mem_map.mp hmember
    rw [h.enumParent?_entity hmem, hresolve]
    exact List.mem_singleton.mpr rfl
  case file.message | file.enum | file.service =>
    cases owner
    obtain ⟨_, _, rfl⟩ := List.mem_map.mp hmember
    exact List.mem_cons_self
  all_goals
    obtain ⟨_, _, rfl⟩ := List.mem_map.mp hmember
    exact List.mem_cons_self

/-- What contains something visible is visible. -/
theorem isVisible_of_mem_members (h : Links request config model) {kind child : Kind}
    {owner : Declaration kind} (howner : owner ∈ request.declarations kind)
    {member : Declaration child} (hmember : member ∈ owner.members child)
    (hvisible : model.isVisible (request.entity config member) = true) :
    model.isVisible (request.entity config owner) = true := by
  have hmem : member ∈ request.declarations child :=
    (Request.members_sublist howner child).subset hmember
  rw [h.isVisible_eq (h.has_entity hmem), Bool.and_eq_true, List.all_eq_true] at hvisible
  exact hvisible.1 _ (h.isConsulted_of_mem_members howner hmember)

variable (filter : Filter)

/-- A summary shows nothing inside of what it does not show. -/
theorem isShown_of_mem_walk (h : Links request config model) {kind : Kind}
    (declaration : Declaration kind) (hmem : declaration ∈ request.declarations kind)
    {inside : Sigma Declaration} (hinside : inside ∈ declaration.walk)
    (hshown : isShown request config model filter inside = true) :
    isShown request config model filter ⟨kind, declaration⟩ = true := by
  -- From the inside out, a visible declaration makes the one around it visible.
  induction declaration using Declaration.members_induction with
  | step declaration ih =>
      rcases Declaration.mem_walk.mp hinside with rfl | ⟨child, member, hmember, hin⟩
      · exact hshown
      · have hmemMember := (Request.members_sublist hmem child).subset hmember
        have hmemberShown := ih member hmember hmemMember hin
        have hlisted : declaration.isListed = true := by
          cases declaration with
          | field => exact absurd hmember List.not_mem_nil
          | _ => rfl
        simp only [isShown, Bool.and_eq_true, Bool.or_eq_true] at hmemberShown ⊢
        exact ⟨hlisted, hmemberShown.2.imp_right (h.isVisible_of_mem_members hmem hmember)⟩

/-- What is shown of the walks through some declarations are the walks through those of them that
are shown. -/
theorem filter_flatMap_walk (h : Links request config model) {kind : Kind}
    {declarations : List (Declaration kind)}
    (hmem : declarations ⊆ request.declarations kind) :
    (declarations.flatMap Declaration.walk).filter (isShown request config model filter) =
      (declarations.filter fun declaration =>
        isShown request config model filter ⟨kind, declaration⟩).flatMap fun declaration =>
          declaration.walk.filter (isShown request config model filter) :=
  Declaration.filter_flatMap_eq fun declaration hin _ hinside hshown =>
    h.isShown_of_mem_walk filter declaration (hmem hin) hinside hshown

/-! ## Records and walks -/

/-- The members that a summary keeps of those listed below an entity. -/
theorem keep_children (h : Links request config model) {kind : Kind} (hkind : kind ≠ .oneof)
    {owner : Declaration kind} (howner : owner ∈ request.declarations kind) (child : Kind) :
    filter.keep model child (model.children (request.entity config owner) child) =
      ((owner.members child).filter fun member =>
        isShown request config model filter ⟨child, member⟩).map (request.entity config) := by
  have hresolve := h.map_resolve_id (Request.members_sublist howner child).subset
  rw [keep_eq_filter, model.children_eq hkind, Declaration.members_entity, Model.resolveListed,
    hresolve, List.filter_filter, List.filter_map]
  refine congrArg _ (List.filter_congr fun member _ => ?_)
  rw [Function.comp_apply, isShown, Bool.and_comm]
  exact congrArg (· && _) (member.isListed_entity _ _)

/-- What is made of the members that a summary keeps is made of the declarations that are shown. -/
theorem map_keep_children (h : Links request config model) {α : Type} {kind : Kind}
    (hkind : kind ≠ .oneof) {owner : Declaration kind} (howner : owner ∈ request.declarations kind)
    (child : Kind) {say : Entity child → α} {tell : Sigma Declaration → α}
    (hsay : ∀ member ∈ owner.members child,
      say (request.entity config member) = tell ⟨child, member⟩) :
    (filter.keep model child (model.children (request.entity config owner) child)).map say =
      (((owner.members child).map (Sigma.mk child)).filter
        (isShown request config model filter)).map tell := by
  rw [h.keep_children filter hkind howner, List.filter_map, List.map_map, List.map_map]
  exact List.map_congr_left fun member hmember => hsay member (List.mem_of_mem_filter hmember)

/-- What is made of the members that a summary keeps, with their content, is made of the walks through
the declarations that are shown. -/
theorem flatMap_keep_children (h : Links request config model) {α : Type} {kind : Kind}
    (hkind : kind ≠ .oneof) {owner : Declaration kind} (howner : owner ∈ request.declarations kind)
    (child : Kind) {say : Entity child → List α} {tell : Sigma Declaration → α}
    (hsay : ∀ member ∈ owner.members child,
      isShown request config model filter ⟨child, member⟩ = true →
        say (request.entity config member) =
          (member.walk.filter (isShown request config model filter)).map tell) :
    (filter.keep model child (model.children (request.entity config owner) child)).flatMap say =
      (((owner.members child).flatMap Declaration.walk).filter
        (isShown request config model filter)).map tell := by
  have hsub := (Request.members_sublist howner child).subset
  rw [h.keep_children filter hkind howner, h.filter_flatMap_walk filter hsub, List.flatMap_map,
    List.map_flatMap]
  refine List.flatMap_congr fun member hmember => ?_
  obtain ⟨hmem, hshown⟩ := List.mem_filter.mp hmember
  exact hsay member hmem hshown

/-- The entries of members without content. -/
theorem entries_leaves (h : Links request config model) {kind : Kind} (hkind : kind ≠ .oneof)
    {owner : Declaration kind} (howner : owner ∈ request.declarations kind) (child : Kind)
    {say : Entity child → Entry}
    (hsay : ∀ member ∈ owner.members child,
      say (request.entity config member) = entry request config model ⟨child, member⟩) :
    (filter.keep model child (model.children (request.entity config owner) child)).map say =
      shownEntries request config model filter ((owner.members child).map (Sigma.mk child)) :=
  h.map_keep_children filter hkind howner child hsay

/-- The entries of members with their content. -/
theorem entries_members (h : Links request config model) {kind : Kind} (hkind : kind ≠ .oneof)
    {owner : Declaration kind} (howner : owner ∈ request.declarations kind) (child : Kind)
    {say : Entity child → List (Nat × Entry)}
    (hsay : ∀ member ∈ owner.members child,
      isShown request config model filter ⟨child, member⟩ = true →
        (say (request.entity config member)).map Prod.snd =
          shownEntries request config model filter member.walk) :
    ((filter.keep model child (model.children (request.entity config owner) child)).flatMap
        say).map Prod.snd =
      shownEntries request config model filter
        ((owner.members child).flatMap Declaration.walk) := by
  rw [List.map_flatMap]
  exact h.flatMap_keep_children filter hkind howner child hsay

/-- The entries of an enum. -/
theorem entries_enum (h : Links request config model) {enum : Declaration .enum}
    (hmem : enum ∈ request.declarations .enum)
    (hshown : isShown request config model filter ⟨.enum, enum⟩ = true) (depth : Nat) :
    ((summarizeEnum model filter (request.entity config enum)).entries depth).map Prod.snd =
      shownEntries request config model filter enum.walk := by
  have hid : Enum.id (request.entity config enum) = enum.id := enum.id_entity _ _
  rw [Declaration.walk_enum, shownEntries_cons_of_shown _ _ _ _ hshown]
  simp only [EnumSummary.entries, summarizeEnum, List.map_cons, List.map_map]
  refine congrArg₂ _ rfl (h.entries_leaves filter (by decide) hmem .enumValue fun value hvalue => ?_)
  obtain ⟨_, _, rfl⟩ := List.mem_map.mp hvalue
  rw [hid]
  rfl

/-- The entries of a service. -/
theorem entries_service (h : Links request config model) {service : Declaration .service}
    (hmem : service ∈ request.declarations .service)
    (hshown : isShown request config model filter ⟨.service, service⟩ = true) (depth : Nat) :
    ((summarizeService model filter (request.entity config service)).entries depth).map Prod.snd =
      shownEntries request config model filter service.walk := by
  have hid : Service.id (request.entity config service) = service.id := service.id_entity _ _
  rw [Declaration.walk_service, shownEntries_cons_of_shown _ _ _ _ hshown]
  simp only [ServiceSummary.entries, summarizeService, List.map_cons, List.map_map]
  refine congrArg₂ _ rfl (h.entries_leaves filter (by decide) hmem .method fun method hmethod => ?_)
  obtain ⟨_, _, rfl⟩ := List.mem_map.mp hmethod
  rw [hid]
  rfl

/-- The entries of a message, if the limit on nesting is no less than the number of messages inside
it. -/
theorem entries_message (h : Links request config model) (message : Declaration .message)
    (hmem : message ∈ request.declarations .message)
    (hshown : isShown request config model filter ⟨.message, message⟩ = true) (limit depth : Nat)
    (hlimit : message.preorder.length ≤ limit) :
    ((summarizeMessage model filter limit (request.entity config message)).entries depth).map
        Prod.snd =
      shownEntries request config model filter message.walk := by
  -- Each message inside has fewer messages inside than the one around it, so the limit, which goes
  -- down from level to level, cuts nothing off.
  induction message using Declaration.message_induction generalizing limit depth with
  | step message ih =>
      have hid : Message.id (request.entity config message) = message.id := message.id_entity _ _
      have hpos := List.length_pos_of_mem message.self_mem_preorder
      obtain ⟨rest, rfl⟩ : ∃ rest, limit = rest + 1 := ⟨limit - 1, by omega⟩
      rw [entries_summarizeMessage, Declaration.walk_message,
        shownEntries_cons_of_shown _ _ _ _ hshown]
      simp only [List.map_cons, List.map_append, shownEntries_append, List.map_map]
      refine congrArg₂ _ rfl
        (congrArg₂ _ (congrArg₂ _ (congrArg₂ _ ?fields ?oneofs) ?nested) ?enums)
      case fields =>
        refine h.entries_leaves filter (by decide) hmem .field fun field hfield => ?_
        obtain ⟨_, _, rfl⟩ := List.mem_map.mp hfield
        rw [hid]
        rfl
      case oneofs =>
        refine h.entries_leaves filter (by decide) hmem .oneof fun oneof honeof => ?_
        obtain ⟨_, _, rfl⟩ := List.mem_map.mp honeof
        rw [hid]
        rfl
      case nested =>
        have hsub := (Request.members_sublist hmem .message).subset
        refine h.entries_members filter (by decide) hmem .message fun inner hinner hinnerShown => ?_
        have hlength := Declaration.length_preorder_lt hinner
        exact ih inner hinner (hsub hinner) hinnerShown rest (depth + 1) (by omega)
      case enums =>
        have hsub := (Request.members_sublist hmem .enum).subset
        exact h.entries_members filter (by decide) hmem .enum fun enum henum henumShown =>
          h.entries_enum filter (hsub henum) henumShown (depth + 1)

/-- A message at file level has no more messages inside than the limit on nesting. -/
theorem length_preorder_le (h : Links request config model) {file : FileDescriptor}
    (hfile : file ∈ request.files) {message : Declaration .message}
    (hmessage : message ∈ file.topMessages) :
    message.preorder.length ≤ nestingLimit model := by
  have hsize := h.holds.size_eq .message
  rw [List.length_map] at hsize
  have hinFile : message.preorder.Sublist (file.declarations .message) :=
    Declaration.sublist_flatMap_of_mem Declaration.preorder hmessage
  have hinRequest := Declaration.sublist_flatMap_of_mem (·.declarations .message) hfile
  exact ((hinFile.trans hinRequest).length_le).trans hsize.ge

/-- The entries of a file: the file itself, hidden or not, then what is shown of the walk through
it. -/
theorem entries_file (h : Links request config model) {file : FileDescriptor}
    (hfile : file ∈ request.files) :
    ((summarizeFile model filter (request.entity config (.file file))).entries 0).map Prod.snd =
      entry request config model ⟨.file, .file file⟩ ::
        shownEntries request config model filter (Declaration.file file).walk.tail := by
  have hmem := Request.file_mem hfile
  have hsub := fun child => (Request.members_sublist hmem child).subset
  rw [Declaration.walk_file, List.tail_cons]
  simp only [FileSummary.entries, summarizeFile, List.map_cons, List.map_append,
    shownEntries_append, List.flatMap_map]
  refine congrArg₂ _ rfl (congrArg₂ _ (congrArg₂ _ ?messages ?enums) ?services)
  case messages =>
    exact h.entries_members filter (by decide) hmem .message fun message hmessage hshown =>
      h.entries_message filter message (hsub .message hmessage) hshown _ 1
        (h.length_preorder_le hfile hmessage)
  case enums =>
    exact h.entries_members filter (by decide) hmem .enum fun enum henum hshown =>
      h.entries_enum filter (hsub .enum henum) hshown 1
  case services =>
    exact h.entries_members filter (by decide) hmem .service fun service hservice hshown =>
      h.entries_service filter (hsub .service hservice) hshown 1

/-! ## Summaries and listings, kind by kind -/

/-- The files that a summary shows. -/
theorem files_eq (h : Links request config model) :
    filter.files model = (request.files.filter (isFileShown request config filter)).map
      fun file => request.entity config (.file file) := by
  unfold Filter.files isFileShown
  rw [h.all_file]
  cases filter.generatedOnly with
  | false => simp
  | true =>
      rw [if_pos rfl, Model.select_eq_filter, List.filter_map]
      simp [Function.comp_def, Model.meets, Model.isGenerated, Model.fileOf]

/-- The entries of a kind among those of a walk. -/
theorem filter_kind_shownEntries (kind : Kind) (walk : List (Sigma Declaration)) :
    (shownEntries request config model filter walk).filter (·.kind = kind) =
      ((ofKind kind walk).filter fun declaration =>
        isShown request config model filter ⟨kind, declaration⟩).map fun declaration =>
          entry request config model ⟨kind, declaration⟩ := by
  have hkind : (fun found : Entry => decide (found.kind = kind)) ∘ entry request config model =
      fun declaration => decide (declaration.1 = kind) :=
    funext fun declaration => congrArg (decide <| · = kind) (kind_entryOf _ _)
  rw [shownEntries, List.filter_map, hkind, List.filter_comm, ← map_ofKind, List.filter_map,
    List.map_map]
  rfl

/-- The entries of a kind in a summary, from the declarations of the files that it shows. -/
theorem ofKind_summarize (h : Links request config model) {kind : Kind} (hkind : kind ≠ .file) :
    (summarize model filter).ofKind kind =
      (request.files.filter (isFileShown request config filter)).flatMap fun file =>
        ((file.declarations kind).filter fun declaration =>
          isShown request config model filter ⟨kind, declaration⟩).map fun declaration =>
            entry request config model ⟨kind, declaration⟩ := by
  have hentry : ∀ file, (entry request config model ⟨.file, .file file⟩).kind ≠ kind :=
    fun file => hkind.symm
  rw [ModelSummary.ofKind, ModelSummary.entries, summarize, h.files_eq]
  simp only [List.flatMap_map, List.map_flatMap, List.filter_flatMap]
  refine List.flatMap_congr fun file hfile => ?_
  rw [h.entries_file filter (List.mem_of_mem_filter hfile),
    List.filter_cons_of_neg (by simp [hentry]), filter_kind_shownEntries, ← file.ofKind_walk,
    Declaration.walk_file, List.tail_cons, ofKind_cons_of_ne hkind.symm]

/-- A restricted listing, from the declarations of the files that a summary shows. -/
theorem select_all (h : Links request config model) (kind : Kind) :
    model.select kind filter.restrictions (model.all kind) =
      (request.files.filter (isFileShown request config filter)).flatMap fun file =>
        ((file.declarations kind).filter fun declaration =>
          isShown request config model filter ⟨kind, declaration⟩).map (request.entity config) := by
  rw [Model.select_eq_filter]
  -- What a restricted listing asks is whether the file is shown and the declaration in it.
  refine h.filter_all_eq fun file hfile declaration hdeclaration => ?_
  have hmem := Request.mem_declarations.mpr ⟨file, hfile, hdeclaration⟩
  rw [all_restrictions, Model.isGenerated, h.fileOf_entity hmem,
    FileDescriptor.source_of_mem hdeclaration, isFileShown, isShown, Bool.and_assoc,
    Bool.and_comm declaration.isListed]

end LinkedSchema.Links

namespace LinkedSchema.Inspect

/-- A member has the identifier that follows from its name. -/
theorem id_entry (request : Request) (config : Config) (model : Model)
    (declaration : Sigma Declaration) :
    (entry request config model declaration).id =
      (request.entity config declaration.2).id.text := by
  obtain ⟨kind, declaration⟩ := declaration
  cases declaration <;> rfl

/-- In every model and under every filter the entries of a summary, kind by kind, are the entities of
the listing of the kind with the restrictions of the filter, in the same order. -/
theorem ofKind_summarize_of_ok {request : Request} {config : Config} {model : Model}
    (h : (Model.ofRequest request config).outcome = .ok model) (filter : Filter) {kind : Kind}
    (hkind : kind ≠ .file) :
    (summarize model filter).ofKind kind =
        (model.select kind filter.restrictions (model.all kind)).map (entryOf model) ∧
      ((summarize model filter).ofKind kind).map Entry.id =
        (model.select kind filter.restrictions (model.all kind)).map fun entity =>
          entity.id.text := by
  have hlinks := Model.links_of_ok h
  rw [hlinks.ofKind_summarize filter hkind, hlinks.select_all]
  simp only [List.map_flatMap, List.map_map]
  constructor
  · rfl
  · refine List.flatMap_congr fun file _ => List.map_congr_left fun declaration _ => ?_
    exact id_entry request config model ⟨kind, declaration⟩

/-- Options that say that a message is no part of the public schema. -/
def hiddenMessageOptions : Options :=
  Options.empty.set "[template.message_meta]"
    (.object [("visibility", .string Visibility.internal.name)])

/-- A file with a hidden message, in which a public one is nested, and with a public message that
refers to the hidden one. -/
def partlyHiddenFile : FileDescriptor where
  name := "catalog.proto"
  messages := [
    { name := "Stock"
      fields := [{ name := "count", number := 1 }]
      nested := [{ name := "Shelf", fields := [{ name := "row", number := 1 }] }]
      options := hiddenMessageOptions },
    { name := "Item"
      fields := [
        { name := "title", number := 1 },
        { name := "stock", number := 2, type := .message, typeName := some ".Stock" }]
      nested := [{ name := "Price", fields := [{ name := "amount", number := 1 }] }] }]

/-- A request of that file and of another that no output is wanted for. -/
def partlyHiddenRequest : Request where
  files := [shapesFile, partlyHiddenFile]
  filesToGenerate := ["catalog.proto"]

/-- The fields of the hidden message and of the message nested in it are left out, and so is the
public field that refers to it. -/
theorem ofKind_summarize_partlyHiddenRequest :
    ∃ model, (Model.ofRequest partlyHiddenRequest {}).outcome = .ok model ∧ Kind.field ≠ .file ∧
      (summarize model ⟨true, true⟩).ofKind .field =
        (model.select .field [.toGenerate, .visible] (model.all .field)).map (entryOf model) ∧
      ((summarize model ⟨true, true⟩).ofKind .field).map Entry.id =
        [".Item:title", ".Item.Price:amount"] := by
  obtain ⟨model, hmodel, -⟩ :=
    @Model.exists_ofRequest_eq_ok partlyHiddenRequest {} (by decide +kernel)
  have hkind : Kind.field ≠ .file := by decide
  obtain ⟨hentries, hids⟩ := ofKind_summarize_of_ok hmodel ⟨true, true⟩ hkind
  refine ⟨model, hmodel, hkind, hentries, ?_⟩
  have hlisted : (Model.ofRequest partlyHiddenRequest {}).outcome.toOption.map (fun model =>
      (model.select .field [.toGenerate, .visible] (model.all .field)).map fun field : Field =>
        field.id.text) = some [".Item:title", ".Item.Price:amount"] := by
    decide +kernel
  rw [hmodel] at hlisted
  exact hids.trans (Option.some.inj hlisted)

end LinkedSchema.Inspect
