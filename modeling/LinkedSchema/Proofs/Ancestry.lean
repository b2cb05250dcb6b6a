import LinkedSchema.Proofs.Scopes

/-!
# Ancestry

A message keeps the identifier of the message around it. Going from a message to the one around it,
and on from there, comes to an end: an identifier is longer than that of the message around it, and
that message is declared before. Where the way ends is the root, and all messages on the way have the
same one.

* `Model.DirectlyIn` — one step outwards, by a lookup of the identifier that is kept;
* `Model.ClimbsTo` — the loop that makes such steps while there is one to make;
* `Model.Ancestry`, `Model.ancestry_of_ok` — where it leads from each message of a model.
-/

namespace LinkedSchema

namespace Model

variable (model : Model)

/-- A message is around another one, with none between them. -/
def DirectlyIn (inner outer : Message) : Prop :=
  model.parentMessage? inner = some outer

/-- Going on from a message to the one around it until there is none leads to a message. -/
inductive ClimbsTo : Message → Message → Prop
  | stop {message : Message} (h : model.parentMessage? message = none) : ClimbsTo message message
  | step {message around top : Message} (h : model.DirectlyIn message around)
      (hrest : ClimbsTo around top) : ClimbsTo message top

/-- What lies on the way outwards from a message. The chain of a message is the message itself, the
one around it, and so on. -/
structure Ancestry (message : Message) : Prop where
  /-- The loop comes to an end, and it ends at the root. -/
  climbs : ∀ top, model.ClimbsTo message top ↔ top = model.root message
  /-- The root is on the chain, and of all messages on the chain only the root is in no other. -/
  top : ∀ outer, Relation.ReflTransGen model.DirectlyIn message outer →
    (model.parentMessage? outer = none ↔ outer = model.root message)
  onChain : Relation.ReflTransGen model.DirectlyIn message (model.root message)
  /-- All messages on the chain have the same root, which is its own. -/
  root_eq : ∀ outer, Relation.ReflTransGen model.DirectlyIn message outer →
    model.root outer = model.root message
  root_root : model.root (model.root message) = model.root message
  /-- The root stands at the level of the file of the message. -/
  file : @fileOf model .message (model.root message) = @fileOf model .message message
  listed : model.root message ∈ model.fileMessages (@fileOf model .message message)
  /-- The identifier of a message is that of the message around it with something behind it. -/
  longer : ∀ around, model.DirectlyIn message around →
    ∃ suffix, suffix ≠ "" ∧ message.id.text = around.id.text ++ suffix
  /-- The message around a message is listed, and before it. -/
  later : ∀ around, model.DirectlyIn message around → around ∈ model.all .message ∧
    ∀ position place : Nat, (model.all .message)[position]? = some around →
      (model.all .message)[place]? = some message → position < place

variable {model}

theorem ClimbsTo.unique {message top other : Message} (h : model.ClimbsTo message top)
    (h' : model.ClimbsTo message other) : top = other := by
  induction h with
  | stop hnone =>
      cases h' with
      | stop => rfl
      | step hstep => cases hnone.symm.trans hstep
  | step hstep _ ih =>
      cases h' with
      | stop hnone => cases hnone.symm.trans hstep
      | step hstep' hrest =>
          obtain rfl := Option.some.inj (hstep.symm.trans hstep')
          exact ih hrest

/-- The loop ends on the chain, at a message in no other. -/
theorem ClimbsTo.onChain {message top : Message} (h : model.ClimbsTo message top) :
    Relation.ReflTransGen model.DirectlyIn message top ∧ model.parentMessage? top = none := by
  induction h with
  | stop hnone => exact ⟨.refl, hnone⟩
  | step hstep _ ih => exact ⟨.head hstep ih.1, ih.2⟩

end Model

/-! ## One step outwards -/

namespace Links

variable {request : Request} {config : Config} {model : Model}

/-- A step outwards leads from the entity of a nested message to that of the message around it. -/
theorem exists_of_directlyIn (h : Links request config model) {message around : Message}
    (hmessage : model.Has ⟨.message, message⟩) (hstep : model.DirectlyIn message around) :
    ∃ owner position descriptor,
      Declaration.nested owner position descriptor ∈ request.declarations .message ∧
        message = request.entity config (.nested owner position descriptor) ∧
        around = request.entity config owner := by
  obtain ⟨declaration, hmem, rfl⟩ := h.exists_of_has hmessage
  rw [Model.DirectlyIn, h.parentMessage?_entity hmem] at hstep
  cases declaration with
  | message => cases hstep
  | nested owner position descriptor =>
      exact ⟨owner, position, descriptor, hmem, rfl, (Option.some.inj hstep).symm⟩

theorem has_of_directlyIn (h : Links request config model) {message around : Message}
    (hmessage : model.Has ⟨.message, message⟩) (hstep : model.DirectlyIn message around) :
    model.Has ⟨.message, around⟩ :=
  h.has_of_leads hmessage (.parent message around hstep)

/-- A message in another has the same root as that one. -/
theorem root_of_directlyIn (h : Links request config model) {message around : Message}
    (hmessage : model.Has ⟨.message, message⟩) (hstep : model.DirectlyIn message around) :
    model.root around = model.root message := by
  obtain ⟨owner, position, descriptor, hmem, rfl, rfl⟩ := h.exists_of_directlyIn hmessage hstep
  rw [Model.root, Model.root, h.enclosingMessages_nested hmem, List.getLastD_cons]

/-- A message in no other is its own root. -/
theorem root_of_top (h : Links request config model) {message : Message}
    (hmessage : model.Has ⟨.message, message⟩) (htop : model.parentMessage? message = none) :
    model.root message = message := by
  obtain ⟨declaration, hmem, rfl⟩ := h.exists_of_has hmessage
  rw [h.parentMessage?_entity hmem] at htop
  cases declaration with
  | message => rfl
  | nested => cases htop

/-- The identifier of a nested message is that of the message around it, a dot and its name. -/
theorem id_of_directlyIn (h : Links request config model) {message around : Message}
    (hmessage : model.Has ⟨.message, message⟩) (hstep : model.DirectlyIn message around) :
    ∃ name, message.id.text = around.id.text ++ ("." ++ name) := by
  obtain ⟨owner, position, descriptor, hmem, rfl, rfl⟩ := h.exists_of_directlyIn hmessage hstep
  have hid (declaration : Declaration .message) :
      Message.id (request.entity config declaration) = declaration.id :=
    declaration.id_entity config.extensions request.filesToGenerate
  refine ⟨descriptor.name, ?_⟩
  rw [hid, hid, ← String.append_assoc]
  rfl

theorem all_message_eq (h : Links request config model) :
    model.all .message = (request.declarations .message).map (request.entity config) := by
  rw [h.all_eq]
  have hlisted : ∀ message ∈ request.declarations .message, message.isListed = true := by
    intro message _
    cases message <;> rfl
  rw [List.filter_eq_self.mpr hlisted]

/-- No entity is listed twice. -/
theorem nodup_all (h : Links request config model) (kind : Kind) : (model.all kind).Nodup := by
  refine List.Nodup.filter _ (List.Nodup.of_map Entity.id ?_)
  have hid : Entity.id ∘ request.entity config = @Declaration.id kind :=
    funext fun declaration => declaration.id_entity config.extensions request.filesToGenerate
  rw [h.toList_eq, List.map_map, hid]
  exact h.consistent.distinct kind

/-- A message in another is listed behind that one. -/
theorem sublist_of_directlyIn (h : Links request config model) {message around : Message}
    (hmessage : model.Has ⟨.message, message⟩) (hstep : model.DirectlyIn message around) :
    [around, message].Sublist (model.all .message) := by
  obtain ⟨owner, position, descriptor, hmem, rfl, rfl⟩ := h.exists_of_directlyIn hmessage hstep
  obtain ⟨howner, hmember⟩ := Request.mem_members_of_around? hmem rfl
  have hpair : [owner, .nested owner position descriptor].Sublist (owner :: owner.messages) :=
    (List.singleton_sublist.mpr hmember).cons_cons owner
  rw [h.all_message_eq]
  exact (hpair.trans (Request.cons_messages_sublist howner)).map (request.entity config)

end Links

/-- In a list without repetitions, what is listed before something else has the smaller position. -/
theorem lt_of_pair_sublist {α : Type} {items : List α} {first second : α} (hnodup : items.Nodup)
    (h : [first, second].Sublist items) {position place : Nat}
    (hfirst : items[position]? = some first) (hsecond : items[place]? = some second) :
    position < place := by
  obtain ⟨front, back, rfl, hfront, hback⟩ := List.cons_sublist_iff.mp h
  rw [List.singleton_sublist] at hback
  have hdisjoint := List.disjoint_of_nodup_append hnodup
  have hposition : position < front.length := by
    by_contra hle
    rw [List.getElem?_append_right (not_lt.mp hle)] at hfirst
    exact hdisjoint hfront (List.mem_of_getElem? hfirst)
  have hplace : ¬place < front.length := by
    intro hlt
    rw [List.getElem?_append_left hlt] at hsecond
    exact hdisjoint (List.mem_of_getElem? hsecond) hback
  omega

namespace Links

variable {request : Request} {config : Config} {model : Model}

/-! ## The whole way -/

/-- From every message of a model the loop comes to an end at the root. -/
theorem climbsTo_root (h : Links request config model) :
    ∀ {message : Declaration .message}, message ∈ request.declarations .message →
      model.ClimbsTo (request.entity config message) (model.root (request.entity config message))
  | .message source position descriptor, hmem => .stop (h.parentMessage?_entity hmem)
  | .nested around position descriptor, hmem => by
      have hstep : model.DirectlyIn _ _ := h.parentMessage?_entity hmem
      rw [← h.root_of_directlyIn (h.has_entity hmem) hstep]
      exact .step hstep (h.climbsTo_root (Request.enclosing_subset hmem List.mem_cons_self))

/-- All messages on the chain of a message are registered, have its root and stand in its file. -/
theorem on_chain (h : Links request config model) {message outer : Message}
    (hmessage : model.Has ⟨.message, message⟩)
    (hchain : Relation.ReflTransGen model.DirectlyIn message outer) :
    model.Has ⟨.message, outer⟩ ∧ model.root outer = model.root message ∧
      @Model.fileOf model .message outer = @Model.fileOf model .message message := by
  induction hchain with
  | refl => exact ⟨hmessage, rfl, rfl⟩
  | tail _ hstep ih =>
      obtain ⟨hhas, hroot, hfile⟩ := ih
      refine ⟨h.has_of_directlyIn hhas hstep, ?_, ?_⟩
      · rw [h.root_of_directlyIn hhas hstep, hroot]
      · rw [h.fileOf_parent hhas hstep, hfile]

/-- A message in no other is listed in its file. -/
theorem mem_fileMessages (h : Links request config model) {message : Message}
    (hmessage : model.Has ⟨.message, message⟩) (htop : model.parentMessage? message = none) :
    message ∈ model.fileMessages (@Model.fileOf model .message message) := by
  obtain ⟨declaration, hmem, rfl⟩ := h.exists_of_has hmessage
  rw [h.parentMessage?_entity hmem] at htop
  cases declaration with
  | nested => cases htop
  | message source position descriptor =>
      obtain ⟨hsource, hmember⟩ := Request.mem_members_of_around? hmem rfl
      have hmembers := (Declaration.file source).members_entity config.extensions
        request.filesToGenerate .message
      rw [h.fileOf_entity hmem]
      show _ ∈ model.resolveListed ((request.entity config (.file source)).members .message)
      rw [hmembers, Model.resolveListed,
        h.map_resolve_id (Request.members_sublist hsource .message).subset]
      exact List.mem_filter.mpr ⟨List.mem_map_of_mem hmember, rfl⟩

end Links

/-- From every message of a model the way outwards leads to its root, the one message at file level on
that way. -/
theorem Model.ancestry_of_ok {request : Request} {config : Config} {model : Model}
    (h : (Model.ofRequest request config).outcome = .ok model) :
    ∀ message ∈ model.all .message, model.Ancestry message := by
  have hlinks := Model.links_of_ok h
  intro message hlisted
  have hmessage : model.Has ⟨.message, message⟩ := List.mem_of_mem_filter hlisted
  obtain ⟨declaration, hmem, rfl⟩ := hlinks.exists_of_has hmessage
  have hclimbs := hlinks.climbsTo_root hmem
  generalize request.entity config declaration = message at hmessage hclimbs
  obtain ⟨hchain, htop⟩ := hclimbs.onChain
  obtain ⟨hroot, hsame, hfile⟩ := hlinks.on_chain hmessage hchain
  exact {
    climbs := by
      intro top
      constructor
      · intro hother
        exact hother.unique hclimbs
      · rintro rfl
        exact hclimbs
    top := by
      intro outer houter
      obtain ⟨hhas, hsame, -⟩ := hlinks.on_chain hmessage houter
      constructor
      · intro hnone
        rw [← hsame, hlinks.root_of_top hhas hnone]
      · rintro rfl
        exact htop
    onChain := hchain
    root_eq := fun outer houter => (hlinks.on_chain hmessage houter).2.1
    root_root := hsame
    file := hfile
    listed := hfile ▸ hlinks.mem_fileMessages hroot htop
    longer := by
      intro around hstep
      obtain ⟨name, hid⟩ := hlinks.id_of_directlyIn hmessage hstep
      exact ⟨"." ++ name, by simp, hid⟩
    later := by
      intro around hstep
      have hsub := hlinks.sublist_of_directlyIn hmessage hstep
      refine ⟨hsub.subset List.mem_cons_self, fun position place hposition hplace => ?_⟩
      exact lt_of_pair_sublist (hlinks.nodup_all .message) hsub hposition hplace }

/-- A file with messages nested in one another. One of them has no name, and another one a dot in it. -/
def nestedFile : FileDescriptor where
  name := "route.proto"
  package := "map"
  messages := [
    { name := "Route"
      nested := [
        { name := ""
          nested := [{ name := "Leg.Step" }] },
        { name := "Stop" }] },
    { name := "Place" }]

/-- A request of that file. -/
def nestedRequest : Request where
  files := [nestedFile]

/-- All messages nested in one another have the outermost of them as their root. -/
theorem Model.ancestry_nestedRequest :
    ∃ model, (Model.ofRequest nestedRequest {}).outcome = .ok model ∧
      (∀ message ∈ model.all .message, model.Ancestry message) ∧
      (model.all .message).map (fun message => (message.id.text, (model.root message).id.text)) =
        [(".map.Route", ".map.Route"), (".map.Route.", ".map.Route"),
          (".map.Route..Leg.Step", ".map.Route"), (".map.Route.Stop", ".map.Route"),
          (".map.Place", ".map.Place")] := by
  obtain ⟨model, hmodel, -⟩ := @Model.exists_ofRequest_eq_ok nestedRequest {} (by decide +kernel)
  refine ⟨model, hmodel, Model.ancestry_of_ok hmodel, ?_⟩
  refine Model.eq_of_toOption_map (fun model => (model.all .message).map fun message =>
    (message.id.text, (model.root message).id.text)) hmodel ?_
  decide +kernel

end LinkedSchema
