import LinkedSchema.Registration
import Mathlib.Data.List.Flatten

/-!
# Declarations of a request

The files of a request are trees of descriptors. This module names the places in these trees and
walks them, without mention of registries or of the steps that fill them: it is what a model is
measured by.

* `Declaration` — a declaration of a kind: its descriptor, its position in the list in which it
  stands, and the file or the declaration around it;
* `Declaration.id` — its identifier, by the formulas applied along the scopes around it;
* `Declaration.preorder`, `Declaration.postorder` — the messages of a tree, each before or behind
  the messages nested in it;
* `FileDescriptor.declarations`, `Request.declarations` — the declarations of a kind, in the order
  in which a model lists them;
* `Declaration.preorder_eq`, `Declaration.message_induction` — the recursion of the walks, and
  induction over the messages inside a message;
* `FileDescriptor.declaration_induction` — induction from a file to all of its declarations.
-/

namespace LinkedSchema

/-- What describes a declaration of a kind. -/
abbrev DescriptorOf : Kind → Type
  | .file => FileDescriptor
  | .message => MessageDescriptor
  | .field => FieldDescriptor
  | .oneof => OneofDescriptor
  | .enum => EnumDescriptor
  | .enumValue => EnumValueDescriptor
  | .service => ServiceDescriptor
  | .method => MethodDescriptor

/-- An identifier together with its kind. -/
structure Reference where
  kind : Kind
  id : Ident kind
deriving DecidableEq

/-- A declaration: a descriptor, its position in the list in which it stands, and what is around
it. Messages and enums stand in a file or in a message. -/
inductive Declaration : Kind → Type
  | file (descriptor : FileDescriptor) : Declaration .file
  | message (file : FileDescriptor) (position : Nat) (descriptor : MessageDescriptor) :
      Declaration .message
  | nested (around : Declaration .message) (position : Nat) (descriptor : MessageDescriptor) :
      Declaration .message
  | field (around : Declaration .message) (position : Nat) (descriptor : FieldDescriptor) :
      Declaration .field
  | oneof (around : Declaration .message) (position : Nat) (descriptor : OneofDescriptor) :
      Declaration .oneof
  | enum (file : FileDescriptor) (position : Nat) (descriptor : EnumDescriptor) :
      Declaration .enum
  | nestedEnum (around : Declaration .message) (position : Nat) (descriptor : EnumDescriptor) :
      Declaration .enum
  | enumValue (around : Declaration .enum) (position : Nat) (descriptor : EnumValueDescriptor) :
      Declaration .enumValue
  | service (file : FileDescriptor) (position : Nat) (descriptor : ServiceDescriptor) :
      Declaration .service
  | method (around : Declaration .service) (position : Nat) (descriptor : MethodDescriptor) :
      Declaration .method

/-- The fully qualified name of what a file declares at its level. Without a package the name stands
behind a single dot. -/
def FileDescriptor.topName (file : FileDescriptor) (name : String) : String :=
  if file.package = "" then "." ++ name else "." ++ file.package ++ "." ++ name

namespace Declaration

/-! ## What is known of a declaration -/

/-- The descriptor of a declaration. -/
def descriptor : {kind : Kind} → Declaration kind → DescriptorOf kind
  | _, .file descriptor => descriptor
  | _, .message _ _ descriptor => descriptor
  | _, .nested _ _ descriptor => descriptor
  | _, .field _ _ descriptor => descriptor
  | _, .oneof _ _ descriptor => descriptor
  | _, .enum _ _ descriptor => descriptor
  | _, .nestedEnum _ _ descriptor => descriptor
  | _, .enumValue _ _ descriptor => descriptor
  | _, .service _ _ descriptor => descriptor
  | _, .method _ _ descriptor => descriptor

/-- The name of a declaration in its scope. -/
def name : {kind : Kind} → Declaration kind → String
  | .file, declaration => declaration.descriptor.name
  | .message, declaration => declaration.descriptor.name
  | .field, declaration => declaration.descriptor.name
  | .oneof, declaration => declaration.descriptor.name
  | .enum, declaration => declaration.descriptor.name
  | .enumValue, declaration => declaration.descriptor.name
  | .service, declaration => declaration.descriptor.name
  | .method, declaration => declaration.descriptor.name

/-- The options of a declaration. -/
def options : {kind : Kind} → Declaration kind → Options
  | .file, declaration => declaration.descriptor.options
  | .message, declaration => declaration.descriptor.options
  | .field, declaration => declaration.descriptor.options
  | .oneof, declaration => declaration.descriptor.options
  | .enum, declaration => declaration.descriptor.options
  | .enumValue, declaration => declaration.descriptor.options
  | .service, declaration => declaration.descriptor.options
  | .method, declaration => declaration.descriptor.options

/-- The file in which a declaration stands. -/
def source : {kind : Kind} → Declaration kind → FileDescriptor
  | _, .file descriptor => descriptor
  | _, .message source _ _ => source
  | _, .nested around _ _ => around.source
  | _, .field around _ _ => around.source
  | _, .oneof around _ _ => around.source
  | _, .enum source _ _ => source
  | _, .nestedEnum around _ _ => around.source
  | _, .enumValue around _ _ => around.source
  | _, .service source _ _ => source
  | _, .method around _ _ => around.source

/-- The declaration directly around a declaration: at file level that is the file. -/
def around? : {kind : Kind} → Declaration kind → Option (Sigma Declaration)
  | _, .file _ => none
  | _, .message source _ _ => some ⟨.file, .file source⟩
  | _, .nested around _ _ => some ⟨.message, around⟩
  | _, .field around _ _ => some ⟨.message, around⟩
  | _, .oneof around _ _ => some ⟨.message, around⟩
  | _, .enum source _ _ => some ⟨.file, .file source⟩
  | _, .nestedEnum around _ _ => some ⟨.message, around⟩
  | _, .enumValue around _ _ => some ⟨.enum, around⟩
  | _, .service source _ _ => some ⟨.file, .file source⟩
  | _, .method around _ _ => some ⟨.service, around⟩

/-- The messages around a declaration, the innermost first. -/
def enclosing : {kind : Kind} → Declaration kind → List (Declaration .message)
  | _, .file _ => []
  | _, .message _ _ _ => []
  | _, .nested around _ _ => around :: around.enclosing
  | _, .field around _ _ => around :: around.enclosing
  | _, .oneof around _ _ => around :: around.enclosing
  | _, .enum _ _ _ => []
  | _, .nestedEnum around _ _ => around :: around.enclosing
  | _, .enumValue around _ _ => around.enclosing
  | _, .service _ _ _ => []
  | _, .method _ _ _ => []

/-- The identifier of a declaration, made from the one of what is around it. -/
def id : {kind : Kind} → Declaration kind → Ident kind
  | _, .file descriptor => ⟨"." ++ descriptor.package ++ ":" ++ descriptor.name⟩
  | _, .message source _ descriptor => ⟨source.topName descriptor.name⟩
  | _, .nested around _ descriptor => ⟨around.id.text ++ "." ++ descriptor.name⟩
  | _, .field around _ descriptor => ⟨around.id.text ++ ":" ++ descriptor.name⟩
  | _, .oneof around _ descriptor => ⟨around.id.text ++ ":" ++ descriptor.name⟩
  | _, .enum source _ descriptor => ⟨source.topName descriptor.name⟩
  | _, .nestedEnum around _ descriptor => ⟨around.id.text ++ "." ++ descriptor.name⟩
  | _, .enumValue around _ descriptor => ⟨around.id.text ++ ":" ++ descriptor.name⟩
  | _, .service source _ descriptor => ⟨source.topName descriptor.name⟩
  | _, .method around _ descriptor => ⟨around.id.text ++ ":" ++ descriptor.name⟩

/-- The identifier of a declaration with its kind. -/
def reference {kind : Kind} (declaration : Declaration kind) : Reference :=
  ⟨kind, declaration.id⟩

/-- The path that leads from the file to a declaration. -/
def path : {kind : Kind} → Declaration kind → SourcePath
  | _, .file _ => .ofFile
  | _, .message _ position _ => .ofMessage position
  | _, .nested around position _ => around.path.nestedMessage position
  | _, .field around position _ => around.path.field position
  | _, .oneof around position _ => around.path.oneof position
  | _, .enum _ position _ => .ofEnum position
  | _, .nestedEnum around position _ => around.path.nestedEnum position
  | _, .enumValue around position _ => around.path.enumValue position
  | _, .service _ position _ => .ofService position
  | _, .method around position _ => around.path.method position

/-- Whether listings show a declaration: all but fields that are groups. -/
def isListed : {kind : Kind} → Declaration kind → Bool
  | _, .field _ _ descriptor => descriptor.type != .group
  | _, _ => true

/-! ## What is declared directly in a declaration -/

/-- The messages directly in a message. -/
def messages (message : Declaration .message) : List (Declaration .message) :=
  message.descriptor.nested.zipIdx.map fun (descriptor, position) =>
    .nested message position descriptor

/-- The fields of a message. -/
def fields (message : Declaration .message) : List (Declaration .field) :=
  message.descriptor.fields.zipIdx.map fun (descriptor, position) =>
    .field message position descriptor

/-- The oneofs of a message. -/
def oneofs (message : Declaration .message) : List (Declaration .oneof) :=
  message.descriptor.oneofs.zipIdx.map fun (descriptor, position) =>
    .oneof message position descriptor

/-- The enums directly in a message. -/
def enums (message : Declaration .message) : List (Declaration .enum) :=
  message.descriptor.enums.zipIdx.map fun (descriptor, position) =>
    .nestedEnum message position descriptor

/-- The values of an enum. -/
def values (enum : Declaration .enum) : List (Declaration .enumValue) :=
  enum.descriptor.values.zipIdx.map fun (descriptor, position) =>
    .enumValue enum position descriptor

/-- The methods of a service. -/
def methods (service : Declaration .service) : List (Declaration .method) :=
  service.descriptor.methods.zipIdx.map fun (descriptor, position) =>
    .method service position descriptor

/-- Mapping over a list with positions and back over the results is one mapping over the list. -/
theorem map_map_zipIdx {α β γ : Type} (items : List α) {f : α × Nat → β} {g : β → γ} {h : α → γ}
    (heq : ∀ item position, g (f (item, position)) = h item) :
    (items.zipIdx.map f).map g = items.map h := by
  have hcomp : g ∘ f = h ∘ Prod.fst := funext fun ⟨item, position⟩ => heq item position
  rw [List.map_map, hcomp, ← List.map_map, List.zipIdx_map_fst]

/-- What is left of lists one behind the other is left of those of which something is left. -/
theorem filter_flatMap_eq {α β : Type} {items : List α} {f : α → List β} {accept : β → Bool}
    {kept : α → Bool} (h : ∀ item ∈ items, ∀ found ∈ f item, accept found = true →
      kept item = true) :
    (items.flatMap f).filter accept =
      (items.filter kept).flatMap fun item => (f item).filter accept := by
  induction items with
  | nil => rfl
  | cons item items ih =>
      rw [List.forall_mem_cons] at h
      rw [List.flatMap_cons, List.filter_append, ih h.2]
      cases hkept : kept item with
      | true => rw [List.filter_cons_of_pos hkept, List.flatMap_cons]
      | false =>
          have hnone : (f item).filter accept = [] := by
            rw [List.filter_eq_nil_iff]
            intro found hfound haccept
            rw [h.1 found hfound haccept] at hkept
            cases hkept
          rw [hnone, List.nil_append, List.filter_cons_of_neg (by simp [hkept])]

/-! ### Walks through nested messages -/

/-- A message directly in another has the smaller descriptor. -/
theorem sizeOf_descriptor_lt {message inner : Declaration .message}
    (h : inner ∈ message.messages) :
    sizeOf (inner.descriptor : MessageDescriptor) <
      sizeOf (message.descriptor : MessageDescriptor) := by
  obtain ⟨⟨descriptor, position⟩, hmem, rfl⟩ := List.mem_map.mp h
  have hnested : descriptor ∈ message.descriptor.nested :=
    List.fst_mem_of_mem_zipIdx hmem
  have hsize := List.sizeOf_lt_of_mem hnested
  show sizeOf descriptor < sizeOf (message.descriptor : MessageDescriptor)
  generalize message.descriptor = outer at hsize ⊢
  obtain ⟨_, _, nested, _, _, _, _, _⟩ := outer
  simp only [MessageDescriptor.mk.sizeOf_spec] at hsize ⊢
  omega

/-- A message and all messages inside it, each before the messages nested in it. -/
def preorder (message : Declaration .message) : List (Declaration .message) :=
  message :: message.messages.attach.flatMap fun ⟨inner, _⟩ => inner.preorder
termination_by sizeOf (message.descriptor : MessageDescriptor)
decreasing_by exact sizeOf_descriptor_lt ‹_›

/-- A message and all messages inside it, each behind the messages nested in it. -/
def postorder (message : Declaration .message) : List (Declaration .message) :=
  (message.messages.attach.flatMap fun ⟨inner, _⟩ => inner.postorder) ++ [message]
termination_by sizeOf (message.descriptor : MessageDescriptor)
decreasing_by exact sizeOf_descriptor_lt ‹_›

theorem preorder_eq (message : Declaration .message) :
    message.preorder = message :: message.messages.flatMap preorder := by
  rw [preorder]
  simp

theorem postorder_eq (message : Declaration .message) :
    message.postorder = message.messages.flatMap postorder ++ [message] := by
  rw [postorder]
  simp

/-- Induction from the inside out: what holds of a message if it holds of all messages directly in
it holds of every message. -/
theorem message_induction {motive : Declaration .message → Prop}
    (step : ∀ message, (∀ inner ∈ message.messages, motive inner) → motive message) :
    ∀ message, motive message := by
  intro message
  exact step message fun inner hinner => message_induction step inner
termination_by message => sizeOf (message.descriptor : MessageDescriptor)
decreasing_by exact sizeOf_descriptor_lt ‹_›

end Declaration

/-! ## The declarations of a file and of a request -/

namespace FileDescriptor

/-- The messages at the level of a file. -/
def topMessages (file : FileDescriptor) : List (Declaration .message) :=
  file.messages.zipIdx.map fun (descriptor, position) => .message file position descriptor

/-- The enums at the level of a file. -/
def topEnums (file : FileDescriptor) : List (Declaration .enum) :=
  file.enums.zipIdx.map fun (descriptor, position) => .enum file position descriptor

/-- The services of a file. -/
def topServices (file : FileDescriptor) : List (Declaration .service) :=
  file.services.zipIdx.map fun (descriptor, position) => .service file position descriptor

/-- All messages of a file, each before those nested in it. -/
def allMessages (file : FileDescriptor) : List (Declaration .message) :=
  file.topMessages.flatMap (·.preorder)

/-- All enums of a file: of each message those of the messages nested in it before its own, and
those at the level of the file behind all others. -/
def allEnums (file : FileDescriptor) : List (Declaration .enum) :=
  (file.topMessages.flatMap (·.postorder)).flatMap (·.enums) ++ file.topEnums

/-- The declarations of a kind in a file. Members follow the order of what they are members of. -/
def declarations (file : FileDescriptor) : (kind : Kind) → List (Declaration kind)
  | .file => [.file file]
  | .message => file.allMessages
  | .field => file.allMessages.flatMap (·.fields)
  | .oneof => file.allMessages.flatMap (·.oneofs)
  | .enum => file.allEnums
  | .enumValue => file.allEnums.flatMap (·.values)
  | .service => file.topServices
  | .method => file.topServices.flatMap (·.methods)

end FileDescriptor

/-- The declarations of a kind in a request, file by file. -/
def Request.declarations (request : Request) (kind : Kind) : List (Declaration kind) :=
  request.files.flatMap (·.declarations kind)

namespace Declaration

/-- What is declared directly in a declaration, of the kind that is looked for. -/
def members : {kind : Kind} → Declaration kind → (child : Kind) → List (Declaration child)
  | .file, owner, .message => owner.source.topMessages
  | .file, owner, .enum => owner.source.topEnums
  | .file, owner, .service => owner.source.topServices
  | .message, owner, .field => owner.fields
  | .message, owner, .message => owner.messages
  | .message, owner, .enum => owner.enums
  | .message, owner, .oneof => owner.oneofs
  | .enum, owner, .enumValue => owner.values
  | .service, owner, .method => owner.methods
  | _, _, _ => []

/-! ### Membership in the walks -/

theorem mem_preorder {message inner : Declaration .message} :
    inner ∈ message.preorder ↔
      inner = message ∨ ∃ child ∈ message.messages, inner ∈ child.preorder := by
  rw [preorder_eq, List.mem_cons, List.mem_flatMap]

theorem self_mem_preorder (message : Declaration .message) : message ∈ message.preorder :=
  mem_preorder.mpr (Or.inl rfl)

/-- Both walks visit the same messages. -/
theorem mem_postorder {message inner : Declaration .message} :
    inner ∈ message.postorder ↔ inner ∈ message.preorder := by
  induction message using message_induction with
  | step message ih =>
      rw [postorder_eq, mem_preorder, List.mem_append, List.mem_flatMap, List.mem_singleton,
        or_comm]
      constructor
      · intro hall
        rcases hall with h | ⟨child, hchild, h⟩
        · exact Or.inl h
        · exact Or.inr ⟨child, hchild, (ih child hchild).mp h⟩
      · intro hall
        rcases hall with h | ⟨child, hchild, h⟩
        · exact Or.inl h
        · exact Or.inr ⟨child, hchild, (ih child hchild).mpr h⟩

/-- The image of an element is a part, in order, of the images of all. -/
theorem sublist_flatMap_of_mem {α β : Type} (f : α → List β) {items : List α} {item : α}
    (h : item ∈ items) : (f item).Sublist (items.flatMap f) := by
  rw [List.flatMap_def]
  exact List.sublist_flatten_of_mem (List.mem_map_of_mem h)

/-- The walk through a message contains the walk through each message inside it. -/
theorem preorder_sublist_of_mem {message inner : Declaration .message}
    (h : inner ∈ message.preorder) : inner.preorder.Sublist message.preorder := by
  induction message using message_induction with
  | step message ih =>
      rcases mem_preorder.mp h with rfl | ⟨child, hchild, hinner⟩
      · exact List.Sublist.refl _
      · rw [preorder_eq message]
        exact ((ih child hchild hinner).trans (sublist_flatMap_of_mem preorder hchild)).cons message

/-- The walk through a message lists the messages directly in it behind it and in their order: they
are the heads of the walks through them. -/
theorem cons_messages_sublist_preorder (message : Declaration .message) :
    (message :: message.messages).Sublist message.preorder := by
  have hheads : ∀ inner ∈ message.messages, [inner].Sublist inner.preorder :=
    fun inner _ => List.singleton_sublist.mpr (self_mem_preorder inner)
  have hwalk := List.Sublist.flatMap_right message.messages hheads
  rw [List.flatMap_singleton'] at hwalk
  rw [preorder_eq]
  exact hwalk.cons_cons message

/-- The walk through a message lists each message inside it before the messages directly in that
one, and these in their order. -/
theorem cons_messages_sublist_of_mem {message around : Declaration .message}
    (h : around ∈ message.preorder) : (around :: around.messages).Sublist message.preorder :=
  (cons_messages_sublist_preorder around).trans (preorder_sublist_of_mem h)

/-! ### What is around a declaration

The walks are made from the outside in, and `around?` leads from the inside out. The lemmas below
say that both agree: a declaration is among the members of what is around it, and of nothing else.
-/

/-- What is declared directly in a declaration has that one around it. -/
theorem around?_of_mem_members {kind child : Kind} {owner : Declaration kind}
    {member : Declaration child} (h : member ∈ owner.members child) :
    member.around? = some ⟨kind, owner⟩ := by
  cases kind <;> cases child <;> try exact absurd h List.not_mem_nil
  case file.message | file.enum | file.service =>
      cases owner
      obtain ⟨_, _, rfl⟩ := List.mem_map.mp h
      rfl
  all_goals
    obtain ⟨_, _, rfl⟩ := List.mem_map.mp h
    rfl

/-- What is declared directly in a declaration stands in the same file. -/
theorem source_of_mem_members {kind child : Kind} {owner : Declaration kind}
    {member : Declaration child} (h : member ∈ owner.members child) :
    member.source = owner.source := by
  cases kind <;> cases child <;> try exact absurd h List.not_mem_nil
  all_goals
    obtain ⟨_, _, rfl⟩ := List.mem_map.mp h
    rfl

end Declaration

namespace FileDescriptor

variable {file : FileDescriptor}

theorem mem_allMessages {message : Declaration .message} :
    message ∈ file.allMessages ↔ ∃ top ∈ file.topMessages, message ∈ top.preorder :=
  List.mem_flatMap

/-- The enums of a file are those at its level and those of its messages. -/
theorem mem_allEnums {enum : Declaration .enum} :
    enum ∈ file.allEnums ↔
      (∃ message ∈ file.allMessages, enum ∈ message.enums) ∨ enum ∈ file.topEnums := by
  simp only [allEnums, allMessages, List.mem_append, List.mem_flatMap, Declaration.mem_postorder]

/-- Induction from the outside in: what holds of a file, and of the members of every declaration of
which it holds, holds of all declarations of the file. -/
theorem declaration_induction {motive : {kind : Kind} → Declaration kind → Prop}
    (hfile : motive (.file file))
    (hmember : ∀ {kind child : Kind} {owner : Declaration kind} {member : Declaration child},
      owner ∈ file.declarations kind → member ∈ owner.members child → motive owner →
        motive member) :
    ∀ {kind : Kind} {declaration : Declaration kind}, declaration ∈ file.declarations kind →
      motive declaration := by
  have hself : Declaration.file file ∈ file.declarations .file := List.mem_singleton.mpr rfl
  -- The step goes outwards in, so the induction over a tree carries along that the tree is part of
  -- the file.
  have hinside : ∀ message : Declaration .message, message.preorder ⊆ file.allMessages →
      motive message → ∀ inner ∈ message.preorder, motive inner := by
    intro message
    induction message using Declaration.message_induction with
    | step message ih =>
        intro hsub hmessage inner hinner
        rcases Declaration.mem_preorder.mp hinner with rfl | ⟨child, hchild, hinner⟩
        · exact hmessage
        · have hmotive : motive child :=
            @hmember .message .message _ _ (hsub message.self_mem_preorder) hchild hmessage
          refine ih child hchild (fun other hother => hsub ?_) hmotive inner hinner
          exact Declaration.mem_preorder.mpr (Or.inr ⟨child, hchild, hother⟩)
  have hmessages : ∀ message ∈ file.allMessages, motive message := by
    intro message hmem
    obtain ⟨top, htop, hinner⟩ := mem_allMessages.mp hmem
    exact hinside top (fun other hother => mem_allMessages.mpr ⟨top, htop, hother⟩)
      (@hmember .file .message _ _ hself htop hfile) message hinner
  have henums : ∀ enum ∈ file.allEnums, motive enum := by
    intro enum hmem
    rcases mem_allEnums.mp hmem with ⟨message, hmessage, henum⟩ | htop
    · exact @hmember .message .enum _ _ hmessage henum (hmessages message hmessage)
    · exact @hmember .file .enum _ _ hself htop hfile
  have hservices : ∀ service ∈ file.topServices, motive service :=
    fun service hmem => @hmember .file .service _ _ hself hmem hfile
  intro kind declaration h
  cases kind with
  | file => exact List.mem_singleton.mp h ▸ hfile
  | message => exact hmessages declaration h
  | enum => exact henums declaration h
  | service => exact hservices declaration h
  | field =>
      obtain ⟨message, hmem, hfield⟩ := List.mem_flatMap.mp h
      exact @hmember .message .field _ _ hmem hfield (hmessages message hmem)
  | oneof =>
      obtain ⟨message, hmem, honeof⟩ := List.mem_flatMap.mp h
      exact @hmember .message .oneof _ _ hmem honeof (hmessages message hmem)
  | enumValue =>
      obtain ⟨enum, hmem, hvalue⟩ := List.mem_flatMap.mp h
      exact @hmember .enum .enumValue _ _ hmem hvalue (henums enum hmem)
  | method =>
      obtain ⟨service, hmem, hmethod⟩ := List.mem_flatMap.mp h
      exact @hmember .service .method _ _ hmem hmethod (hservices service hmem)

/-- The declarations of a file stand in the file. -/
theorem source_of_mem {kind : Kind} {declaration : Declaration kind}
    (h : declaration ∈ file.declarations kind) : declaration.source = file := by
  refine @declaration_induction file (fun declaration => declaration.source = file) rfl ?_ kind
    declaration h
  intro kind child owner member _ hmember howner
  rw [Declaration.source_of_mem_members hmember, howner]

/-- The messages around a declaration of a file are messages of the file. -/
theorem enclosing_subset {kind : Kind} {declaration : Declaration kind}
    (h : declaration ∈ file.declarations kind) : declaration.enclosing ⊆ file.allMessages := by
  refine @declaration_induction file (fun declaration => declaration.enclosing ⊆ file.allMessages)
    (List.nil_subset _) ?_ kind declaration h
  intro kind child owner member howner hmember henclosing
  cases kind <;> cases child <;> try exact absurd hmember List.not_mem_nil
  case file.message | file.enum | file.service =>
    obtain ⟨_, _, rfl⟩ := List.mem_map.mp hmember
    exact List.nil_subset _
  case message.message | message.enum | message.field | message.oneof =>
    obtain ⟨_, _, rfl⟩ := List.mem_map.mp hmember
    exact List.cons_subset.mpr ⟨howner, henclosing⟩
  case enum.enumValue =>
    obtain ⟨_, _, rfl⟩ := List.mem_map.mp hmember
    exact henclosing
  case service.method =>
    obtain ⟨_, _, rfl⟩ := List.mem_map.mp hmember
    exact List.nil_subset _

/-- What is around a declaration of a file is a declaration of the file too, and has the declaration
among its members. -/
theorem mem_members_of_around? {kind outer : Kind} {declaration : Declaration kind}
    {owner : Declaration outer} (h : declaration ∈ file.declarations kind)
    (howner : declaration.around? = some ⟨outer, owner⟩) :
    owner ∈ file.declarations outer ∧ declaration ∈ owner.members kind := by
  revert outer owner
  refine @declaration_induction file (fun {kind} declaration =>
    ∀ {outer : Kind} {owner : Declaration outer}, declaration.around? = some ⟨outer, owner⟩ →
      owner ∈ file.declarations outer ∧ declaration ∈ owner.members kind) ?_ ?_ kind declaration h
  · intro outer owner howner
    cases howner
  · intro kind child around member haround hmember _ outer owner howner
    rw [Declaration.around?_of_mem_members hmember] at howner
    cases howner
    exact ⟨haround, hmember⟩

/-- The messages of a file list each message before the messages directly in it, and these in their
order. -/
theorem cons_messages_sublist {message : Declaration .message} (h : message ∈ file.allMessages) :
    (message :: message.messages).Sublist file.allMessages := by
  obtain ⟨top, htop, hinner⟩ := mem_allMessages.mp h
  exact (Declaration.cons_messages_sublist_of_mem hinner).trans
    (Declaration.sublist_flatMap_of_mem Declaration.preorder htop)

/-- The declarations of a file list the members of each of them in their order. -/
theorem members_sublist {kind : Kind} {owner : Declaration kind}
    (h : owner ∈ file.declarations kind) (child : Kind) :
    (owner.members child).Sublist (file.declarations child) := by
  cases kind <;> cases child <;> try exact List.nil_sublist _
  case file.message =>
      rw [List.mem_singleton.mp h]
      have hheads : ∀ top ∈ file.topMessages, [top].Sublist top.preorder :=
        fun top _ => List.singleton_sublist.mpr top.self_mem_preorder
      have hwalk := List.Sublist.flatMap_right file.topMessages hheads
      rwa [List.flatMap_singleton'] at hwalk
  case file.enum =>
      rw [List.mem_singleton.mp h]
      exact List.sublist_append_right _ _
  case file.service =>
      rw [List.mem_singleton.mp h]
      exact List.Sublist.refl _
  case message.message =>
      exact (List.sublist_cons_self owner owner.messages).trans (cons_messages_sublist h)
  case message.enum =>
      obtain ⟨top, htop, howner⟩ := mem_allMessages.mp h
      have hpost : owner ∈ file.topMessages.flatMap (·.postorder) :=
        List.mem_flatMap.mpr ⟨top, htop, Declaration.mem_postorder.mpr howner⟩
      exact (Declaration.sublist_flatMap_of_mem Declaration.enums hpost).trans
        (List.sublist_append_left _ _)
  case message.field => exact Declaration.sublist_flatMap_of_mem Declaration.fields h
  case message.oneof => exact Declaration.sublist_flatMap_of_mem Declaration.oneofs h
  case enum.enumValue => exact Declaration.sublist_flatMap_of_mem Declaration.values h
  case service.method => exact Declaration.sublist_flatMap_of_mem Declaration.methods h

end FileDescriptor

namespace Request

variable {request : Request}

theorem mem_declarations {kind : Kind} {declaration : Declaration kind} :
    declaration ∈ request.declarations kind ↔
      ∃ file ∈ request.files, declaration ∈ file.declarations kind :=
  List.mem_flatMap

/-- A request declares its files. -/
theorem declarations_file (request : Request) :
    request.declarations .file = request.files.map .file :=
  List.map_eq_flatMap.symm

theorem file_mem {file : FileDescriptor} (h : file ∈ request.files) :
    .file file ∈ request.declarations .file := by
  rw [declarations_file]
  exact List.mem_map_of_mem h

/-- A declaration of a request stands in a file of the request. -/
theorem source_mem_files {kind : Kind} {declaration : Declaration kind}
    (h : declaration ∈ request.declarations kind) : declaration.source ∈ request.files := by
  obtain ⟨file, hfile, hmem⟩ := mem_declarations.mp h
  rwa [FileDescriptor.source_of_mem hmem]

/-- The file of a declaration of a request is one of the request. -/
theorem file_source_mem {kind : Kind} {declaration : Declaration kind}
    (h : declaration ∈ request.declarations kind) :
    .file declaration.source ∈ request.declarations .file :=
  file_mem (source_mem_files h)

/-- The messages around a declaration of a request are messages of the request. -/
theorem enclosing_subset {kind : Kind} {declaration : Declaration kind}
    (h : declaration ∈ request.declarations kind) :
    declaration.enclosing ⊆ request.declarations .message := by
  obtain ⟨file, hfile, hmem⟩ := mem_declarations.mp h
  intro message hmessage
  exact mem_declarations.mpr ⟨file, hfile, FileDescriptor.enclosing_subset hmem hmessage⟩

/-- What is around a declaration of a request is a declaration of the request too, and has the
declaration among its members. -/
theorem mem_members_of_around? {kind outer : Kind} {declaration : Declaration kind}
    {owner : Declaration outer} (h : declaration ∈ request.declarations kind)
    (howner : declaration.around? = some ⟨outer, owner⟩) :
    owner ∈ request.declarations outer ∧ declaration ∈ owner.members kind := by
  obtain ⟨file, hfile, hmem⟩ := mem_declarations.mp h
  obtain ⟨hmemOwner, hmember⟩ := FileDescriptor.mem_members_of_around? hmem howner
  exact ⟨mem_declarations.mpr ⟨file, hfile, hmemOwner⟩, hmember⟩

/-- The messages of a request list each message before the messages directly in it. -/
theorem cons_messages_sublist {message : Declaration .message}
    (h : message ∈ request.declarations .message) :
    (message :: message.messages).Sublist (request.declarations .message) := by
  obtain ⟨file, hfile, hmem⟩ := mem_declarations.mp h
  exact (FileDescriptor.cons_messages_sublist hmem).trans
    (Declaration.sublist_flatMap_of_mem (·.declarations .message) hfile)

/-- The declarations of a request list the members of each of them in their order. -/
theorem members_sublist {kind : Kind} {owner : Declaration kind}
    (h : owner ∈ request.declarations kind) (child : Kind) :
    (owner.members child).Sublist (request.declarations child) := by
  obtain ⟨file, hfile, hmem⟩ := mem_declarations.mp h
  exact (FileDescriptor.members_sublist hmem child).trans
    (Declaration.sublist_flatMap_of_mem (·.declarations child) hfile)

end Request

end LinkedSchema
