import LinkedSchema.Proofs.Check

/-!
# Walks through all declarations

The declarations of a file in one list, each before what is declared in it. This is the order in
which a reader meets them; listings tell the kinds apart.

* `memberKinds` — the order among the members of a declaration;
* `Declaration.walk`, `Declaration.walk_eq`, `Declaration.members_induction` — the walk, its
  recursion, and induction along it;
* `ofKind`, `FileDescriptor.ofKind_walk` — the declarations of a kind that a walk meets are those
  that are listed, in the order of the listing.
-/

namespace LinkedSchema

/-- The kinds of members, in the order in which a reader meets them. -/
def memberKinds : List Kind :=
  [.field, .oneof, .message, .enum, .enumValue, .service, .method]

namespace Declaration

/-- A bound for the length of a way into a declaration. -/
noncomputable def weight : {kind : Kind} → Declaration kind → Nat
  | .file, declaration => sizeOf (declaration.descriptor : FileDescriptor) + 3
  | .message, declaration => sizeOf (declaration.descriptor : MessageDescriptor) + 3
  | .enum, _ | .service, _ => 2
  | .field, _ | .oneof, _ | .enumValue, _ | .method, _ => 1

/-- A way into a member is shorter. -/
theorem weight_lt {kind child : Kind} {owner : Declaration kind} {member : Declaration child}
    (h : member ∈ owner.members child) : member.weight < owner.weight := by
  cases kind <;> cases child <;> try exact absurd h List.not_mem_nil
  case file.message =>
    cases owner with
    | file file =>
        obtain ⟨⟨descriptor, position⟩, hmem, rfl⟩ := List.mem_map.mp h
        have hmessage : descriptor ∈ file.messages := List.fst_mem_of_mem_zipIdx hmem
        have hsize := List.sizeOf_lt_of_mem hmessage
        show sizeOf descriptor + 3 < sizeOf file + 3
        obtain ⟨_, _, _, messages, _, _, _, _, _⟩ := file
        simp only [FileDescriptor.mk.sizeOf_spec] at hsize ⊢
        omega
  case message.message =>
    have hsize := sizeOf_descriptor_lt h
    simp only [weight]
    omega
  all_goals
    simp only [weight]
    omega

/-- A declaration, then what is declared in it. -/
def walk {kind : Kind} (declaration : Declaration kind) : List (Sigma Declaration) :=
  ⟨kind, declaration⟩ :: memberKinds.flatMap fun child =>
    (declaration.members child).attach.flatMap fun ⟨member, _⟩ => member.walk
termination_by declaration.weight
decreasing_by exact weight_lt ‹_›

theorem walk_eq {kind : Kind} (declaration : Declaration kind) :
    declaration.walk =
      ⟨kind, declaration⟩ :: memberKinds.flatMap fun child =>
        (declaration.members child).flatMap walk := by
  rw [walk]
  simp

/-- A message directly in another has fewer messages inside. -/
theorem length_preorder_lt {message inner : Declaration .message} (h : inner ∈ message.messages) :
    inner.preorder.length < message.preorder.length := by
  rw [preorder_eq message, List.length_cons, Nat.lt_succ_iff]
  exact (sublist_flatMap_of_mem preorder h).length_le

/-- Induction from the inside out: what holds of a declaration if it holds of all its members holds
of every declaration. -/
theorem members_induction {motive : {kind : Kind} → Declaration kind → Prop}
    (step : ∀ {kind : Kind} (declaration : Declaration kind),
      (∀ {child : Kind} (member : Declaration child), member ∈ declaration.members child →
        motive member) → motive declaration) :
    ∀ {kind : Kind} (declaration : Declaration kind), motive declaration := by
  intro kind declaration
  exact step declaration fun {child} member hmember => members_induction step member
termination_by _ declaration => declaration.weight
decreasing_by exact weight_lt hmember

theorem mem_memberKinds {kind child : Kind} {owner : Declaration kind}
    {member : Declaration child} (h : member ∈ owner.members child) : child ∈ memberKinds := by
  cases child with
  | file => cases kind <;> exact absurd h List.not_mem_nil
  | _ => decide

/-- What a walk meets behind its first declaration it meets in the walk through a member. -/
theorem mem_walk {kind : Kind} {declaration : Declaration kind} {inside : Sigma Declaration} :
    inside ∈ declaration.walk ↔
      inside = ⟨kind, declaration⟩ ∨
        ∃ child, ∃ member ∈ declaration.members child, inside ∈ member.walk := by
  rw [walk_eq, List.mem_cons, List.mem_flatMap]
  simp only [List.mem_flatMap]
  refine or_congr_right (exists_congr fun child => and_iff_right_of_imp ?_)
  intro hall
  obtain ⟨member, hmember, -⟩ := hall
  exact mem_memberKinds hmember

end Declaration

/-- The declarations of a kind in a list of declarations. -/
def ofKind (kind : Kind) (declarations : List (Sigma Declaration)) : List (Declaration kind) :=
  declarations.filterMap fun declaration =>
    if h : declaration.1 = kind then some (h ▸ declaration.2) else none

section OfKind

variable {kind other : Kind}

@[simp]
theorem ofKind_cons_self (declaration : Declaration kind) (rest : List (Sigma Declaration)) :
    ofKind kind (⟨kind, declaration⟩ :: rest) = declaration :: ofKind kind rest := by
  simp [ofKind]

theorem ofKind_cons_of_ne (h : other ≠ kind) (declaration : Declaration other)
    (rest : List (Sigma Declaration)) :
    ofKind kind (⟨other, declaration⟩ :: rest) = ofKind kind rest := by
  simp [ofKind, h]

theorem ofKind_append (declarations more : List (Sigma Declaration)) :
    ofKind kind (declarations ++ more) = ofKind kind declarations ++ ofKind kind more :=
  List.filterMap_append

theorem ofKind_flatMap {α : Type} (items : List α) (f : α → List (Sigma Declaration)) :
    ofKind kind (items.flatMap f) = items.flatMap fun item => ofKind kind (f item) :=
  List.filterMap_flatMap

theorem ofKind_filter (accept : Sigma Declaration → Bool) (declarations : List (Sigma Declaration)) :
    ofKind kind (declarations.filter accept) =
      (ofKind kind declarations).filter fun declaration => accept ⟨kind, declaration⟩ := by
  induction declarations with
  | nil => rfl
  | cons declaration declarations ih =>
      obtain ⟨other, declaration⟩ := declaration
      by_cases hother : other = kind
      · subst hother
        cases haccept : accept ⟨other, declaration⟩ <;> simp [haccept, ih]
      · cases haccept : accept ⟨other, declaration⟩ <;>
          simp [haccept, ih, ofKind_cons_of_ne hother]

@[simp]
theorem ofKind_map_self (declarations : List (Declaration kind)) :
    ofKind kind (declarations.map (Sigma.mk kind)) = declarations := by
  induction declarations with
  | nil => rfl
  | cons declaration declarations ih => rw [List.map_cons, ofKind_cons_self, ih]

theorem ofKind_map_of_ne (h : other ≠ kind) (declarations : List (Declaration other)) :
    ofKind kind (declarations.map (Sigma.mk other)) = [] := by
  induction declarations with
  | nil => rfl
  | cons declaration declarations ih => rw [List.map_cons, ofKind_cons_of_ne h, ih]

/-- With their kind, the declarations of a kind are those that a filter keeps. -/
theorem map_ofKind (kind : Kind) (declarations : List (Sigma Declaration)) :
    (ofKind kind declarations).map (Sigma.mk kind) = declarations.filter (·.1 = kind) := by
  induction declarations with
  | nil => rfl
  | cons declaration declarations ih =>
      obtain ⟨other, declaration⟩ := declaration
      by_cases hother : other = kind
      · subst hother
        rw [ofKind_cons_self, List.map_cons, ih, List.filter_cons_of_pos (by simp)]
      · rw [ofKind_cons_of_ne hother, ih, List.filter_cons_of_neg (by simp [hother])]

end OfKind

namespace Declaration

/-- A walk through declarations without members meets them alone. -/
theorem flatMap_walk {kind : Kind} {declarations : List (Declaration kind)}
    (h : ∀ declaration ∈ declarations, ∀ child, declaration.members child = []) :
    declarations.flatMap walk = declarations.map (Sigma.mk kind) := by
  rw [List.map_eq_flatMap]
  refine List.flatMap_congr fun declaration hmem => ?_
  simp [walk_eq, h declaration hmem]

/-- An enum, then its values. -/
theorem walk_enum (enum : Declaration .enum) :
    enum.walk = ⟨.enum, enum⟩ :: enum.values.map (Sigma.mk .enumValue) := by
  have hvalues := @flatMap_walk _ enum.values fun _ _ child => rfl
  simp [walk_eq enum, memberKinds, members, hvalues]

/-- A service, then its methods. -/
theorem walk_service (service : Declaration .service) :
    service.walk = ⟨.service, service⟩ :: service.methods.map (Sigma.mk .method) := by
  have hmethods := @flatMap_walk _ service.methods fun _ _ child => rfl
  simp [walk_eq service, memberKinds, members, hmethods]

/-- A message, then its fields, its oneofs, the messages directly in it and its enums. -/
theorem walk_message (message : Declaration .message) :
    message.walk = ⟨.message, message⟩ ::
      (message.fields.map (Sigma.mk .field) ++ message.oneofs.map (Sigma.mk .oneof) ++
        message.messages.flatMap walk ++ message.enums.flatMap walk) := by
  have hfields := @flatMap_walk _ message.fields fun _ _ child => rfl
  have honeofs := @flatMap_walk _ message.oneofs fun _ _ child => rfl
  simp [walk_eq message, memberKinds, members, hfields, honeofs]

/-- A file, then its messages, its enums and its services. -/
theorem walk_file (file : Declaration .file) :
    file.walk = ⟨.file, file⟩ ::
      (file.source.topMessages.flatMap walk ++ file.source.topEnums.flatMap walk ++
        file.source.topServices.flatMap walk) := by
  simp [walk_eq file, memberKinds, members]

theorem ofKind_walk_enum (enum : Declaration .enum) (kind : Kind) :
    ofKind kind enum.walk =
      match kind with
      | .enum => [enum]
      | .enumValue => enum.values
      | _ => [] := by
  rw [walk_enum]
  cases kind <;> simp [ofKind_cons_of_ne, ofKind_map_of_ne]

theorem ofKind_walk_service (service : Declaration .service) (kind : Kind) :
    ofKind kind service.walk =
      match kind with
      | .service => [service]
      | .method => service.methods
      | _ => [] := by
  rw [walk_service]
  cases kind <;> simp [ofKind_cons_of_ne, ofKind_map_of_ne]

/-- The walk through a message meets the content of the message. -/
theorem ofKind_walk_message (message : Declaration .message) (kind : Kind) :
    ofKind kind message.walk = message.content kind := by
  induction message using message_induction with
  | step message ih =>
      have hnested : ofKind kind (message.messages.flatMap walk) =
          message.messages.flatMap (content · kind) := by
        rw [ofKind_flatMap]
        exact List.flatMap_congr ih
      rw [content_eq, walk_message]
      cases kind <;>
        simp [hnested, ofKind_append, ofKind_cons_of_ne, ofKind_map_of_ne,
          ofKind_flatMap message.enums, ofKind_walk_enum]
      -- No message has files, services or methods inside.
      all_goals exact fun inner _ => rfl

end Declaration

/-- The walk through a file meets the declarations that are listed of the file, kind by kind in the
order of the listings. -/
theorem FileDescriptor.ofKind_walk (file : FileDescriptor) (kind : Kind) :
    ofKind kind (Declaration.file file).walk = file.declarations kind := by
  have hmessages : ofKind kind (file.topMessages.flatMap Declaration.walk) =
      file.topMessages.flatMap (Declaration.content · kind) := by
    rw [ofKind_flatMap]
    exact List.flatMap_congr fun message _ => Declaration.ofKind_walk_message message kind
  have hnone : ∀ {α : Type} (items : List α),
      items.flatMap (fun _ => ([] : List (Declaration kind))) = [] :=
    fun items => List.flatMap_eq_nil_iff.mpr fun _ _ => rfl
  rw [Declaration.walk_file]
  cases kind <;>
    simp [Declaration.source, hmessages, hnone, ofKind_append, ofKind_cons_of_ne,
      ofKind_flatMap file.topEnums, ofKind_flatMap file.topServices, Declaration.ofKind_walk_enum,
      Declaration.ofKind_walk_service, declarations, allMessages, allEnums, Declaration.content,
      List.flatMap_assoc]

end LinkedSchema
