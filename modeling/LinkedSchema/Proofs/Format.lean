import LinkedSchema.Proofs.Decoding
import LinkedSchema.Proofs.Presentation
import Mathlib.Data.List.Forall2

/-!
# Decoders of formats

Every kind of record is decoded by a shape of its own. Here each shape is held against the table of
the members that the kind has: slot by slot it answers to the spellings of the name, reads what the
format says, and leaves the record as it is when it reads the value that is there anyway. What is
proved of records afterwards is proved once, from the table.

* `Format.Content`, `Format.decoder` — what is read from a place of a format, and by what;
* `RecordKind.shape`, `RecordKind.decoder_eq` — the shape of each kind of record;
* `Json.Slot.Reads`, `RecordKind.slots_read` — slots and members of each kind, side by side;
* `RecordKind.slots_commute` — no slot touches what another one has stored;
* `RecordKind.exists_slot`, `RecordKind.slot?_eq_none` — the slot of a key.
-/

namespace LinkedSchema

open Json (Document Scalar Sized Slot Shape)

/-! ## Contents -/

/-- What a record of the kind is read as. -/
def RecordKind.Content : RecordKind → Type
  | request => Request
  | compilerVersion => CompilerVersion
  | file => FileDescriptor
  | message => MessageDescriptor
  | reservedRange => ReservedRange
  | field => FieldDescriptor
  | oneof => OneofDescriptor
  | enum => EnumDescriptor
  | enumValue => EnumValueDescriptor
  | service => ServiceDescriptor
  | method => MethodDescriptor
  | sourceInfo => List Location
  | location => Location

/-- The record of which nothing is written. -/
def RecordKind.initial : (kind : RecordKind) → kind.Content
  | request => ({} : Request)
  | compilerVersion => ({} : CompilerVersion)
  | file => ({} : FileDescriptor)
  | message => ({} : MessageDescriptor)
  | reservedRange => ({} : ReservedRange)
  | field => ({} : FieldDescriptor)
  | oneof => ({} : OneofDescriptor)
  | enum => ({} : EnumDescriptor)
  | enumValue => ({} : EnumValueDescriptor)
  | service => ({} : ServiceDescriptor)
  | method => ({} : MethodDescriptor)
  | sourceInfo => ([] : List Location)
  | location => ({} : Location)

/-- How a message nested in another one is read, given the room inside the other one. -/
def MessageDescriptor.nestedDecoder : Sized MessageDescriptor
  | 0 => fun _ => .error (.malformed .tooDeep)
  | room + 1 => decoder room

/-- The shape by which a record is read, given the room inside it. Only the messages nested in a
message look at the room. -/
def RecordKind.shape (inside : Nat) : (kind : RecordKind) → Shape kind.Content
  | request => Request.shape
  | compilerVersion => CompilerVersion.shape
  | file => FileDescriptor.shape
  | message => MessageDescriptor.shape (MessageDescriptor.nestedDecoder inside)
  | reservedRange => ReservedRange.shape
  | field => FieldDescriptor.shape
  | oneof => OneofDescriptor.shape
  | enum => EnumDescriptor.shape
  | enumValue => EnumValueDescriptor.shape
  | service => ServiceDescriptor.shape
  | method => MethodDescriptor.shape
  | sourceInfo => Location.listShape
  | location => Location.shape

/-- The decoder of a kind of record. -/
def RecordKind.decoder : (kind : RecordKind) → Sized kind.Content
  | request => Json.record Request.shape {}
  | compilerVersion => Json.record CompilerVersion.shape {}
  | file => Json.record FileDescriptor.shape {}
  | message => MessageDescriptor.decoder
  | reservedRange => Json.record ReservedRange.shape {}
  | field => Json.record FieldDescriptor.shape {}
  | oneof => Json.record OneofDescriptor.shape {}
  | enum => Json.record EnumDescriptor.shape {}
  | enumValue => Json.record EnumValueDescriptor.shape {}
  | service => Json.record ServiceDescriptor.shape {}
  | method => Json.record MethodDescriptor.shape {}
  | sourceInfo => Location.listDecoder
  | location => Json.record Location.shape {}

namespace Format

/-- What is read from a place of the format. -/
def Content : Format → Type
  | text => String
  | flag => Bool
  | integer => Int
  | type => FieldType
  | label => FieldLabel
  | options => Options
  | optional content => Option content.Content
  | list item => List item.Content
  | record kind => kind.Content

/-- What is there if nothing is written. -/
def initial : (format : Format) → format.Content
  | text => ""
  | flag => false
  | integer => (0 : Int)
  | type => FieldType.double
  | label => FieldLabel.optional
  | options => Options.empty
  | optional _ => none
  | list _ => []
  | record kind => kind.initial

/-- The decoder of the format. -/
def decoder : (format : Format) → Sized format.Content
  | text => fun _ => Json.text
  | flag => fun _ => Json.flag
  | integer => fun _ => Json.int32
  | type => FieldType.enumeration.decoder
  | label => FieldLabel.enumeration.decoder
  | options => Options.decoder
  | optional content => fun room => Json.optional (content.decoder room)
  | list item => Json.list item.decoder
  | record kind => kind.decoder

end Format

namespace RecordKind

theorem decoder_eq (kind : RecordKind) (room : Nat) :
    kind.decoder room = Json.record (kind.shape (room - 1)) kind.initial room := by
  cases kind with
  | message =>
      rcases room with _ | _ | room <;> rfl
  | _ => rfl

end RecordKind

/-! ## Slots and members -/

/-- The slot is the one of the member: it answers to the spellings of the name, reads what the
format says, and changes nothing when that is there anyway. -/
structure Json.Slot.Reads {σ : Type} (room : Nat) (initial : σ) (member : String × Format)
    (slot : Slot σ) : Prop where
  keys : slot.name :: slot.aliases = spellings member.1
  store : ∃ set : member.2.Content → σ → σ,
    slot.store room = (fun document => set <$> member.2.decoder room document) ∧
      set member.2.initial initial = initial

theorem Json.Slot.Reads.ofSized {σ : Type} {room : Nat} {initial : σ} {name : String}
    {aliases : List String} {member : String × Format} {decoder : Sized member.2.Content}
    {set : member.2.Content → σ → σ} (hkeys : name :: aliases = spellings member.1)
    (hdecoder : decoder room = member.2.decoder room)
    (hinitial : set member.2.initial initial = initial) :
    Slot.Reads room initial member (.ofSized name aliases decoder set) :=
  ⟨hkeys, set, hdecoder ▸ rfl, hinitial⟩

/-- In the list of nested messages there is room for as many containers as anywhere else. -/
theorem MessageDescriptor.list_nestedDecoder (room : Nat) :
    Json.list (fun _ => nestedDecoder room) room = Json.list decoder room := by
  funext document
  cases room <;> cases document <;> rfl

namespace RecordKind

variable (kind : RecordKind) (room : Nat)

theorem unknown_shape : (kind.shape room).unknown = .skipped := by
  cases kind <;> rfl

/-- Slot by slot, the shape is the one that the members ask for. -/
theorem slots_read :
    List.Forall₂ (Slot.Reads room kind.initial) kind.members (kind.shape room).slots := by
  -- The decoders are those of the formats by definition, but for the list of nested messages.
  cases kind <;> repeat'
    first
      | exact .nil
      | refine .cons (.ofSized rfl rfl rfl) ?_
      | refine .cons (.ofSized rfl (MessageDescriptor.list_nestedDecoder room) rfl) ?_

/-- Every slot has a part of the record to itself. -/
theorem slots_commute : (kind.shape room).slots.Pairwise Slot.Commute := by
  cases kind <;> repeat'
    first
      | exact .nil
      | refine .cons ?_ ?_
      | exact List.forall_mem_nil _
      | refine List.forall_mem_cons.mpr ⟨?_, ?_⟩
      | exact Slot.commute_ofSized fun _ _ _ => rfl

end RecordKind

/-! ## The slot of a key -/

namespace Json.Slot.Reads

variable {σ : Type} {room : Nat} {initial : σ} {member : String × Format} {slot : Slot σ}

theorem answersTo_iff (h : slot.Reads room initial member) (key : String) :
    slot.answersTo key ↔ key ∈ spellings member.1 := by
  rw [← h.keys, Slot.answersTo, Bool.or_eq_true, beq_iff_eq, List.contains_iff_mem, List.mem_cons,
    eq_comm]

/-- What the format reads as before, the slot stores as before. -/
theorem carriesOver (h : slot.Reads room initial member) {document other : Document}
    (hmember : Json.CarriesOver (member.2.decoder room) document other) :
    Json.CarriesOver (slot.store room) document other := by
  obtain ⟨set, hstore, -⟩ := h.store
  intro change hchange
  rw [hstore, Json.map_eq_ok_iff] at hchange ⊢
  obtain ⟨content, hcontent, hset⟩ := hchange
  exact ⟨content, hmember content hcontent, hset⟩

/-- Storing what is there anyway changes nothing. -/
theorem store_initial (h : slot.Reads room initial member) {document : Document}
    (hdocument : ∀ content, member.2.decoder room document = .ok content →
      content = member.2.initial) :
    ∀ change, slot.store room document = .ok change → change initial = initial := by
  obtain ⟨set, hstore, hinitial⟩ := h.store
  intro change hchange
  rw [hstore, Json.map_eq_ok_iff] at hchange
  obtain ⟨content, hcontent, rfl⟩ := hchange
  rw [hdocument content hcontent, hinitial]

/-- Where no key means two members, every spelling of a name finds the slot of its member. -/
theorem exists_find?_eq {members : List (String × Format)} {slots : List (Slot σ)}
    (hreads : List.Forall₂ (Slot.Reads room initial) members slots)
    (hdisjoint : members.Pairwise fun first second =>
      ∀ key ∈ spellings first.1, key ∉ spellings second.1) (hmember : member ∈ members) :
    ∃ slot, (∀ key ∈ spellings member.1, slots.find? (·.answersTo key) = some slot) ∧
      slot.Reads room initial member := by
  induction hreads with
  | nil => contradiction
  | @cons first slot members slots hfirst _ ih =>
      rw [List.pairwise_cons] at hdisjoint
      rcases List.mem_cons.mp hmember with rfl | hrest
      · exact ⟨slot, fun key hkey => List.find?_cons_of_pos ((hfirst.answersTo_iff key).mpr hkey),
          hfirst⟩
      · obtain ⟨found, hfound, hreads⟩ := ih hdisjoint.2 hrest
        refine ⟨found, fun key hkey => ?_, hreads⟩
        rw [List.find?_cons_of_neg, hfound key hkey]
        exact fun hanswers =>
          hdisjoint.1 member hrest key ((hfirst.answersTo_iff key).mp hanswers) hkey

theorem find?_eq_none {members : List (String × Format)} {slots : List (Slot σ)}
    (hreads : List.Forall₂ (Slot.Reads room initial) members slots) {key : String}
    (hkey : ∀ member ∈ members, key ∉ spellings member.1) :
    slots.find? (·.answersTo key) = none := by
  induction hreads with
  | nil => rfl
  | cons hfirst _ ih =>
      rw [List.forall_mem_cons] at hkey
      rw [List.find?_cons_of_neg, ih hkey.2]
      exact fun hanswers => hkey.1 ((hfirst.answersTo_iff key).mp hanswers)

end Json.Slot.Reads

namespace RecordKind

variable {kind : RecordKind} {member : String × Format}

/-- No key means two members of a record. -/
theorem disjoint_spellings (kind : RecordKind) :
    kind.members.Pairwise fun first second =>
      ∀ key ∈ spellings first.1, key ∉ spellings second.1 := by
  cases kind <;> decide +kernel

/-- A member has its slot, which every spelling of its name finds. -/
theorem exists_slot (room : Nat) (hmember : member ∈ kind.members) :
    ∃ slot, (∀ key ∈ spellings member.1, (kind.shape room).slot? key = some slot) ∧
      slot.Reads room kind.initial member :=
  Slot.Reads.exists_find?_eq (slots_read kind room) kind.disjoint_spellings hmember

/-- A key that is no spelling of a member finds no slot. -/
theorem slot?_eq_none (room : Nat) {key : String}
    (hkey : ∀ member ∈ kind.members, key ∉ spellings member.1) :
    (kind.shape room).slot? key = none :=
  Slot.Reads.find?_eq_none (slots_read kind room) hkey

/-- The slot of a member stands where the member stands. -/
theorem exists_getElem?_slots (room : Nat) {position : Nat}
    (hmember : kind.members[position]? = some member) :
    ∃ slot, (kind.shape room).slots[position]? = some slot ∧
      slot.Reads room kind.initial member := by
  obtain ⟨hlength, hreads⟩ := List.forall₂_iff_get.mp (slots_read kind room)
  obtain ⟨hposition, rfl⟩ := List.getElem?_eq_some_iff.mp hmember
  exact ⟨_, List.getElem?_eq_getElem (hlength ▸ hposition), hreads position hposition _⟩

end RecordKind

end LinkedSchema
