import LinkedSchema.Proofs.Dictionary
import LinkedSchema.Proofs.Format
import Mathlib.Logic.Relation

/-!
# Requests do not depend on their presentation

A document that is read as a request is read as the same request after any edits that only change
its presentation. An edit touches one place, and what is read around the place comes from what is
read there; so it is enough to look at each edit in its place, with whatever room for containers is
left.

* `Json.Document.Valid.skip_eq_ok` — a value whose grammar is right is passed over;
* `Json.Document.Reorders.carriesOver_value` — values do not depend on the order of members;
* `jsonKey_eq_optionName`, `Options.ofDictionary_ofList` — options are stored by what they go by;
* `Edit.carriesOver` — the decoder of a format reads the same after an edit;
* `Request.ofText_of_edits` — so does the decoder of a request, after any number of edits.
-/

namespace LinkedSchema

open Json (Document Scalar CarriesOver)

/-! ## Values -/

namespace Json

variable {α : Type}

namespace Document

theorem skipItems_eq_ok {items : List Document} (h : ∀ item ∈ items, item.skip = .ok ()) :
    skipItems items = .ok () := by
  induction items with
  | nil => rfl
  | cons item items ih =>
      rw [List.forall_mem_cons] at h
      rw [skipItems, h.1, ih h.2]
      rfl

theorem skipMembers_eq_ok {members : List (Scalar String × Document)}
    (hkeys : ∀ member ∈ members, member.1.skipped = .ok ())
    (hvalues : ∀ member ∈ members, member.2.skip = .ok ()) : skipMembers members = .ok () := by
  induction members with
  | nil => rfl
  | cons member members ih =>
      rw [List.forall_mem_cons] at hkeys hvalues
      rw [skipMembers, hkeys.1, hvalues.1, ih hkeys.2 hvalues.2]
      rfl

/-- A value whose grammar is right can be passed over. -/
theorem Valid.skip_eq_ok {document : Document} (h : document.Valid) : document.skip = .ok () := by
  induction h with
  | null | bool => rw [skip]
  | number h | string h => rw [skip, h]
  | list _ ih =>
      rw [skip, skipItems_eq_ok ih]
      rfl
  | object hkeys _ ih =>
      rw [skip, skipMembers_eq_ok hkeys ih]
      rfl

end Document

/-- How one member of a map is read. -/
def readMember (item : Decoder α) (member : Scalar String × Document) :
    Except Error (String × α) := do
  let key ← orFault member.1.used
  return (key, ← item member.2)

theorem readMember_eq_ok_iff {item : Decoder α} {member : Scalar String × Document}
    {entry : String × α} :
    readMember item member = .ok entry ↔
      member.1.used = .ok entry.1 ∧ item member.2 = .ok entry.2 := by
  obtain ⟨key, content⟩ := entry
  simp only [readMember, bind_eq_ok_iff, orFault_eq_ok_iff, pure_eq_ok_iff, Prod.mk.injEq]
  constructor
  · rintro ⟨key, hkey, content, hcontent, rfl, rfl⟩
    exact ⟨hkey, hcontent⟩
  · rintro ⟨hkey, hcontent⟩
    exact ⟨key, hkey, content, hcontent, rfl, rfl⟩

theorem readMembers_eq_ok_iff {item : Decoder α} {members : List (Scalar String × Document)}
    {dictionary : Dictionary α} :
    readMembers item members = .ok dictionary ↔
      ∃ entries, members.mapM (readMember item) = .ok entries ∧ .ofList entries = dictionary := by
  rw [readMembers, bind_eq_ok_iff]
  simp only [pure_eq_ok_iff]
  rfl

/-- The keys of the entries are those of the members. -/
theorem keys_eq_map {item : Decoder α} {members : List (Scalar String × Document)}
    {entries : List (String × α)} (h : members.mapM (readMember item) = .ok entries) :
    keys members = entries.map fun entry => .ok entry.1 := by
  induction members generalizing entries with
  | nil =>
      obtain rfl : [] = entries := pure_eq_ok_iff.mp h
      rfl
  | cons member members ih =>
      simp only [List.mapM_cons, bind_eq_ok_iff, pure_eq_ok_iff] at h
      obtain ⟨entry, hentry, entries, hentries, rfl⟩ := h
      rw [List.map_cons, ← ih hentries, ← (readMember_eq_ok_iff.mp hentry).1]
      rfl

theorem nodup_keys_of_mapM {item : Decoder α} {members : List (Scalar String × Document)}
    {entries : List (String × α)} (h : members.mapM (readMember item) = .ok entries)
    (hkeys : (keys members).Nodup) : (entries.map Prod.fst).Nodup := by
  rw [keys_eq_map h] at hkeys
  exact .of_map Except.ok (by rwa [List.map_map])

/-- A map has the same entries whatever the order of its members. -/
theorem readMembers_of_perm {item : Decoder α} {members others : List (Scalar String × Document)}
    (hperm : members.Perm others) (hkeys : (keys members).Nodup) {dictionary : Dictionary α}
    (h : readMembers item members = .ok dictionary) :
    readMembers item others = .ok dictionary := by
  rw [readMembers_eq_ok_iff] at h ⊢
  obtain ⟨entries, hentries, rfl⟩ := h
  obtain ⟨reordered, hreordered, hentriesPerm⟩ := mapM_perm hperm hentries
  exact ⟨reordered, hreordered,
    Dictionary.ofList_eq_of_perm hentriesPerm.symm (nodup_keys_of_mapM hentries hkeys)⟩

/-- A map with another member that is read as before. -/
theorem readMembers_replace {item : Decoder α} {document other : Document}
    (h : CarriesOver item document other) {key : Scalar String}
    {before behind : List (Scalar String × Document)} {dictionary : Dictionary α}
    (hdictionary : readMembers item (before ++ (key, document) :: behind) = .ok dictionary) :
    readMembers item (before ++ (key, other) :: behind) = .ok dictionary := by
  rw [readMembers_eq_ok_iff] at hdictionary ⊢
  obtain ⟨entries, hentries, hdictionary⟩ := hdictionary
  refine ⟨entries, mapM_replace (fun entry hentry => ?_) hentries, hdictionary⟩
  rw [readMember_eq_ok_iff] at hentry ⊢
  exact ⟨hentry.1, h entry.2 hentry.2⟩

theorem value_list_eq_ok_iff {room : Nat} {items : List Document} {read : Value} :
    value room (.list items .closed) = .ok read ↔
      ∃ inside, room = inside + 1 ∧
        ∃ values, items.mapM (value inside) = .ok values ∧ .list values = read := by
  cases room with
  | zero => simp [value]
  | succ room => simp [value, bind_eq_ok_iff, orFault, ListEnd.check]

theorem value_object_eq_ok_iff {room : Nat} {members : List (Scalar String × Document)}
    {read : Value} :
    value room (.object members .closed) = .ok read ↔
      ∃ inside, room = inside + 1 ∧
        ∃ entries, readMembers (value inside) members = .ok entries ∧
          .object entries.entries = read := by
  cases room with
  | zero => simp [value]
  | succ room => simp [value, bind_eq_ok_iff, orFault, ObjectEnd.check]

/-- A value does not depend on the order of members, at any depth. -/
theorem Document.Reorders.carriesOver_value {document other : Document}
    (h : document.Reorders other) (room : Nat) : CarriesOver (value room) document other := by
  induction h generalizing room with
  | members hperm hkeys =>
      intro read hread
      obtain ⟨inside, rfl, entries, hentries, rfl⟩ := value_object_eq_ok_iff.mp hread
      exact value_object_eq_ok_iff.mpr
        ⟨inside, rfl, entries, readMembers_of_perm hperm hkeys hentries, rfl⟩
  | item _ before behind ih =>
      intro read hread
      obtain ⟨inside, rfl, values, hvalues, rfl⟩ := value_list_eq_ok_iff.mp hread
      exact value_list_eq_ok_iff.mpr ⟨inside, rfl, values, mapM_replace (ih inside) hvalues, rfl⟩
  | member _ key before behind ih =>
      intro read hread
      obtain ⟨inside, rfl, entries, hentries, rfl⟩ := value_object_eq_ok_iff.mp hread
      exact value_object_eq_ok_iff.mpr
        ⟨inside, rfl, entries, readMembers_replace (ih inside) hentries, rfl⟩

/-- An enumeration reads the name and the number of a value alike. -/
theorem Enumeration.decoder_of_names {enumeration : Enumeration α} {name : String} {number : Int}
    {content : α} (hname : enumeration.ofName? name = some content)
    (hnumber : enumeration.ofNumber? number = some content) (hfits : fitsInt32 number)
    {document : Document} (h : document.Names name number) (room : Nat) :
    enumeration.decoder room document = .ok content := by
  rw [decoder, bind_eq_ok_iff]
  cases h with
  | name h =>
      refine ⟨.string name, ?_, by simp [ofValue, hname]⟩
      rw [value, h]
      rfl
  | number h =>
      refine ⟨.number (.integer number), ?_, by simp [ofValue, hnumber, hfits]⟩
      rw [value, h]
      rfl

end Json

theorem FieldType.decoder_of_names (type : FieldType) {document : Document}
    (h : document.Names type.name type.number) (room : Nat) :
    enumeration.decoder room document = .ok type := by
  refine Json.Enumeration.decoder_of_names ?_ ?_ ?_ h room <;> cases type <;> rfl

theorem FieldLabel.decoder_of_names (label : FieldLabel) {document : Document}
    (h : document.Names label.name label.number) (room : Nat) :
    enumeration.decoder room document = .ok label := by
  refine Json.Enumeration.decoder_of_names ?_ ?_ ?_ h room <;> cases label <;> rfl

/-! ## Options -/

/-- Words are capitalized where an underscore has been dropped. -/
theorem camelCase_eq (cs : List Char) :
    ∃ first words, cs.splitOn '_' = first :: words ∧
      camelCase false cs = first ++ words.flatMap capitalize ∧
      camelCase true cs = capitalize first ++ words.flatMap capitalize := by
  induction cs with
  | nil => exact ⟨[], [], rfl, rfl, rfl⟩
  | cons c rest ih =>
      obtain ⟨first, words, hsplit, hlower, hraised⟩ := ih
      by_cases hc : c = '_'
      · subst hc
        refine ⟨[], first :: words, ?_, ?_, ?_⟩
        · rw [List.splitOn, List.splitOnP_cons_eq_if_modifyHead, if_pos (beq_self_eq_true _),
            ← hsplit]
          rfl
        · simp [camelCase, hraised]
        · simp [camelCase, hraised, capitalize]
      · refine ⟨c :: first, words, ?_, ?_, ?_⟩
        · rw [List.splitOn, List.splitOnP_cons_eq_if_modifyHead, if_neg (by simpa using hc)]
          change List.modifyHead _ (rest.splitOn '_') = _
          rw [hsplit]
          rfl
        · simp [camelCase, hc, hlower]
        · simp [camelCase, hc, hlower, capitalize]

theorem camelCase_of_not_mem {cs : List Char} (h : '_' ∉ cs) : camelCase false cs = cs := by
  induction cs with
  | nil => rfl
  | cons c rest ih =>
      rw [List.mem_cons, not_or] at h
      simp [camelCase, Ne.symm h.1, ih h.2]

theorem lowerCamel_eq_ofList (key : String) :
    lowerCamel key = String.ofList (camelCase false key.toList) := by
  obtain ⟨first, words, hsplit, hlower, -⟩ := camelCase_eq key.toList
  rw [lowerCamel, hsplit, hlower]

/-- Options are stored under what they go by. -/
theorem jsonKey_eq_optionName (key : String) : jsonKey key = optionName key := by
  by_cases hstandard : IsStandard key
  · rw [optionName, if_pos hstandard, lowerCamel_eq_ofList, jsonKey]
    by_cases hword : '_' ∈ key.toList
    · simp_all [IsStandard]
    · simp [hword, camelCase_of_not_mem hword]
  · rw [optionName, if_neg hstandard, jsonKey]
    simp_all [IsStandard]

namespace Options

theorem entries_foldl_set (written : List (String × Json.Value)) (options : Options) :
    (written.foldl (fun options entry => options.set entry.1 entry.2) options).entries =
      (written.map fun entry => (jsonKey entry.1, entry.2)).foldl
        (fun dictionary entry => dictionary.insert entry.1 entry.2) options.entries := by
  induction written generalizing options with
  | nil => rfl
  | cons entry written ih => exact ih _

/-- Options that go by different names are stored as they are written. -/
theorem ofDictionary_ofList {written : List (String × Json.Value)}
    (h : (written.map fun entry => jsonKey entry.1).Nodup) :
    ofDictionary (.ofList written) =
      ⟨.ofList (written.map fun entry => (jsonKey entry.1, entry.2))⟩ := by
  have hkeys : (written.map Prod.fst).Nodup := .of_map jsonKey (by rwa [List.map_map])
  have hperm := (Dictionary.entries_ofList_perm hkeys).map fun entry => (jsonKey entry.1, entry.2)
  refine congrArg mk ((entries_foldl_set _ empty).trans ?_)
  exact Dictionary.ofList_eq_of_perm hperm (by rwa [List.map_map])

/-- Options are an object, of which the members are the entries. -/
theorem decoder_object_eq_ok_iff {room : Nat} {members : List (Scalar String × Document)}
    {options : Options} :
    decoder room (.object members .closed) = .ok options ↔
      ∃ inside, room = inside + 1 ∧
        ∃ entries, Json.readMembers (Json.value inside) members = .ok entries ∧
          ofDictionary entries = options := by
  cases room with
  | zero => simp [decoder, Json.dictionary, Json.enter, Json.map_eq_ok_iff, Json.bind_eq_ok_iff]
  | succ room =>
      simp [decoder, Json.dictionary, Json.enter, Json.bind_eq_ok_iff, Json.orFault,
        Json.ObjectEnd.check]

theorem decoder_list {room : Nat} {items : List Document} {options : Options} :
    decoder room (.list items .closed) ≠ .ok options := by
  simp [decoder, Json.dictionary, Document.refuse, Json.wrongType]

/-- Options do not depend on the order in which they and the members of their values are written. -/
theorem carriesOver_of_reorders {document other : Document} (h : document.Reorders other)
    (room : Nat) : CarriesOver (decoder room) document other := by
  intro options hread
  cases h with
  | members hperm hkeys =>
      obtain ⟨inside, rfl, entries, hentries, rfl⟩ := decoder_object_eq_ok_iff.mp hread
      exact decoder_object_eq_ok_iff.mpr
        ⟨inside, rfl, entries, Json.readMembers_of_perm hperm hkeys hentries, rfl⟩
  | item => exact absurd hread decoder_list
  | member h key before behind =>
      obtain ⟨inside, rfl, entries, hentries, rfl⟩ := decoder_object_eq_ok_iff.mp hread
      exact decoder_object_eq_ok_iff.mpr
        ⟨inside, rfl, entries, Json.readMembers_replace (h.carriesOver_value inside) hentries, rfl⟩

/-- Nor do they depend on how a key is spelled, where no two keys mean the same option. -/
theorem carriesOver_of_respelled {key other : Scalar String} {name otherName : String}
    {document : Document} {before behind : List (Scalar String × Document)}
    (hkey : key.used = .ok name) (hother : other.used = .ok otherName)
    (hsame : optionName otherName = optionName name)
    (hdistinct : (Json.optionNames (before ++ (key, document) :: behind)).Nodup) (room : Nat) :
    CarriesOver (decoder room) (.object (before ++ (key, document) :: behind) .closed)
      (.object (before ++ (other, document) :: behind) .closed) := by
  intro options hread
  obtain ⟨inside, rfl, entries, hentries, rfl⟩ := decoder_object_eq_ok_iff.mp hread
  obtain ⟨written, hwritten, rfl⟩ := Json.readMembers_eq_ok_iff.mp hentries
  have hnames : (written.map fun entry => jsonKey entry.1).Nodup := by
    rw [Json.optionNames, Json.keys_eq_map hwritten, List.map_map] at hdistinct
    refine .of_map (Except.ok : String → Except Json.Fault String) ?_
    simpa [Function.comp_def, jsonKey_eq_optionName, Except.map] using hdistinct
  obtain ⟨first, entry, last, hfirst, hentry, hlast, rfl⟩ :=
    Json.mapM_append_cons_eq_ok_iff.mp hwritten
  rw [Json.readMember_eq_ok_iff] at hentry
  obtain rfl : name = entry.1 := Except.ok.inj (hkey.symm.trans hentry.1)
  have hrespelled : (before ++ (other, document) :: behind).mapM
      (Json.readMember (Json.value inside)) = .ok (first ++ (otherName, entry.2) :: last) :=
    Json.mapM_append_cons_eq_ok_iff.mpr ⟨first, (otherName, entry.2), last, hfirst,
      Json.readMember_eq_ok_iff.mpr ⟨hother, hentry.2⟩, hlast, rfl⟩
  have hstored : jsonKey otherName = jsonKey entry.1 := by
    rw [jsonKey_eq_optionName, jsonKey_eq_optionName, hsame]
  have hnamesRespelled :
      ((first ++ (otherName, entry.2) :: last).map fun entry => jsonKey entry.1).Nodup := by
    simpa [hstored] using hnames
  -- The dictionaries differ in a key and in their order; what is stored from them does not.
  refine decoder_object_eq_ok_iff.mpr ⟨inside, rfl, _,
    Json.readMembers_eq_ok_iff.mpr ⟨_, hrespelled, rfl⟩, ?_⟩
  rw [ofDictionary_ofList hnamesRespelled, ofDictionary_ofList hnames]
  simp [hstored]

end Options

/-! ## Edits -/

namespace Format

/-- What need not be written is read as what is there anyway. -/
theorem Default.eq_initial {format : Format} {document : Document} (h : format.Default document)
    {room : Nat} {content : format.Content} (hread : format.decoder room document = .ok content) :
    content = format.initial := by
  suffices hinitial : format.decoder room document = .ok format.initial from
    Except.ok.inj (hread.symm.trans hinitial)
  cases h with
  | text h =>
      change Json.text (.string _) = .ok ""
      rw [Json.text, h, Json.orFault]
  | flag => rfl
  | integer h =>
      change Json.int32 (.number _) = .ok 0
      rw [Json.int32, h]
      rfl
  | type h => exact FieldType.decoder_of_names .double h room
  | label h => exact FieldLabel.decoder_of_names .optional h room
  | options =>
      obtain ⟨inside, rfl, -⟩ := Options.decoder_object_eq_ok_iff.mp hread
      exact Options.decoder_object_eq_ok_iff.mpr ⟨inside, rfl, .empty, rfl, rfl⟩
  | optional => rfl
  | list item =>
      cases room with
      | zero => simp [decoder, Json.list, Json.enter, bind, Except.bind] at hread
      | succ room => rfl

end Format

namespace RecordKind

variable {kind : RecordKind}

/-- Where every decoder of members reads the same, the decoder of the record does. -/
theorem carriesOver_object {members others : List (Scalar String × Document)}
    (h : ∀ inside, (kind.shape inside).MembersCarryOver inside members others) (room : Nat) :
    CarriesOver (kind.decoder room) (.object members .closed) (.object others .closed) := by
  intro content hread
  rw [decoder_eq, Json.record_object_eq_ok_iff] at hread ⊢
  obtain ⟨inside, rfl, hstored⟩ := hread
  exact ⟨inside, rfl, h inside _ _ _ hstored⟩

variable {member : String × Format} (hmember : member ∈ kind.members)

include hmember

theorem carriesOver_member {key : Scalar String} {name : String} {document other : Document}
    (hkey : key.used = .ok name) (hname : name ∈ spellings member.1)
    (h : ∀ room, CarriesOver (member.2.decoder room) document other)
    (before behind : List (Scalar String × Document)) (room : Nat) :
    CarriesOver (kind.decoder room) (.object (before ++ (key, document) :: behind) .closed)
      (.object (before ++ (key, other) :: behind) .closed) := by
  refine carriesOver_object (fun inside => ?_) room
  obtain ⟨slot, hslot, hreads⟩ := exists_slot inside hmember
  have hskip := unknown_shape kind inside
  exact (Json.Shape.membersCarryOver_value hskip hkey (hslot name hname)
    (hreads.carriesOver (h inside)) behind).append_left hskip before

theorem carriesOver_respelled {key other : Scalar String} {name otherName : String}
    (hkey : key.used = .ok name) (hname : name ∈ spellings member.1)
    (hother : other.used = .ok otherName) (hotherName : otherName ∈ spellings member.1)
    (document : Document) (before behind : List (Scalar String × Document)) (room : Nat) :
    CarriesOver (kind.decoder room) (.object (before ++ (key, document) :: behind) .closed)
      (.object (before ++ (other, document) :: behind) .closed) := by
  refine carriesOver_object (fun inside => ?_) room
  obtain ⟨slot, hslot, -⟩ := exists_slot inside hmember
  have hskip := unknown_shape kind inside
  exact (Json.Shape.membersCarryOver_key hskip hkey hother
    ((hslot otherName hotherName).trans (hslot name hname).symm) document behind).append_left
      hskip before

theorem carriesOver_dropped {key : Scalar String} {name : String} {document : Document}
    (hkey : key.used = .ok name) (hname : name ∈ spellings member.1)
    (hdefault : member.2.Default document) (before behind : List (Scalar String × Document))
    (room : Nat) :
    CarriesOver (kind.decoder room) (.object (before ++ (key, document) :: behind) .closed)
      (.object (before ++ behind) .closed) := by
  intro content hread
  rw [decoder_eq, Json.record_object_eq_ok_iff] at hread ⊢
  obtain ⟨inside, rfl, hstored⟩ := hread
  obtain ⟨slot, hslot, hreads⟩ := exists_slot inside hmember
  exact ⟨inside, rfl, Json.Shape.storeMembers_drop (unknown_shape kind _) hkey
    (slots_commute kind _) (hslot name hname) (hreads.store_initial fun _ => hdefault.eq_initial)
    hstored⟩

omit hmember

theorem carriesOver_place {document other : Document} {before : List Document}
    (hmember : kind.members[before.length]? = some member)
    (h : ∀ room, CarriesOver (member.2.decoder room) document other) (behind : List Document)
    (room : Nat) :
    CarriesOver (kind.decoder room) (.list (before ++ document :: behind) .closed)
      (.list (before ++ other :: behind) .closed) := by
  intro content hread
  rw [decoder_eq, Json.record_list_eq_ok_iff] at hread ⊢
  obtain ⟨inside, rfl, hstored⟩ := hread
  obtain ⟨slot, hslot, hreads⟩ := exists_getElem?_slots inside hmember
  exact ⟨inside, rfl, Json.storeItems_replace (hreads.carriesOver (h inside)) hslot hstored⟩

end RecordKind

namespace Edit

/-- Nothing is edited that is not there. -/
theorem ne_null {format : Format} {document other : Document} (h : Edit format document other) :
    document ≠ .null ∧ other ≠ .null := by
  induction h with
  | type _ h hother | label _ h hother => cases h <;> cases hother <;> simp
  | reorderOptions h => cases h <;> simp
  | content _ ih => exact ih
  | _ => simp

/-- Whatever is read from a document is read from it after an edit. -/
theorem carriesOver {format : Format} {document other : Document} (h : Edit format document other) :
    ∀ room, CarriesOver (format.decoder room) document other := by
  induction h with
  | type type h hother =>
      intro room content hread
      obtain rfl := Except.ok.inj ((type.decoder_of_names h room).symm.trans hread)
      exact type.decoder_of_names hother room
  | label label h hother =>
      intro room content hread
      obtain rfl := Except.ok.inj ((label.decoder_of_names h room).symm.trans hread)
      exact label.decoder_of_names hother room
  | reorderOptions h => exact Options.carriesOver_of_reorders h
  | respellOption hkey hother hstandard hotherStandard hsame hdistinct =>
      refine Options.carriesOver_of_respelled hkey hother ?_ hdistinct
      rw [optionName, optionName, if_pos hstandard, if_pos hotherStandard, hsame]
  | content h ih =>
      exact fun room => Json.optional_carriesOver (ih room) h.ne_null.1 h.ne_null.2
  | item _ before behind ih => exact fun room => Json.list_carriesOver ih before behind .closed
  | member hmember hkey hname _ before behind ih =>
      exact RecordKind.carriesOver_member hmember hkey hname ih before behind
  | place hmember _ behind ih => exact RecordKind.carriesOver_place hmember ih behind
  | reorder kind hperm =>
      exact RecordKind.carriesOver_object fun inside =>
        Json.Shape.membersCarryOver_of_perm (kind.unknown_shape inside) (kind.slots_commute inside)
          hperm
  | respell hmember hkey hname hother hotherName document before behind =>
      exact RecordKind.carriesOver_respelled hmember hkey hname hother hotherName document before
        behind
  | @insert kind key name document hkey hname hvalid before behind =>
      refine RecordKind.carriesOver_object fun inside => ?_
      have hskip := kind.unknown_shape inside
      exact (Json.Shape.membersCarryOver_insert hskip hkey (RecordKind.slot?_eq_none inside hname)
        hvalid.skip_eq_ok behind).append_left hskip before
  | @remove kind key name hkey hname document before behind =>
      refine RecordKind.carriesOver_object fun inside => ?_
      have hskip := kind.unknown_shape inside
      exact (Json.Shape.membersCarryOver_remove hskip hkey (RecordKind.slot?_eq_none inside hname)
        behind).append_left hskip before
  | drop hmember hkey hname hdefault before behind =>
      exact RecordKind.carriesOver_dropped hmember hkey hname hdefault before behind

/-- One edit after the other, whatever is read stays the same. -/
theorem carriesOver_of_edits {format : Format} {document other : Document}
    (h : Relation.ReflTransGen (Edit format) document other) (room : Nat) :
    CarriesOver (format.decoder room) document other := by
  induction h with
  | refl => exact fun _ hread => hread
  | tail _ hedit ih => exact fun content hread => hedit.carriesOver room content (ih content hread)

end Edit

/-! ## Texts of requests -/

theorem Json.decode_eq_ok_iff {α : Type} {decoder : Json.Sized α} {text : String} {value : α} :
    Json.decode decoder text = .ok value ↔
      decoder Json.depthLimit (Json.Reading.ofText text).document = .ok value ∧
        (Json.Reading.ofText text).trailing = false := by
  rw [Json.decode, Json.bind_eq_ok_iff]
  cases (Json.Reading.ofText text).trailing <;> simp [Json.pure_eq_ok_iff]

/-- A request is read from a text if its document is one of a request and nothing follows it. -/
theorem Request.ofText_eq_ok_iff {text : String} {request : Request} :
    Request.ofText text = .ok request ↔
      Format.decoder (.record .request) Json.depthLimit (Json.Reading.ofText text).document =
          .ok request ∧
        (Json.Reading.ofText text).trailing = false := by
  have hdecode : ofText text = .ok request ↔
      Json.decode (Json.record shape {}) text = .ok request := by
    rw [ofText]
    cases Json.decode (Json.record shape {}) text <;> simp [Except.mapError]
  exact hdecode.trans Json.decode_eq_ok_iff

/-- A text whose document presents what an accepted text says in another way is read as the same
request. -/
theorem Request.ofText_of_edits {text other : String} {document : Document} {request : Request}
    (hread : Request.ofText text = .ok request)
    (hedits : Relation.ReflTransGen (Edit (.record .request))
      (Json.Reading.ofText text).document document)
    (hother : Json.Reading.ofText other = ⟨document, false⟩) :
    Request.ofText other = .ok request := by
  rw [Request.ofText_eq_ok_iff] at hread ⊢
  rw [hother]
  exact ⟨Edit.carriesOver_of_edits hedits Json.depthLimit request hread.1, rfl⟩

/-- The text of an object, given the text of its members. -/
def braced (members : String) : String :=
  "\x7b" ++ members ++ "\x7d"

/-- A request with one field, given the members of the request before it, the key under which it
stands, and the members of the field. -/
def fieldText (before key field : String) : String :=
  braced (before ++ "\"" ++ key ++ "\":[" ++ braced ("\"messageType\":[" ++
    braced ("\"field\":[" ++ braced field ++ "]") ++ "]") ++ "]")

/-- The document of a request with one field. -/
def fieldDocument (before : List (Scalar String × Document)) (key : String)
    (field : List (Scalar String × Document)) : Document :=
  .object (before ++ [(.pure key, .list [.object [(.pure "messageType", .list [.object
    [(.pure "field", .list [.object field .closed] .closed)] .closed] .closed)] .closed] .closed)])
    .closed

/-- A request with one field, -/
def plainText : String :=
  fieldText "\"parameter\":null," "protoFile"
    ("\"type\":9,\"options\":" ++ braced "\"lazy\":false,\"debugRedact\":true")

/-- and the same request with keys and a type in another spelling, options in another order, a member
that no request has, and without the member that tells nothing. -/
def rewrittenText : String :=
  fieldText "\"note\":[1]," "proto_file"
    ("\"type\":\"TYPE_STRING\",\"options\":" ++ braced "\"debug_redact\":true,\"lazy\":false")

set_option maxRecDepth 1000 in
theorem document_plainText : Json.Reading.ofText plainText = ⟨fieldDocument
    [(.pure "parameter", .null)] "protoFile"
    [(.pure "type", .number (.pure (.integer 9))),
      (.pure "options", .object
        [(.pure "lazy", .bool false), (.pure "debugRedact", .bool true)] .closed)], false⟩ := by
  with_unfolding_all rfl

set_option maxRecDepth 1000 in
theorem document_rewrittenText : Json.Reading.ofText rewrittenText = ⟨fieldDocument
    [(.pure "note", .list [.number (.pure (.integer 1))] .closed)] "proto_file"
    [(.pure "type", .string (.pure "TYPE_STRING")),
      (.pure "options", .object
        [(.pure "debug_redact", .bool true), (.pure "lazy", .bool false)] .closed)], false⟩ := by
  with_unfolding_all rfl

/-- An edit of the field is one of the request. -/
theorem Edit.fieldDocument {field other : List (Scalar String × Document)}
    (h : Edit (.record .field) (.object field .closed) (.object other .closed))
    (before : List (Scalar String × Document)) {key : String} (hkey : key ∈ spellings "protoFile") :
    Edit (.record .request) (fieldDocument before key field) (fieldDocument before key other) := by
  have hfile : ("protoFile", Format.list (.record .file)) ∈ RecordKind.request.members := by
    simp [RecordKind.members]
  have hmessage : ("messageType", Format.list (.record .message)) ∈ RecordKind.file.members := by
    simp [RecordKind.members]
  have hfield : ("field", Format.list (.record .field)) ∈ RecordKind.message.members := by
    simp [RecordKind.members]
  exact .member hfile rfl hkey (.item (.member hmessage rfl (by decide) (.item
    (.member hfield rfl (by decide) (.item h [] []) [] []) [] []) [] []) [] []) before []

/-- The two texts are read as one request. -/
theorem Request.ofText_of_edits_plainText :
    ∃ request, Request.ofText plainText = .ok request ∧
      Request.ofText rewrittenText = .ok request ∧
      (request.files.flatMap (·.messages)).map (fun message => message.fields.map fun field =>
        (field.type, field.options.flag "debugRedact")) = [[(.string, true)]] := by
  obtain ⟨request, hread, hfields⟩ : ∃ request, Request.ofText plainText = .ok request ∧
      (request.files.flatMap (·.messages)).map (fun message => message.fields.map fun field =>
        (field.type, field.options.flag "debugRedact")) = [[(.string, true)]] := by
    simp only [Request.ofText_eq_ok_iff, document_plainText]
    exact ⟨_, ⟨rfl, trivial⟩, rfl⟩
  refine ⟨request, hread, Request.ofText_of_edits hread ?_ document_rewrittenText, hfields⟩
  rw [document_plainText]
  have hparameter : ("parameter", Format.optional .text) ∈ RecordKind.request.members := by
    simp [RecordKind.members]
  have hfiles : ("protoFile", Format.list (.record .file)) ∈ RecordKind.request.members := by
    simp [RecordKind.members]
  have htype : ("type", Format.type) ∈ RecordKind.field.members := by
    simp [RecordKind.members]
  have hoptions : ("options", Format.options) ∈ RecordKind.field.members := by
    simp [RecordKind.members]
  refine .head (.drop hparameter rfl (by decide) (.optional .text) [] [_]) ?_
  refine .head (.respell hfiles rfl (by decide)
    (rfl : (Scalar.pure "proto_file").used = _) (by decide) _ [] []) ?_
  refine .head (.insert (rfl : (Scalar.pure "note").used = _) (by decide)
    (.list (List.forall_mem_singleton.mpr (.number (rfl : (Scalar.pure (.integer 1)).skipped = _))))
      [] [_]) ?_
  refine .head (Edit.fieldDocument (.member htype rfl (by decide) (.type .string (.number rfl)
    (.name (rfl : (Scalar.pure "TYPE_STRING").used = _))) [] [_]) [_] (by decide)) ?_
  refine .head (Edit.fieldDocument (.member hoptions (rfl : (Scalar.pure "options").used = _)
    (by decide) (.reorderOptions (.members (.swap _ _ _) (by decide))) [_] []) [_] (by decide)) ?_
  have hdistinct : (Json.optionNames ([] ++ (.pure "debugRedact", .bool true) ::
      [(.pure "lazy", .bool false)])).Nodup := by
    decide +kernel
  exact .single (Edit.fieldDocument (.member hoptions (rfl : (Scalar.pure "options").used = _)
    (by decide) (.respellOption rfl (rfl : (Scalar.pure "debug_redact").used = _) (by decide)
      (by decide) (by decide +kernel) hdistinct) [_] []) [_] (by decide))

end LinkedSchema
