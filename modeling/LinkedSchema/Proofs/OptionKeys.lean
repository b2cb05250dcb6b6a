import LinkedSchema.Proofs.ByteOrder
import LinkedSchema.Proofs.Rewriting
import Mathlib.Data.List.Forall2
import Mathlib.Data.List.Induction

/-!
# Keys of options

Options are stored under normal keys: a standard option under its lower camel-case name, an extension
under its key in brackets. Normalizing a key twice is normalizing it once, because no underscore is
left and upper-casing a character brings none in. So what is stored can be set again and nothing
changes, however it came to be stored.

Several raw keys may have one normal key. Decoding goes through a dictionary, which brings the members
into the order of their raw keys; of those that are stored under one key the last one in that order
counts. Where normal keys differ there is no order to speak of.

* `jsonKey_eq_self_iff`, `jsonKey_jsonKey` — normal keys;
* `Options.setAll` — setting one option after the other, and what it leaves to be looked up;
* `Options.Made`, `Options.Normal` — options as they come about, and that their keys are normal;
* `Options.decoder_eq_ok_iff_setInKeyOrder` — decoding is setting in the order of the raw keys;
* `Options.setAll_eq_of_perm` — where no two options are stored under one key, any order will do;
* `Options.normalizes` — all of this.
-/

namespace LinkedSchema

open Json (Document Scalar)

/-! ## Characters in upper case -/

namespace Text

/-- No other character has this code in its upper-case form. -/
def isOwnUpper (code : Nat) : Bool :=
  code != 0 && upperExpansions.all (fun expansion => !expansion.2.contains code) &&
    upperRuns.all fun run => !run.covers (code - run.shift).toNat

theorem eq_toNat_of_ofNat_eq {code : Nat} {c : Char} (hc : c.toNat ≠ 0) (h : Char.ofNat code = c) :
    code = c.toNat := by
  subst h
  by_cases hvalid : code.isValidChar
  · exact (congrArg Char.toNat (dif_pos hvalid : Char.ofNat code = .ofNatAux code hvalid)).symm
  · exact absurd (congrArg Char.toNat (dif_neg hvalid : Char.ofNat code = _)) hc

/-- Upper-casing leads to a character only from itself, if the tables lead to it from no other. -/
theorem eq_of_mem_upper {c d : Char} (hown : isOwnUpper d.toNat = true) (h : d ∈ upper c) :
    c = d := by
  simp only [isOwnUpper, Bool.and_eq_true, bne_iff_ne, List.all_eq_true, Bool.not_eq_true',
    List.contains_eq_mem, decide_eq_false_iff_not] at hown
  obtain ⟨⟨hzero, hexpansions⟩, hruns⟩ := hown
  unfold upper at h
  split at h
  case h_1 first codes hfound =>
    obtain ⟨code, hcode, heq⟩ := List.mem_map.mp h
    obtain rfl := eq_toNat_of_ofNat_eq hzero heq
    exact absurd hcode (hexpansions _ (List.mem_of_find?_eq_some hfound))
  case h_2 =>
    split at h
    case h_1 run hfound =>
      have hcode := eq_toNat_of_ofNat_eq hzero (List.mem_singleton.mp h).symm
      have hcovers := List.find?_some hfound
      have hcovered := hruns run (List.mem_of_find?_eq_some hfound)
      have hsource : ((d.toNat : Int) - run.shift).toNat = c.toNat := by omega
      rw [hsource, hcovers] at hcovered
      cases hcovered
    case h_2 => exact (List.mem_singleton.mp h).symm

end Text

/-! ## Normal keys -/

theorem underscore_not_mem_camelCase (raised : Bool) (cs : List Char) :
    '_' ∉ camelCase raised cs := by
  have hown : Text.isOwnUpper '_'.toNat = true := by decide +kernel
  induction cs generalizing raised with
  | nil => simp [camelCase]
  | cons c rest ih =>
      unfold camelCase
      split
      case isTrue => exact ih true
      case isFalse hc =>
        split
        case isTrue =>
          rw [List.mem_append, not_or]
          exact ⟨fun h => hc (Text.eq_of_mem_upper hown h), ih false⟩
        case isFalse =>
          rw [List.mem_cons, not_or]
          exact ⟨Ne.symm hc, ih false⟩

theorem jsonKey_of_isStandard {key : String} (h : IsStandard key) :
    jsonKey key = String.ofList (camelCase false key.toList) := by
  rw [jsonKey_eq_optionName, optionName, if_pos h, lowerCamel_eq_ofList]

theorem jsonKey_of_not_isStandard {key : String} (h : ¬IsStandard key) : jsonKey key = key := by
  rw [jsonKey_eq_optionName, optionName, if_neg h]

/-- Only a key with an underscore changes, and not if it stands in brackets. -/
theorem jsonKey_eq_self_iff {key : String} :
    jsonKey key = key ↔ ¬IsStandard key ∨ '_' ∉ key.toList := by
  by_cases hstandard : IsStandard key
  · rw [or_iff_right (not_not.mpr hstandard), jsonKey_of_isStandard hstandard]
    constructor
    · intro hsame
      have hlist := congrArg String.toList hsame
      rw [String.toList_ofList] at hlist
      rw [← hlist]
      exact underscore_not_mem_camelCase false key.toList
    · intro hnone
      rw [camelCase_of_not_mem hnone, String.ofList_toList]
  · simp [hstandard, jsonKey_of_not_isStandard]

/-- Normalizing a key twice is normalizing it once. -/
theorem jsonKey_jsonKey (key : String) : jsonKey (jsonKey key) = jsonKey key := by
  by_cases hstandard : IsStandard key
  · rw [jsonKey_eq_self_iff, jsonKey_of_isStandard hstandard, String.toList_ofList]
    exact .inr (underscore_not_mem_camelCase false key.toList)
  · rw [jsonKey_of_not_isStandard hstandard, jsonKey_of_not_isStandard hstandard]

/-- Options that are stored under one key have one lower camel-case form. -/
theorem lowerCamel_jsonKey (key : String) : lowerCamel (jsonKey key) = lowerCamel key := by
  by_cases hstandard : IsStandard key
  · rw [lowerCamel_eq_ofList, lowerCamel_eq_ofList, jsonKey_of_isStandard hstandard,
      String.toList_ofList, camelCase_of_not_mem (underscore_not_mem_camelCase _ _)]
  · rw [jsonKey_of_not_isStandard hstandard]

namespace Options

/-! ## Setting options one after the other -/

/-- Options with several more set, one after the other. -/
def setAll (options : Options) (written : List (String × Json.Value)) : Options :=
  written.foldl (fun options entry => options.set entry.1 entry.2) options

theorem setAll_append (options : Options) (written more : List (String × Json.Value)) :
    options.setAll (written ++ more) = (options.setAll written).setAll more :=
  List.foldl_append

theorem get?_set_self (options : Options) (key : String) (value : Json.Value) :
    (options.set key value).get? (jsonKey key) = some value :=
  options.entries.get?_insert_self (jsonKey key) value

theorem get?_set_of_ne (options : Options) {key other : String} (value : Json.Value)
    (h : other ≠ jsonKey key) : (options.set key value).get? other = options.get? other :=
  options.entries.get?_insert_of_ne value h

/-- Of several options that are stored under one key the last one counts. -/
theorem get?_setAll (options : Options) (written : List (String × Json.Value)) (key : String) :
    (options.setAll written).get? key =
      ((written.reverse.find? (jsonKey ·.1 = key)).map Prod.snd).or (options.get? key) := by
  induction written using List.reverseRecOn with
  | nil => rfl
  | append_singleton written entry ih =>
      have hlast : options.setAll (written ++ [entry]) =
          (options.setAll written).set entry.1 entry.2 := setAll_append ..
      rw [hlast, List.reverse_append, List.reverse_singleton, List.singleton_append,
        List.find?_cons]
      by_cases hkey : jsonKey entry.1 = key
      · subst hkey
        simp [get?_set_self]
      · simp [get?_set_of_ne _ _ (Ne.symm hkey), hkey, ih]

/-- Where no two options are stored under one key, what is stored are the options by normal key. -/
theorem get?_setAll_of_nodup (options : Options) {written : List (String × Json.Value)}
    (h : (written.map fun entry => jsonKey entry.1).Nodup) (key : String) :
    (options.setAll written).get? key =
      ((written.map fun entry => (jsonKey entry.1, entry.2)).lookup key).or (options.get? key) := by
  have hkeys : ((written.map fun entry => (jsonKey entry.1, entry.2)).map Prod.fst).Nodup := by
    rwa [List.map_map]
  rw [get?, setAll, entries_foldl_set, Dictionary.get?_foldl_insert hkeys]
  rfl

/-- Options with the same lookups are the same. -/
theorem ext_get? {options other : Options} (h : ∀ key, other.get? key = options.get? key) :
    other = options :=
  congrArg mk (Dictionary.ext_get? h)

/-- Options that are stored under different keys may be set in any order. -/
theorem setAll_eq_of_perm (options : Options) {written others : List (String × Json.Value)}
    (hperm : others.Perm written) (h : (written.map fun entry => jsonKey entry.1).Nodup) :
    options.setAll others = options.setAll written := by
  have hothers : (others.map fun entry => jsonKey entry.1).Nodup := by
    rwa [(hperm.map fun entry => jsonKey entry.1).nodup_iff]
  refine ext_get? fun key => ?_
  rw [get?_setAll_of_nodup options h, get?_setAll_of_nodup options hothers,
    Dictionary.lookup_eq_of_perm (hperm.map fun entry => (jsonKey entry.1, entry.2))
      (by rwa [List.map_map])]

/-! ## Normal options -/

/-- Every key is normal. -/
def HasNormalKeys (options : Options) : Prop :=
  ∀ entry ∈ options.entries.entries, jsonKey entry.1 = entry.1

theorem hasNormalKeys_empty : empty.HasNormalKeys :=
  fun _ hentry => absurd hentry List.not_mem_nil

namespace HasNormalKeys

variable {options : Options} (h : options.HasNormalKeys)

include h

theorem set (key : String) (value : Json.Value) : (options.set key value).HasNormalKeys := by
  intro entry hentry
  rcases Dictionary.mem_insertEntry hentry with rfl | hentry
  · exact jsonKey_jsonKey key
  · exact h entry hentry

theorem setAll (written : List (String × Json.Value)) : (options.setAll written).HasNormalKeys := by
  induction written generalizing options with
  | nil => exact h
  | cons entry written ih => exact ih (h.set entry.1 entry.2)

/-- Setting everything that is stored gives the bindings there are, over those there were. -/
theorem get?_setAll_of_perm {written : List (String × Json.Value)}
    (hperm : written.Perm options.entries.entries) (other : Options) (key : String) :
    (other.setAll written).get? key = (options.get? key).or (other.get? key) := by
  have hnormal : (written.map fun entry => (jsonKey entry.1, entry.2)) = written := by
    refine (List.map_congr_left fun entry hentry => ?_).trans (List.map_id written)
    rw [h entry (hperm.subset hentry)]
    rfl
  have hkeys : (written.map Prod.fst).Nodup :=
    (hperm.map Prod.fst).nodup_iff.mpr options.entries.nodup_keys
  have hnodup : (written.map fun entry => jsonKey entry.1).Nodup := by
    rw [← hnormal, List.map_map] at hkeys
    exact hkeys
  rw [get?_setAll_of_nodup other hnodup, hnormal,
    Dictionary.lookup_eq_of_perm hperm options.entries.nodup_keys]
  rfl

/-- A standard option is not found under a key with an underscore. -/
theorem get?_eq_none {key : String} (hstandard : IsStandard key) (hword : '_' ∈ key.toList) :
    options.get? key = none := by
  refine Option.eq_none_iff_forall_ne_some.mpr fun value hvalue => ?_
  have hnormal := h _ ((Dictionary.get?_eq_some_iff _).mp hvalue)
  rcases jsonKey_eq_self_iff.mp hnormal with hbracket | hnone
  · exact hbracket hstandard
  · exact hnone hword

end HasNormalKeys

/-- Options as they come about: by decoding, and by setting one option after the other. -/
inductive Made : Options → Prop
  | empty : Made .empty
  | decoded {room : Nat} {document : Document} {options : Options}
      (h : decoder room document = .ok options) : Made options
  | set {options : Options} (h : Made options) (key : String) (value : Json.Value) :
      Made (options.set key value)

theorem Made.hasNormalKeys {options : Options} (h : Made options) : options.HasNormalKeys := by
  induction h with
  | empty => exact hasNormalKeys_empty
  | set _ key value ih => exact ih.set key value
  | decoded h =>
      obtain ⟨written, -, rfl⟩ := Json.map_eq_ok_iff.mp h
      exact hasNormalKeys_empty.setAll written.entries

/-- What is stored is stored under normal keys. -/
structure Normal (options : Options) : Prop where
  /-- Every stored key is its own normal form. -/
  fixed : ∀ entry ∈ options.entries.entries, jsonKey entry.1 = entry.1
  /-- Setting everything that is stored, in any order, gives the same options, -/
  reproduced : ∀ written : List (String × Json.Value), written.Perm options.entries.entries →
    empty.setAll written = options
  /-- and setting it over the options changes nothing. -/
  kept : ∀ written : List (String × Json.Value), written.Perm options.entries.entries →
    options.setAll written = options
  /-- Nothing is found under a key that is not normal. -/
  missed : ∀ key, '_' ∈ key.toList → key.toList.head? ≠ some '[' → options.get? key = none

theorem HasNormalKeys.normal {options : Options} (h : options.HasNormalKeys) : options.Normal where
  fixed := h
  reproduced written hperm := by
    refine ext_get? fun key => ?_
    rw [h.get?_setAll_of_perm hperm empty]
    exact Option.or_none
  kept written hperm := by
    refine ext_get? fun key => ?_
    rw [h.get?_setAll_of_perm hperm options, Option.or_self]
  missed key hword hstandard := h.get?_eq_none hstandard hword

end Options

/-! ## Decoding -/

namespace Json

/-- The members of a map, as they are written. -/
def ReadAs {α : Type} (item : Decoder α) (members : List (Scalar String × Document))
    (written : List (String × α)) : Prop :=
  List.Forall₂ (fun member entry => member.1.used = .ok entry.1 ∧ item member.2 = .ok entry.2)
    members written

theorem mapM_readMember_eq_ok_iff {α : Type} {item : Decoder α}
    {members : List (Scalar String × Document)} {written : List (String × α)} :
    members.mapM (readMember item) = .ok written ↔ ReadAs item members written := by
  induction members generalizing written with
  | nil =>
      rw [List.mapM_nil, pure_eq_ok_iff, ReadAs, List.forall₂_nil_left_iff]
      exact eq_comm
  | cons member members ih =>
      simp only [List.mapM_cons, bind_eq_ok_iff, pure_eq_ok_iff, readMember_eq_ok_iff, ih, ReadAs,
        List.forall₂_cons_left_iff]
      constructor
      · rintro ⟨entry, hentry, written, hwritten, rfl⟩
        exact ⟨entry, written, hentry, hwritten, rfl⟩
      · rintro ⟨entry, written, hentry, hwritten, rfl⟩
        exact ⟨entry, hentry, written, hwritten, rfl⟩

end Json

/-- The entries of a dictionary stand in the order of the bytes of their keys. -/
theorem Dictionary.ascending_utf8 {α : Type} (dictionary : Dictionary α) :
    dictionary.entries.Pairwise fun entry next => utf8 entry.1 < utf8 next.1 :=
  dictionary.ascending.imp utf8_lt_utf8_iff.mpr

theorem nodup_keys_of_ascending {α : Type} {sorted : List (String × α)}
    (h : sorted.Pairwise fun entry next => utf8 entry.1 < utf8 next.1) :
    (sorted.map Prod.fst).Nodup := by
  refine List.pairwise_map.mpr (h.imp fun {a b} hlt hsame => ?_)
  rw [hsame] at hlt
  exact List.lt_irrefl _ hlt

/-- There is one order in which the keys ascend, and a dictionary brings its entries into it. -/
theorem Dictionary.entries_ofList_eq {α : Type} {written sorted : List (String × α)}
    (hperm : sorted.Perm written)
    (hsorted : sorted.Pairwise fun entry next => utf8 entry.1 < utf8 next.1) :
    (ofList written).entries = sorted := by
  have hascending : sorted.Pairwise fun entry next => entry.1 < next.1 :=
    hsorted.imp utf8_lt_utf8_iff.mp
  have hkeys := (hperm.map Prod.fst).nodup_iff.mp (nodup_keys_of_ascending hsorted)
  have hentries := entries_ofList_perm hkeys
  exact (hentries.trans hperm.symm).eq_of_pairwise
    (fun _ _ _ _ hlt hgt => absurd hgt (String.lt_asymm hlt)) (ofList written).ascending hascending

namespace Options

/-- Options that are set in the order of the bytes of their keys. -/
def SetInKeyOrder (written : List (String × Json.Value)) (options : Options) : Prop :=
  ∃ sorted : List (String × Json.Value), sorted.Perm written ∧
    sorted.Pairwise (fun entry next => utf8 entry.1 < utf8 next.1) ∧ empty.setAll sorted = options

theorem SetInKeyOrder.nodup_keys {written : List (String × Json.Value)} {options : Options}
    (h : SetInKeyOrder written options) : (written.map Prod.fst).Nodup := by
  obtain ⟨sorted, hperm, hsorted, -⟩ := h
  exact (hperm.map Prod.fst).nodup_iff.mp (nodup_keys_of_ascending hsorted)

theorem ofDictionary_ofList_eq_iff {written : List (String × Json.Value)} {options : Options}
    (h : (written.map Prod.fst).Nodup) :
    ofDictionary (.ofList written) = options ↔ SetInKeyOrder written options := by
  constructor
  · rintro rfl
    exact ⟨_, Dictionary.entries_ofList_perm h, Dictionary.ascending_utf8 _, rfl⟩
  · rintro ⟨sorted, hperm, hsorted, rfl⟩
    rw [← Dictionary.entries_ofList_eq hperm hsorted]
    rfl

/-- Decoding an object sets its members in the order of their keys. -/
theorem decoder_eq_ok_iff_setInKeyOrder {room : Nat} {members : List (Scalar String × Document)}
    {options : Options} (hkeys : (Json.keys members).Nodup) :
    decoder room (.object members .closed) = .ok options ↔
      ∃ inside written, room = inside + 1 ∧ Json.ReadAs (Json.value inside) members written ∧
        SetInKeyOrder written options := by
  rw [decoder_object_eq_ok_iff]
  constructor
  · rintro ⟨inside, hroom, entries, hentries, hoptions⟩
    obtain ⟨written, hwritten, rfl⟩ := Json.readMembers_eq_ok_iff.mp hentries
    have hdistinct := Json.nodup_keys_of_mapM hwritten hkeys
    exact ⟨inside, written, hroom, Json.mapM_readMember_eq_ok_iff.mp hwritten,
      (ofDictionary_ofList_eq_iff hdistinct).mp hoptions⟩
  · rintro ⟨inside, written, hroom, hread, hset⟩
    have hwritten := Json.mapM_readMember_eq_ok_iff.mpr hread
    have hdistinct := Json.nodup_keys_of_mapM hwritten hkeys
    exact ⟨inside, hroom, _, Json.readMembers_eq_ok_iff.mpr ⟨written, hwritten, rfl⟩,
      (ofDictionary_ofList_eq_iff hdistinct).mpr hset⟩

/-- Of several spellings of one option the one with the greatest bytes counts. -/
theorem SetInKeyOrder.get?_eq {written : List (String × Json.Value)} {options : Options}
    (h : SetInKeyOrder written options) {entry : String × Json.Value} (hentry : entry ∈ written)
    (hgreatest : ∀ other ∈ written, jsonKey other.1 = jsonKey entry.1 → utf8 other.1 ≤ utf8 entry.1) :
    options.get? (jsonKey entry.1) = some entry.2 := by
  obtain ⟨sorted, hperm, hsorted, rfl⟩ := h
  obtain ⟨before, behind, rfl⟩ := List.append_of_mem (hperm.mem_iff.mpr hentry)
  have hlater : ∀ other ∈ behind, utf8 entry.1 < utf8 other.1 :=
    (List.pairwise_cons.mp (List.pairwise_append.mp hsorted).2.1).1
  -- Whatever comes behind has greater bytes, so it is not stored under the same key.
  have hnone : behind.reverse.find? (jsonKey ·.1 = jsonKey entry.1) = none := by
    refine List.find?_eq_none.mpr fun other hother => ?_
    rw [List.mem_reverse] at hother
    rw [decide_eq_true_eq]
    intro hsame
    have hmem : other ∈ written := hperm.subset (by simp [hother])
    exact hgreatest other hmem hsame (hlater other hother)
  have hset : empty.setAll (before ++ entry :: behind) =
      ((empty.setAll before).set entry.1 entry.2).setAll behind := setAll_append ..
  rw [hset, get?_setAll, hnone]
  exact get?_set_self ..

/-! ## Normalization of keys -/

/-- Options that come about in any way are normal. Decoding an object without a key twice is setting
its members in the order of their keys, so that the greatest key of one option counts. Options that
go by different names may be set in any order, and so may those whose lower camel-case forms differ,
because what goes by one name has one such form. -/
theorem normalizes :
    (∀ options, Made options → Normal options) ∧
    (∀ room members options, (Json.keys members).Nodup →
      (decoder room (.object members .closed) = .ok options ↔
        ∃ inside written, room = inside + 1 ∧ Json.ReadAs (Json.value inside) members written ∧
          SetInKeyOrder written options)) ∧
    (∀ written options, SetInKeyOrder written options → ∀ entry ∈ written,
      (∀ other ∈ written, jsonKey other.1 = jsonKey entry.1 → utf8 other.1 ≤ utf8 entry.1) →
        options.get? (jsonKey entry.1) = some entry.2) ∧
    (∀ options written others, others.Perm written →
      (written.map fun entry => optionName entry.1).Nodup →
        setAll options others = setAll options written) ∧
    (∀ key other, optionName key = optionName other → lowerCamel key = lowerCamel other) := by
  refine ⟨fun options h => h.hasNormalKeys.normal,
    fun room members options hkeys => decoder_eq_ok_iff_setInKeyOrder hkeys,
    fun written options h entry hentry hgreatest => h.get?_eq hentry hgreatest,
    fun options written others hperm hnames => ?_, fun key other hsame => ?_⟩
  · simp only [← jsonKey_eq_optionName] at hnames
    exact setAll_eq_of_perm options hperm hnames
  · rw [← jsonKey_eq_optionName, ← jsonKey_eq_optionName] at hsame
    rw [← lowerCamel_jsonKey key, hsame, lowerCamel_jsonKey]

/-- Options with two spellings of one option, -/
def spelledText : String :=
  braced "\"go_package\":\"a\",\"[acme.map_key]\":1,\"goPackage\":\"b\""

/-- as they are written, -/
def spelledEntries : List (String × Json.Value) :=
  [("go_package", .string "a"), ("[acme.map_key]", .number (.integer 1)),
    ("goPackage", .string "b")]

/-- and in the order of their keys. -/
def spelledAscending : List (String × Json.Value) :=
  [("[acme.map_key]", .number (.integer 1)), ("goPackage", .string "b"),
    ("go_package", .string "a")]

set_option maxRecDepth 1000 in
theorem document_spelledText : Json.Reading.ofText spelledText = ⟨.object
    [(.pure "go_package", .string (.pure "a")),
      (.pure "[acme.map_key]", .number (.pure (.integer 1))),
      (.pure "goPackage", .string (.pure "b"))] .closed, false⟩ := by
  with_unfolding_all rfl

/-- The spelling with the underscore has the greater bytes and counts. Where one spelling is left, the
order does not matter. -/
theorem normalizes_spelledText : ∃ options : Options,
    Json.decode decoder spelledText = .ok options ∧ options.Normal ∧
      options.get? "goPackage" = some (.string "a") ∧ options.get? "go_package" = none ∧
      options.setAll (spelledEntries.take 2).reverse = options.setAll (spelledEntries.take 2) := by
  obtain ⟨hnormal, hdecodes, hgreatest, horder, -⟩ := normalizes
  have hset : SetInKeyOrder spelledEntries (empty.setAll spelledAscending) :=
    ⟨spelledAscending, List.perm_append_singleton _ spelledEntries.tail, by decide +kernel, rfl⟩
  have hdecoded : Json.decode decoder spelledText = .ok (empty.setAll spelledAscending) := by
    rw [Json.decode_eq_ok_iff, document_spelledText]
    refine ⟨(hdecodes _ _ _ (by decide +kernel)).mpr ⟨_, spelledEntries, rfl, ?_, hset⟩, rfl⟩
    exact .cons ⟨rfl, rfl⟩ (.cons ⟨rfl, rfl⟩ (.cons ⟨rfl, rfl⟩ .nil))
  have hoptions := hnormal _ (.decoded (Json.decode_eq_ok_iff.mp hdecoded).1)
  refine ⟨_, hdecoded, hoptions, ?_, hoptions.missed _ (by decide) (by decide),
    horder _ _ _ (List.reverse_perm _) (by decide +kernel)⟩
  have hkey : jsonKey "go_package" = "goPackage" := by decide +kernel
  rw [← hkey]
  exact hgreatest _ _ hset ("go_package", .string "a") (by simp [spelledEntries])
    (by decide +kernel)

end Options

end LinkedSchema
