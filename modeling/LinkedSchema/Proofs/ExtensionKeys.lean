import LinkedSchema.Proofs.OptionKeys

/-!
# Keys of extensions

Extensions and standard options are stored side by side, and the bracket before an extension tells them
apart. A key that begins with a bracket is stored as it is; any other one loses its underscores, and
with them it may lose what stands before a bracket. Such a key is disguised: it is not the key of the
extension, but it is stored under it.

Every key that is stored under the one of an extension is that key or disguised. An extension with an
underscore in its name is never met by a disguised key, and where there is none, extensions are found
as they are written.

* `jsonKey_eq_bracketed_iff`, `Disguises` — the keys that are stored under the one of an extension;
* `Options.extension?_setAll` — extensions of options that are set one after the other;
* `Options.FindsAsWritten`, `Options.extensions_separate` — extensions are found as they are written;
* `Options.not_findsAsWritten_disguisedText` — where a disguised key hides one.
-/

namespace LinkedSchema

open Json (Document Scalar)

/-! ## Keys in brackets -/

theorem Text.upper_ne_nil (c : Char) : upper c ≠ [] := by
  unfold upper
  split
  case h_1 first codes hfound =>
    have hall : ∀ expansion ∈ upperExpansions, expansion.2 ≠ [] := by decide +kernel
    simpa using hall _ (List.mem_of_find?_eq_some hfound)
  case h_2 => split <;> simp

theorem camelCase_replicate (raised : Bool) (count : Nat) (cs : List Char) :
    camelCase raised (List.replicate (count + 1) '_' ++ cs) = camelCase true cs := by
  induction count generalizing raised with
  | zero => simp [camelCase]
  | succ count ih =>
      rw [List.replicate_succ, List.cons_append, camelCase, if_pos rfl]
      exact ih true

/-- A bracket comes to the front only by the underscores before it. -/
theorem camelCase_true_eq_bracket_iff {cs rest : List Char} :
    camelCase true cs = '[' :: rest ↔
      ∃ count behind, cs = List.replicate count '_' ++ '[' :: behind ∧
        camelCase false behind = rest := by
  have hown : Text.isOwnUpper '['.toNat = true := by decide +kernel
  have hbracket : Text.upper '[' = ['['] := by decide +kernel
  constructor
  · intro h
    induction cs with
    | nil => simp [camelCase] at h
    | cons c cs ih =>
        by_cases hc : c = '_'
        · rw [camelCase, if_pos hc] at h
          obtain ⟨count, behind, rfl, hbehind⟩ := ih h
          exact ⟨count + 1, behind, by rw [hc]; rfl, hbehind⟩
        · rw [camelCase, if_neg hc, if_pos rfl] at h
          have hmem : '[' ∈ Text.upper c := by
            cases hupper : Text.upper c with
            | nil => exact absurd hupper (Text.upper_ne_nil c)
            | cons first others =>
                rw [hupper, List.cons_append, List.cons.injEq] at h
                exact h.1 ▸ List.mem_cons_self
          obtain rfl := Text.eq_of_mem_upper hown hmem
          rw [hbracket, List.singleton_append, List.cons.injEq] at h
          exact ⟨0, cs, rfl, h.2⟩
  · rintro ⟨count, behind, rfl, rfl⟩
    have hfront : camelCase true ('[' :: behind) = '[' :: camelCase false behind := by
      rw [camelCase, if_neg (by decide), if_pos rfl, hbracket]
      rfl
    cases count with
    | zero => exact hfront
    | succ count => rw [camelCase_replicate, hfront]

/-- The key of an extension. -/
def bracketed (name : String) : String :=
  "[" ++ name ++ "]"

theorem toList_bracketed (name : String) :
    (bracketed name).toList = '[' :: (name.toList ++ [']']) := by
  simp [bracketed]

/-- The key has underscores before a bracket, and what is left behind the bracket without underscores
is the name of an extension and the closing bracket. -/
def Disguises (key name : String) : Prop :=
  ∃ count rest, key.toList = List.replicate (count + 1) '_' ++ '[' :: rest ∧
    camelCase false rest = name.toList ++ [']']

/-- The key of an extension is stored under itself, and what is stored under it otherwise is
disguised. -/
theorem jsonKey_eq_bracketed_iff {key name : String} :
    jsonKey key = bracketed name ↔ key = bracketed name ∨ Disguises key name := by
  constructor
  · intro h
    by_cases hstandard : IsStandard key
    case neg => exact .inl ((jsonKey_of_not_isStandard hstandard).symm.trans h)
    case pos =>
      right
      rw [jsonKey_of_isStandard hstandard] at h
      have hlist := congrArg String.toList h
      rw [String.toList_ofList, toList_bracketed] at hlist
      cases hchars : key.toList with
      | nil => simp [hchars, camelCase] at hlist
      | cons c cs =>
          rw [hchars, camelCase] at hlist
          split at hlist
          case isTrue hc =>
            obtain ⟨count, rest, rfl, hrest⟩ := camelCase_true_eq_bracket_iff.mp hlist
            exact ⟨count, rest, by rw [hchars, hc]; rfl, hrest⟩
          case isFalse hc =>
            -- The first character stays, so the key begins with a bracket and is not standard.
            rw [if_neg Bool.false_ne_true, List.cons.injEq] at hlist
            exact absurd (by rw [hchars, hlist.1]; rfl) hstandard
  · rintro (rfl | ⟨count, rest, hkey, hrest⟩)
    · rw [jsonKey_eq_self_iff]
      left
      simp [IsStandard, toList_bracketed]
    · have hstandard : IsStandard key := by simp [IsStandard, hkey, List.replicate_succ]
      have hcamel : camelCase true ('[' :: rest) = (bracketed name).toList := by
        rw [toList_bracketed]
        exact camelCase_true_eq_bracket_iff.mpr ⟨0, rest, rfl, hrest⟩
      rw [jsonKey_of_isStandard hstandard, hkey, camelCase_replicate, hcamel, String.ofList_toList]

theorem disguises_iff {key name : String} :
    Disguises key name ↔ jsonKey key = bracketed name ∧ key ≠ bracketed name := by
  rw [jsonKey_eq_bracketed_iff]
  refine ⟨fun h => ⟨.inr h, ?_⟩, fun h => h.1.resolve_left h.2⟩
  rintro rfl
  obtain ⟨count, rest, hkey, -⟩ := h
  simp [toList_bracketed, List.replicate_succ] at hkey

instance (key name : String) : Decidable (Disguises key name) :=
  decidable_of_iff _ disguises_iff.symm

/-- The name of a disguised extension has no underscore. -/
theorem Disguises.underscore_not_mem {key name : String} (h : Disguises key name) :
    '_' ∉ name.toList := by
  obtain ⟨count, rest, -, hrest⟩ := h
  intro hmem
  refine underscore_not_mem_camelCase false rest ?_
  rw [hrest]
  exact List.mem_append_left _ hmem

/-! ## Extensions of options -/

/-- Entries that are found as those with a key are looked up by it. -/
theorem map_find?_eq_lookup {α : Type} {entries : List (String × α)} {key : String}
    {p : String × α → Bool} (h : ∀ entry ∈ entries, p entry = true ↔ key = entry.1) :
    (entries.find? p).map Prod.snd = entries.lookup key := by
  induction entries with
  | nil => rfl
  | cons entry entries ih =>
      rw [List.forall_mem_cons] at h
      rw [List.find?_cons, List.lookup_cons]
      by_cases hkey : key = entry.1
      · simp [h.1.mpr hkey, hkey]
      · simp [mt h.1.mp hkey, beq_eq_false_iff_ne.mpr hkey, ih h.2]

namespace Options

variable {name : String} (hname : name.toList.head? ≠ some '.')

include hname

theorem extension?_eq_get? (options : Options) :
    options.extension? name = options.get? (bracketed name) := by
  have hdots : name.toList.dropWhile (· == '.') = name.toList := by
    cases hchars : name.toList with
    | nil => rfl
    | cons c cs =>
        rw [hchars] at hname
        rw [List.dropWhile_cons_of_neg]
        simpa using hname
  rw [extension?, extensionKey, hdots, String.ofList_toList]
  rfl

/-- An extension is what its key is set to last, if no key is disguised. -/
theorem extension?_setAll (options : Options) {written : List (String × Json.Value)}
    (h : ∀ entry ∈ written, ¬Disguises entry.1 name) :
    (options.setAll written).extension? name =
      (written.reverse.lookup (bracketed name)).or (options.extension? name) := by
  rw [extension?_eq_get? hname, extension?_eq_get? hname, get?_setAll]
  refine congrArg (Option.or · _) (map_find?_eq_lookup fun entry hentry => ?_)
  rw [decide_eq_true_eq, jsonKey_eq_bracketed_iff,
    or_iff_left (h entry (List.mem_reverse.mp hentry)), eq_comm]

omit hname

/-- The extension is what is written with its key, or there is none. -/
def FindsAsWritten (name : String) (written : List (String × Json.Value)) (options : Options) :
    Prop :=
  options.extension? name = written.lookup (bracketed name)

include hname

/-- Extensions of decoded options are those of the object. -/
theorem SetInKeyOrder.findsAsWritten {written : List (String × Json.Value)} {options : Options}
    (hset : SetInKeyOrder written options) (h : ∀ entry ∈ written, ¬Disguises entry.1 name) :
    FindsAsWritten name written options := by
  have hkeys := hset.nodup_keys
  obtain ⟨sorted, hperm, -, rfl⟩ := hset
  rw [FindsAsWritten,
    extension?_setAll hname empty fun entry hentry => h entry (hperm.subset hentry),
    Dictionary.lookup_eq_of_perm ((List.reverse_perm sorted).trans hperm) hkeys]
  exact Option.or_none

omit hname

/-! ## Separation of extensions and standard options -/

/-- What is stored under the key of an extension is written with that key or disguised, and nothing is
disguised as an extension with an underscore in its name. Without disguised keys an extension has the
value that was set last under its own key, whatever else was set; and in options that are decoded from
an object without a key twice, it has the value of the member with its own key, or there is none. -/
theorem extensions_separate {name : String} (hname : name.toList.head? ≠ some '.') :
    (∀ key, jsonKey key = bracketed name ↔ key = bracketed name ∨ Disguises key name) ∧
    (∀ key, Disguises key name → '_' ∉ name.toList) ∧
    (∀ (options : Options) (written : List (String × Json.Value)),
      (∀ entry ∈ written, ¬Disguises entry.1 name) →
        (options.setAll written).extension? name =
          (written.reverse.lookup (bracketed name)).or (options.extension? name)) ∧
    (∀ room members options, (Json.keys members).Nodup →
      decoder room (.object members .closed) = .ok options →
        ∃ inside written, room = inside + 1 ∧ Json.ReadAs (Json.value inside) members written ∧
          ((∀ entry ∈ written, ¬Disguises entry.1 name) → FindsAsWritten name written options)) := by
  refine ⟨fun key => jsonKey_eq_bracketed_iff, fun key h => h.underscore_not_mem,
    fun options written h => extension?_setAll hname options h,
    fun room members options hkeys hread => ?_⟩
  obtain ⟨inside, written, hroom, hread, hset⟩ :=
    (decoder_eq_ok_iff_setInKeyOrder hkeys).mp hread
  exact ⟨inside, written, hroom, hread, fun h => hset.findsAsWritten hname h⟩

/-- Options with an extension and a standard option that has its key in it, -/
def guardedMembers : List (Scalar String × Document) :=
  [(.pure "[acme.meta]", .string (.pure "PRIVATE")), (.pure "x_[acme.meta]", .bool true)]

/-- as they are written. -/
def guardedEntries : List (String × Json.Value) :=
  [("[acme.meta]", .string "PRIVATE"), ("x_[acme.meta]", .bool true)]

/-- No key of these options is disguised as the extension. -/
theorem extensions_separate_guardedMembers :
    ∃ options, decoder 2 (.object guardedMembers .closed) = .ok options ∧
      options.extension? "acme.meta" = some (.string "PRIVATE") ∧
      (options.setAll guardedEntries.reverse).extension? "acme.meta" =
        some (.string "PRIVATE") := by
  obtain ⟨-, -, hset, hdecoded⟩ :=
    extensions_separate (by decide : "acme.meta".toList.head? ≠ some '.')
  obtain ⟨inside, written, hroom, hread, hfinds⟩ :=
    hdecoded 2 guardedMembers _ (by decide +kernel) rfl
  obtain rfl : 1 = inside := by omega
  obtain rfl : guardedEntries = written :=
    Except.ok.inj (Json.mapM_readMember_eq_ok_iff.mpr hread)
  have hguarded : ∀ entry ∈ guardedEntries, ¬Disguises entry.1 "acme.meta" := by decide +kernel
  refine ⟨_, rfl, hfinds hguarded, ?_⟩
  rw [hset _ _ fun entry hentry => hguarded entry (List.mem_reverse.mp hentry)]
  rfl

/-- Options with an extension and a standard option that is stored under its key, -/
def disguisedText : String :=
  braced "\"[acme.meta]\":\"PRIVATE\",\"_[acme.meta]\":\"PUBLIC\""

def disguisedMembers : List (Scalar String × Document) :=
  [(.pure "[acme.meta]", .string (.pure "PRIVATE")),
    (.pure "_[acme.meta]", .string (.pure "PUBLIC"))]

/-- as they are written. -/
def disguisedEntries : List (String × Json.Value) :=
  [("[acme.meta]", .string "PRIVATE"), ("_[acme.meta]", .string "PUBLIC")]

set_option maxRecDepth 1000 in
theorem document_disguisedText :
    Json.Reading.ofText disguisedText = ⟨.object disguisedMembers .closed, false⟩ := by
  with_unfolding_all rfl

/-- The standard option hides the extension: its key has the greater bytes. -/
theorem not_findsAsWritten_disguisedText :
    (Json.keys disguisedMembers).Nodup ∧
      Json.Reading.ofText disguisedText = ⟨.object disguisedMembers .closed, false⟩ ∧
      ∃ options, Json.decode decoder disguisedText = .ok options ∧
        Json.ReadAs (Json.value (Json.depthLimit - 1)) disguisedMembers disguisedEntries ∧
        disguisedEntries.lookup (bracketed "acme.meta") = some (.string "PRIVATE") ∧
        options.extension? "acme.meta" = some (.string "PUBLIC") ∧
        ¬FindsAsWritten "acme.meta" disguisedEntries options := by
  have hextension : (ofDictionary (.ofList disguisedEntries)).extension? "acme.meta" =
      some (.string "PUBLIC") := by
    with_unfolding_all rfl
  refine ⟨by decide +kernel, document_disguisedText, ofDictionary (.ofList disguisedEntries),
    ?_, .cons ⟨rfl, rfl⟩ (.cons ⟨rfl, rfl⟩ .nil), rfl, hextension, ?_⟩
  · rw [Json.decode_eq_ok_iff, document_disguisedText]
    exact ⟨rfl, rfl⟩
  · rw [FindsAsWritten, hextension]
    simp [disguisedEntries, bracketed]

end Options

end LinkedSchema
