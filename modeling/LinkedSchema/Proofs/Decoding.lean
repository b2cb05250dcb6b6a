import LinkedSchema.Json.Value
import Mathlib.Data.List.Pairwise

/-!
# What accepting decoders have read

A decoder that accepts has read every part of a document without a fault, so that acceptance comes
apart along the document. Here one part is changed and the rest is left as it is: what the decoder
of the whole reads stays the same if what the decoder of the part reads does.

* `CarriesOver` — what a decoder reads from one document it reads from another as well;
* `list_carriesOver`, `storeItems_replace` — another item of a list, and of a record written as one;
* `Shape.Takes` — what becomes of one member of a record, and `Shape.MembersCarryOver` — members
  from which the same is stored, whatever was stored before them;
* `Shape.membersCarryOver_of_perm` — the order of the members of a record does not matter, because
  slots are filled independently of each other;
* `Shape.storeMembers_drop` — a member that stores what is stored already may be left out.
-/

namespace LinkedSchema.Json

variable {α β ε σ : Type}

/-! ## Outcomes -/

theorem bind_eq_ok_iff {input : Except ε α} {next : α → Except ε β} {result : β} :
    (input >>= next) = .ok result ↔ ∃ value, input = .ok value ∧ next value = .ok result := by
  cases input <;> simp [bind, Except.bind]

theorem map_eq_ok_iff {input : Except ε α} {f : α → β} {result : β} :
    f <$> input = .ok result ↔ ∃ value, input = .ok value ∧ f value = result := by
  cases input <;> simp [Functor.map, Except.map]

theorem pure_eq_ok_iff {value result : α} :
    (pure value : Except ε α) = .ok result ↔ value = result :=
  Except.ok.injEq value result ▸ Iff.rfl

@[simp]
theorem orFault_eq_ok_iff {input : Except Fault α} {value : α} :
    orFault input = .ok value ↔ input = .ok value := by
  cases input <;> simp [orFault]

@[simp]
theorem enter_eq_ok_iff {room inside : Nat} : enter room = .ok inside ↔ room = inside + 1 := by
  cases room <;> simp [enter]

/-! ## Parts of a document -/

/-- What the decoder reads from one document it reads from the other as well. -/
def CarriesOver (decoder : Decoder α) (document other : Document) : Prop :=
  ∀ value, decoder document = .ok value → decoder other = .ok value

theorem mapM_append_cons_eq_ok_iff {f : α → Except ε β} {before behind : List α} {item : α}
    {values : List β} :
    (before ++ item :: behind).mapM f = .ok values ↔
      ∃ first value last, before.mapM f = .ok first ∧ f item = .ok value ∧
        behind.mapM f = .ok last ∧ first ++ value :: last = values := by
  simp only [List.mapM_append, List.mapM_cons, bind_eq_ok_iff, pure_eq_ok_iff]
  constructor
  · rintro ⟨first, hfirst, -, ⟨value, hvalue, last, hlast, rfl⟩, rfl⟩
    exact ⟨first, value, last, hfirst, hvalue, hlast, rfl⟩
  · rintro ⟨first, value, last, hfirst, hvalue, hlast, rfl⟩
    exact ⟨first, hfirst, _, ⟨value, hvalue, last, hlast, rfl⟩, rfl⟩

/-- Where one item is read as before, all items are. -/
theorem mapM_replace {f : α → Except ε β} {before behind : List α} {item other : α}
    (h : ∀ value, f item = .ok value → f other = .ok value) {values : List β}
    (hvalues : (before ++ item :: behind).mapM f = .ok values) :
    (before ++ other :: behind).mapM f = .ok values := by
  obtain ⟨first, value, last, hfirst, hvalue, hlast, rfl⟩ := mapM_append_cons_eq_ok_iff.mp hvalues
  exact mapM_append_cons_eq_ok_iff.mpr ⟨first, value, last, hfirst, h value hvalue, hlast, rfl⟩

/-- What is read from the items in another order is what was read, in another order. -/
theorem mapM_perm {f : α → Except ε β} {items others : List α} (hperm : items.Perm others) :
    ∀ {values : List β}, items.mapM f = .ok values →
      ∃ reordered, others.mapM f = .ok reordered ∧ values.Perm reordered := by
  induction hperm with
  | nil => exact fun {values} h => ⟨values, h, .rfl⟩
  | cons item _ ih =>
      intro values h
      simp only [List.mapM_cons, bind_eq_ok_iff, pure_eq_ok_iff] at h ⊢
      obtain ⟨value, hvalue, rest, hrest, rfl⟩ := h
      obtain ⟨reordered, hreordered, hrestPerm⟩ := ih hrest
      exact ⟨_, ⟨value, hvalue, reordered, hreordered, rfl⟩, hrestPerm.cons value⟩
  | swap first second items =>
      intro values h
      simp only [List.mapM_cons, bind_eq_ok_iff, pure_eq_ok_iff] at h ⊢
      obtain ⟨value, hvalue, -, ⟨next, hnext, rest, hrest, rfl⟩, rfl⟩ := h
      exact ⟨_, ⟨next, hnext, _, ⟨value, hvalue, rest, hrest, rfl⟩, rfl⟩, .swap next value rest⟩
  | trans _ _ ihFirst ihSecond =>
      intro values h
      obtain ⟨between, hbetween, hfirst⟩ := ihFirst h
      obtain ⟨reordered, hreordered, hsecond⟩ := ihSecond hbetween
      exact ⟨reordered, hreordered, hfirst.trans hsecond⟩

theorem optional_of_ne_null {decoder : Decoder α} {document : Document} (h : document ≠ .null) :
    optional decoder document = some <$> decoder document := by
  cases document with
  | null => contradiction
  | _ => rfl

/-- An optional value that is read as before. -/
theorem optional_carriesOver {decoder : Decoder α} {document other : Document}
    (h : CarriesOver decoder document other) (hdocument : document ≠ .null)
    (hother : other ≠ .null) : CarriesOver (optional decoder) document other := by
  intro content hcontent
  rw [optional_of_ne_null hdocument, map_eq_ok_iff] at hcontent
  obtain ⟨value, hvalue, hcontent⟩ := hcontent
  rw [optional_of_ne_null hother, map_eq_ok_iff]
  exact ⟨value, h value hvalue, hcontent⟩

/-- A list with another item that is read as before. -/
theorem list_carriesOver {item : Sized α} {room : Nat} {document other : Document}
    (h : ∀ room, CarriesOver (item room) document other) (before behind : List Document)
    (ending : ListEnd) :
    CarriesOver (list item room) (.list (before ++ document :: behind) ending)
      (.list (before ++ other :: behind) ending) := by
  intro values hvalues
  simp only [list, bind_eq_ok_iff] at hvalues ⊢
  obtain ⟨inside, hinside, items, hitems, hrest⟩ := hvalues
  exact ⟨inside, hinside, items, mapM_replace (h inside) hitems, hrest⟩

/-- A record written as a list, with another item that is read as before. -/
theorem storeItems_replace {room : Nat} {ending : ListEnd} {document other : Document}
    {behind : List Document} {slot : Slot σ}
    (h : CarriesOver (slot.store room) document other) {result : σ} :
    ∀ {before : List Document} {slots : List (Slot σ)} {value : σ},
      slots[before.length]? = some slot →
      storeItems room ending value slots (before ++ document :: behind) = .ok result →
      storeItems room ending value slots (before ++ other :: behind) = .ok result := by
  intro before
  induction before with
  | nil =>
      intro slots value hslot hresult
      obtain ⟨slots, rfl⟩ : ∃ rest, slots = slot :: rest := by
        cases slots <;> simp_all
      simp only [List.nil_append, storeItems, bind_eq_ok_iff] at hresult ⊢
      obtain ⟨change, hchange, hrest⟩ := hresult
      exact ⟨change, h change hchange, hrest⟩
  | cons item before ih =>
      intro slots value hslot hresult
      cases slots with
      | nil => simp at hslot
      | cons first slots =>
          simp only [List.cons_append, storeItems, bind_eq_ok_iff] at hresult ⊢
          obtain ⟨change, hchange, hrest⟩ := hresult
          exact ⟨change, hchange, ih (by simpa using hslot) hrest⟩

/-! ## Members of a record -/

/-- A record written as an object has its members stored one by one. -/
theorem record_object_eq_ok_iff {shape : Shape σ} {initial value : σ} {room : Nat}
    {members : List (Scalar String × Document)} :
    record shape initial room (.object members .closed) = .ok value ↔
      ∃ inside, room = inside + 1 ∧
        shape.storeMembers inside [] initial members = .ok value := by
  simp only [record, bind_eq_ok_iff, enter_eq_ok_iff, orFault_eq_ok_iff, ObjectEnd.check]
  refine exists_congr fun inside => and_congr_right fun _ => ?_
  constructor
  · rintro ⟨stored, hstored, -, -, hvalue⟩
    exact pure_eq_ok_iff.mp hvalue ▸ hstored
  · exact fun hvalue => ⟨value, hvalue, (), trivial, rfl⟩

/-- A record written as a list has its items stored at their places. -/
theorem record_list_eq_ok_iff {shape : Shape σ} {initial value : σ} {room : Nat}
    {items : List Document} :
    record shape initial room (.list items .closed) = .ok value ↔
      ∃ inside, room = inside + 1 ∧
        storeItems inside .closed initial shape.slots items = .ok value := by
  simp only [record, bind_eq_ok_iff, enter_eq_ok_iff]

/-- The slot that a key names. -/
def Shape.slot? (shape : Shape σ) (key : String) : Option (Slot σ) :=
  shape.slots.find? (·.answersTo key)

/-- Whatever is stored in the two slots, it does not matter which one is filled first. -/
def Slot.Commute (first second : Slot σ) : Prop :=
  ∀ room document change other next, first.store room document = .ok change →
    second.store room other = .ok next → ∀ value, next (change value) = change (next value)

theorem Slot.Commute.symm {first second : Slot σ} (h : first.Commute second) :
    second.Commute first :=
  fun room document change other next hchange hnext value =>
    (h room other next document change hnext hchange value).symm

instance : Std.Symm (@Slot.Commute σ) := ⟨fun _ _ => Slot.Commute.symm⟩

theorem Slot.commute_ofSized {name other : String} {aliases others : List String}
    {decoder : Sized α} {next : Sized β} {set : α → σ → σ} {setNext : β → σ → σ}
    (h : ∀ content more value,
      setNext more (set content value) = set content (setNext more value)) :
    Slot.Commute (.ofSized name aliases decoder set) (.ofSized other others next setNext) := by
  intro room document change document' change' hchange hchange' value
  obtain ⟨content, -, rfl⟩ := map_eq_ok_iff.mp hchange
  obtain ⟨more, -, rfl⟩ := map_eq_ok_iff.mp hchange'
  exact h content more value

namespace Shape

/-- A member is taken: it fills a slot that is free, or it names no slot and is passed over. `seen` and
`value` are what has been filled and stored before, the last two arguments what has been after. -/
inductive Takes (shape : Shape σ) (room : Nat) (seen : List String) (value : σ) :
    Scalar String × Document → List String → σ → Prop
  | fill {key : Scalar String} {name : String} {document : Document} {slot : Slot σ}
      {change : σ → σ} (hname : key.used = .ok name) (hslot : shape.slot? name = some slot)
      (hfree : slot.name ∉ seen) (hchange : slot.store room document = .ok change) :
      Takes shape room seen value (key, document) (slot.name :: seen) (change value)
  | pass {key : Scalar String} {name : String} {document : Document} (hname : key.used = .ok name)
      (hnone : shape.slot? name = none) (hdocument : document.skip = .ok ()) :
      Takes shape room seen value (key, document) seen value

/-- What is stored from one list of members is stored from the other as well, whatever has been
stored before. -/
def MembersCarryOver (shape : Shape σ) (room : Nat)
    (members others : List (Scalar String × Document)) : Prop :=
  ∀ seen value result, shape.storeMembers room seen value members = .ok result →
    shape.storeMembers room seen value others = .ok result

variable {shape : Shape σ} {room : Nat}

section Taking

variable {seen taken : List String} {value next : σ}

/-- Fewer slots filled before are no hindrance. -/
theorem Takes.of_subset {member : Scalar String × Document}
    (h : shape.Takes room seen value member taken next) {less : List String} (hless : less ⊆ seen) :
    ∃ lessTaken, lessTaken ⊆ taken ∧ shape.Takes room less value member lessTaken next := by
  cases h with
  | fill hname hslot hfree hchange =>
      exact ⟨_, List.cons_subset_cons _ hless, .fill hname hslot (fun h => hfree (hless h)) hchange⟩
  | pass hname hnone hdocument => exact ⟨_, hless, .pass hname hnone hdocument⟩

/-- Two members fill different slots, or one of them none, so that either may be taken first. -/
theorem Takes.swap (hcommute : shape.slots.Pairwise Slot.Commute)
    {first second : Scalar String × Document} {takenBoth : List String} {last : σ}
    (hfirst : shape.Takes room seen value first taken next)
    (hsecond : shape.Takes room taken next second takenBoth last) :
    ∃ between value' swapped, shape.Takes room seen value second between value' ∧
      shape.Takes room between value' first swapped last ∧ swapped ⊆ takenBoth := by
  cases hfirst with
  | pass hname hnone hdocument =>
      exact ⟨_, _, _, hsecond, .pass hname hnone hdocument, List.Subset.refl _⟩
  | @fill _ _ document slot change hname hslot hfree hchange =>
      cases hsecond with
      | pass hname' hnone' hdocument' =>
          exact ⟨_, _, _, .pass hname' hnone' hdocument', .fill hname hslot hfree hchange,
            List.Subset.refl _⟩
      | @fill _ _ document' slot' change' hname' hslot' hfree' hchange' =>
          -- The second slot was still free, so it is not the first one.
          rw [List.mem_cons, not_or] at hfree'
          have hne : slot ≠ slot' := fun heq => hfree'.1 (heq ▸ rfl)
          have hslots : slot.Commute slot' := hcommute.forall (List.mem_of_find?_eq_some hslot)
            (List.mem_of_find?_eq_some hslot') hne
          have hfreeAfter : slot.name ∉ slot'.name :: seen :=
            List.not_mem_cons_of_ne_of_not_mem (Ne.symm hfree'.1) hfree
          rw [hslots room document change document' change' hchange hchange' value]
          exact ⟨_, _, _, .fill hname' hslot' hfree'.2 hchange',
            .fill hname hslot hfreeAfter hchange, (List.Perm.swap _ _ _).subset⟩

end Taking

/-! ### One member after the other -/

section Skipping

variable (hskip : shape.unknown = .skipped)

include hskip

/-- The first member is taken before the others are stored. -/
theorem storeMembers_cons_eq_ok_iff {seen : List String} {value result : σ}
    {member : Scalar String × Document} {members : List (Scalar String × Document)} :
    shape.storeMembers room seen value (member :: members) = .ok result ↔
      ∃ taken next, shape.Takes room seen value member taken next ∧
        shape.storeMembers room taken next members = .ok result := by
  obtain ⟨key, document⟩ := member
  rw [storeMembers, bind_eq_ok_iff]
  constructor
  · rintro ⟨name, hname, hresult⟩
    rw [orFault_eq_ok_iff] at hname
    split at hresult
    case h_1 slot hslot =>
      split at hresult
      · contradiction
      case isFalse hfree =>
        obtain ⟨change, hchange, hresult⟩ := bind_eq_ok_iff.mp hresult
        exact ⟨_, _, .fill hname hslot (by simpa using hfree) hchange, hresult⟩
    case h_2 hnone =>
      simp only [hskip, bind_eq_ok_iff, orFault_eq_ok_iff] at hresult
      obtain ⟨_, hdocument, hresult⟩ := hresult
      exact ⟨_, _, .pass hname hnone hdocument, hresult⟩
  · rintro ⟨_, _, htakes, hresult⟩
    cases htakes with
    | fill hname hslot hfree hchange =>
        refine ⟨_, orFault_eq_ok_iff.mpr hname, ?_⟩
        rw [slot?] at hslot
        simp [hslot, hfree, hchange, bind_eq_ok_iff, hresult]
    | pass hname hnone hdocument =>
        refine ⟨_, orFault_eq_ok_iff.mpr hname, ?_⟩
        rw [slot?] at hnone
        simp [hnone, hskip, hdocument, bind_eq_ok_iff, hresult]

theorem storeMembers_of_subset {members : List (Scalar String × Document)} :
    ∀ {seen less : List String} {value result : σ}, less ⊆ seen →
      shape.storeMembers room seen value members = .ok result →
      shape.storeMembers room less value members = .ok result := by
  induction members with
  | nil => exact fun _ h => h
  | cons member members ih =>
      intro seen less value result hless h
      obtain ⟨taken, next, htakes, h⟩ := (storeMembers_cons_eq_ok_iff hskip).mp h
      obtain ⟨lessTaken, hsubset, htakes⟩ := htakes.of_subset hless
      exact (storeMembers_cons_eq_ok_iff hskip).mpr ⟨lessTaken, next, htakes, ih hsubset h⟩

/-- Members behind others are stored as before if they are by themselves. -/
theorem MembersCarryOver.append_left {members others : List (Scalar String × Document)}
    (h : shape.MembersCarryOver room members others) (before : List (Scalar String × Document)) :
    shape.MembersCarryOver room (before ++ members) (before ++ others) := by
  induction before with
  | nil => exact h
  | cons member before ih =>
      intro seen value result hresult
      obtain ⟨taken, next, htakes, hresult⟩ := (storeMembers_cons_eq_ok_iff hskip).mp hresult
      exact (storeMembers_cons_eq_ok_iff hskip).mpr
        ⟨taken, next, htakes, ih taken next result hresult⟩

/-- The order of the members does not matter. -/
theorem membersCarryOver_of_perm (hcommute : shape.slots.Pairwise Slot.Commute)
    {members others : List (Scalar String × Document)} (hperm : members.Perm others) :
    shape.MembersCarryOver room members others := by
  induction hperm with
  | nil => exact fun _ _ _ h => h
  | cons member _ ih => exact ih.append_left hskip [member]
  | swap second first members =>
      intro seen value result h
      obtain ⟨_, _, hfirst, h⟩ := (storeMembers_cons_eq_ok_iff hskip).mp h
      obtain ⟨_, _, hsecond, h⟩ := (storeMembers_cons_eq_ok_iff hskip).mp h
      obtain ⟨_, _, _, hsecond, hfirst, hsubset⟩ := hfirst.swap hcommute hsecond
      have hrest := storeMembers_of_subset hskip hsubset h
      exact (storeMembers_cons_eq_ok_iff hskip).mpr
        ⟨_, _, hsecond, (storeMembers_cons_eq_ok_iff hskip).mpr ⟨_, _, hfirst, hrest⟩⟩
  | trans _ _ ihFirst ihSecond =>
      exact fun seen value result h => ihSecond seen value result (ihFirst seen value result h)

/-- A member may take the place of another one if it is taken wherever that one is. -/
theorem membersCarryOver_of_takes {member other : Scalar String × Document}
    (h : ∀ seen value taken next, shape.Takes room seen value member taken next →
      shape.Takes room seen value other taken next)
    (members : List (Scalar String × Document)) :
    shape.MembersCarryOver room (member :: members) (other :: members) := by
  intro seen value result hresult
  obtain ⟨taken, next, htakes, hresult⟩ := (storeMembers_cons_eq_ok_iff hskip).mp hresult
  exact (storeMembers_cons_eq_ok_iff hskip).mpr ⟨taken, next, h _ _ _ _ htakes, hresult⟩

variable {key : Scalar String} {name : String} (hname : key.used = .ok name)

include hname

/-- A member whose value is read as before. -/
theorem membersCarryOver_value {slot : Slot σ} {document other : Document}
    (hslot : shape.slot? name = some slot) (h : CarriesOver (slot.store room) document other)
    (members : List (Scalar String × Document)) :
    shape.MembersCarryOver room ((key, document) :: members) ((key, other) :: members) := by
  refine membersCarryOver_of_takes hskip (fun seen value taken next htakes => ?_) members
  cases htakes with
  | fill hname' hslot' hfree hchange =>
      obtain rfl := Except.ok.inj (hname.symm.trans hname')
      obtain rfl := Option.some.inj (hslot.symm.trans hslot')
      exact .fill hname hslot hfree (h _ hchange)
  | pass hname' hnone =>
      obtain rfl := Except.ok.inj (hname.symm.trans hname')
      exact absurd (hslot.symm.trans hnone) (Option.some_ne_none slot)

/-- A member under another key for the same slot. -/
theorem membersCarryOver_key {other : Scalar String} {otherName : String}
    (hother : other.used = .ok otherName) (hslot : shape.slot? otherName = shape.slot? name)
    (document : Document) (members : List (Scalar String × Document)) :
    shape.MembersCarryOver room ((key, document) :: members) ((other, document) :: members) := by
  refine membersCarryOver_of_takes hskip (fun seen value taken next htakes => ?_) members
  cases htakes with
  | fill hname' hslot' hfree hchange =>
      obtain rfl := Except.ok.inj (hname.symm.trans hname')
      exact .fill hother (hslot.trans hslot') hfree hchange
  | pass hname' hnone hdocument =>
      obtain rfl := Except.ok.inj (hname.symm.trans hname')
      exact .pass hother (hslot.trans hnone) hdocument

/-- A member that names no slot may be added. -/
theorem membersCarryOver_insert {document : Document} (hnone : shape.slot? name = none)
    (hdocument : document.skip = .ok ()) (members : List (Scalar String × Document)) :
    shape.MembersCarryOver room members ((key, document) :: members) :=
  fun _ _ _ hresult =>
    (storeMembers_cons_eq_ok_iff hskip).mpr ⟨_, _, .pass hname hnone hdocument, hresult⟩

/-- A member that names no slot may be left out. -/
theorem membersCarryOver_remove {document : Document} (hnone : shape.slot? name = none)
    (members : List (Scalar String × Document)) :
    shape.MembersCarryOver room ((key, document) :: members) members := by
  intro seen value result hresult
  obtain ⟨_, _, htakes, hresult⟩ := (storeMembers_cons_eq_ok_iff hskip).mp hresult
  cases htakes with
  | fill hname' hslot =>
      obtain rfl := Except.ok.inj (hname.symm.trans hname')
      exact absurd (hslot.symm.trans hnone) (Option.some_ne_none _)
  | pass => exact hresult

/-- A member that stores what its slot holds from the start may be left out. -/
theorem storeMembers_drop (hcommute : shape.slots.Pairwise Slot.Commute) {initial result : σ}
    {slot : Slot σ} {document : Document} (hslot : shape.slot? name = some slot)
    (hinitial : ∀ change, slot.store room document = .ok change → change initial = initial)
    {before behind : List (Scalar String × Document)}
    (h : shape.storeMembers room [] initial (before ++ (key, document) :: behind) = .ok result) :
    shape.storeMembers room [] initial (before ++ behind) = .ok result := by
  -- Only at the front, where nothing else is stored yet, can the member be seen to change nothing.
  have hfront := membersCarryOver_of_perm hskip hcommute List.perm_middle _ _ _ h
  obtain ⟨_, _, htakes, hrest⟩ := (storeMembers_cons_eq_ok_iff hskip).mp hfront
  cases htakes with
  | fill hname' hslot' _ hchange =>
      obtain rfl := Except.ok.inj (hname.symm.trans hname')
      obtain rfl := Option.some.inj (hslot.symm.trans hslot')
      rw [hinitial _ hchange] at hrest
      exact storeMembers_of_subset hskip (List.nil_subset _) hrest
  | pass => exact hrest

end Skipping

end Shape

end LinkedSchema.Json
