import LinkedSchema.Arena
import Mathlib.Data.List.Basic
import Mathlib.Data.List.Induction

/-!
# Arenas as insertion-ordered maps

An arena keeps its items in slots and finds the slots through an index. What it means is a plain list
of entries, each an identifier with its item, in the order of acceptance. Everything that is proved of
registries is proved of these lists; slots and index are not mentioned outside this module.

The two structures have to stay in step: the index leads from each identifier to the place of its
entry. Adding an item extends both by one place, handing an item back leaves both alone, and changing
an item does not touch the index.

* `Arena.Holds` — an arena holds exactly the entries of a list;
* `Arena.Holds.contains_iff`, `toList_eq`, `size_eq` — what reading answers;
* `Arena.Holds.insert_taken`, `insert_free`, `modify?_taken` — what an operation does;
* `Arena.run?`, `Arena.entriesOf` — operations one after the other, on arenas and on entries;
* `Arena.OrderedMap`, `Arena.orderedMap_of_run` — what holds of an arena behind any operations.
-/

namespace LinkedSchema

namespace Arena

variable {kind : Kind} {α : Type}

/-- The arena holds exactly these entries, in this order. -/
structure Holds (arena : Arena kind α) (entries : List (Ident kind × α)) : Prop where
  /-- The items stand in the slots in the order of the entries. -/
  toList_eq : arena.toList = entries.map Prod.snd
  /-- No identifier was accepted twice. -/
  distinct : (entries.map Prod.fst).Nodup
  /-- The index leads from an identifier to the place of its entry, and from others nowhere. -/
  slot?_iff : ∀ (id : Ident kind) (slot : Nat),
    arena.slot? id = some slot ↔ (entries.map Prod.fst)[slot]? = some id

/-- An entry with its item changed, if it is the one of an identifier. -/
def changeEntry (id : Ident kind) (change : α → α) (entry : Ident kind × α) : Ident kind × α :=
  if entry.1 = id then (entry.1, change entry.2) else entry

/-! ## Reading -/

/-- An identifier is taken exactly if it has a slot. -/
theorem contains_eq_isSome_slot? (arena : Arena kind α) (id : Ident kind) :
    arena.contains id = (arena.slot? id).isSome :=
  Std.TreeMap.contains_eq_isSome_getElem?

/-- An identifier is taken exactly if looking it up finds something. -/
theorem contains_eq_isSome_get? (arena : Arena kind α) (id : Ident kind) :
    arena.contains id = (arena.get? id).isSome := by
  rw [contains_eq_isSome_slot?, get?]
  cases hslot : arena.slot? id with
  | none => rfl
  | some slot =>
      -- The index stays among the slots, so there is an item.
      have hlt : slot < arena.items.size := arena.slot_lt id.text slot hslot
      rw [Option.bind_some, Array.getElem?_eq_getElem hlt]
      rfl

/-- Where an identifier is taken, following it is looking it up. -/
theorem get?_eq_some_resolve [Inhabited α] {arena : Arena kind α} {id : Ident kind}
    (h : arena.contains id = true) : arena.get? id = some (arena.resolve id) := by
  rw [contains_eq_isSome_get?, Option.isSome_iff_exists] at h
  obtain ⟨item, hitem⟩ := h
  rw [resolve, hitem, Option.getD_some]

/-- A list that is longer by one element has that one at its end, and the others where they were. -/
theorem getElem?_concat_eq_some_iff {β : Type} {items : List β} {last item : β} {place : Nat} :
    (items ++ [last])[place]? = some item ↔
      items[place]? = some item ∨ place = items.length ∧ last = item := by
  rcases Nat.lt_trichotomy place items.length with hlt | rfl | hgt
  · rw [List.getElem?_append_left hlt]
    simp [Nat.ne_of_lt hlt]
  · simp
  · rw [List.getElem?_eq_none (by simp; omega), List.getElem?_eq_none (Nat.le_of_lt hgt)]
    simp [Nat.ne_of_gt hgt]

theorem map_fst_changeEntry (id : Ident kind) (change : α → α) (entries : List (Ident kind × α)) :
    (entries.map (changeEntry id change)).map Prod.fst = entries.map Prod.fst := by
  rw [List.map_map]
  refine List.map_congr_left fun entry _ => ?_
  by_cases hid : entry.1 = id <;> simp [changeEntry, hid]

/-- The new arena holds nothing. -/
theorem holds_empty : (empty : Arena kind α).Holds [] where
  toList_eq := rfl
  distinct := List.nodup_nil
  slot?_iff id slot := by
    constructor
    · intro h
      simp [empty, slot?] at h
    · intro h
      cases h

namespace Holds

variable {arena : Arena kind α} {entries : List (Ident kind × α)}

/-- The size of an arena is the number of its entries. -/
theorem size_eq (h : arena.Holds entries) : arena.size = entries.length := by
  rw [size, ← Array.length_toList, ← toList, h.toList_eq, List.length_map]

/-- In each slot stands the item of the entry at that place. -/
theorem getElem?_items (h : arena.Holds entries) (slot : Nat) :
    arena.items[slot]? = entries[slot]?.map Prod.snd := by
  rw [← Array.getElem?_toList, ← toList, h.toList_eq, List.getElem?_map]

/-- Looking an identifier up finds its entry and nothing else. -/
theorem get?_iff (h : arena.Holds entries) (id : Ident kind) (item : α) :
    arena.get? id = some item ↔ (id, item) ∈ entries := by
  rw [get?, Option.bind_eq_some_iff, List.mem_iff_getElem?]
  constructor
  · rintro ⟨slot, hslot, hfound⟩
    rw [h.slot?_iff, List.getElem?_map, Option.map_eq_some_iff] at hslot
    obtain ⟨⟨_, found⟩, hentry, rfl⟩ := hslot
    rw [h.getElem?_items, hentry] at hfound
    exact ⟨slot, Option.some.inj hfound ▸ hentry⟩
  · rintro ⟨slot, hentry⟩
    refine ⟨slot, ?_, ?_⟩
    · rw [h.slot?_iff, List.getElem?_map, hentry, Option.map_some]
    · rw [h.getElem?_items, hentry, Option.map_some]

/-- The taken identifiers are those of the entries. -/
theorem contains_iff (h : arena.Holds entries) (id : Ident kind) :
    arena.contains id = true ↔ id ∈ entries.map Prod.fst := by
  rw [contains_eq_isSome_slot?, Option.isSome_iff_exists, List.mem_iff_getElem?]
  exact exists_congr fun slot => h.slot?_iff id slot

/-! ## Adding an item -/

/-- What is offered under a taken identifier is handed back. -/
theorem insert_taken (h : arena.Holds entries) {id : Ident kind} (item : α)
    (hid : id ∈ entries.map Prod.fst) : arena.insert id item = .error item := by
  unfold insert
  rw [if_pos ((h.contains_iff id).mpr hid)]

/-- What is offered under a free identifier is accepted behind all other entries. -/
theorem insert_free (h : arena.Holds entries) {id : Ident kind} (item : α)
    (hid : id ∉ entries.map Prod.fst) :
    ∃ next, arena.insert id item = .ok (arena.size, next) ∧
      next.Holds (entries ++ [(id, item)]) := by
  have hfree : ¬ arena.contains id = true := fun hc => hid ((h.contains_iff id).mp hc)
  unfold insert
  rw [if_neg hfree]
  refine ⟨_, rfl, ?_, ?_, ?_⟩
  · have hitems : arena.items.toList = entries.map Prod.snd := h.toList_eq
    simp [toList, hitems]
  · rw [List.map_append, List.nodup_append]
    refine ⟨h.distinct, by simp, ?_⟩
    intro a ha b hb hab
    simp only [List.map_cons, List.map_nil, List.mem_singleton] at hb
    exact hid (hb ▸ hab ▸ ha)
  · intro other slot
    have hold := h.slot?_iff other slot
    unfold slot? at hold ⊢
    rw [Std.TreeMap.getElem?_insert, List.map_append, List.map_singleton,
      getElem?_concat_eq_some_iff, List.length_map, h.size_eq, ← hold]
    by_cases hsame : id = other
    · subst hsame
      -- A free identifier had no slot before.
      have hnone : arena.index[id.text]? ≠ some slot := by
        intro hslot
        exact hid (List.mem_of_getElem? (hold.mp hslot))
      simp [hnone, eq_comm]
    · have htext : id.text ≠ other.text := fun ht => hsame (by cases id; cases other; simp_all)
      simp [htext, hsame]

/-! ## Changing an item -/

/-- Only what is there can be changed. -/
theorem modify?_free (h : arena.Holds entries) {id : Ident kind} (change : α → α)
    (hid : id ∉ entries.map Prod.fst) : arena.modify? id change = none := by
  have hslot : arena.slot? id = none := by
    rw [Option.eq_none_iff_forall_ne_some]
    intro slot hslot
    exact hid (List.mem_of_getElem? ((h.slot?_iff id slot).mp hslot))
  rw [modify?, hslot, Option.map_none]

/-- What is there is changed in its place. -/
theorem modify?_taken (h : arena.Holds entries) {id : Ident kind} (change : α → α)
    (hid : id ∈ entries.map Prod.fst) :
    ∃ next, arena.modify? id change = some next ∧
      next.Holds (entries.map (changeEntry id change)) := by
  have htaken := (h.contains_iff id).mpr hid
  rw [contains_eq_isSome_slot?, Option.isSome_iff_exists] at htaken
  obtain ⟨slot, hslot⟩ := htaken
  unfold modify?
  rw [hslot, Option.map_some]
  refine ⟨_, rfl, ?_, ?_, ?_⟩
  · refine List.ext_getElem? fun place => ?_
    have hitem := h.getElem?_items place
    -- The slot is the only place at which the identifier stands.
    have honly := h.slot?_iff id place
    rw [hslot, List.getElem?_map, Option.some_inj] at honly
    rw [toList, Array.getElem?_toList, Array.getElem?_modify, hitem, List.map_map,
      List.getElem?_map]
    cases hentry : entries[place]? with
    | none => simp
    | some entry =>
        rw [hentry, Option.map_some, Option.some_inj] at honly
        by_cases hsame : slot = place <;> simp [changeEntry, hsame, ← honly]
  · rw [map_fst_changeEntry]
    exact h.distinct
  · rw [map_fst_changeEntry]
    exact h.slot?_iff

end Holds

/-! ## Operations one after the other -/

/-- What can be done to an arena. -/
inductive Operation (kind : Kind) (α : Type)
  /-- An item is offered under an identifier. -/
  | insert (id : Ident kind) (item : α)
  /-- The item under an identifier is changed. -/
  | modify (id : Ident kind) (change : α → α)

namespace Operation

/-- The identifier under which an item is offered. -/
def offered? : Operation kind α → Option (Ident kind)
  | insert id _ => some id
  | modify _ _ => none

/-- What an operation makes of entries that are kept in the order of acceptance: a new identifier
comes behind all others, and one that is taken stays with the item that it has. -/
def onEntries (entries : List (Ident kind × α)) : Operation kind α → List (Ident kind × α)
  | insert id item =>
      if (entries.map Prod.fst).contains id then entries else entries ++ [(id, item)]
  | modify id change => entries.map (changeEntry id change)

/-- An operation changes nothing but what is there. -/
def Applies (entries : List (Ident kind × α)) : Operation kind α → Prop
  | insert _ _ => True
  | modify id _ => id ∈ entries.map Prod.fst

end Operation

/-- The arena behind an operation, if it applies. An item that is handed back leaves the arena as it
is. -/
def perform? (arena : Arena kind α) : Operation kind α → Option (Arena kind α)
  | .insert id item =>
      match arena.insert id item with
      | .ok (_, next) => some next
      | .error _ => some arena
  | .modify id change => arena.modify? id change

/-- The arena behind several operations, if each applies in its turn. -/
def run? (arena : Arena kind α) (operations : List (Operation kind α)) : Option (Arena kind α) :=
  operations.foldlM perform? arena

/-- The entries that operations leave, from none. -/
def entriesOf (operations : List (Operation kind α)) : List (Ident kind × α) :=
  operations.foldl Operation.onEntries []

namespace Holds

variable {arena : Arena kind α} {entries : List (Ident kind × α)}

/-- An operation that applies does to the arena what it does to the entries. -/
theorem perform?_of_applies (h : arena.Holds entries) {operation : Operation kind α}
    (happlies : operation.Applies entries) :
    ∃ next, arena.perform? operation = some next ∧ next.Holds (operation.onEntries entries) := by
  cases operation with
  | insert id item =>
      simp only [perform?, Operation.onEntries, List.contains_iff_mem]
      by_cases hid : id ∈ entries.map Prod.fst
      · rw [h.insert_taken item hid, if_pos hid]
        exact ⟨arena, rfl, h⟩
      · obtain ⟨next, hinsert, hnext⟩ := h.insert_free item hid
        rw [hinsert, if_neg hid]
        exact ⟨next, rfl, hnext⟩
  | modify id change => exact h.modify?_taken change happlies

/-- An operation that does not apply leads nowhere. -/
theorem perform?_of_not_applies (h : arena.Holds entries) {operation : Operation kind α}
    (happlies : ¬ operation.Applies entries) : arena.perform? operation = none := by
  cases operation with
  | insert id item => exact absurd trivial happlies
  | modify id change => exact h.modify?_free change happlies

/-- Operations do to the arena what they do to the entries. -/
theorem of_run? {next : Arena kind α} {operations : List (Operation kind α)}
    (h : arena.Holds entries) (hrun : arena.run? operations = some next) :
    next.Holds (operations.foldl Operation.onEntries entries) := by
  induction operations generalizing arena entries with
  | nil =>
      cases hrun
      exact h
  | cons operation operations ih =>
      rw [run?, List.foldlM_cons] at hrun
      obtain ⟨middle, hmiddle, hrest⟩ := Option.bind_eq_some_iff.mp hrun
      by_cases happlies : operation.Applies entries
      · obtain ⟨found, hfound, hholds⟩ := h.perform?_of_applies happlies
        rw [hmiddle] at hfound
        cases hfound
        exact ih hholds hrest
      · rw [h.perform?_of_not_applies happlies] at hmiddle
        cases hmiddle

/-- Operations lead nowhere exactly if one of them does not apply to what the operations before it
leave. -/
theorem run?_eq_none_iff (h : arena.Holds entries) (operations : List (Operation kind α)) :
    arena.run? operations = none ↔
      ∃ earlier operation later, operations = earlier ++ operation :: later ∧
        ¬ operation.Applies (earlier.foldl Operation.onEntries entries) := by
  induction operations generalizing arena entries with
  | nil => simp [run?]
  | cons first operations ih =>
      rw [run?, List.foldlM_cons]
      by_cases happlies : first.Applies entries
      · obtain ⟨next, hnext, hholds⟩ := h.perform?_of_applies happlies
        rw [hnext]
        refine (ih hholds).trans ?_
        constructor
        · rintro ⟨earlier, operation, later, rfl, hnot⟩
          exact ⟨first :: earlier, operation, later, rfl, hnot⟩
        · rintro ⟨earlier, operation, later, hsplit, hnot⟩
          rcases List.cons_eq_append_iff.mp hsplit with ⟨rfl, hhead⟩ | ⟨rest, rfl, htail⟩
          · cases hhead
            exact absurd happlies hnot
          · exact ⟨rest, operation, later, htail, hnot⟩
      · rw [h.perform?_of_not_applies happlies]
        exact iff_of_true rfl ⟨[], first, operations, rfl, happlies⟩

end Holds

/-- A list that is longer by one element has that one among its first occurrences if it is new. -/
theorem eraseDups_concat {β : Type} [DecidableEq β] (items : List β) (item : β) :
    (items ++ [item]).eraseDups =
      if item ∈ items then items.eraseDups else items.eraseDups ++ [item] := by
  rw [List.eraseDups_append, List.removeAll, List.filter_cons, List.filter_nil]
  by_cases hitem : item ∈ items <;> simp [hitem, List.eraseDups_cons]

/-- The identifiers of the entries are those under which an item was ever offered, each where it was
offered first. -/
theorem map_fst_entriesOf (operations : List (Operation kind α)) :
    (entriesOf operations).map Prod.fst = (operations.filterMap Operation.offered?).eraseDups := by
  induction operations using List.reverseRecOn with
  | nil => rfl
  | append_singleton operations operation ih =>
      have hlast : entriesOf (operations ++ [operation]) =
          operation.onEntries (entriesOf operations) := by
        rw [entriesOf, List.foldl_append]
        rfl
      rw [hlast, List.filterMap_append]
      cases operation with
      | insert id item =>
          have hoffered : id ∈ (entriesOf operations).map Prod.fst ↔
              id ∈ operations.filterMap Operation.offered? := by
            rw [ih, List.mem_eraseDups]
          have hsingle : [Operation.insert id item].filterMap Operation.offered? = [id] := rfl
          rw [Operation.onEntries, hsingle, eraseDups_concat, ← ih]
          simp only [List.contains_iff_mem, hoffered]
          split
          · rfl
          · rw [List.map_append, List.map_singleton]
      | modify id change =>
          have hnone : [Operation.modify id change].filterMap Operation.offered? = [] := rfl
          rw [Operation.onEntries, map_fst_changeEntry, ih, hnone, List.append_nil]

/-- The arena is a map with these entries, in this order. -/
structure OrderedMap [Inhabited α] (arena : Arena kind α) (entries : List (Ident kind × α)) :
    Prop where
  /-- The taken identifiers are those of the entries, each of one entry. -/
  taken : (entries.map Prod.fst).Nodup ∧
    ∀ id, arena.contains id = true ↔ id ∈ entries.map Prod.fst
  /-- Just the taken identifiers have slots, and the slots are the numbers below the size. -/
  slots : arena.size = entries.length ∧
    ∀ id, arena.contains id = true ↔ ∃ slot < arena.size, arena.slot? id = some slot
  /-- Every slot is that of one identifier. -/
  identifiers : ∀ slot < arena.size, ∃! id, arena.slot? id = some slot
  /-- The current items are listed in the order of the entries. -/
  listed : arena.toList = entries.map Prod.snd
  /-- Looking an identifier up finds the item of its entry, or nothing if it has none. -/
  found : ∀ id, (∀ item, arena.get? id = some item ↔ (id, item) ∈ entries) ∧
    (arena.get? id = none ↔ id ∉ entries.map Prod.fst)
  /-- Following an identifier that is taken agrees with looking it up. -/
  followed : ∀ id, arena.contains id = true → arena.get? id = some (arena.resolve id)
  /-- An item offered under a taken identifier is handed back, and the arena stays as it is. -/
  handedBack : ∀ id item, arena.contains id = true →
    arena.insert id item = .error item ∧ arena.perform? (.insert id item) = some arena
  /-- An item offered under a free identifier takes the next slot. -/
  accepted : ∀ id item, arena.contains id = false → ∃ next,
    arena.insert id item = .ok (arena.size, next) ∧ next.toList = arena.toList ++ [item]
  /-- Changing the item under an identifier leaves the items under all others as they are, and all
  slots. -/
  changed : ∀ id change next, arena.modify? id change = some next →
    next.get? id = (arena.get? id).map change ∧
      (∀ other, other ≠ id → next.get? other = arena.get? other) ∧
      ∀ other, next.slot? other = arena.slot? other

/-- Changing an item leaves all slots as they are. -/
theorem slot?_of_modify? {arena next : Arena kind α} {id : Ident kind} {change : α → α}
    (h : arena.modify? id change = some next) (other : Ident kind) :
    next.slot? other = arena.slot? other := by
  obtain ⟨slot, -, rfl⟩ := Option.map_eq_some_iff.mp h
  rfl

namespace Holds

variable {arena : Arena kind α} {entries : List (Ident kind × α)}

/-- Different identifiers have different slots. -/
theorem eq_of_slot? (h : arena.Holds entries) {id other : Ident kind} {slot : Nat}
    (hid : arena.slot? id = some slot) (hother : arena.slot? other = some slot) : other = id := by
  rw [h.slot?_iff] at hid hother
  rw [hid] at hother
  exact (Option.some.inj hother).symm

/-- Changing the item under an identifier leaves the items under all others as they are. -/
theorem get?_of_modify? (h : arena.Holds entries) {next : Arena kind α} {id : Ident kind}
    {change : α → α} (hnext : arena.modify? id change = some next) (other : Ident kind) :
    next.get? other = if other = id then (arena.get? id).map change else arena.get? other := by
  obtain ⟨slot, hslot, rfl⟩ := Option.map_eq_some_iff.mp hnext
  simp only [get?, slot?_of_modify? hnext, Array.getElem?_modify]
  by_cases hsame : other = id
  · subst hsame
    simp [hslot]
  · rw [if_neg hsame]
    cases hother : arena.slot? other with
    | none => rfl
    | some place =>
        have hne : slot ≠ place := by
          rintro rfl
          exact hsame (h.eq_of_slot? hslot hother)
        rw [Option.bind_some, Option.bind_some, if_neg hne]

/-- An arena is a map with the entries that it holds. -/
theorem orderedMap [Inhabited α] (h : arena.Holds entries) : arena.OrderedMap entries where
  taken := ⟨h.distinct, h.contains_iff⟩
  slots := by
    refine ⟨h.size_eq, fun id => ?_⟩
    rw [contains_eq_isSome_slot?, Option.isSome_iff_exists]
    exact exists_congr fun slot => (and_iff_right_of_imp (arena.slot_lt id.text slot)).symm
  identifiers := by
    intro slot hlt
    rw [h.size_eq] at hlt
    have hplace : (entries.map Prod.fst)[slot]? = some entries[slot].1 := by
      rw [List.getElem?_map, List.getElem?_eq_getElem hlt, Option.map_some]
    have hslot := (h.slot?_iff _ _).mpr hplace
    exact ⟨_, hslot, fun other hother => h.eq_of_slot? hslot hother⟩
  listed := h.toList_eq
  found := by
    intro id
    refine ⟨h.get?_iff id, ?_⟩
    rw [← h.contains_iff, contains_eq_isSome_get?]
    simp
  followed id hid := get?_eq_some_resolve hid
  handedBack := by
    intro id item hid
    have hinsert := h.insert_taken item ((h.contains_iff id).mp hid)
    exact ⟨hinsert, by rw [perform?, hinsert]⟩
  accepted := by
    intro id item hid
    have hfree : id ∉ entries.map Prod.fst := by
      rw [← h.contains_iff, hid]
      exact Bool.false_ne_true
    obtain ⟨next, hinsert, hnext⟩ := h.insert_free item hfree
    refine ⟨next, hinsert, ?_⟩
    rw [hnext.toList_eq, h.toList_eq, List.map_append, List.map_singleton]
  changed := by
    intro id change next hnext
    refine ⟨?_, fun other hother => ?_, slot?_of_modify? hnext⟩
    · rw [h.get?_of_modify? hnext, if_pos rfl]
    · rw [h.get?_of_modify? hnext, if_neg hother]

end Holds

/-- Whatever is done to an arena from the empty one on, it stays a map in the order of acceptance:
it has the entries that the same operations leave on a plain list, in the order in which their
identifiers were offered first. Only an operation that changes what is not there leads nowhere. -/
theorem orderedMap_of_run [Inhabited α] (operations : List (Operation kind α)) :
    (∀ arena, (empty : Arena kind α).run? operations = some arena →
      arena.OrderedMap (entriesOf operations)) ∧
    (entriesOf operations).map Prod.fst =
      (operations.filterMap Operation.offered?).eraseDups ∧
    ((empty : Arena kind α).run? operations = none ↔
      ∃ earlier id change later, operations = earlier ++ .modify id change :: later ∧
        id ∉ (entriesOf earlier).map Prod.fst) := by
  refine ⟨fun arena hrun => (holds_empty.of_run? hrun).orderedMap,
    map_fst_entriesOf operations, ?_⟩
  rw [holds_empty.run?_eq_none_iff]
  constructor
  · rintro ⟨earlier, operation, later, hsplit, hnot⟩
    cases operation with
    | insert id item => exact absurd trivial hnot
    | modify id change => exact ⟨earlier, id, change, later, hsplit, hnot⟩
  · rintro ⟨earlier, id, change, later, hsplit, hnot⟩
    exact ⟨earlier, .modify id change, later, hsplit, hnot⟩

/-- The second field is handed back, and what is done to the first one later is done to the one that
was accepted. -/
example :
    ((empty : Arena .field (List Nat)).run?
      [.insert ⟨".M:a"⟩ [1], .insert ⟨".M:b"⟩ [2], .insert ⟨".M:a"⟩ [3],
        .modify ⟨".M:a"⟩ (4 :: ·)]).map toList = some [[4, 1], [2]] := by
  decide +kernel

end Arena

end LinkedSchema
