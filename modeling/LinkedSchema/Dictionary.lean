/-!
# Dictionaries

A finite map from text keys, kept as a list of entries in ascending key order. Keys are compared by
code points, which is also the order of their UTF-8 bytes. Two dictionaries with the same bindings
are equal, because the order of the entries leaves no choice.

* `Dictionary` — the entries with their order;
* `Dictionary.insert`, `Dictionary.get?`, `Dictionary.ofList` — a later binding replaces an earlier;
* `Dictionary.get?_insert_self`, `Dictionary.get?_insert_of_ne` — what an insertion does to lookups.
-/

namespace LinkedSchema

/-- Entries in ascending key order, so that no key occurs twice. -/
structure Dictionary (α : Type) where
  entries : List (String × α)
  ascending : entries.Pairwise (fun a b => a.1 < b.1)

namespace Dictionary

variable {α β : Type}

/-- The dictionary without entries. -/
def empty : Dictionary α := ⟨[], .nil⟩

instance : Inhabited (Dictionary α) := ⟨empty⟩

instance [DecidableEq α] : DecidableEq (Dictionary α) := fun a b =>
  decidable_of_iff (a.entries = b.entries) (by cases a; cases b; simp)

/-- Puts an entry at its place, replacing the entry that has the key already. -/
def insertEntry (key : String) (value : α) : List (String × α) → List (String × α)
  | [] => [(key, value)]
  | entry :: rest =>
      if key < entry.1 then (key, value) :: entry :: rest
      else if key = entry.1 then (key, value) :: rest
      else entry :: insertEntry key value rest

theorem mem_insertEntry {key : String} {value : α} {entry : String × α}
    {entries : List (String × α)} (h : entry ∈ insertEntry key value entries) :
    entry = (key, value) ∨ entry ∈ entries := by
  induction entries with
  | nil => simpa [insertEntry] using h
  | cons head rest ih =>
      unfold insertEntry at h
      split at h
      · simpa using h
      · split at h
        · rcases List.mem_cons.1 h with h | h
          · exact .inl h
          · exact .inr (List.mem_cons_of_mem _ h)
        · rcases List.mem_cons.1 h with h | h
          · exact .inr (h ▸ List.mem_cons_self)
          · exact (ih h).imp id (List.mem_cons_of_mem _)

theorem pairwise_insertEntry {key : String} {value : α} {entries : List (String × α)}
    (h : entries.Pairwise (fun a b => a.1 < b.1)) :
    (insertEntry key value entries).Pairwise (fun a b => a.1 < b.1) := by
  induction entries with
  | nil => simp [insertEntry]
  | cons head rest ih =>
      obtain ⟨headFirst, restAscending⟩ := List.pairwise_cons.1 h
      unfold insertEntry
      split
      · rename_i keyFirst
        refine List.pairwise_cons.2 ⟨fun entry mem => ?_, h⟩
        rcases List.mem_cons.1 mem with rfl | mem
        · exact keyFirst
        · exact String.lt_trans keyFirst (headFirst entry mem)
      · split
        · rename_i same
          exact List.pairwise_cons.2 ⟨fun entry mem => same ▸ headFirst entry mem, restAscending⟩
        · rename_i notFirst notSame
          refine List.pairwise_cons.2 ⟨fun entry mem => ?_, ih restAscending⟩
          rcases mem_insertEntry mem with rfl | mem
          · have reached := String.not_lt.1 notFirst
            refine Decidable.byContradiction fun notLater => ?_
            exact notSame (String.le_antisymm (String.not_lt.1 notLater) reached)
          · exact headFirst entry mem

/-- Binds a key, replacing what it was bound to. -/
def insert (dictionary : Dictionary α) (key : String) (value : α) : Dictionary α :=
  ⟨insertEntry key value dictionary.entries, pairwise_insertEntry dictionary.ascending⟩

/-- What a key is bound to. -/
def get? (dictionary : Dictionary α) (key : String) : Option α :=
  dictionary.entries.lookup key

/-- Whether a key is bound. -/
def contains (dictionary : Dictionary α) (key : String) : Bool :=
  (dictionary.get? key).isSome

/-- Whether no key is bound. -/
def isEmpty (dictionary : Dictionary α) : Bool :=
  dictionary.entries.isEmpty

/-- The bindings of a list, where the last binding of a key counts. -/
def ofList (entries : List (String × α)) : Dictionary α :=
  entries.foldl (fun dictionary entry => dictionary.insert entry.1 entry.2) empty

theorem lookup_insertEntry_self (key : String) (value : α) (entries : List (String × α)) :
    (insertEntry key value entries).lookup key = some value := by
  induction entries with
  | nil => simp [insertEntry]
  | cons head rest ih =>
      obtain ⟨first, bound⟩ := head
      unfold insertEntry
      split
      · simp
      · split
        · simp
        · rename_i notSame
          simpa [List.lookup_cons, beq_eq_false_iff_ne.2 notSame] using ih

theorem lookup_insertEntry_of_ne {key other : String} (value : α) (h : other ≠ key)
    (entries : List (String × α)) :
    (insertEntry key value entries).lookup other = entries.lookup other := by
  induction entries with
  | nil => simp [insertEntry, List.lookup_cons, beq_eq_false_iff_ne.2 h]
  | cons head rest ih =>
      obtain ⟨first, bound⟩ := head
      unfold insertEntry
      split
      · simp [List.lookup_cons, beq_eq_false_iff_ne.2 h]
      · split
        · rename_i same
          have same : key = first := same
          simp [List.lookup_cons, beq_eq_false_iff_ne.2 h, ← same]
        · simp only [List.lookup_cons, ih]

/-- An inserted key is bound to the inserted value. -/
@[simp]
theorem get?_insert_self (dictionary : Dictionary α) (key : String) (value : α) :
    (dictionary.insert key value).get? key = some value :=
  lookup_insertEntry_self key value dictionary.entries

/-- An insertion leaves the other keys alone. -/
theorem get?_insert_of_ne (dictionary : Dictionary α) {key other : String} (value : α)
    (h : other ≠ key) : (dictionary.insert key value).get? other = dictionary.get? other :=
  lookup_insertEntry_of_ne value h dictionary.entries

end Dictionary

end LinkedSchema
