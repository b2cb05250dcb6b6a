import LinkedSchema.Ident
import Std.Data.TreeMap

/-!
# Arenas

The entities of one kind, by identifier and in the order in which they came. An identifier is taken
once: what is offered under a taken identifier is handed back and changes nothing.

The items stand in slots, and an index leads from the identifiers to the slots. That the index stays
among the slots is part of the type, so a lookup misses exactly where the identifier is not taken.

Changing an item in its place is an operation of arenas, but linking makes no use of it: items are
complete when they are added (see `LinkedSchema.Registration`), while the linker that is modelled adds
them with empty lists and fills these by such changes.

* `Arena` — the items and the index;
* `Arena.insert`, `Arena.modify?` — adding an item, and changing one in its place;
* `Arena.get?`, `Arena.contains`, `Arena.resolve`, `Arena.toList`, `Arena.size` — reading.
-/

namespace LinkedSchema

/-- Items by identifier, in the order of acceptance. -/
structure Arena (kind : Kind) (α : Type) where
  /-- The current items, in the order in which they were accepted. -/
  items : Array α
  /-- The slots of the items, by the texts of their identifiers. -/
  index : Std.TreeMap String Nat
  /-- Every slot in the index is taken. -/
  slot_lt : ∀ (text : String) (slot : Nat), index[text]? = some slot → slot < items.size

namespace Arena

variable {kind : Kind} {α : Type}

/-- The arena without items. -/
def empty : Arena kind α where
  items := #[]
  index := ∅
  slot_lt := by simp

instance : Inhabited (Arena kind α) := ⟨empty⟩

/-- The slot of the item under an identifier. -/
def slot? (arena : Arena kind α) (id : Ident kind) : Option Nat :=
  arena.index[id.text]?

/-- The item under an identifier. -/
def get? (arena : Arena kind α) (id : Ident kind) : Option α :=
  (arena.slot? id).bind fun slot => arena.items[slot]?

/-- Whether an identifier is taken. -/
def contains (arena : Arena kind α) (id : Ident kind) : Bool :=
  arena.index.contains id.text

/-- The item under an identifier that is known to be taken. -/
def resolve [Inhabited α] (arena : Arena kind α) (id : Ident kind) : α :=
  (arena.get? id).getD default

/-- The number of items. -/
def size (arena : Arena kind α) : Nat :=
  arena.items.size

/-- The items in the order of acceptance. -/
def toList (arena : Arena kind α) : List α :=
  arena.items.toList

/-- Adds an item under a free identifier, behind all others, and tells its slot. An item offered
under a taken identifier is handed back. -/
def insert (arena : Arena kind α) (id : Ident kind) (item : α) : Except α (Nat × Arena kind α) :=
  if arena.contains id then .error item
  else .ok (arena.size, {
    items := arena.items.push item
    index := arena.index.insert id.text arena.size
    slot_lt := by
      intro text slot h
      rw [Std.TreeMap.getElem?_insert] at h
      rw [Array.size_push]
      split at h
      · have hslot := Option.some.inj h
        unfold size at hslot
        omega
      · have hslot := arena.slot_lt text slot h
        omega })

/-- Changes the item under a taken identifier, in its place. -/
def modify? (arena : Arena kind α) (id : Ident kind) (change : α → α) : Option (Arena kind α) :=
  (arena.slot? id).map fun slot => {
    items := arena.items.modify slot change
    index := arena.index
    slot_lt := by
      intro text slot h
      rw [Array.size_modify]
      exact arena.slot_lt text slot h }

end Arena

end LinkedSchema
