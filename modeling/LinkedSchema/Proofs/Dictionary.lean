import LinkedSchema.Dictionary
import Mathlib.Data.List.Nodup

/-!
# Dictionaries by their lookups

A dictionary is known by what its keys are bound to. Whatever leaves the lookups as they are leaves the
dictionary as it is.

* `Dictionary.get?_eq_some_iff` — lookups in terms of entries;
* `Dictionary.ext_get?` — dictionaries with the same lookups are the same;
* `Dictionary.entries_ofList_perm`, `Dictionary.ofList_eq_of_perm` — a list without a key twice gives
  its entries, whatever their order;
* `Dictionary.restrict` — the bindings of some of the keys.
-/

namespace LinkedSchema

namespace Dictionary

variable {α : Type}

/-- In a list without a key twice the entries are what the keys are bound to. -/
theorem lookup_eq_some_iff_of_nodup {entries : List (String × α)}
    (h : (entries.map Prod.fst).Nodup) {key : String} {value : α} :
    entries.lookup key = some value ↔ (key, value) ∈ entries := by
  induction entries with
  | nil => simp
  | cons entry entries ih =>
      obtain ⟨first, bound⟩ := entry
      rw [List.map_cons, List.nodup_cons] at h
      rw [List.lookup_cons, List.mem_cons, Prod.mk.injEq]
      by_cases hkey : key = first
      · subst hkey
        have hnot : (key, value) ∉ entries := fun hmem =>
          h.1 (List.mem_map.mpr ⟨(key, value), hmem, rfl⟩)
        simp [hnot, eq_comm]
      · rw [beq_eq_false_iff_ne.mpr hkey]
        simp [hkey, ih h.2]

/-- Where no key is twice, keys are bound to the same whatever the order of the entries. -/
theorem lookup_eq_of_perm {entries other : List (String × α)} (hperm : other.Perm entries)
    (h : (entries.map Prod.fst).Nodup) (key : String) : other.lookup key = entries.lookup key := by
  have hother : (other.map Prod.fst).Nodup := (hperm.map Prod.fst).nodup_iff.mpr h
  refine Option.ext fun value => ?_
  rw [lookup_eq_some_iff_of_nodup h, lookup_eq_some_iff_of_nodup hother, hperm.mem_iff]

/-- No key occurs twice among the entries. -/
theorem nodup_keys (dictionary : Dictionary α) : (dictionary.entries.map Prod.fst).Nodup := by
  have hascending : (dictionary.entries.map Prod.fst).Pairwise (· < ·) :=
    List.pairwise_map.mpr dictionary.ascending
  refine hascending.imp fun {a b} hlt => ?_
  rintro rfl
  exact String.lt_irrefl a hlt

theorem get?_eq_some_iff (dictionary : Dictionary α) {key : String} {value : α} :
    dictionary.get? key = some value ↔ (key, value) ∈ dictionary.entries :=
  lookup_eq_some_iff_of_nodup dictionary.nodup_keys

/-- Dictionaries with the same lookups are the same. -/
theorem ext_get? {dictionary other : Dictionary α}
    (h : ∀ key, other.get? key = dictionary.get? key) : other = dictionary := by
  have hmem (entry : String × α) : entry ∈ other.entries ↔ entry ∈ dictionary.entries := by
    rw [← get?_eq_some_iff, ← get?_eq_some_iff, h]
  have hperm : other.entries.Perm dictionary.entries :=
    (List.perm_ext_iff_of_nodup (.of_map _ other.nodup_keys)
      (.of_map _ dictionary.nodup_keys)).mpr hmem
  -- Two orders in which the keys ascend are the same.
  have hentries : other.entries = dictionary.entries :=
    hperm.eq_of_pairwise (fun _ _ _ _ hlt hgt => absurd hgt (String.lt_asymm hlt))
      other.ascending dictionary.ascending
  cases other
  cases dictionary
  simp only at hentries
  subst hentries
  rfl

/-! ## Dictionaries from lists -/

/-- Entries are inserted without touching what other keys are bound to. -/
theorem get?_foldl_insert {entries : List (String × α)} (h : (entries.map Prod.fst).Nodup)
    (dictionary : Dictionary α) (key : String) :
    (entries.foldl (fun dictionary entry => dictionary.insert entry.1 entry.2) dictionary).get? key =
      (entries.lookup key).or (dictionary.get? key) := by
  induction entries generalizing dictionary with
  | nil => rfl
  | cons entry entries ih =>
      obtain ⟨first, bound⟩ := entry
      rw [List.map_cons, List.nodup_cons] at h
      rw [List.foldl_cons, ih h.2, List.lookup_cons]
      by_cases hkey : key = first
      · subst hkey
        have hnone : entries.lookup key = none := by
          refine Option.eq_none_iff_forall_not_mem.mpr fun value hvalue => h.1 ?_
          exact List.mem_map.mpr ⟨_, (lookup_eq_some_iff_of_nodup h.2).mp hvalue, rfl⟩
        simp [hnone]
      · rw [get?_insert_of_ne _ _ hkey, beq_eq_false_iff_ne.mpr hkey]

theorem get?_ofList {entries : List (String × α)} (h : (entries.map Prod.fst).Nodup)
    (key : String) : (ofList entries).get? key = entries.lookup key := by
  rw [ofList, get?_foldl_insert h]
  exact Option.or_none

/-- Where no key is written twice, the entries are those that are written. -/
theorem entries_ofList_perm {entries : List (String × α)} (h : (entries.map Prod.fst).Nodup) :
    (ofList entries).entries.Perm entries := by
  refine (List.perm_ext_iff_of_nodup (.of_map _ (nodup_keys _)) (.of_map _ h)).mpr fun entry => ?_
  rw [← get?_eq_some_iff, get?_ofList h, lookup_eq_some_iff_of_nodup h]

/-- Where no key is written twice, the order does not matter. -/
theorem ofList_eq_of_perm {entries other : List (String × α)} (hperm : other.Perm entries)
    (h : (entries.map Prod.fst).Nodup) : ofList other = ofList entries := by
  have hother : (other.map Prod.fst).Nodup := (hperm.map Prod.fst).nodup_iff.mpr h
  refine ext_get? fun key => ?_
  rw [get?_ofList h, get?_ofList hother, lookup_eq_of_perm hperm h]

/-! ## Restriction to some keys -/

/-- The bindings of the keys that are kept. -/
def restrict (keep : String → Bool) (dictionary : Dictionary α) : Dictionary α where
  entries := dictionary.entries.filter (keep ·.1)
  ascending := dictionary.ascending.filter _

variable (keep : String → Bool) (dictionary : Dictionary α)

theorem get?_restrict (key : String) :
    (dictionary.restrict keep).get? key = if keep key then dictionary.get? key else none := by
  refine Option.ext fun value => ?_
  rw [get?_eq_some_iff, restrict, List.mem_filter]
  split <;> simp [*, get?_eq_some_iff]

/-- The binding of a key that is not kept makes no difference. -/
theorem restrict_insert_of_not {key : String} (hkey : keep key = false) (value : α) :
    (dictionary.insert key value).restrict keep = dictionary.restrict keep := by
  refine ext_get? fun other => ?_
  rw [get?_restrict, get?_restrict]
  by_cases hother : other = key
  · rw [hother, hkey]
    rfl
  · rw [get?_insert_of_ne dictionary value hother]

end Dictionary

end LinkedSchema
