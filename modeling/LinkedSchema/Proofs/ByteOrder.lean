import Mathlib.Data.List.Basic

/-!
# The order of texts

Dictionaries keep their keys in the order of texts, which compares code points. A character that comes
later has greater bytes, and no character begins with the bytes of another one, so that comparing the
bytes of two texts comes to the same.

* `utf8` — the bytes of a text;
* `utf8EncodeChar_append_lt` — how the bytes of two characters decide;
* `utf8_lt_utf8_iff` — the order of texts is that of their bytes.
-/

namespace LinkedSchema

/-- The bytes of a text. -/
def utf8 (text : String) : List UInt8 :=
  text.toUTF8.data.toList

theorem utf8_eq_flatMap (text : String) :
    utf8 text = text.toList.flatMap String.utf8EncodeChar := by
  have hbytes : text.toUTF8 = text.toList.utf8Encode := by
    rw [String.toUTF8_eq_toByteArray, ← String.toByteArray_ofList, String.ofList_toList]
  rw [utf8, hbytes, List.utf8Encode, List.data_toByteArray]

/-- Numbers of up to four digits to the base of 64 are compared digit by digit. -/
theorem digits_lt {v w : Nat} (h : v < w) :
    v / 262144 < w / 262144 ∨ v / 262144 = w / 262144 ∧
      (v / 4096 % 64 < w / 4096 % 64 ∨ v / 4096 % 64 = w / 4096 % 64 ∧
        (v / 64 % 64 < w / 64 % 64 ∨ v / 64 % 64 = w / 64 % 64 ∧ v % 64 < w % 64)) := by
  omega

/-- The order of two characters is decided by their bytes, whatever comes behind them. -/
theorem utf8EncodeChar_append_lt {c d : Char} (h : c < d) (rest more : List UInt8) :
    String.utf8EncodeChar c ++ rest < String.utf8EncodeChar d ++ more := by
  have hlt : c.val.toNat < d.val.toNat := h
  have hd : d.val.toNat < 0x110000 := by
    rcases d.valid with hlow | hhigh
    · have hlow : d.val.toNat < 0xd800 := hlow
      omega
    · exact hhigh.2
  have hdigits := digits_lt hlt
  -- The first byte grows with the number of bytes; where there are as many, the digits decide.
  fun_cases String.utf8EncodeChar c <;> fun_cases String.utf8EncodeChar d <;>
    simp (disch := omega) only [List.cons_append, List.nil_append, List.cons_lt_cons_iff,
      UInt8.lt_iff_toNat_lt, ← UInt8.toNat_inj, UInt8.toNat_ofNat', Nat.mod_eq_of_lt] <;>
    omega

theorem flatMap_utf8EncodeChar_lt {cs ds : List Char} (h : cs < ds) :
    cs.flatMap String.utf8EncodeChar < ds.flatMap String.utf8EncodeChar := by
  induction h with
  | @nil d ds =>
      rw [List.flatMap_nil, List.flatMap_cons]
      cases hbytes : String.utf8EncodeChar d with
      | nil => exact absurd hbytes String.utf8EncodeChar_ne_nil
      | cons byte bytes => exact List.nil_lt_cons _ _
  | cons _ ih =>
      rw [List.flatMap_cons, List.flatMap_cons]
      exact List.append_left_lt ih
  | rel h => exact utf8EncodeChar_append_lt h _ _

/-- Texts are ordered as their bytes are. -/
theorem utf8_lt_utf8_iff {s t : String} : utf8 s < utf8 t ↔ s < t := by
  rw [utf8_eq_flatMap, utf8_eq_flatMap]
  refine ⟨fun hbytes => ?_, fun hlt => flatMap_utf8EncodeChar_lt hlt⟩
  by_contra hnot
  have hle := String.not_lt.mp hnot
  -- A text that is not before another one is the same or behind it.
  by_cases heq : s = t
  · subst heq
    exact List.lt_irrefl _ hbytes
  · have hgt : t < s := by
      by_contra hnotGt
      exact heq (String.le_antisymm (String.not_lt.mp hnotGt) hle)
    exact List.lt_asymm hbytes (flatMap_utf8EncodeChar_lt hgt)

end LinkedSchema
