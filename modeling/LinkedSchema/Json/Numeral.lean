import LinkedSchema.Json.Error

/-!
# Numerals

The text of a number, split into its parts, and the value that a reader gives to it. An integer that
fits into sixty-four bits is kept exactly. Any other numeral becomes a binary64 number in two
roundings: the leading digits are gathered into a sixty-four bit significand, digits that no longer
fit are dropped, and the significand is multiplied or divided once by a power of ten.

* `Scalar` — a token that a reader may want to use or to skip, with the outcome of either;
* `Numeral`, `Numeral.read` — the parts of a number and their reading;
* `Numeral.value` — the number they denote, or `Fault.numberOutOfRange`.
-/

namespace LinkedSchema.Json

/-- A token with an inner structure. Using it needs more than skipping it: the skipped number may be
too large and the skipped text may hold half a surrogate pair. -/
structure Scalar (α : Type) where
  used : Except Fault α
  skipped : Except Fault Unit

/-- A scalar without a fault. -/
def Scalar.pure {α : Type} (value : α) : Scalar α :=
  ⟨.ok value, .ok ()⟩

/-- The parts of a numeral: digits by their values. -/
structure Numeral where
  negative : Bool
  whole : List Nat
  fraction : List Nat
  /-- Whether the exponent is negative, and its digits. -/
  exponent : Option (Bool × List Nat)
deriving DecidableEq, Repr

/-- The value of a digit character. -/
def digitValue (c : Char) : Nat :=
  c.toNat - '0'.toNat

/-- The digits at the start of a text, and what follows them. -/
def spanDigits (cs : List Char) : List Nat × List Char :=
  ((cs.takeWhile Char.isDigit).map digitValue, cs.dropWhile Char.isDigit)

/-- Where a numeral breaks off. A reader that uses it tells the end of the text from a wrong
character, a reader that skips it does not. -/
def brokenNumeral {α : Type} (rest : List Char) : Scalar α :=
  ⟨.error (if rest.isEmpty then .endInValue else .invalidNumber), .error .invalidNumber⟩

/-- The exponent part: at least one digit after the letter and an optional sign. -/
def readExponent (cs : List Char) : Option (Option (Bool × List Nat)) × List Char :=
  match cs with
  | c :: rest =>
      if c = 'e' || c = 'E' then
        let (negative, rest) := match rest with
          | '-' :: rest => (true, rest)
          | '+' :: rest => (false, rest)
          | rest => (false, rest)
        match spanDigits rest with
        | ([], rest) => (none, rest)
        | (digits, rest) => (some (some (negative, digits)), rest)
      else (some none, cs)
  | [] => (some none, [])

/-- The fraction part: at least one digit after the point. -/
def readFraction (cs : List Char) : Option (List Nat) × List Char :=
  match cs with
  | '.' :: rest =>
      match spanDigits rest with
      | ([], rest) => (none, rest)
      | (digits, rest) => (some digits, rest)
  | _ => (some [], cs)

/-- A significand stays below `2 ^ 64`. -/
def pushDigit? (significand digit : Nat) : Option Nat :=
  let next := significand * 10 + digit
  if next < UInt64.size then some next else none

/-- Gathers whole digits; once one does not fit, it and all that follow are only counted. -/
def gatherWhole (digits : List Nat) : Nat × Nat :=
  digits.foldl (fun (significand, dropped) digit =>
    if dropped > 0 then (significand, dropped + 1)
    else match pushDigit? significand digit with
      | some next => (next, 0)
      | none => (significand, 1)) (0, 0)

/-- Gathers fraction digits as long as they fit, and counts those that do. -/
def gatherFraction (significand : Nat) : List Nat → Nat × Nat
  | [] => (significand, 0)
  | digit :: digits =>
      match pushDigit? significand digit with
      | some next =>
          let (last, count) := gatherFraction next digits
          (last, count + 1)
      | none => (significand, 0)

/-- The value of exponent digits, if it stays within thirty-one bits. -/
def exponentValue? (digits : List Nat) : Option Nat :=
  digits.foldl (fun value? digit => value?.bind fun value =>
    let next := value * 10 + digit
    if next < 2147483648 then some next else none) (some 0)

/-- `value · 10 ^ exponent`, in steps that a power of ten can take. `none` beyond the range. -/
def scaleByTen (value : Float) (exponent : Int) : Option Float :=
  if 308 < exponent then
    if value == 0 then some value else none
  else if 0 ≤ exponent then
    let scaled := value * Float.ofScientific 1 false exponent.toNat
    if scaled.isInf then none else some scaled
  else if -308 ≤ exponent then
    some (value / Float.ofScientific 1 false exponent.natAbs)
  else if value == 0 then some value
  else scaleByTen (value / Float.ofScientific 1 false 308) (exponent + 308)
termination_by exponent.natAbs

/-- The real number with the given sign, or the fault of a number too large. -/
def signedReal (negative : Bool) (magnitude : Option Float) : Except Fault Number :=
  match magnitude with
  | none => .error .numberOutOfRange
  | some value => .ok (.real (if negative then -value else value).toBits)

/-- The number that a numeral denotes. Minus zero and a negative integer below `-2 ^ 63` are real. -/
def Numeral.value (n : Numeral) : Except Fault Number :=
  let (whole, dropped) := gatherWhole n.whole
  if n.fraction.isEmpty && n.exponent.isNone && dropped == 0 then
    if !n.negative then .ok (.integer whole)
    else if 0 < whole && whole ≤ 9223372036854775808 then .ok (.integer (-whole))
    else signedReal true (some whole.toUInt64.toFloat)
  else
    let (significand, taken) := gatherFraction whole n.fraction
    let magnitude := significand.toUInt64.toFloat
    let shift : Int := Int.ofNat dropped - Int.ofNat taken
    match n.exponent with
    | none => signedReal n.negative (scaleByTen magnitude shift)
    | some (false, digits) =>
        match exponentValue? digits with
        | some exponent => signedReal n.negative (scaleByTen magnitude (shift + exponent))
        | none => signedReal n.negative (if significand = 0 then some 0 else none)
    | some (true, digits) =>
        match exponentValue? digits with
        | some exponent => signedReal n.negative (scaleByTen magnitude (shift - exponent))
        | none => signedReal n.negative (some 0)

/-- Reads the longest numeral after an optional minus sign, and returns what follows. -/
def Numeral.read (negative : Bool) (cs : List Char) : Scalar Number × List Char :=
  match spanDigits cs with
  | ([], rest) => (brokenNumeral rest, [])
  | (0 :: _ :: _, _) => (⟨.error .invalidNumber, .error .invalidNumber⟩, [])
  | (whole, rest) =>
      match readFraction rest with
      | (none, rest) => (brokenNumeral rest, [])
      | (some fraction, rest) =>
          match readExponent rest with
          | (none, rest) => (brokenNumeral rest, [])
          | (some exponent, rest) =>
              (⟨(Numeral.mk negative whole fraction exponent).value, .ok ()⟩, rest)

/-! ## Reading never goes back -/

theorem spanDigits_length_le (cs : List Char) : (spanDigits cs).2.length ≤ cs.length :=
  (List.dropWhile_suffix Char.isDigit).length_le

theorem readFraction_length_le (cs : List Char) : (readFraction cs).2.length ≤ cs.length := by
  unfold readFraction
  repeat' split
  all_goals grind [spanDigits_length_le]

theorem readExponent_length_le (cs : List Char) : (readExponent cs).2.length ≤ cs.length := by
  unfold readExponent
  repeat' split
  all_goals grind [spanDigits_length_le]

theorem Numeral.read_length_le (negative : Bool) (cs : List Char) :
    (Numeral.read negative cs).2.length ≤ (spanDigits cs).2.length := by
  unfold Numeral.read
  repeat' split
  all_goals grind [readFraction_length_le, readExponent_length_le]

end LinkedSchema.Json
