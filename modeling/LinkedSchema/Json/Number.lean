import LinkedSchema.Decimal.Shortest

/-!
# Numbers

A JSON number is an integer if it is written as one and fits into sixty-four bits, signed or
unsigned; every other number is a binary64 number. The two never mix: `1` and `1.0` are different.

* `Number` — the two forms;
* `Number.text` — the text of a number, with the fewest digits that read back.
-/

namespace LinkedSchema.Json

/-- A number as it is kept after reading. -/
inductive Number
  /-- From `-2 ^ 63` to `2 ^ 64 - 1`. -/
  | integer (value : Int)
  /-- A finite binary64 number, by its bits, so that equal values are equal terms. -/
  | real (bits : UInt64)
deriving DecidableEq, Repr, Inhabited

/-- Decimal exponents of the first digit from which and up to which a real is written without an
exponent. -/
def positionalFrom : Int := -5

@[inherit_doc positionalFrom]
def positionalTo : Int := 15

/-- The real `0.d₁…dₙ · 10 ^ point`. A positional text always has a decimal point; an exponent has a
sign and no leading zeros. -/
def decimalText (digits : List Char) (point : Int) : String :=
  let leading := point - 1
  String.ofList <|
    if positionalFrom ≤ leading && leading ≤ positionalTo then
      if point ≤ 0 then
        '0' :: '.' :: (List.replicate (-point).toNat '0' ++ digits)
      else if digits.length ≤ point.toNat then
        digits ++ List.replicate (point.toNat - digits.length) '0' ++ ['.', '0']
      else
        digits.take point.toNat ++ '.' :: digits.drop point.toNat
    else
      let fraction := if digits.length ≤ 1 then [] else '.' :: digits.drop 1
      let sign := if leading < 0 then '-' else '+'
      digits.take 1 ++ fraction ++ 'e' :: sign :: Nat.toDigits 10 leading.natAbs

/-- The text of a number. A real always shows that it is one. -/
def Number.text : Number → String
  | .integer value => toString value
  | .real bits =>
      let sign := if 9223372036854775808 ≤ bits.toNat then "-" else ""
      let magnitude := Decimal.Magnitude.ofBits bits
      if magnitude.mantissa = 0 then sign ++ "0.0"
      else
        let (digits, point) := Decimal.shortest magnitude
        sign ++ decimalText digits point

end LinkedSchema.Json
