import LinkedSchema.Text.Graphic

/-!
# Quoted text

The form in which messages show a piece of text that came from outside: between double quotes, with
every character that would be ambiguous or invisible written as an escape.

* `hexDigits` — lower-case hexadecimal digits without leading zeros;
* `quotedChar` — one character inside the quotes;
* `quoted` — the whole text.
-/

namespace LinkedSchema.Text

/-- Lower-case hexadecimal digits of a number, without leading zeros. -/
def hexDigits (n : Nat) : String :=
  String.ofList (Nat.toDigits 16 n)

/-- One character as it stands between the quotes. -/
def quotedChar (c : Char) : String :=
  if c == '"' then "\\\""
  else if c == '\\' then "\\\\"
  else if c == '\n' then "\\n"
  else if c == '\r' then "\\r"
  else if c == '\t' then "\\t"
  else if c == '\x00' then "\\0"
  else if isGraphic c then c.toString
  else "\\u\x7b" ++ hexDigits c.toNat ++ "\x7d"

/-- The text between double quotes, with escapes. -/
def quoted (s : String) : String :=
  "\"" ++ String.join (s.toList.map quotedChar) ++ "\""

end LinkedSchema.Text
