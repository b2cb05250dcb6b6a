import LinkedSchema.Json.Numeral

/-!
# Tokens

JSON text as a list of tokens. A token with a fault inside is still a token: whether the fault
matters depends on whether the token is used, skipped, or stands where something else is expected.
Text after a token that even skipping cannot pass is not split any further.

* `Piece`, `StringEnd`, `readPieces` — the inside of a string, escape by escape;
* `joinPieces` — the text of a string, where escapes of surrogate pairs become one character;
* `Token`, `Token.next?`, `Token.ofText` — the tokens of a text.
-/

namespace LinkedSchema.Json

/-- One character of a string, or one escape by a UTF-16 code unit. -/
inductive Piece
  | char (c : Char)
  | unit (code : Nat)
deriving DecidableEq, Repr

/-- How a string ends, with the text behind a closing quote. -/
inductive StringEnd
  | closed (rest : List Char)
  | cut
  | control
  /-- A backslash before a character that no escape starts with. -/
  | badEscape
  /-- An escape by a code unit without four hexadecimal digits. -/
  | badUnit

/-- The value of a hexadecimal digit of either case. -/
def hexValue? (c : Char) : Option Nat :=
  if c.isDigit then some (digitValue c)
  else if 'a' ≤ c && c ≤ 'f' then some (c.toNat - 'a'.toNat + 10)
  else if 'A' ≤ c && c ≤ 'F' then some (c.toNat - 'A'.toNat + 10)
  else none

/-- The number that four hexadecimal digits write. -/
def hexUnit? (a b c d : Char) : Option Nat := do
  return ((← hexValue? a) * 16 + (← hexValue? b)) * 256 + (← hexValue? c) * 16 + (← hexValue? d)

/-- The character that a one-letter escape stands for. -/
def escaped? : Char → Option Char
  | '"' => some '"'
  | '\\' => some '\\'
  | '/' => some '/'
  | 'b' => some '\x08'
  | 'f' => some '\x0c'
  | 'n' => some '\n'
  | 'r' => some '\r'
  | 't' => some '\t'
  | _ => none

/-- The bytes that a text takes in UTF-8. -/
def byteLength (cs : List Char) : Nat :=
  cs.foldl (fun total c => total + c.utf8Size) 0

/-- Reads the inside of a string behind its opening quote. `before` holds the pieces read so far,
last first. An escape by code unit needs four more bytes, so one that breaks off within them is cut
short and not merely wrong. -/
def readPieces (before : List Piece) : List Char → List Piece × StringEnd
  | [] => (before.reverse, .cut)
  | '"' :: rest => (before.reverse, .closed rest)
  | ['\\'] => (before.reverse, .cut)
  | '\\' :: 'u' :: a :: b :: c :: d :: rest =>
      match hexUnit? a b c d with
      | some code => readPieces (.unit code :: before) rest
      | none => (before.reverse, .badUnit)
  | '\\' :: 'u' :: rest =>
      (before.reverse, if byteLength rest < 4 then .cut else .badUnit)
  | '\\' :: letter :: rest =>
      match escaped? letter with
      | some c => readPieces (.char c :: before) rest
      | none => (before.reverse, .badEscape)
  | c :: rest =>
      if c < ' ' then (before.reverse, .control)
      else readPieces (.char c :: before) rest

/-- The fault of a string that does not close. -/
def StringEnd.fault? : StringEnd → Option Fault
  | .closed _ => none
  | .cut => some .endInString
  | .control => some .controlCharacter
  | .badEscape | .badUnit => some .invalidEscape

/-- The fault of a first surrogate half with nothing of the string behind it. A second half could
still have stood where the text is cut, or where a code unit is written wrongly. -/
def StringEnd.faultInPair : StringEnd → Fault
  | .cut => .endInString
  | .badUnit => .invalidEscape
  | .closed _ | .control | .badEscape => .unfinishedSurrogate

/-- The characters that the pieces of a string write, first to last. -/
def joinPieces (before : List Char) : List Piece → StringEnd → Except Fault (List Char)
  | [], ending =>
      match ending.fault? with
      | none => .ok before.reverse
      | some fault => .error fault
  | .char c :: pieces, ending => joinPieces (c :: before) pieces ending
  | .unit code :: pieces, ending =>
      if 0xDC00 ≤ code && code ≤ 0xDFFF then .error .loneSurrogate
      else if code < 0xD800 || 0xDFFF < code then
        joinPieces (Char.ofNat code :: before) pieces ending
      else
        match pieces with
        | [] => .error ending.faultInPair
        | .char _ :: _ => .error .unfinishedSurrogate
        | .unit second :: pieces =>
            if 0xDC00 ≤ second && second ≤ 0xDFFF then
              let joined := (code - 0xD800) * 0x400 + (second - 0xDC00) + 0x10000
              joinPieces (Char.ofNat joined :: before) pieces ending
            else .error .loneSurrogate

/-- Reads a string behind its opening quote, and returns what follows. -/
def readString (cs : List Char) : Scalar String × List Char :=
  let (pieces, ending) := readPieces [] cs
  let used := (joinPieces [] pieces ending).map String.ofList
  match ending with
  | .closed rest => (⟨used, .ok ()⟩, rest)
  | ending => (⟨used, .error (ending.fault?.getD .endInString)⟩, [])

/-- The words and marks of JSON. -/
inductive Token
  | openList
  | closeList
  | openObject
  | closeObject
  | comma
  | colon
  | null
  | bool (value : Bool)
  | number (value : Scalar Number)
  | string (value : Scalar String)
  /-- A word that is none of the three. -/
  | misspelt (fault : Fault)
  /-- A character that starts no token. -/
  | stray

/-- Reads the remaining letters of a word. -/
def readWord (token : Token) : List Char → List Char → Token × List Char
  | [], rest => (token, rest)
  | _ :: _, [] => (.misspelt .endInValue, [])
  | letter :: letters, c :: rest =>
      if c = letter then readWord token letters rest else (.misspelt .expectedWord, [])

/-- The blank characters between tokens. -/
def isBlank (c : Char) : Bool :=
  c == ' ' || c == '\n' || c == '\t' || c == '\r'

/-- The token that starts with `c`, and what follows it. -/
def Token.startingWith (c : Char) (rest : List Char) : Token × List Char :=
  match c with
  | '[' => (.openList, rest)
  | ']' => (.closeList, rest)
  | '\x7b' => (.openObject, rest)
  | '\x7d' => (.closeObject, rest)
  | ',' => (.comma, rest)
  | ':' => (.colon, rest)
  | '"' => let (s, rest) := readString rest; (.string s, rest)
  | '-' => let (n, rest) := Numeral.read true rest; (.number n, rest)
  | 'n' => readWord .null ['u', 'l', 'l'] rest
  | 't' => readWord (.bool true) ['r', 'u', 'e'] rest
  | 'f' => readWord (.bool false) ['a', 'l', 's', 'e'] rest
  | c =>
      if c.isDigit then let (n, rest) := Numeral.read false (c :: rest); (.number n, rest)
      else (.stray, rest)

theorem readPieces_length_le {before pieces : List Piece} {cs rest : List Char}
    (h : readPieces before cs = (pieces, .closed rest)) : rest.length ≤ cs.length := by
  fun_induction readPieces before cs <;> try simp only [List.length_cons]
  all_goals grind

theorem readString_length_le (cs : List Char) : (readString cs).2.length ≤ cs.length := by
  unfold readString
  rcases h : readPieces [] cs with ⟨pieces, ending⟩
  cases ending <;> simp
  exact readPieces_length_le h

theorem readWord_length_le (token : Token) (letters rest : List Char) :
    (readWord token letters rest).2.length ≤ rest.length := by
  fun_induction readWord token letters rest with
  | case1 => exact Nat.le_refl _
  | case2 => exact Nat.le_refl _
  | case3 _ _ _ ih => exact Nat.le_succ_of_le ih
  | case4 => exact Nat.zero_le _

theorem Token.startingWith_length_le (c : Char) (rest : List Char) :
    (Token.startingWith c rest).2.length ≤ rest.length := by
  unfold Token.startingWith
  split
  case h_7 => exact readString_length_le rest
  case h_8 => exact Nat.le_trans (Numeral.read_length_le true rest) (spanDigits_length_le rest)
  case h_9 | h_10 | h_11 => exact readWord_length_le _ _ rest
  case h_12 =>
    split
    · rename_i isDigit
      -- the digit that has been seen belongs to the numeral, so what follows lies in `rest`
      have := Numeral.read_length_le false (c :: rest)
      simp only [spanDigits, List.dropWhile_cons, isDigit, if_true] at this
      exact Nat.le_trans this (spanDigits_length_le rest)
    · exact Nat.le_refl _
  all_goals exact Nat.le_refl _

/-- The tokens of a text; `before` holds those read so far, last first. -/
def Token.ofChars (before : List Token) (cs : List Char) : List Token :=
  match cs with
  | [] => before.reverse
  | c :: rest =>
      if isBlank c then Token.ofChars before rest
      else Token.ofChars ((startingWith c rest).1 :: before) (startingWith c rest).2
termination_by cs.length
decreasing_by
  · simp
  · exact Nat.lt_succ_of_le (startingWith_length_le c rest)

/-- The tokens of a text. -/
def Token.ofText (text : String) : List Token :=
  Token.ofChars [] text.toList

end LinkedSchema.Json
