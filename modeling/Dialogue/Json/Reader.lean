/-
**Reading JSON.**

The reader accepts exactly the grammar of the format: no comments, no trailing commas, no leading
zeros, no raw control characters in strings, and nothing but blanks around the value. What depends
on the shape that is wanted (whether a number fits, how deep a value may nest, whether a string may
be half of a surrogate pair) is left to the decoder.

* `readText`, `readNumber`: the two kinds of token with a structure of their own;
* `readValue`: one value, with a bound on the number of steps;
* `read?`: the value of a whole text, for which the bound never matters.
-/

import Dialogue.Json.Value

namespace Dialogue.Json

/-- Whether a character may stand between tokens. -/
def isSpace (c : Char) : Bool := c == ' ' || c == '\n' || c == '\t' || c == '\r'

/-- A text without the blanks at its start. -/
def skipSpace (chars : List Char) : List Char := chars.dropWhile isSpace

/-! ### Strings -/

/-- A piece of a string: a character, or a unit of sixteen bits that was written in digits. -/
inductive Piece where
  | char (c : Char)
  | unit (value : Nat)
deriving DecidableEq, Repr

/-- The value of a hexadecimal digit. -/
def hexValue? (c : Char) : Option Nat :=
  if '0' ≤ c ∧ c ≤ '9' then some (c.toNat - '0'.toNat)
  else if 'a' ≤ c ∧ c ≤ 'f' then some (c.toNat - 'a'.toNat + 10)
  else if 'A' ≤ c ∧ c ≤ 'F' then some (c.toNat - 'A'.toNat + 10)
  else none

/-- The unit that four hexadecimal digits write. -/
def hexUnit? (a b c d : Char) : Option Nat := do
  let a ← hexValue? a
  let b ← hexValue? b
  let c ← hexValue? c
  let d ← hexValue? d
  pure (a * 4096 + b * 256 + c * 16 + d)

/-- The character that a letter after a backslash stands for. -/
def shortEscape? (c : Char) : Option Char :=
  if c = '"' then some '"'
  else if c = '\\' then some '\\'
  else if c = '/' then some '/'
  else if c = 'b' then some '\x08'
  else if c = 'f' then some '\x0c'
  else if c = 'n' then some '\n'
  else if c = 'r' then some '\r'
  else if c = 't' then some '\t'
  else none

/-- The pieces of a string after its opening quote, and the text after its closing one. -/
def readPieces : List Char → Option (List Piece × List Char)
  | [] => none
  | '"' :: rest => some ([], rest)
  | '\\' :: 'u' :: a :: b :: c :: d :: rest => do
    let unit ← hexUnit? a b c d
    let (pieces, rest) ← readPieces rest
    pure (.unit unit :: pieces, rest)
  | '\\' :: c :: rest => do
    let meant ← shortEscape? c
    let (pieces, rest) ← readPieces rest
    pure (.char meant :: pieces, rest)
  | c :: rest =>
    if c.toNat < 0x20 || c == '\\' then none
    else do
      let (pieces, rest) ← readPieces rest
      pure (.char c :: pieces, rest)

/-- The characters of a string, if every half of a surrogate pair meets its other half. -/
def joinPieces? : List Piece → Option (List Char)
  | [] => some []
  | .char c :: pieces => (joinPieces? pieces).map (c :: ·)
  | .unit high :: .unit low :: pieces =>
    if 0xd800 ≤ high ∧ high ≤ 0xdbff then
      if 0xdc00 ≤ low ∧ low ≤ 0xdfff then
        (joinPieces? pieces).map
          (Char.ofNat (0x10000 + (high - 0xd800) * 0x400 + (low - 0xdc00)) :: ·)
      else none
    else if 0xdc00 ≤ high ∧ high ≤ 0xdfff then none
    else (joinPieces? (.unit low :: pieces)).map (Char.ofNat high :: ·)
  | .unit value :: pieces =>
    if 0xd800 ≤ value ∧ value ≤ 0xdfff then none
    else (joinPieces? pieces).map (Char.ofNat value :: ·)

/-- The text of a string after its opening quote, and the text after its closing one. -/
def readText (chars : List Char) : Option (Option String × List Char) :=
  (readPieces chars).map fun found => ((joinPieces? found.1).map String.ofList, found.2)

/-! ### Numbers -/

/-- Whether a character is a decimal digit. -/
def isDigit (c : Char) : Bool := '0' ≤ c && c ≤ '9'

/-- The number that digits write. -/
def digitsValue (digits : List Char) : Nat :=
  digits.foldl (fun value digit => 10 * value + (digit.toNat - '0'.toNat)) 0

/-- The digits at the start of a text and the rest, if there is at least one digit. -/
def readDigits (chars : List Char) : Option (List Char × List Char) :=
  let digits := chars.takeWhile isDigit
  if digits.isEmpty then none else some (digits, chars.dropWhile isDigit)

/-- Digits without a superfluous zero in front. -/
def readWhole (chars : List Char) : Option (List Char × List Char) := do
  let (digits, rest) ← readDigits chars
  guard (digits.head? != some '0' || digits.length == 1)
  pure (digits, rest)

/-- A point with digits, or nothing. -/
def readFraction (chars : List Char) : Option (List Char × List Char) :=
  match chars with
  | '.' :: rest => (readDigits rest).map fun found => ('.' :: found.1, found.2)
  | _ => some ([], chars)

/-- The sign of an exponent, or nothing. -/
def readSign : List Char → List Char × List Char
  | '+' :: rest => (['+'], rest)
  | '-' :: rest => (['-'], rest)
  | rest => ([], rest)

def readExponent (chars : List Char) : Option (List Char × List Char) :=
  match chars with
  | mark :: rest =>
    if mark == 'e' || mark == 'E' then do
      let (sign, rest) := readSign rest
      let (digits, rest) ← readDigits rest
      pure (mark :: (sign ++ digits), rest)
    else some ([], chars)
  | [] => some ([], [])

/-- A number without its sign. -/
def readUnsigned (negative : Bool) (chars : List Char) : Option (Number × List Char) := do
  let (whole, rest) ← readWhole chars
  let (fraction, rest) ← readFraction rest
  let (exponent, rest) ← readExponent rest
  let number : Number :=
    if fraction.isEmpty && exponent.isEmpty then
      if negative then .negative (digitsValue whole) else .natural (digitsValue whole)
    else .decimal ((if negative then ['-'] else []) ++ whole ++ fraction ++ exponent)
  pure (number, rest)

def readNumber : List Char → Option (Number × List Char)
  | '-' :: rest => readUnsigned true rest
  | rest => readUnsigned false rest

/-! ### Values -/

mutual

/-- The value at the start of a text, after blanks, and the rest. -/
def readValue : Nat → List Char → Option (Json × List Char)
  | 0, _ => none
  | steps + 1, chars =>
    match skipSpace chars with
    | 'n' :: 'u' :: 'l' :: 'l' :: rest => some (.null, rest)
    | 't' :: 'r' :: 'u' :: 'e' :: rest => some (.bool true, rest)
    | 'f' :: 'a' :: 'l' :: 's' :: 'e' :: rest => some (.bool false, rest)
    | '"' :: rest => (readText rest).map fun found => (.string found.1, found.2)
    | '[' :: rest =>
      match skipSpace rest with
      | ']' :: rest => some (.array [], rest)
      | rest => (readItems steps rest).map fun found => (.array found.1, found.2)
    | '\x7b' :: rest =>
      match skipSpace rest with
      | '\x7d' :: rest => some (.object [], rest)
      | rest => (readMembers steps rest).map fun found => (.object found.1, found.2)
    | rest => (readNumber rest).map fun found => (.number found.1, found.2)

/-- At least one item, the end of the array, and the rest. -/
def readItems : Nat → List Char → Option (List Json × List Char)
  | 0, _ => none
  | steps + 1, chars => do
    let (item, rest) ← readValue steps chars
    match skipSpace rest with
    | ',' :: rest =>
      let (items, rest) ← readItems steps rest
      pure (item :: items, rest)
    | ']' :: rest => pure ([item], rest)
    | _ => none

/-- At least one member, the end of the object, and the rest. -/
def readMembers : Nat → List Char → Option (List (Option String × Json) × List Char)
  | 0, _ => none
  | steps + 1, chars =>
    match skipSpace chars with
    | '"' :: rest => do
      let (name, rest) ← readText rest
      match skipSpace rest with
      | ':' :: rest =>
        let (value, rest) ← readValue steps rest
        match skipSpace rest with
        | ',' :: rest =>
          let (members, rest) ← readMembers steps rest
          pure ((name, value) :: members, rest)
        | '\x7d' :: rest => pure ([(name, value)], rest)
        | _ => none
      | _ => none
    | _ => none

end

/-- The value that a whole text writes. -/
def read? (text : String) : Option Json := do
  let chars := text.toList
  let (value, rest) ← readValue (2 * chars.length + 2) chars
  guard (skipSpace rest).isEmpty
  pure value

end Dialogue.Json
