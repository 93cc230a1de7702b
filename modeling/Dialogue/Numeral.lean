/-
**Numerals in decimal digits.**

* `readInteger?`: an optional sign and at least one digit, as an integer;
* `readBounded?`: the same between two bounds, ends included;
* `isRealNumeral`: an optional sign and then digits with an optional point and exponent, or one of
  the words for infinity and for "not a number" in any case;
* `decimalDigits`, `writeNat`, `writeInteger`: the canonical form of a number;
* `padded`: characters with zeros or blanks in front up to a width.
-/

namespace Dialogue.Numeral

/-- Whether a character is a decimal digit of ASCII. -/
def isDigit (c : Char) : Bool := '0' ≤ c && c ≤ '9'

/-- The value of a decimal digit. -/
def digitValue (c : Char) : Nat := c.toNat - '0'.toNat

/-- The number written by digits, the most significant first. -/
def ofDigits (digits : List Char) : Nat :=
  digits.foldl (fun value digit => 10 * value + digitValue digit) 0

/-- A sign in front, if there is one, and the characters after it. -/
def splitSign : List Char → Bool × List Char
  | '-' :: rest => (true, rest)
  | '+' :: rest => (false, rest)
  | rest => (false, rest)

/-- The integer written by an optional sign and at least one digit. -/
def readInteger? (chars : List Char) : Option Int :=
  match splitSign chars with
  | (_, []) => none
  | (negative, digits) =>
    if digits.all isDigit then
      some (if negative then -(ofDigits digits : Int) else ofDigits digits)
    else none

/-- The integer written, if it lies between two bounds. -/
def readBounded? (least greatest : Int) (chars : List Char) : Option Int :=
  (readInteger? chars).filter fun value => least ≤ value && value ≤ greatest

/-- The least integer of 64 bits with sign. -/
def leastInt64 : Int := -9223372036854775808

/-- The greatest integer of 64 bits with sign. -/
def greatestInt64 : Int := 9223372036854775807

/-- The integer of 64 bits that a text writes. -/
def readInt64? (text : String) : Option Int := readBounded? leastInt64 greatestInt64 text.toList

/-- The integer of 32 bits that a text writes. -/
def readInt32? (text : String) : Option Int := readBounded? (-2147483648) 2147483647 text.toList

/-! ### Real numerals -/

/-- Whether the characters are an exponent, or there are none. -/
def isExponent : List Char → Bool
  | [] => true
  | mark :: rest =>
    let digits := (splitSign rest).2
    (mark == 'e' || mark == 'E') && !digits.isEmpty && digits.all isDigit

/-- Whether the characters are digits with an optional point, then an optional exponent. -/
def isDecimal (chars : List Char) : Bool :=
  let whole := chars.takeWhile isDigit
  match chars.dropWhile isDigit with
  | '.' :: rest =>
    !(whole.isEmpty && (rest.takeWhile isDigit).isEmpty) && isExponent (rest.dropWhile isDigit)
  | rest => !whole.isEmpty && isExponent rest

/-- The names of the values that have no digits, in lower case. -/
def namedReals : List String := ["inf", "infinity", "nan"]

/-- The lower-case form of an ASCII letter, and any other character as it is. -/
def lowerAscii (c : Char) : Char :=
  if 'A' ≤ c && c ≤ 'Z' then Char.ofNat (c.toNat + 32) else c

/-- Whether a text writes a real number. -/
def isRealNumeral (text : String) : Bool :=
  let unsigned := (splitSign text.toList).2
  isDecimal unsigned || namedReals.contains (String.ofList (unsigned.map lowerAscii))

/-! ### Writing -/

/-- The decimal digits of a number, the most significant first. -/
def decimalDigits (value : Nat) : List Char := Nat.toDigits 10 value

/-- Characters with copies of another one in front, up to a width. -/
def padded (fill : Char) (width : Nat) (chars : List Char) : List Char :=
  List.replicate (width - chars.length) fill ++ chars

/-- The decimal form of a natural number. -/
def writeNat (value : Nat) : String := String.ofList (decimalDigits value)

/-- The decimal form of an integer. -/
def writeInteger (value : Int) : String :=
  String.ofList ((if value < 0 then ['-'] else []) ++ decimalDigits value.natAbs)

end Dialogue.Numeral
