/-
**Values of the JSON data format.**

A value keeps what a reader of a particular shape needs to know about its text: whether a number is
written as an integer, the order and repetition of an object's members, and whether a string is
well formed. A string that escapes half of a surrogate pair has no text; it may stand only where a
value is skipped.
-/

namespace Dialogue

/-- A number as it is written. -/
inductive Json.Number where
  /-- Digits only. -/
  | natural (value : Nat)
  /-- A minus sign and digits, which may all be zero. -/
  | negative (magnitude : Nat)
  /-- Anything with a point or an exponent. -/
  | decimal (written : List Char)
deriving DecidableEq, Repr

/-- A value of the data format. -/
inductive Json where
  | null
  | bool (value : Bool)
  | number (value : Json.Number)
  | string (text : Option String)
  | array (items : List Json)
  | object (members : List (Option String × Json))
deriving Repr, Inhabited

namespace Json

/-- The string with a given text. -/
def ofText (text : String) : Json := .string (some text)

/-- The number with a given value. -/
def ofNat (value : Nat) : Json := .number (.natural value)

/-- The number with the value of a word of sixty-four bits. -/
def ofWord (value : UInt64) : Json := ofNat value.toNat

/-- The object with given members. -/
def ofMembers (members : List (String × Json)) : Json :=
  .object (members.map fun member => (some member.1, member.2))

/-- The value under a name and nothing else. -/
def tagged (name : String) (content : Json) : Json := ofMembers [(name, content)]

/-- The array of the images of a list. -/
def ofList {α : Type} (encode : α → Json) (items : List α) : Json := .array (items.map encode)

/-- The value of an option, and null for a missing one. -/
def ofOption {α : Type} (encode : α → Json) : Option α → Json
  | none => .null
  | some value => encode value

end Json

end Dialogue
