/-
**Reading values of a wanted shape.**

A decoder is given the number of arrays and objects that may still be entered and a value. The rules
for all shapes:

* an object of known members (`record`) ignores the members it does not know, refuses a known one
  that is given twice, and may also be written as the array of its members in order;
* a choice between names (`choice`) is the name itself where nothing belongs to it, or an object
  whose only member is the name; a name without content then has the value null;
* a whole number is written as digits only and fits into sixty-four bits;
* a string has a text, and so has every name of an object that is looked at.

What a record or a table ignores may be nested to any depth and hold any string.
-/

import Dialogue.Json.Reader

namespace Dialogue.Json

/-- A reader of values of one shape, given how many containers may still be entered. -/
abbrev Decoder (α : Type) := Nat → Json → Option α

/-- How many containers may lie around one another. -/
def maximumDepth : Nat := 127

/-- The value of a shape that a whole text writes. -/
def decode? {α : Type} (decoder : Decoder α) (text : String) : Option α :=
  (read? text).bind (decoder maximumDepth)

namespace Decoder

/-- A string with a text. -/
def string : Decoder String
  | _, .string text => text
  | _, _ => none

/-- One of the two truth values. -/
def bool : Decoder Bool
  | _, .bool value => some value
  | _, _ => none

/-- A whole number of at most sixty-four bits. -/
def nat : Decoder Nat
  | _, .number (.natural value) => if value < UInt64.size then some value else none
  | _, _ => none

/-- The same as a word of sixty-four bits. -/
def word : Decoder UInt64 := fun room value => (nat room value).map UInt64.ofNat

/-- The image of what a decoder reads. -/
def map {α β : Type} (image : α → β) (decoder : Decoder α) : Decoder β := fun room value =>
  (decoder room value).map image

/-- Null, or a value of a shape. -/
def option {α : Type} (decoder : Decoder α) : Decoder (Option α)
  | _, .null => some none
  | room, value => (decoder room value).map some

/-- An array of values of a shape. -/
def list {α : Type} (decoder : Decoder α) : Decoder (List α)
  | room + 1, .array items => items.mapM (decoder room)
  | _, _ => none

/-- The members of an object, all of whose names have a text. -/
def members? (members : List (Option String × Json)) : Option (List (String × Json)) :=
  members.mapM fun member => member.1.map fun name => (name, member.2)

/-- An object as a list of names and values of a shape, in order. -/
def table {α : Type} (decoder : Decoder α) : Decoder (List (String × α))
  | room + 1, .object members => do
    let members ← members? members
    members.mapM fun member => (decoder room member.2).map fun value => (member.1, value)
  | _, _ => none

/-! ### Records -/

/-- The known members of an object that are given, and how many containers may still be entered
inside them. -/
structure Record where
  given : List (String × Json)
  room : Nat

/-- The members with the given names. Each may be given once; others are ignored. -/
def record? (names : List String) : Nat → Json → Option Record
  | room + 1, .object members => do
    let members ← members? members
    let known := members.filter fun member => names.contains member.1
    guard (known.map Prod.fst).Nodup
    pure ⟨known, room⟩
  | room + 1, .array items => do
    guard (items.length ≤ names.length)
    pure ⟨names.zip items, room⟩
  | _, _ => none

/-- The value of a member that has to be there. -/
def Record.required {α : Type} (record : Record) (name : String) (decoder : Decoder α) : Option α :=
  (record.given.lookup name).bind (decoder record.room)

/-- The value of a member, and a default if it is missing. -/
def Record.optional {α : Type} (record : Record) (name : String) (decoder : Decoder α)
    (default : α) : Option α :=
  match record.given.lookup name with
  | none => some default
  | some value => decoder record.room value

/-! ### Choices -/

/-- One of several names: `plain` gives the meanings of those without content, `filled` the shapes
of the contents of the others. -/
def choice {α : Type} (plain : List (String × α)) (filled : List (String × Decoder α)) : Decoder α
  | _, .string (some name) => plain.lookup name
  | room + 1, .object [(some name, content)] =>
    match plain.lookup name, content with
    | some value, .null => some value
    | some _, _ => none
    | none, content => (filled.lookup name).bind fun decoder => decoder room content
  | _, _ => none

end Decoder

end Dialogue.Json
