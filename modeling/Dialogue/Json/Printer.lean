/-
**Writing JSON.**

The written form has no blanks. In a string the quote, the backslash and the controls are escaped,
by a letter where one exists.
-/

import Dialogue.Json.Value

namespace Dialogue.Json

/-- The hexadecimal digit of a number below sixteen. -/
def hexDigit (value : Nat) : Char := Nat.digitChar value

/-- The written form of a character inside a string. -/
def escape (c : Char) : List Char :=
  if c = '"' then ['\\', '"']
  else if c = '\\' then ['\\', '\\']
  else if c = '\n' then ['\\', 'n']
  else if c = '\r' then ['\\', 'r']
  else if c = '\t' then ['\\', 't']
  else if c = '\x08' then ['\\', 'b']
  else if c = '\x0c' then ['\\', 'f']
  else if c.toNat < 0x20 then
    ['\\', 'u', '0', '0', hexDigit (c.toNat / 16), hexDigit (c.toNat % 16)]
  else [c]

/-- The written form of a string; one without text is half of a surrogate pair. -/
def writeText : Option String → List Char
  | some text => '"' :: (text.toList.flatMap escape ++ ['"'])
  | none => ['"', '\\', 'u', 'd', '8', '0', '0', '"']

def Number.write : Number → List Char
  | .natural value => Nat.toDigits 10 value
  | .negative magnitude => '-' :: Nat.toDigits 10 magnitude
  | .decimal written => written

mutual

def write : Json → List Char
  | .null => ['n', 'u', 'l', 'l']
  | .bool true => ['t', 'r', 'u', 'e']
  | .bool false => ['f', 'a', 'l', 's', 'e']
  | .number value => value.write
  | .string text => writeText text
  | .array [] => ['[', ']']
  | .array (item :: items) => '[' :: (write item ++ writeItems items)
  | .object [] => ['\x7b', '\x7d']
  | .object (member :: members) => '\x7b' :: (writeMember member ++ writeMembers members)

/-- The further items of an array and its end. -/
def writeItems : List Json → List Char
  | [] => [']']
  | item :: items => ',' :: (write item ++ writeItems items)

def writeMember : Option String × Json → List Char
  | (name, value) => writeText name ++ ':' :: write value

/-- The further members of an object and its end. -/
def writeMembers : List (Option String × Json) → List Char
  | [] => ['\x7d']
  | member :: members => ',' :: (writeMember member ++ writeMembers members)

end

def render (value : Json) : String := String.ofList (write value)

end Dialogue.Json
