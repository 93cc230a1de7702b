/-
**Quoted text.**

A text is quoted between double quotes. The quote, the backslash, the four controls with a short
name and every character without a glyph of its own are escaped; all others stand for themselves.

* `escapeChar`: the written form of one character;
* `quote`: the written form of a text.
-/

import Dialogue.Text.GlyphTable

namespace Dialogue.Text

/-- Whether a character is one of the two halfwidth voicing marks, which extend the character before
them and yet stand in a cell of their own. -/
def isVoicingMark (c : Char) : Bool := c == '\uff9e' || c == '\uff9f'

/-- Whether a character has no visible form, or none apart from the character before it. -/
def isHidden (c : Char) : Bool :=
  inSpans invisibleSpans c.toNat || inSpans fillerSpans c.toNat ||
    (inSpans combiningSpans c.toNat && !isVoicingMark c)

/-- The code point in hexadecimal digits. -/
def hexDigits (code : Nat) : List Char := Nat.toDigits 16 code

/-- The written form of a character inside quotes. -/
def escapeChar (c : Char) : List Char :=
  if c = '\x00' then ['\\', '0']
  else if c = '\t' then ['\\', 't']
  else if c = '\r' then ['\\', 'r']
  else if c = '\n' then ['\\', 'n']
  else if c = '"' then ['\\', '"']
  else if c = '\\' then ['\\', '\\']
  else if isHidden c then ['\\', 'u', '\x7b'] ++ hexDigits c.toNat ++ ['\x7d']
  else [c]

/-- A text between quotes, with its hidden characters escaped. -/
def quote (text : String) : String :=
  String.ofList ('"' :: (text.toList.flatMap escapeChar ++ ['"']))

end Dialogue.Text
