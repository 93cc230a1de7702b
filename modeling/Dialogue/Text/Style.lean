/-
**Styles that a template can give to a text.**

* `Style.apply`: upper case, lower case, every word capitalised, the first letter capitalised, or
  every visible character spaced out;
* `fitCase`: how a replacement takes on the letter case of the words it replaces. A replacement that
  is not all in lower case keeps its own.
-/

import Dialogue.Text.Blank
import Dialogue.Text.Casing

namespace Dialogue.Text

/-- A change of the characters of a text. -/
inductive Style where
  | uppercase
  | lowercase
  /-- Every word capitalised. -/
  | formal
  /-- The first letter raised and the rest lowered. -/
  | sentence
  /-- One space between any two characters. -/
  | explode
deriving DecidableEq, Repr

/-- The text in a style. -/
def Style.apply : Style → String → String
  | .uppercase, text => upper text
  | .lowercase, text => lower text
  | .formal, text => unwords ((words text).map capitalize)
  | .sentence, text => capitalize (trimStart text)
  | .explode, text =>
    unwords ((text.toList.filter fun c => !isBlank c).map fun c => String.ofList [c])

/-! ### The case of a replacement -/

/-- Whether some character is of lower or upper case. -/
def hasCase (text : String) : Bool := text.toList.any fun c => isSmall c || isCapital c

/-- Whether a text has case and no capital. -/
def isAllSmall (text : String) : Bool := hasCase text && !text.toList.any isCapital

/-- Whether a text has case and no small letter. -/
def isAllCapital (text : String) : Bool := hasCase text && !text.toList.any isSmall

/-- Whether the letters of a word, if any, are one capital followed by no other. -/
def startsCapital (word : String) : Bool :=
  match word.toList.filter isLetter with
  | [] => true
  | first :: others => isCapital first && !others.any isCapital

/-- Whether a text has case and each of its words starts with its only capital. -/
def isTitled (text : String) : Bool := hasCase text && (words text).all startsCapital

/-- A word with its first character raised and the others kept. -/
def raiseFirst (word : String) : String :=
  match word.toList with
  | [] => ""
  | first :: others => String.ofList (raiseChar first ++ others)

/-- A replacement in the case of the text it stands for. -/
def fitCase (replacement replaced : String) : String :=
  if !isAllSmall replacement then replacement
  else if isTitled replaced then unwords ((words replacement).map raiseFirst)
  else if isAllCapital replaced then upper replacement
  else replacement

end Dialogue.Text
