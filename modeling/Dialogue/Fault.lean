/-
**What can go wrong.**

* `CategoryFault`: a category that cannot be stored;
* `Interruption`: a limit that ends the present turn;
* `FileFault`, `LoadFault`: a resource that cannot be read.

Each fault has its wording in one place, the function `message` of its type.
-/

import Dialogue.Numeral
import Dialogue.Text.Quoted

namespace Dialogue

/-- Why a definition gives no category. -/
inductive CategoryFault where
  /-- Nothing of the pattern counts. -/
  | emptyPattern (pattern : String)
deriving DecidableEq, Repr

def CategoryFault.message : CategoryFault → String
  | .emptyPattern pattern => "empty pattern " ++ Text.quote pattern

/-- The wording used where a lesson gives no category for a given reason. -/
def malformedLessonMessage (reason : String) : String := "malformed learn category: " ++ reason

/-- The wording used where a map is called that does not exist. -/
def unknownMapMessage (name : String) : String := "unknown map function: " ++ name

/-- Why a turn ends without a response. -/
inductive Interruption where
  /-- Redirections are nested deeper than the limit. -/
  | redirectLimit (limit : Nat)
  /-- Conditions are evaluated again more often than the limit. -/
  | loopLimit (limit : Nat)
deriving DecidableEq, Repr

def Interruption.message : Interruption → String
  | .redirectLimit limit => "srai recursion limit of " ++ Numeral.writeNat limit ++ " exceeded"
  | .loopLimit limit => "condition loop limit of " ++ Numeral.writeNat limit ++ " exceeded"

/-- Why a file gives no text. -/
inductive FileFault where
  /-- There is nothing under the path. -/
  | missing
  /-- The path is a directory. -/
  | isDirectory
  /-- A part of the path before its end is a file. -/
  | notDirectory
  /-- The path, or a part of it, has too many bytes. -/
  | tooLong
  /-- The path holds the null character. -/
  | nullCharacter
  /-- The bytes are not the UTF-8 form of a text. -/
  | malformed
deriving DecidableEq, Repr

def FileFault.message : FileFault → String
  | .missing => "No such file or directory (os error 2)"
  | .isDirectory => "Is a directory (os error 21)"
  | .notDirectory => "Not a directory (os error 20)"
  | .tooLong => "File name too long (os error 36)"
  | .nullCharacter => "file name contained an unexpected NUL byte"
  | .malformed => "stream did not contain valid UTF-8"

/-- Why a resource gives no value. -/
inductive LoadFault where
  | file (fault : FileFault)
  /-- The text does not write a value of the wanted shape. -/
  | form
  /-- The text is readable and of no use. -/
  | resource (path : String) (reason : String)
deriving DecidableEq, Repr

def LoadFault.message (readerWords : String) : LoadFault → String
  | .file fault => "IO error: " ++ fault.message
  | .form => "JSON error: " ++ readerWords
  | .resource path reason => "Resource error in " ++ path ++ ": " ++ reason

end Dialogue
