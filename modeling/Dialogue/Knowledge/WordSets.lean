/-
**Word sets.**

* `WordSets.extend`: members are added under the canonical name of a set, each as the key of its
  trimmed text; a member without a key is left out;
* `WordSets.contains`: membership of a key. Two sets are known without any members, the integers of
  sixty-four bits and the real numerals; a set of one of these names that was extended takes its
  place.
-/

import Dialogue.Numeral
import Dialogue.Table
import Dialogue.Text.Name

namespace Dialogue

open Text

/-- Sets of words, by canonical name. -/
structure WordSets where
  sets : Table String (List String) := []
deriving DecidableEq, Repr

namespace WordSets

/-- The membership test of a set that needs no members. -/
def builtIn? (name : String) : Option (String → Bool) :=
  if name = "integers" then some fun word => (Numeral.readInt64? word).isSome
  else if name = "reals" then some Numeral.isRealNumeral
  else none

/-- A set with one more member, unless it has it or the member is empty. -/
def addMember (known : List String) (member : String) : List String :=
  if member.isEmpty || known.contains member then known else member :: known

/-- The sets with members added to one of them, which is there from then on. -/
def extend (key : String → String) (name : String) (members : List String) (words : WordSets) :
    WordSets :=
  let known := (words.sets.get? (canonical name)).getD []
  ⟨words.sets.set (canonical name) (members.foldl (fun known member =>
    addMember known (key (trim member))) known)⟩

/-- Whether there is a set of a name. -/
def hasSet (words : WordSets) (name : String) : Bool :=
  words.sets.has name || (builtIn? name).isSome

/-- Whether a word belongs to the set of a name. -/
def contains (words : WordSets) (name word : String) : Bool :=
  match words.sets.get? name with
  | some members => members.contains word
  | none => (builtIn? name).any fun test => test word

def size (words : WordSets) : Nat := words.sets.length

end WordSets

end Dialogue
