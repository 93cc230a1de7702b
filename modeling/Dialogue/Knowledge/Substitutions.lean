/-
**Substitutions.**

A table of phrases is applied to a text in one pass over its words, from left to right: at each
place the longest phrase that starts there is replaced, and a word at which none starts is kept.
Phrases are compared in lower case, with single spaces between their words. A replacement takes on
the case of the words it stands for and is not looked at again.

* `PhraseTable.add`: a phrase with its replacement. The table knows how many words its longest
  phrase has, so that no more of them are looked up;
* `PhraseTable.longestRun?`: the longest phrase at the front of some words, by trying fewer and
  fewer words;
* `PhraseTable.replace`: the pass;
* `Substitutions.apply`: the pass through the table of a kind; without a table the text is as it
  was.
-/

import Dialogue.Table
import Dialogue.Template.Basic

namespace Dialogue

open Text

/-- Replacements of phrases, by the words of the phrase in lower case, joined by spaces. -/
structure PhraseTable where
  phrases : Table String String := []
  /-- The greatest number of words of a phrase. -/
  longest : Nat := 0
deriving DecidableEq, Repr

namespace PhraseTable

/-- The table with one more phrase; one without words is left out. -/
def add (table : PhraseTable) (phrase replacement : String) : PhraseTable :=
  let key := (words phrase).map lower
  if key.isEmpty then table
  else ⟨table.phrases.set (unwords key) replacement, max table.longest key.length⟩

/-- The replacement of some words, if they are a phrase. -/
def find? (table : PhraseTable) (words : List String) : Option String :=
  table.phrases.get? (lower (unwords words))

/-- The longest phrase among the first words of some, at most a number of them: how many words it
has, and its replacement. -/
def longestRun? (table : PhraseTable) (words : List String) : Nat → Option (Nat × String)
  | 0 => none
  | length + 1 =>
    match table.find? (words.take (length + 1)) with
    | some replacement => some (length + 1, replacement)
    | none => table.longestRun? words length

/-- The words with every phrase replaced. -/
def replace (table : PhraseTable) : List String → List String
  | [] => []
  | word :: rest =>
    let window := (word :: rest).take table.longest
    match table.longestRun? window window.length with
    | some (length, replacement) =>
      fitCase replacement (unwords (window.take length)) :: table.replace (rest.drop (length - 1))
    | none => word :: table.replace rest
termination_by words => words.length
decreasing_by
  · simp only [List.length_drop, List.length_cons]; omega
  · simp

end PhraseTable

/-- The tables of phrases of a bot. -/
structure Substitutions where
  tables : Table SubstitutionKind PhraseTable := []
deriving DecidableEq, Repr

namespace Substitutions

/-- The tables with phrases added to one of them, which is there from then on. -/
def extend (kind : SubstitutionKind) (entries : List (String × String))
    (substitutions : Substitutions) : Substitutions :=
  let table := (substitutions.tables.get? kind).getD {}
  ⟨substitutions.tables.set kind
    (entries.foldl (fun table entry => table.add entry.1 entry.2) table)⟩

/-- Whether there is a table of a kind. -/
def hasTable (substitutions : Substitutions) (kind : SubstitutionKind) : Bool :=
  substitutions.tables.has kind

/-- A text with the phrases of one table replaced. -/
def apply (substitutions : Substitutions) (kind : SubstitutionKind) (text : String) : String :=
  match substitutions.tables.get? kind with
  | none => text
  | some table => unwords (table.replace (words text))

end Substitutions

end Dialogue
