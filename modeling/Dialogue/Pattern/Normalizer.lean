/-
**Words as they are compared.**

A normalizer fixes, for the life of a bot, whether punctuation counts and whether case counts. Both
sides of a match go through it:

* `Normalizer.key`: the form of a word that is compared;
* `Normalizer.tokenize`: the words of an input, each with its key and the text a wildcard captures;
* `Normalizer.parsePattern`: the tokens of a pattern's text.

A word whose key would be empty is no word on either side: `key_ne_empty_of_mem_tokenize` says so
for the input, and the tokens of a pattern have a key or a name by their definition.
-/

import Dialogue.Pattern.Reference
import Dialogue.Pattern.Token
import Dialogue.Text.Sentence

namespace Dialogue

open Text

/-- What punctuation inside a word means. -/
inductive Punctuation where
  /-- It is dropped from patterns and input alike. -/
  | strip
  /-- It is part of the word. -/
  | literal
deriving DecidableEq, Repr

/-- How words are brought to the form that is compared. -/
structure Normalizer where
  punctuation : Punctuation := .strip
  caseSensitive : Bool := false
deriving DecidableEq, Repr

/-- A word of an input: `key` is compared, `text` is captured. -/
structure InputWord where
  key : String
  text : String
deriving DecidableEq, Repr

namespace Normalizer

/-- A word without the punctuation that does not count. -/
def cleanChars (normalizer : Normalizer) (chars : List Char) : List Char :=
  match normalizer.punctuation with
  | .strip => chars.filter fun c => !isPunctuation c
  | .literal => chars

/-- A word in the case that counts. -/
def foldChars (normalizer : Normalizer) (chars : List Char) : List Char :=
  if normalizer.caseSensitive then chars else lowerChars chars

/-- The form of a word that is compared; empty if nothing of the word counts. -/
def key (normalizer : Normalizer) (word : String) : String :=
  String.ofList (normalizer.foldChars (normalizer.cleanChars word.toList))

/-- The word of an input that a run of characters is, if any of them counts. -/
def inputWord? (normalizer : Normalizer) (chars : List Char) : Option InputWord :=
  let cleaned := normalizer.cleanChars chars
  if cleaned.isEmpty then none
  else some ⟨String.ofList (normalizer.foldChars cleaned), String.ofList cleaned⟩

/-- The words of an input. -/
def tokenize (normalizer : Normalizer) (text : String) : List InputWord :=
  (splitWords text.toList).filterMap normalizer.inputWord?

/-- The key of an input word is not empty. -/
theorem key_ne_empty_of_mem_tokenize {normalizer : Normalizer} {text : String} {word : InputWord}
    (member : word ∈ normalizer.tokenize text) : word.key ≠ "" := by
  obtain ⟨chars, _, found⟩ := List.mem_filterMap.mp member
  simp only [inputWord?] at found
  split at found
  · contradiction
  · rename_i filled
    obtain rfl := Option.some.inj found
    simp only [foldChars, ne_eq]
    split <;> simp_all

/-! ### Patterns -/

/-- The token that a word outside references stands for, if its key is not empty. -/
def wordToken? (normalizer : Normalizer) : List Char → Option Token
  | ['*'] => some .star
  | ['_'] => some .underscore
  | ['#'] => some .hash
  | ['^'] => some .caret
  | '$' :: c :: rest =>
    let key := normalizer.key (String.ofList (c :: rest))
    if key.isEmpty then none else some (.priority key)
  | word =>
    let key := normalizer.key (String.ofList word)
    if key.isEmpty then none else some (.word key)

/-- The token of a reference, if it has a name. -/
def referenceToken? (reference : Pattern.Reference) : Option Token :=
  if reference.name.isEmpty then none
  else
    match reference.kind with
    | .set => some (.set reference.name)
    | .bot => some (.bot reference.name)
    | .predicate => some (.predicate reference.name)

/-- The tokens of a stretch of a pattern's text. -/
def pieceTokens (normalizer : Normalizer) : Pattern.Piece → List Token
  | .text chars => (splitWords chars).filterMap normalizer.wordToken?
  | .reference reference => (referenceToken? reference).toList

/-- The tokens of a pattern. -/
def parsePattern (normalizer : Normalizer) (text : String) : List Token :=
  (Pattern.pieces text.toList).flatMap normalizer.pieceTokens

end Normalizer

/-- The kinds of the references without a name in the text of a pattern, in order. -/
def unnamedReferences (text : String) : List Pattern.ReferenceKind :=
  (Pattern.pieces text.toList).filterMap fun piece =>
    match piece with
    | .text _ => none
    | .reference reference => if reference.name.isEmpty then some reference.kind else none

end Dialogue
