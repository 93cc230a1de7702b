/-
**Sentences.**

A sentence ends where one of `.`, `!`, `?` is followed by a blank. The marks at such an end belong
to no sentence; the last sentence keeps its marks. Sentences are trimmed, and an empty one is
dropped.

* `cutAtMarks`: the text cut at every sentence end, so its pieces concatenate to the text;
* `sentences`: the pieces without their end marks and blanks.
-/

import Dialogue.Text.Blank

namespace Dialogue.Text

/-- Whether a character can end a sentence. -/
def isEndMark (c : Char) : Bool := c == '.' || c == '!' || c == '?'

/-- The text cut between every end mark and the blank that follows it. -/
def cutAtMarks : List Char → List (List Char)
  | [] => [[]]
  | c :: rest =>
    match cutAtMarks rest with
    | [] => [[c]]
    | piece :: pieces =>
      if isEndMark c && rest.head?.any isBlank then [c] :: piece :: pieces
      else (c :: piece) :: pieces

/-- The pieces with the marks removed from every one but the last. -/
def dropMarks : List (List Char) → List (List Char)
  | [] => []
  | [last] => [last]
  | piece :: next :: pieces => dropEndWhile isEndMark piece :: dropMarks (next :: pieces)

/-- The sentences of a text, as characters. -/
def sentenceChars (chars : List Char) : List (List Char) :=
  ((dropMarks (cutAtMarks (trimChars chars))).map trimChars).filter fun piece => !piece.isEmpty

/-- The sentences of a text. -/
def sentences (text : String) : List String := (sentenceChars text.toList).map String.ofList

/-- Cutting loses no character. -/
theorem flatten_cutAtMarks (chars : List Char) : (cutAtMarks chars).flatten = chars := by
  induction chars with
  | nil => rfl
  | cons c rest ih =>
    unfold cutAtMarks
    cases pieces : cutAtMarks rest with
    | nil => rw [pieces] at ih; simp at ih; simp [← ih]
    | cons piece others =>
      rw [pieces] at ih
      simp only
      split <;> simp_all

end Dialogue.Text
