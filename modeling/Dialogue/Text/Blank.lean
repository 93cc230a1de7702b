/-
**Blanks, words and punctuation.**

* `isBlank`: the property White_Space, the only notion of a gap between words;
* `isPunctuation`: the thirty-two punctuation characters of ASCII;
* `trim`, `words`, `collapse`: cutting a text at its blanks. `words` never yields an empty word,
  and `collapse` is `words` followed by joining with single spaces;
* `splitWords_append_blank`, `splitWords_of_forall`: the equations that determine the words.
-/

import Dialogue.Text.Run

namespace Dialogue.Text

/-- The blank characters, as first and last code points. -/
def blankSpans : List (Nat × Nat) :=
  [(0x9, 0xd), (0x20, 0x20), (0x85, 0x85), (0xa0, 0xa0), (0x1680, 0x1680), (0x2000, 0x200a),
   (0x2028, 0x2029), (0x202f, 0x202f), (0x205f, 0x205f), (0x3000, 0x3000)]

theorem isAscending_blankSpans : isAscending (blankSpans.map Prod.fst) := by decide

/-- Whether a character separates words. -/
def isBlank (c : Char) : Bool := inSpans blankSpans c.toNat

/-- The punctuation of ASCII, as first and last code points. -/
def punctuationSpans : List (Nat × Nat) :=
  [(0x21, 0x2f), (0x3a, 0x40), (0x5b, 0x60), (0x7b, 0x7e)]

theorem isAscending_punctuationSpans : isAscending (punctuationSpans.map Prod.fst) := by decide

/-- Whether a character is ASCII punctuation. -/
def isPunctuation (c : Char) : Bool := inSpans punctuationSpans c.toNat

/-! ### Ends of a text -/

/-- Remove from the end the characters that satisfy a test. -/
def dropEndWhile (test : Char → Bool) (chars : List Char) : List Char :=
  (chars.reverse.dropWhile test).reverse

/-- Remove at both ends the characters that satisfy a test. -/
def stripWhile (test : Char → Bool) (chars : List Char) : List Char :=
  dropEndWhile test (chars.dropWhile test)

/-- Remove the blanks at both ends. -/
def trimChars (chars : List Char) : List Char := stripWhile isBlank chars

/-- A text without the blanks at its ends. -/
def trim (text : String) : String := String.ofList (trimChars text.toList)

/-- A text without the blanks at its start. -/
def trimStart (text : String) : String := String.ofList (text.toList.dropWhile isBlank)

/-! ### Words -/

/-- The maximal runs of characters without a blank, in order. -/
def splitWords (chars : List Char) : List (List Char) :=
  (chars.splitOnP isBlank).filter fun word => !word.isEmpty

/-- The words of a text. -/
def words (text : String) : List String := (splitWords text.toList).map String.ofList

/-- Words joined by single spaces. -/
def unwords (parts : List String) : String := " ".intercalate parts

/-- A text with every run of blanks made one space, and none at the ends. -/
def collapse (text : String) : String := unwords (words text)

/-- The empty text has no words. -/
@[simp] theorem splitWords_nil : splitWords [] = [] := rfl

/-- A blank ends the words before it and begins the words after it. -/
theorem splitWords_append_blank {gap : Char} (blank : isBlank gap)
    (before after : List Char) : splitWords (before ++ gap :: after) =
      splitWords before ++ splitWords after := by
  rw [splitWords, List.splitOnP_append_cons before after blank, List.filter_append]
  rfl

/-- A text without a blank is one word, unless it is empty. -/
theorem splitWords_of_forall {word : List Char} (filled : word ≠ [])
    (solid : ∀ c ∈ word, isBlank c = false) : splitWords word = [word] := by
  rw [splitWords, List.splitOnP_eq_singleton solid]
  simp [filled]

/-- No word is empty. -/
theorem ne_nil_of_mem_splitWords {chars word : List Char} (member : word ∈ splitWords chars) :
    word ≠ [] := by
  simpa using (List.mem_filter.mp member).2

/-- A trimmed text has the characters of the trimmed list. -/
@[simp] theorem toList_trim (text : String) : (trim text).toList = trimChars text.toList := by
  simp [trim]

end Dialogue.Text
