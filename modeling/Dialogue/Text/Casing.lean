/-
**Letter case over all of Unicode.**

* `isSmall`, `isCapital`, `isLetter`, `isCased`: the letter properties of a character;
* `lowerChar`, `raiseChar`: the full case mappings, which may yield several characters;
* `lower`, `upper`: the mappings of a whole text. A capital sigma becomes the final form exactly if
  the nearest character before it that counts is cased and the nearest one after it is not;
* `capitalize`: the first character raised, the rest lowered as a text of its own.
-/

import Dialogue.Text.CaseTable
import Dialogue.Text.LetterTable

namespace Dialogue.Text

/-! ### Letter properties -/

/-- Whether a character is a lower-case one. -/
def isSmall (c : Char) : Bool := inRuns smallRuns c.toNat

/-- Whether a character is an upper-case one. -/
def isCapital (c : Char) : Bool := inRuns capitalRuns c.toNat

/-- Whether a character is a letter in the widest sense. -/
def isLetter (c : Char) : Bool := inSpans letterSpans c.toNat

/-- Whether a character has case: lower, upper or title. -/
def isCased (c : Char) : Bool := isSmall c || isCapital c || inRuns titleRuns c.toNat

/-- Whether a character is skipped when the neighbours of a sigma are looked for. -/
def isCaseTransparent (c : Char) : Bool := inSpans caseTransparentSpans c.toNat

/-! ### Mappings of one character -/

/-- The image of a code point under a case mapping given by its two tables. -/
def mapCode (expansions : List (Nat × List Nat)) (runs : List CaseRun) (code : Nat) : List Nat :=
  match expansions.lookup code with
  | some image => image
  | none =>
    match imageIn? runs code with
    | some image => [image]
    | none => [code]

theorem mapCode_ne_nil {expansions : List (Nat × List Nat)} {runs : List CaseRun}
    (filled : ∀ entry ∈ expansions, entry.2 ≠ []) (code : Nat) :
    mapCode expansions runs code ≠ [] := by
  unfold mapCode
  split
  · rename_i image found
    obtain ⟨before, after, whole, _⟩ := List.lookup_eq_some_iff.mp found
    exact filled (code, image) (by simp [whole])
  · split <;> exact List.cons_ne_nil _ _

/-- The lower-case image of a character on its own. -/
def lowerChar (c : Char) : List Char :=
  (mapCode loweringExpansions loweringRuns c.toNat).map Char.ofNat

/-- The upper-case image of a character. -/
def raiseChar (c : Char) : List Char :=
  (mapCode raisingExpansions raisingRuns c.toNat).map Char.ofNat

/-! ### Mappings of a text -/

/-- Whether the first character that is not case-transparent is cased. -/
def meetsCased (chars : List Char) : Bool :=
  match chars.dropWhile isCaseTransparent with
  | [] => false
  | c :: _ => isCased c

/-- The lower-case form of a sigma between the two sides of a text, the left one read backwards. -/
def lowerSigma (before after : List Char) : Char :=
  if meetsCased before && !meetsCased after then 'ς' else 'σ'

/-- The lower-case form of a text that follows `before`, which is given backwards. -/
def lowerAfter (before : List Char) : List Char → List Char
  | [] => []
  | c :: rest =>
    (if c = 'Σ' then [lowerSigma before rest] else lowerChar c) ++ lowerAfter (c :: before) rest

/-- The lower-case form of a text, as characters. -/
def lowerChars (chars : List Char) : List Char := lowerAfter [] chars

/-- No character vanishes when it is lowered. -/
theorem lowerChar_ne_nil (c : Char) : lowerChar c ≠ [] := by
  rw [lowerChar, ne_eq, List.map_eq_nil_iff]
  exact mapCode_ne_nil (by decide) c.toNat

/-- No character vanishes when it is raised. -/
theorem raiseChar_ne_nil (c : Char) : raiseChar c ≠ [] := by
  rw [raiseChar, ne_eq, List.map_eq_nil_iff]
  exact mapCode_ne_nil (by decide) c.toNat

/-- Only the empty text has an empty lower-case form. -/
@[simp] theorem lowerChars_eq_nil_iff {chars : List Char} : lowerChars chars = [] ↔ chars = [] := by
  cases chars with
  | nil => simp [lowerChars, lowerAfter]
  | cons c rest =>
    simp only [lowerChars, lowerAfter, List.append_eq_nil_iff, reduceCtorEq, iff_false, not_and]
    split
    · simp
    · exact fun gone => absurd gone (lowerChar_ne_nil c)

/-- The upper-case form of a text, as characters. -/
def raiseChars (chars : List Char) : List Char := chars.flatMap raiseChar

/-- The first character raised and the others lowered, as characters. -/
def capitalizeChars : List Char → List Char
  | [] => []
  | c :: rest => raiseChar c ++ lowerChars rest

/-- The lower-case form of a text. -/
def lower (text : String) : String := String.ofList (lowerChars text.toList)

/-- The upper-case form of a text. -/
def upper (text : String) : String := String.ofList (raiseChars text.toList)

/-- A text with its first character raised and the others lowered. -/
def capitalize (text : String) : String := String.ofList (capitalizeChars text.toList)

end Dialogue.Text
