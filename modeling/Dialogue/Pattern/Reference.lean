/-
**References inside the text of a pattern.**

A pattern may name a set, a bot property or a predicate in one of two forms, `<set name="colors"/>`
and `<set>colors</set>`; the three kinds are `set`, `bot` and `get`, and the closing tag of the
second form may be of any kind. Blanks are allowed wherever a tag allows them.

* `readReference?`: the reference at the start of a text, which is never empty
  (`length_lt_of_readReference?`);
* `pieces`: a text cut, from left to right, into references and the text between them.
-/

import Dialogue.Text.Name

namespace Dialogue.Pattern

open Dialogue.Text

/-- What a reference refers to. -/
inductive ReferenceKind where
  | set
  | bot
  | predicate
deriving DecidableEq, Repr

/-- The tag that writes a kind of reference. -/
def ReferenceKind.tag : ReferenceKind → String
  | .set => "set"
  | .bot => "bot"
  | .predicate => "get"

/-- A reference with the canonical form of the name it gives, which may be empty. -/
structure Reference where
  kind : ReferenceKind
  name : String
deriving DecidableEq, Repr

/-- What is left of a text that starts with a literal. -/
def afterLiteral? : List Char → List Char → Option (List Char)
  | [], rest => some rest
  | _ :: _, [] => none
  | expected :: literal, c :: rest => if expected = c then afterLiteral? literal rest else none

/-- A text without the blanks at its start. -/
def skipBlanks (chars : List Char) : List Char := chars.dropWhile isBlank

/-- The kind named at the start of a text. -/
def readKind? (chars : List Char) : Option (ReferenceKind × List Char) :=
  [ReferenceKind.set, .bot, .predicate].findSome? fun kind =>
    (afterLiteral? kind.tag.toList chars).map fun rest => (kind, rest)

/-- The name of a reference whose kind is followed by an attribute. -/
def readAttribute? (chars : List Char) : Option (List Char × List Char) := do
  guard (chars.head?.any isBlank)
  let rest ← afterLiteral? ['n', 'a', 'm', 'e'] (skipBlanks chars)
  let rest ← afterLiteral? ['='] (skipBlanks rest)
  let rest ← afterLiteral? ['"'] (skipBlanks rest)
  let name := rest.takeWhile (· != '"')
  let rest ← afterLiteral? ['"'] (rest.dropWhile (· != '"'))
  let rest ← afterLiteral? ['/', '>'] (skipBlanks rest)
  pure (name, rest)

/-- The name of a reference that stands between two tags. -/
def readElement? (chars : List Char) : Option (List Char × List Char) := do
  let rest ← afterLiteral? ['>'] (skipBlanks chars)
  let name := rest.takeWhile (· != '<')
  let rest ← afterLiteral? ['<', '/'] (rest.dropWhile (· != '<'))
  let (_, rest) ← readKind? rest
  let rest ← afterLiteral? ['>'] (skipBlanks rest)
  pure (name, rest)

/-- The reference at the start of a text and the text after it. -/
def readReference? (chars : List Char) : Option (Reference × List Char) := do
  let rest ← afterLiteral? ['<'] chars
  let (kind, rest) ← readKind? rest
  let (name, rest) ← (readAttribute? rest).or (readElement? rest)
  pure (⟨kind, canonical (String.ofList name)⟩, rest)

/-! ### Reading makes progress -/

theorem eq_append_of_afterLiteral? {literal chars rest : List Char}
    (found : afterLiteral? literal chars = some rest) : chars = literal ++ rest := by
  induction literal generalizing chars with
  | nil => simpa [afterLiteral?] using found
  | cons expected literal ih =>
    cases chars with
    | nil => simp [afterLiteral?] at found
    | cons c chars =>
      by_cases same : expected = c
      · subst same
        simp only [afterLiteral?, if_true] at found
        simp [ih found]
      · simp [afterLiteral?, same] at found

theorem length_le_of_afterLiteral? {literal chars rest : List Char}
    (found : afterLiteral? literal chars = some rest) : rest.length ≤ chars.length := by
  simp [eq_append_of_afterLiteral? found]

theorem length_dropWhile_le (test : Char → Bool) (chars : List Char) :
    (chars.dropWhile test).length ≤ chars.length :=
  (List.dropWhile_suffix test).length_le

theorem length_skipBlanks_le (chars : List Char) : (skipBlanks chars).length ≤ chars.length :=
  length_dropWhile_le isBlank chars

theorem length_le_of_readKind? {chars rest : List Char} {kind : ReferenceKind}
    (found : readKind? chars = some (kind, rest)) : rest.length ≤ chars.length := by
  obtain ⟨_, _, step⟩ := List.exists_of_findSome?_eq_some found
  simp only [Option.map_eq_some_iff, Prod.mk.injEq] at step
  obtain ⟨_, read, _, rfl⟩ := step
  exact length_le_of_afterLiteral? read

theorem length_le_of_readAttribute? {chars name rest : List Char}
    (found : readAttribute? chars = some (name, rest)) : rest.length ≤ chars.length := by
  obtain ⟨_, _, found⟩ := Option.bind_eq_some_iff.mp found
  simp only [Option.bind_eq_bind, Option.bind_eq_some_iff, Option.pure_def, Option.some.injEq,
    Prod.mk.injEq] at found
  obtain ⟨afterName, readName, afterEqual, readEqual, afterOpen, readOpen, afterClose,
    readClose, afterTag, readTag, _, rfl⟩ := found
  have := length_le_of_afterLiteral? readName
  have := length_le_of_afterLiteral? readEqual
  have := length_le_of_afterLiteral? readOpen
  have := length_le_of_afterLiteral? readClose
  have := length_le_of_afterLiteral? readTag
  have := length_skipBlanks_le chars
  have := length_skipBlanks_le afterName
  have := length_skipBlanks_le afterEqual
  have := length_dropWhile_le (· != '"') afterOpen
  have := length_skipBlanks_le afterClose
  omega

theorem length_le_of_readElement? {chars name rest : List Char}
    (found : readElement? chars = some (name, rest)) : rest.length ≤ chars.length := by
  simp only [readElement?, Option.bind_eq_bind, Option.bind_eq_some_iff, Option.pure_def,
    Option.some.injEq, Prod.mk.injEq, Prod.exists] at found
  obtain ⟨afterOpen, readOpen, afterName, readName, _, afterKind, readKind, afterTag, readTag, _,
    rfl⟩ := found
  have := length_le_of_afterLiteral? readOpen
  have := length_le_of_afterLiteral? readName
  have := length_le_of_readKind? readKind
  have := length_le_of_afterLiteral? readTag
  have := length_skipBlanks_le chars
  have := length_dropWhile_le (· != '<') afterOpen
  have := length_skipBlanks_le afterKind
  omega

/-- A reference has at least one character. -/
theorem length_lt_of_readReference? {chars rest : List Char} {reference : Reference}
    (found : readReference? chars = some (reference, rest)) : rest.length < chars.length := by
  simp only [readReference?, Option.bind_eq_bind, Option.bind_eq_some_iff, Option.pure_def,
    Option.some.injEq, Prod.mk.injEq, Prod.exists, Option.or_eq_some_iff] at found
  obtain ⟨afterOpen, readOpen, _, afterKind, readKind, name, _, body, _, rfl⟩ := found
  have opened := congrArg List.length (eq_append_of_afterLiteral? readOpen)
  have := length_le_of_readKind? readKind
  simp only [List.length_append, List.length_cons, List.length_nil] at opened
  rcases body with single | ⟨_, paired⟩
  · have := length_le_of_readAttribute? single
    omega
  · have := length_le_of_readElement? paired
    omega

/-! ### Cutting a pattern -/

/-- A stretch of a pattern's text. -/
inductive Piece where
  | text (chars : List Char)
  | reference (reference : Reference)
deriving DecidableEq, Repr

/-- A character put in front of the first stretch of text. -/
def prependChar (c : Char) : List Piece → List Piece
  | .text chars :: others => .text (c :: chars) :: others
  | others => .text [c] :: others

/-- The references of a text and the text between them, in order. -/
def pieces (chars : List Char) : List Piece :=
  match _found : readReference? chars with
  | some (reference, rest) => .reference reference :: pieces rest
  | none =>
    match chars with
    | [] => []
    | c :: rest => prependChar c (pieces rest)
termination_by chars.length
decreasing_by
  · exact length_lt_of_readReference? _found
  · simp

end Dialogue.Pattern
