/-
**References in a text.**

What a reference that is read says about the text, where it can end in a text that was written
around a name, and what the references of a text are.

* `eq_of_readAttribute?`, `eq_of_readElement?`: the two forms of a reference, as concatenations;
* `ReferenceKind.opening`, `ReferenceKind.closing`, `ReferenceKind.closer`: how a reference is
  written around its name, and the character that the name must not have; `readReference?_written`:
  then it is read back;
* `references`: the references of a text; `references_append`: none begins without a bracket, and
  `exists_of_mem_references`: each was read somewhere;
* `Reference.IsReadable`: a reference that is read back; `isReadable_attribute` and
  `isReadable_inside`: what is written around any other name has only readable ones inside.
-/

import Dialogue.Proofs.Pattern.Agreement
import Dialogue.Proofs.Text.Lowering

namespace Dialogue.Pattern

open Text

/-! ### The forms of a reference -/

theorem eq_of_readKind? {chars rest : List Char} {kind : ReferenceKind}
    (read : readKind? chars = some (kind, rest)) : chars = kind.tag.toList ++ rest := by
  obtain ⟨_, _, step⟩ := List.exists_of_findSome?_eq_some read
  simp only [Option.map_eq_some_iff, Prod.mk.injEq] at step
  obtain ⟨_, found, rfl, rfl⟩ := step
  exact eq_append_of_afterLiteral? found

/-- Only blanks are skipped. -/
theorem exists_skipBlanks (chars : List Char) :
    ∃ gap, chars = gap ++ skipBlanks chars ∧ ∀ c ∈ gap, isBlank c :=
  ⟨chars.takeWhile isBlank, List.takeWhile_append_dropWhile.symm, fun _ => List.mem_takeWhile_imp⟩

/-- A name ends at the first occurrence of a character. -/
theorem exists_takeWhile_ne (closer : Char) (chars : List Char) :
    chars = chars.takeWhile (· != closer) ++ chars.dropWhile (· != closer) ∧
      closer ∉ chars.takeWhile (· != closer) := by
  refine ⟨List.takeWhile_append_dropWhile.symm, fun inside => ?_⟩
  simpa using List.mem_takeWhile_imp inside

/-- Characters that are no blank are in no gap. -/
theorem not_mem_gap {gap : List Char} {c : Char} (blank : ∀ c ∈ gap, isBlank c)
    (visible : isBlank c = false) : c ∉ gap := by
  intro inside
  rw [blank c inside] at visible
  cases visible

/-- **A name in an attribute** has quotes around it, and a slash and a bracket behind. -/
theorem eq_of_readAttribute? {chars name rest : List Char}
    (read : readAttribute? chars = some (name, rest)) :
    ∃ front gap, chars = front ++ '"' :: (name ++ '"' :: (gap ++ '/' :: '>' :: rest)) ∧
      '<' ∉ front ∧ '"' ∉ front ∧ '"' ∉ name ∧ '"' ∉ gap := by
  obtain ⟨_, _, read⟩ := Option.bind_eq_some_iff.mp read
  simp only [Option.bind_eq_bind, Option.bind_eq_some_iff, Option.pure_def, Option.some.injEq,
    Prod.mk.injEq] at read
  obtain ⟨afterName, readName, afterEqual, readEqual, afterOpen, readOpen, afterClose,
    readClose, afterTag, readTag, rfl, rfl⟩ := read
  obtain ⟨first, atFirst, blankFirst⟩ := exists_skipBlanks chars
  obtain ⟨second, atSecond, blankSecond⟩ := exists_skipBlanks afterName
  obtain ⟨third, atThird, blankThird⟩ := exists_skipBlanks afterEqual
  obtain ⟨last, atLast, blankLast⟩ := exists_skipBlanks afterClose
  obtain ⟨atName, unquoted⟩ := exists_takeWhile_ne '"' afterOpen
  rw [eq_append_of_afterLiteral? readName] at atFirst
  rw [eq_append_of_afterLiteral? readEqual] at atSecond
  rw [eq_append_of_afterLiteral? readOpen] at atThird
  rw [eq_append_of_afterLiteral? readClose] at atName
  rw [eq_append_of_afterLiteral? readTag] at atLast
  have outside : ∀ c, isBlank c = false → c ∉ ['n', 'a', 'm', 'e'] → c ∉ ['='] →
      c ∉ first ++ ['n', 'a', 'm', 'e'] ++ second ++ ['='] ++ third := by
    intro c visible notName notEqual inside
    simp only [List.mem_append] at inside
    rcases inside with (((inside | inside) | inside) | inside) | inside
    · exact not_mem_gap blankFirst visible inside
    · exact notName inside
    · exact not_mem_gap blankSecond visible inside
    · exact notEqual inside
    · exact not_mem_gap blankThird visible inside
  refine ⟨first ++ ['n', 'a', 'm', 'e'] ++ second ++ ['='] ++ third, last, ?_,
    outside '<' (by decide) (by decide) (by decide),
    outside '"' (by decide) (by decide) (by decide), unquoted, not_mem_gap blankLast (by decide)⟩
  conv => lhs; rw [atFirst, atSecond, atThird, atName, atLast]
  simp

/-- **A name in an element** has brackets around it, and a closing tag behind. -/
theorem eq_of_readElement? {chars name rest : List Char}
    (read : readElement? chars = some (name, rest)) :
    ∃ front kind gap, chars = front ++ '>' :: (name ++ '<' :: '/' ::
        ((kind : ReferenceKind).tag.toList ++ (gap ++ '>' :: rest))) ∧
      '<' ∉ front ∧ '<' ∉ name ∧ ∀ c ∈ gap, isBlank c := by
  simp only [readElement?, Option.bind_eq_bind, Option.bind_eq_some_iff, Option.pure_def,
    Option.some.injEq, Prod.mk.injEq, Prod.exists] at read
  obtain ⟨afterOpen, readOpen, afterName, readName, kind, afterKind, readKind, afterTag, readTag,
    rfl, rfl⟩ := read
  obtain ⟨first, atFirst, blankFirst⟩ := exists_skipBlanks chars
  obtain ⟨last, atLast, blankLast⟩ := exists_skipBlanks afterKind
  obtain ⟨atName, unopened⟩ := exists_takeWhile_ne '<' afterOpen
  rw [eq_append_of_afterLiteral? readOpen] at atFirst
  rw [eq_append_of_afterLiteral? readName, eq_of_readKind? readKind] at atName
  rw [eq_append_of_afterLiteral? readTag] at atLast
  refine ⟨first, kind, last, ?_, not_mem_gap blankFirst (by decide), unopened, blankLast⟩
  conv => lhs; rw [atFirst, atName, atLast]
  simp

/-- **A reference is read from one of its two forms.** -/
theorem exists_of_readReference? {chars rest : List Char} {reference : Reference}
    (read : readReference? chars = some (reference, rest)) :
    ∃ name body, chars = '<' :: (reference.kind.tag.toList ++ body) ∧
      reference.name = canonical (String.ofList name) ∧
      (readAttribute? body = some (name, rest) ∨ readElement? body = some (name, rest)) := by
  simp only [readReference?, Option.bind_eq_bind, Option.bind_eq_some_iff, Option.pure_def,
    Option.some.injEq, Prod.mk.injEq, Prod.exists, Option.or_eq_some_iff] at read
  obtain ⟨afterOpen, readOpen, kind, body, readKind, name, _, forms, rfl, rfl⟩ := read
  refine ⟨name, body, ?_, rfl, forms.imp_right And.right⟩
  rw [eq_append_of_afterLiteral? readOpen, eq_of_readKind? readKind]
  rfl

/-! ### Written references -/

namespace ReferenceKind

/-- What is written before the name of a reference. -/
def opening : ReferenceKind → List Char
  | .set => "<set>".toList
  | .bot => "<bot name=\"".toList
  | .predicate => "<get name=\"".toList

/-- The character at which a written name ends. -/
def closer : ReferenceKind → Char
  | .set => '<'
  | .bot | .predicate => '"'

/-- What is written behind the name of a reference. -/
def closing : ReferenceKind → List Char
  | .set => "</set>".toList
  | .bot | .predicate => "\"/>".toList

theorem isPunctuation_closer (kind : ReferenceKind) : isPunctuation kind.closer := by
  cases kind <;> decide

end ReferenceKind

theorem takeWhile_ne_append {closer : Char} {name : List Char} (unclosed : closer ∉ name)
    (rest : List Char) : (name ++ closer :: rest).takeWhile (· != closer) = name ∧
      (name ++ closer :: rest).dropWhile (· != closer) = closer :: rest := by
  have inName : ∀ c ∈ name, (c != closer) = true := by
    intro c member
    rw [bne_iff_ne]
    rintro rfl
    exact unclosed member
  constructor
  · rw [List.takeWhile_append_of_pos inName]
    simp
  · rw [List.dropWhile_append_of_pos inName]
    simp

/-- A name that is written as an attribute is read up to its first quote. -/
theorem readReference?_attribute {kind : ReferenceKind} (quoted : kind.closer = '"')
    {name : List Char} (unquoted : '"' ∉ name) (after : List Char) :
    readReference? (kind.opening ++ (name ++ '"' :: after)) =
      (afterLiteral? ['/', '>'] (skipBlanks after)).map fun rest =>
        (⟨kind, canonical (String.ofList name)⟩, rest) := by
  obtain ⟨taken, left⟩ := takeWhile_ne_append unquoted after
  have read : readAttribute? ([' ', 'n', 'a', 'm', 'e', '=', '"'] ++ (name ++ '"' :: after)) =
      (afterLiteral? ['/', '>'] (skipBlanks after)).map fun rest => (name, rest) := by
    change (do
      let rest ← afterLiteral? ['"'] ((name ++ '"' :: after).dropWhile (· != '"'))
      let rest ← afterLiteral? ['/', '>'] (skipBlanks rest)
      pure ((name ++ '"' :: after).takeWhile (· != '"'), rest)) = _
    rw [taken, left]
    change (do
      let rest ← afterLiteral? ['/', '>'] (skipBlanks after)
      pure (name, rest)) = _
    cases afterLiteral? ['/', '>'] (skipBlanks after) <;> rfl
  have noElement : readElement? ([' ', 'n', 'a', 'm', 'e', '=', '"'] ++ (name ++ '"' :: after)) =
      none := rfl
  have opened : readReference? (kind.opening ++ (name ++ '"' :: after)) =
      ((readAttribute? ([' ', 'n', 'a', 'm', 'e', '=', '"'] ++ (name ++ '"' :: after))).or
        (readElement? ([' ', 'n', 'a', 'm', 'e', '=', '"'] ++ (name ++ '"' :: after)))).bind
          fun found => some (⟨kind, canonical (String.ofList found.1)⟩, found.2) := by
    cases kind with
    | set => cases quoted
    | bot | predicate => rfl
  rw [opened, read, noElement]
  cases afterLiteral? ['/', '>'] (skipBlanks after) <;> rfl

/-- **A reference that is written around a name is read back**, if the name does not close it. -/
theorem readReference?_written {kind : ReferenceKind} {name : List Char}
    (unclosed : kind.closer ∉ name) (rest : List Char) :
    readReference? (kind.opening ++ (name ++ (kind.closing ++ rest))) =
      some (⟨kind, canonical (String.ofList name)⟩, rest) := by
  cases kind with
  | bot => exact readReference?_attribute rfl unclosed ('/' :: '>' :: rest)
  | predicate => exact readReference?_attribute rfl unclosed ('/' :: '>' :: rest)
  | set =>
    have unopened : '<' ∉ name := unclosed
    obtain ⟨taken, left⟩ := takeWhile_ne_append unopened ('/' :: 's' :: 'e' :: 't' :: '>' :: rest)
    have read : readElement? ('>' :: (name ++ '<' :: '/' :: 's' :: 'e' :: 't' :: '>' :: rest)) =
        some (name, rest) := by
      have bracket : isBlank '>' = false := by decide
      have tag : readKind? ('s' :: 'e' :: 't' :: '>' :: rest) = some (.set, '>' :: rest) := rfl
      simp [readElement?, skipBlanks, afterLiteral?, bracket, taken, left, tag]
    change (readElement? ('>' :: (name ++ '<' :: '/' :: 's' :: 'e' :: 't' :: '>' :: rest))).bind
      (fun found => some ((⟨.set, canonical (String.ofList found.1)⟩ : Reference), found.2)) = _
    rw [read]
    rfl

/-! ### The references of a text -/

/-- The reference that a stretch of a text is. -/
def Piece.reference? : Piece → Option Reference
  | .text _ => none
  | .reference found => some found

/-- The references of a text, in order. -/
def references (chars : List Char) : List Reference := (pieces chars).filterMap Piece.reference?

theorem pieces_of_some {chars rest : List Char} {reference : Reference}
    (read : readReference? chars = some (reference, rest)) :
    pieces chars = .reference reference :: pieces rest := by
  rw [pieces]
  split
  · rename_i found
    cases read.symm.trans found
    rfl
  · rename_i unread
    cases read.symm.trans unread

theorem pieces_of_none {c : Char} {rest : List Char} (unread : readReference? (c :: rest) = none) :
    pieces (c :: rest) = prependChar c (pieces rest) := by
  rw [pieces]
  split
  · rename_i found
    cases unread.symm.trans found
  · rfl

@[simp] theorem references_nil : references [] = [] := by
  rw [references, pieces]
  rfl

theorem references_of_some {chars rest : List Char} {reference : Reference}
    (read : readReference? chars = some (reference, rest)) :
    references chars = reference :: references rest := by
  rw [references, pieces_of_some read]
  rfl

theorem references_of_none {c : Char} {rest : List Char}
    (unread : readReference? (c :: rest) = none) : references (c :: rest) = references rest := by
  rw [references, pieces_of_none unread, references]
  rcases pieces rest with _ | ⟨_ | _, others⟩ <;> rfl

/-- **No reference begins without a bracket.** -/
theorem references_append {before : List Char} (unopened : '<' ∉ before) (rest : List Char) :
    references (before ++ rest) = references rest := by
  induction before with
  | nil => rfl
  | cons c before ih =>
    rw [List.mem_cons, not_or] at unopened
    obtain ⟨other, later⟩ := unopened
    have unread : readReference? (c :: (before ++ rest)) = none :=
      readReference?_eq_none fun first => other (Option.some.inj first).symm
    rw [List.cons_append, references_of_none unread, ih later]

/-- **Every reference of a text was read somewhere.** -/
theorem exists_of_mem_references {chars : List Char} {reference : Reference}
    (member : reference ∈ references chars) :
    ∃ start rest, readReference? start = some (reference, rest) := by
  induction chars using pieces.induct with
  | case1 chars found rest read ih =>
    rw [references_of_some read] at member
    rcases List.mem_cons.mp member with rfl | later
    · exact ⟨chars, rest, read⟩
    · exact ih later
  | case2 =>
    rw [references_nil] at member
    cases member
  | case3 c rest unread ih =>
    rw [references_of_none unread] at member
    exact ih member

/-! ### References that are read back -/

/-- **A reference that is read back when it is written.** Its name does not close it. -/
def Reference.IsReadable (reference : Reference) : Prop :=
  reference.kind.closer ∉ reference.name.toList

/-- A canonical name has a mark of punctuation only if the name has it. -/
theorem not_mem_canonical {name : List Char} {c : Char} (absent : c ∉ name)
    (mark : isPunctuation c) : c ∉ (canonical (String.ofList name)).toList := by
  intro member
  rcases mem_canonical member with inName | plain
  · rw [String.toList_ofList] at inName
    exact absent inName
  · simp [isPlain, mark] at plain

theorem isReadable_canonical {kind : ReferenceKind} {name : List Char}
    (unclosed : kind.closer ∉ name) :
    (⟨kind, canonical (String.ofList name)⟩ : Reference).IsReadable :=
  not_mem_canonical unclosed kind.isPunctuation_closer

/-- What begins a text up to a character that it does not have is a front of what precedes it. -/
theorem exists_of_append_eq {front rest before after : List Char} {mark : Char}
    (absent : mark ∉ front) (whole : front ++ rest = before ++ mark :: after) :
    ∃ left, before = front ++ left ∧ rest = left ++ mark :: after := by
  rcases List.append_eq_append_iff.mp whole with ⟨left, rfl, rfl⟩ | ⟨left, rfl, cut⟩
  · exact ⟨left, rfl, rfl⟩
  · cases left with
    | nil => exact ⟨[], by simp, cut.symm⟩
    | cons c left =>
      obtain ⟨rfl, _⟩ := List.cons.inj cut
      exact absurd (List.mem_append_right before List.mem_cons_self) absent

/-- A text with one bracket has only readable references if all that can be read at that bracket is
one, and ends in the text. -/
theorem isReadable_bracket {inside rest : List Char} (unopened : '<' ∉ inside)
    (later : ∀ reference ∈ references rest, reference.IsReadable)
    (reads : ∀ reference left, readReference? ('<' :: (inside ++ rest)) = some (reference, left) →
      reference.IsReadable ∧ ∃ others, left = others ++ rest ∧ '<' ∉ others) :
    ∀ reference ∈ references ('<' :: (inside ++ rest)), reference.IsReadable := by
  cases read : readReference? ('<' :: (inside ++ rest)) with
  | none =>
    rw [references_of_none read, references_append unopened]
    exact later
  | some found =>
    obtain ⟨readable, others, left, unopenedOthers⟩ := reads found.1 found.2 read
    rw [references_of_some read, left, references_append unopenedOthers]
    exact List.forall_mem_cons.mpr ⟨readable, later⟩

/-- What is read at an attribute whose name has a quote is readable, and ends in what is written. -/
theorem readReference?_quoted {kind : ReferenceKind} (quoted : kind.closer = '"')
    {name others rest left : List Char} {reference : Reference} (unquoted : '"' ∉ name)
    (unopened : '<' ∉ others)
    (read : readReference?
      (kind.opening ++ (name ++ '"' :: (others ++ '"' :: '/' :: '>' :: rest))) =
        some (reference, left)) :
    reference.IsReadable ∧ ∃ more, left = more ++ rest ∧ '<' ∉ more := by
  -- The name is read up to its first quote, and the tag is closed before the next one.
  rw [readReference?_attribute quoted unquoted] at read
  obtain ⟨_, closed, same⟩ := Option.map_eq_some_iff.mp read
  cases same
  refine ⟨isReadable_canonical (quoted ▸ unquoted), ?_⟩
  obtain ⟨gap, atGap, blank⟩ := exists_skipBlanks (others ++ '"' :: '/' :: '>' :: rest)
  rw [eq_append_of_afterLiteral? closed] at atGap
  have atQuote : gap ++ ['/', '>'] ++ left = others ++ '"' :: '/' :: '>' :: rest := by
    simpa using atGap.symm
  have unquotedGap : '"' ∉ gap ++ ['/', '>'] := by
    simpa using not_mem_gap blank (by decide)
  obtain ⟨more, rfl, leftover⟩ := exists_of_append_eq unquotedGap atQuote
  refine ⟨more ++ ['"', '/', '>'], by simp [leftover], ?_⟩
  have unopenedMore : '<' ∉ more := fun member => unopened (List.mem_append_right _ member)
  simpa using unopenedMore

/-- **An attribute around a name has only readable references**, also if the name closes it. -/
theorem isReadable_attribute {kind : ReferenceKind} (quoted : kind.closer = '"')
    {name rest : List Char} (unopened : '<' ∉ name)
    (later : ∀ reference ∈ references rest, reference.IsReadable) :
    ∀ reference ∈ references (kind.opening ++ (name ++ (kind.closing ++ rest))),
      reference.IsReadable := by
  by_cases inside : kind.closer ∈ name
  · rw [quoted] at inside
    obtain ⟨first, others, rfl, unquoted⟩ := List.eq_append_cons_of_mem inside
    obtain ⟨tag, opening, inTag, closing⟩ : ∃ tag, kind.opening = '<' :: tag ∧ '<' ∉ tag ∧
        kind.closing = ['"', '/', '>'] := by
      cases kind with
      | set => cases quoted
      | bot | predicate => exact ⟨_, rfl, by decide, rfl⟩
    simp only [List.mem_append, List.mem_cons, not_or] at unopened
    have written : kind.opening ++ (first ++ '"' :: others ++ (kind.closing ++ rest)) =
        kind.opening ++ (first ++ '"' :: (others ++ '"' :: '/' :: '>' :: rest)) := by
      simp [closing]
    have whole : kind.opening ++ (first ++ '"' :: (others ++ '"' :: '/' :: '>' :: rest)) =
        '<' :: (tag ++ first ++ '"' :: others ++ ['"', '/', '>'] ++ rest) := by
      simp [opening]
    rw [written, whole]
    refine isReadable_bracket ?_ later fun reference left read => ?_
    · simp [inTag, unopened]
    · rw [← whole] at read
      exact readReference?_quoted quoted unquoted unopened.2.2 read
  · rw [references_of_some (readReference?_written inside rest)]
    exact List.forall_mem_cons.mpr ⟨isReadable_canonical inside, later⟩

theorem not_mem_tag (kind : ReferenceKind) : '<' ∉ kind.tag.toList := by
  cases kind <;> decide

/-- No name in quotes is read where there is no quote in front of a bracket. -/
theorem readAttribute?_eq_none {inside : List Char} (unquoted : '"' ∉ inside) (rest : List Char) :
    readAttribute? (inside ++ '<' :: rest) = none := by
  rw [← Option.not_isSome_iff_eq_none]
  intro found
  obtain ⟨⟨name, left⟩, read⟩ := Option.isSome_iff_exists.mp found
  obtain ⟨front, gap, whole, unopened, _⟩ := eq_of_readAttribute? read
  obtain ⟨others, rfl, atQuote⟩ := exists_of_append_eq unopened whole.symm
  cases others with
  | nil => cases atQuote
  | cons quote others =>
    obtain ⟨rfl, _⟩ := List.cons.inj atQuote
    simp at unquoted

/-- **A name in brackets that is read in front of a closing tag** stands before that tag. What is
left is behind the tag, or begins before it. -/
theorem readElement?_inside {inside rest name left : List Char}
    (read : readElement? (inside ++ (ReferenceKind.set.closing ++ rest)) = some (name, left)) :
    '<' ∉ name ∧ name ⊆ inside ∧ (left = rest ∨
      ∃ others, others <:+ inside ∧ left = others ++ (ReferenceKind.set.closing ++ rest)) := by
  have closing :
      ReferenceKind.set.closing ++ rest = '<' :: '/' :: 's' :: 'e' :: 't' :: '>' :: rest := rfl
  rw [closing] at read ⊢
  generalize tail : '/' :: 's' :: 'e' :: 't' :: '>' :: rest = closed at read ⊢
  obtain ⟨front, last, gap, whole, unopened, unopenedName, blank⟩ := eq_of_readElement? read
  have atFront :
      front ++ ['>'] ++ (name ++ '<' :: '/' :: (last.tag.toList ++ (gap ++ '>' :: left))) =
        inside ++ '<' :: closed := by
    rw [whole, List.append_assoc]
    rfl
  obtain ⟨inName, rfl, atTag⟩ := exists_of_append_eq (by simpa using unopened) atFront
  obtain ⟨others, rfl, atClose⟩ := exists_of_append_eq unopenedName atTag
  refine ⟨unopenedName, fun c member => by simp [member], ?_⟩
  cases others with
  | nil =>
    -- The name ends at the closing tag, which ends the reference.
    obtain ⟨_, atClose⟩ := List.cons.inj atClose
    rw [← tail] at atClose
    cases last with
    | bot | predicate => cases atClose
    | set =>
      cases gap with
      | nil =>
        cases atClose
        exact .inl rfl
      | cons c gap =>
        cases atClose
        exact absurd (blank '>' List.mem_cons_self) (by decide)
  | cons bracket others =>
    -- The name ends before the closing tag, and so does the reference.
    obtain ⟨rfl, atClose⟩ := List.cons.inj atClose
    have atEnd : '/' :: (last.tag.toList ++ gap ++ ['>']) ++ left = others ++ '<' :: closed := by
      simpa using atClose
    have unopenedEnd : '<' ∉ '/' :: (last.tag.toList ++ gap ++ ['>']) := by
      simpa [not_mem_tag] using not_mem_gap blank (by decide)
    obtain ⟨more, rfl, rfl⟩ := exists_of_append_eq unopenedEnd atEnd
    refine .inr ⟨more, ?_, rfl⟩
    exact ⟨front ++ ['>'] ++ name ++ '<' :: '/' :: (last.tag.toList ++ gap ++ ['>']), by simp⟩

/-- What is read in a text without quotes in front of a closing tag is readable, and ends in that
text or with the tag. -/
theorem readReference?_inside {c : Char} {inside rest left : List Char} {reference : Reference}
    (unquoted : '"' ∉ inside)
    (read : readReference? (c :: inside ++ (ReferenceKind.set.closing ++ rest)) =
      some (reference, left)) :
    reference.IsReadable ∧ (left = rest ∨
      ∃ others, others <:+ inside ∧ left = others ++ (ReferenceKind.set.closing ++ rest)) := by
  obtain ⟨kind, _⟩ := reference
  obtain ⟨name, body, whole, rfl, forms⟩ := exists_of_readReference? read
  obtain ⟨rfl, behind⟩ := List.cons.inj whole
  obtain ⟨inBody, rfl, rfl⟩ := exists_of_append_eq (not_mem_tag kind) behind.symm
  have unquotedBody : '"' ∉ inBody := fun member => unquoted (List.mem_append_right _ member)
  rcases forms with form | form
  · cases (readAttribute?_eq_none unquotedBody _).symm.trans form
  · obtain ⟨unopenedName, inName, ends⟩ := readElement?_inside form
    refine ⟨isReadable_canonical ?_, ends.imp_right ?_⟩
    · cases kind with
      | set => exact unopenedName
      | bot | predicate => exact fun member => unquotedBody (inName member)
    · rintro ⟨others, behind, rfl⟩
      exact ⟨others, behind.trans (List.suffix_append _ _), rfl⟩

/-- **A text without quotes in front of a closing tag has only readable references.** -/
theorem isReadable_inside {inside rest : List Char} (unquoted : '"' ∉ inside)
    (later : ∀ reference ∈ references rest, reference.IsReadable) :
    ∀ reference ∈ references (inside ++ (ReferenceKind.set.closing ++ rest)),
      reference.IsReadable := by
  cases inside with
  | nil =>
    have unread : readReference? ('<' :: (['/', 's', 'e', 't', '>'] ++ rest)) = none := rfl
    have tag : '<' ∉ ['/', 's', 'e', 't', '>'] := by decide
    refine isReadable_bracket tag later fun reference left read => ?_
    cases unread.symm.trans read
  | cons c inside =>
    cases read : readReference? (c :: (inside ++ (ReferenceKind.set.closing ++ rest))) with
    | none =>
      rw [List.cons_append, references_of_none read]
      exact isReadable_inside (fun member => unquoted (List.mem_cons_of_mem c member)) later
    | some found =>
      have unquotedInside : '"' ∉ inside := fun member =>
        unquoted (List.mem_cons_of_mem c member)
      obtain ⟨readable, left | ⟨others, behind, left⟩⟩ := readReference?_inside unquotedInside read
      · rw [List.cons_append, references_of_some read, left]
        exact List.forall_mem_cons.mpr ⟨readable, later⟩
      · have _shorter : others.length < (c :: inside).length :=
          Nat.lt_succ_of_le behind.length_le
        have unquotedOthers : '"' ∉ others := fun member => unquotedInside (behind.subset member)
        rw [List.cons_append, references_of_some read, left]
        exact List.forall_mem_cons.mpr ⟨readable, isReadable_inside unquotedOthers later⟩
termination_by inside.length

end Dialogue.Pattern
