/-
**What is written is read back.**

* `Json.IsPlain`: a value of which each string has a text and each number is whole;
* `readText_write`, `readNumber_write`: the two kinds of token with a structure of their own;
* `readValue_write`: a plain value at the start of a text, by induction on the value. What follows it
  must not go on a number, and the bound on the steps covers twice the length of what is written;
* `read?_render`: so a plain value is read back from its text.
-/

import Dialogue.Json.Printer
import Dialogue.Json.Reader

namespace Dialogue.Json

/-! ### Strings -/

/-- How a character of a string is written: by a letter, in digits, or as it is. -/
theorem escape_cases (c : Char) :
    (∃ letter, escape c = ['\\', letter] ∧ shortEscape? letter = some c) ∨
    (c.toNat < 0x20 ∧
      escape c = ['\\', 'u', '0', '0', hexDigit (c.toNat / 16), hexDigit (c.toNat % 16)]) ∨
    (c ≠ '"' ∧ c ≠ '\\' ∧ ¬ c.toNat < 0x20 ∧ escape c = [c]) := by
  by_cases short : c ∈ ['"', '\\', '\n', '\r', '\t', '\x08', '\x0c']
  · refine .inl ?_
    simp only [List.mem_cons, List.not_mem_nil, or_false] at short
    rcases short with rfl | rfl | rfl | rfl | rfl | rfl | rfl <;> exact ⟨_, rfl, rfl⟩
  · simp only [List.mem_cons, List.not_mem_nil, or_false, not_or] at short
    obtain ⟨quote, backslash, newline, cr, tab, backspace, feed⟩ := short
    unfold escape
    rw [if_neg quote, if_neg backslash, if_neg newline, if_neg cr, if_neg tab, if_neg backspace,
      if_neg feed]
    split
    · rename_i control
      exact .inr (.inl ⟨control, rfl⟩)
    · rename_i visible
      exact .inr (.inr ⟨quote, backslash, visible, rfl⟩)

theorem hexUnit?_control {value : Nat} (control : value < 0x20) :
    hexUnit? '0' '0' (hexDigit (value / 16)) (hexDigit (value % 16)) = some value := by
  revert value
  decide

theorem shortEscape?_u : shortEscape? 'u' = none := rfl

theorem readPieces_short {letter meant : Char} (short : shortEscape? letter = some meant)
    (rest : List Char) :
    readPieces ('\\' :: letter :: rest) =
      (readPieces rest).map fun found => (.char meant :: found.1, found.2) := by
  rw [readPieces]
  · rw [short]
    cases readPieces rest <;> rfl
  · rintro a b c d others rfl
    rw [shortEscape?_u] at short
    cases short

theorem readPieces_unit {value : Nat} {a b c d : Char} (unit : hexUnit? a b c d = some value)
    (rest : List Char) :
    readPieces ('\\' :: 'u' :: a :: b :: c :: d :: rest) =
      (readPieces rest).map fun found => (.unit value :: found.1, found.2) := by
  rw [readPieces, unit]
  cases readPieces rest <;> rfl

theorem readPieces_visible {c : Char} (quote : c ≠ '"') (backslash : c ≠ '\\')
    (visible : ¬ c.toNat < 0x20) (rest : List Char) :
    readPieces (c :: rest) =
      (readPieces rest).map fun found => (.char c :: found.1, found.2) := by
  have accepted : ¬ (decide (c.toNat < 0x20) || c == '\\') = true := by simp [visible, backslash]
  rw [readPieces]
  · rw [if_neg accepted]
    cases readPieces rest <;> rfl
  · exact quote
  · rintro _ _ _ _ _ rfl
    exact absurd rfl backslash
  · rintro _ _ rfl
    exact absurd rfl backslash

/-- A control is no half of a surrogate pair. -/
theorem joinPieces?_control {value : Nat} (control : value < 0x20) (pieces : List Piece) :
    joinPieces? (.unit value :: pieces) = (joinPieces? pieces).map (Char.ofNat value :: ·) := by
  have notHigh : ¬ (0xd800 ≤ value ∧ value ≤ 0xdbff) := by omega
  have notLow : ¬ (0xdc00 ≤ value ∧ value ≤ 0xdfff) := by omega
  have alone : ¬ (0xd800 ≤ value ∧ value ≤ 0xdfff) := by omega
  match pieces with
  | [] => exact if_neg alone
  | .char c :: pieces => exact if_neg alone
  | .unit low :: pieces => rw [joinPieces?, if_neg notHigh, if_neg notLow]

/-- **A written character is read as a piece that joins as the character.** -/
theorem exists_piece (c : Char) : ∃ piece : Piece,
    (∀ pieces, joinPieces? (piece :: pieces) = (joinPieces? pieces).map (c :: ·)) ∧
      ∀ rest, readPieces (escape c ++ rest) =
        (readPieces rest).map fun found => (piece :: found.1, found.2) := by
  rcases escape_cases c with ⟨letter, written, short⟩ | ⟨control, written⟩ |
    ⟨quote, backslash, visible, written⟩
  · refine ⟨.char c, fun _ => rfl, fun rest => ?_⟩
    rw [written]
    exact readPieces_short short rest
  · refine ⟨.unit c.toNat, fun pieces => ?_, fun rest => ?_⟩
    · rw [joinPieces?_control control, Char.ofNat_toNat]
    · rw [written]
      exact readPieces_unit (hexUnit?_control control) rest
  · refine ⟨.char c, fun _ => rfl, fun rest => ?_⟩
    rw [written]
    exact readPieces_visible quote backslash visible rest

theorem readPieces_write (chars rest : List Char) : ∃ pieces,
    readPieces (chars.flatMap escape ++ '"' :: rest) = some (pieces, rest) ∧
      joinPieces? pieces = some chars := by
  induction chars with
  | nil => exact ⟨[], rfl, rfl⟩
  | cons c chars ih =>
    obtain ⟨pieces, others, joined⟩ := ih
    obtain ⟨piece, joins, reads⟩ := exists_piece c
    refine ⟨piece :: pieces, ?_, ?_⟩
    · rw [List.flatMap_cons, List.append_assoc, reads, others]
      rfl
    · rw [joins, joined]
      rfl

/-- **A written string is read back.** -/
theorem readText_write (text : String) (rest : List Char) :
    readText (text.toList.flatMap escape ++ '"' :: rest) = some (some text, rest) := by
  obtain ⟨pieces, reads, joined⟩ := readPieces_write text.toList rest
  rw [readText, reads, Option.map_some, joined, Option.map_some, String.ofList_toList]

/-! ### Numbers -/

/-- What follows a number ends it. -/
def EndsNumber (rest : List Char) : Prop :=
  ∀ c ∈ rest.head?, c = ',' ∨ c = ']' ∨ c = '\x7d'

theorem isDigit_of_mem_toDigits {value : Nat} {c : Char} (member : c ∈ Nat.toDigits 10 value) :
    isDigit c := Nat.isDigit_of_mem_toDigits (by decide) (Nat.le_refl 10) member

theorem digitsValue_toDigits (value : Nat) : digitsValue (Nat.toDigits 10 value) = value := by
  have read := @Nat.ofDigitChars_ten_toDigits value
  rw [Nat.ofDigitChars_eq_foldl] at read
  exact read

/-- There is no superfluous zero in front. -/
theorem head?_toDigits {value : Nat} (positive : 0 < value) :
    (Nat.toDigits 10 value).head? ≠ some '0' := by
  induction value using Nat.strongRecOn with
  | ind value ih =>
    rcases Nat.lt_or_ge value 10 with small | large
    · rw [Nat.toDigits_of_lt_base small, List.head?_cons]
      intro zero
      exact absurd (Nat.digitChar_eq_zero.mp (Option.some.inj zero)) (by omega)
    · have front := ih (value / 10) (by omega) (by omega)
      rw [Nat.toDigits_of_base_le (by decide) large, List.head?_append]
      cases first : (Nat.toDigits 10 (value / 10)).head? with
      | none => exact absurd (List.head?_eq_none_iff.mp first) Nat.toDigits_ne_nil
      | some digit =>
        rw [first] at front
        exact front

theorem not_isDigit_of_mem {rest : List Char} (ends : EndsNumber rest) :
    ∀ c ∈ rest.head?, isDigit c = false := by
  intro c member
  rcases ends c member with rfl | rfl | rfl <;> rfl

theorem readDigits_toDigits (value : Nat) {rest : List Char} (ends : EndsNumber rest) :
    readDigits (Nat.toDigits 10 value ++ rest) = some (Nat.toDigits 10 value, rest) := by
  have digits : ∀ c ∈ Nat.toDigits 10 value, isDigit c := fun c => isDigit_of_mem_toDigits
  have none_taken : rest.takeWhile isDigit = [] := by
    cases rest with
    | nil => rfl
    | cons c rest =>
      rw [List.takeWhile_cons_of_neg]
      rw [not_isDigit_of_mem ends c rfl]
      exact Bool.false_ne_true
  have none_dropped : rest.dropWhile isDigit = rest := by
    cases rest with
    | nil => rfl
    | cons c rest =>
      rw [List.dropWhile_cons_of_neg]
      rw [not_isDigit_of_mem ends c rfl]
      exact Bool.false_ne_true
  have filled : (Nat.toDigits 10 value).isEmpty = false :=
    List.isEmpty_eq_false_iff.mpr Nat.toDigits_ne_nil
  rw [readDigits, List.takeWhile_append_of_pos digits, List.dropWhile_append_of_pos digits,
    none_taken, none_dropped, List.append_nil, filled]
  rfl

theorem readWhole_toDigits (value : Nat) {rest : List Char} (ends : EndsNumber rest) :
    readWhole (Nat.toDigits 10 value ++ rest) = some (Nat.toDigits 10 value, rest) := by
  have canonical : ((Nat.toDigits 10 value).head? != some '0' ||
      (Nat.toDigits 10 value).length == 1) = true := by
    rcases Nat.eq_zero_or_pos value with rfl | positive
    · rfl
    · rw [bne_iff_ne.mpr (head?_toDigits positive), Bool.true_or]
  have accepted : (guard ((Nat.toDigits 10 value).head? != some '0' ||
      (Nat.toDigits 10 value).length == 1) : Option Unit) = some () := if_pos canonical
  rw [readWhole, readDigits_toDigits value ends, Option.bind_eq_bind, Option.bind_some]
  dsimp only
  rw [accepted]
  rfl

/-- A written whole number, after its sign, is read back. -/
theorem readUnsigned_toDigits (negative : Bool) (value : Nat) {rest : List Char}
    (ends : EndsNumber rest) :
    readUnsigned negative (Nat.toDigits 10 value ++ rest) =
      some (if negative then .negative value else .natural value, rest) := by
  have fraction : readFraction rest = some ([], rest) := by
    cases rest with
    | nil => rfl
    | cons c rest => rcases ends c rfl with rfl | rfl | rfl <;> rfl
  have exponent : readExponent rest = some ([], rest) := by
    cases rest with
    | nil => rfl
    | cons c rest => rcases ends c rfl with rfl | rfl | rfl <;> rfl
  rw [readUnsigned, readWhole_toDigits value ends]
  simp [fraction, exponent, digitsValue_toDigits]

/-- A number that is written without a point or an exponent. -/
def Number.IsWhole : Number → Prop
  | .natural _ | .negative _ => True
  | .decimal _ => False

/-- **A written whole number is read back.** -/
theorem readNumber_write {number : Number} (whole : number.IsWhole) {rest : List Char}
    (ends : EndsNumber rest) : readNumber (number.write ++ rest) = some (number, rest) := by
  cases number with
  | natural value =>
    have unsigned : ∀ others, Nat.toDigits 10 value ++ rest ≠ '-' :: others := by
      intro others signed
      obtain ⟨digit, digits, written⟩ := List.exists_cons_of_ne_nil (@Nat.toDigits_ne_nil value 10)
      have first : isDigit digit := isDigit_of_mem_toDigits (written ▸ List.mem_cons_self)
      rw [written, List.cons_append] at signed
      rw [(List.cons.inj signed).1] at first
      cases first
    rw [Number.write, readNumber]
    · exact readUnsigned_toDigits false value ends
    · exact unsigned
  | negative magnitude => exact readUnsigned_toDigits true magnitude ends
  | decimal written => cases whole

/-! ### Values -/

mutual

/-- **A value of which each string has a text and each number is whole.** -/
def IsPlain : Json → Prop
  | .null | .bool _ => True
  | .number value => value.IsWhole
  | .string text => text.isSome
  | .array items => ArePlain items
  | .object members => HavePlain members

def ArePlain : List Json → Prop
  | [] => True
  | item :: items => item.IsPlain ∧ ArePlain items

/-- Members with names that have a text, and with plain values. -/
def HavePlain : List (Option String × Json) → Prop
  | [] => True
  | (name, value) :: members => name.isSome ∧ value.IsPlain ∧ HavePlain members

end

theorem skipSpace_cons {c : Char} (visible : isSpace c = false) (chars : List Char) :
    skipSpace (c :: chars) = c :: chars := by
  rw [skipSpace, List.dropWhile_cons_of_neg]
  rw [visible]
  exact Bool.false_ne_true

/-- Whether a character can start a number. -/
def startsNumber (c : Char) : Bool := isDigit c || c == '-'

theorem exists_of_write_number {number : Number} (whole : number.IsWhole) :
    ∃ c chars, number.write = c :: chars ∧ startsNumber c := by
  cases number with
  | natural value =>
    obtain ⟨digit, digits, written⟩ := List.exists_cons_of_ne_nil (@Nat.toDigits_ne_nil value 10)
    have first : isDigit digit := isDigit_of_mem_toDigits (written ▸ List.mem_cons_self)
    refine ⟨digit, digits, written, ?_⟩
    rw [startsNumber, first, Bool.true_or]
  | negative magnitude => exact ⟨'-', _, rfl, rfl⟩
  | decimal written => cases whole

theorem isSpace_of_startsNumber {c : Char} (starts : startsNumber c) : isSpace c = false := by
  refine Bool.eq_false_iff.mpr fun space => ?_
  simp only [isSpace, Bool.or_eq_true, beq_iff_eq] at space
  rcases space with ((rfl | rfl) | rfl) | rfl <;> cases starts

/-- What starts as a number is read as one. -/
theorem readValue_number {c : Char} (starts : startsNumber c) (steps : Nat) (chars : List Char) :
    readValue (steps + 1) (c :: chars) =
      (readNumber (c :: chars)).map fun found => (.number found.1, found.2) := by
  rw [readValue, skipSpace_cons (isSpace_of_startsNumber starts)]
  split
  all_goals first
    | rfl
    | (rename_i same
       obtain ⟨rfl, -⟩ := List.cons.inj same
       cases starts)

/-- How a plain value starts: visibly, and not like the end of an array. -/
theorem exists_of_write {value : Json} (plain : value.IsPlain) :
    ∃ c chars, write value = c :: chars ∧ isSpace c = false ∧ c ≠ ']' := by
  match value with
  | .null | .bool true | .bool false | .array [] | .array (_ :: _) | .object []
  | .object (_ :: _) => exact ⟨_, _, rfl, rfl, by decide⟩
  | .string (some text) => exact ⟨_, _, rfl, rfl, by decide⟩
  | .string none => cases plain
  | .number _ =>
    obtain ⟨c, chars, written, starts⟩ := exists_of_write_number plain
    refine ⟨c, chars, written, isSpace_of_startsNumber starts, ?_⟩
    rintro rfl
    cases starts

theorem endsNumber_writeItems (items : List Json) (rest : List Char) :
    EndsNumber (writeItems items ++ rest) := by
  intro c first
  cases items with
  | nil => exact .inr (.inl (Option.some.inj first).symm)
  | cons item items => exact .inl (Option.some.inj first).symm

theorem endsNumber_writeMembers (members : List (Option String × Json)) (rest : List Char) :
    EndsNumber (writeMembers members ++ rest) := by
  intro c first
  cases members with
  | nil => exact .inr (.inr (Option.some.inj first).symm)
  | cons member members => exact .inl (Option.some.inj first).symm

/-- An array with items. -/
theorem readValue_array {steps : Nat} {chars rest : List Char} {items : List Json}
    (filled : ∃ c others, chars = c :: others ∧ isSpace c = false ∧ c ≠ ']')
    (read : readItems steps chars = some (items, rest)) :
    readValue (steps + 1) ('[' :: chars) = some (.array items, rest) := by
  obtain ⟨c, others, rfl, visible, more⟩ := filled
  have opened : skipSpace ('[' :: c :: others) = '[' :: c :: others := skipSpace_cons rfl _
  rw [readValue, opened]
  simp only [skipSpace_cons visible]
  split
  · rename_i same
    exact absurd (List.cons.inj same).1 more
  · rw [read]
    rfl

/-- An object with members. -/
theorem readValue_object {steps : Nat} {chars rest : List Char}
    {members : List (Option String × Json)}
    (read : readMembers steps ('"' :: chars) = some (members, rest)) :
    readValue (steps + 1) ('\x7b' :: '"' :: chars) = some (.object members, rest) := by
  have inside : readValue (steps + 1) ('\x7b' :: '"' :: chars) =
      (readMembers steps ('"' :: chars)).map fun found => (.object found.1, found.2) := by
    rw [readValue, skipSpace_cons rfl]
    rfl
  rw [inside, read]
  rfl

theorem readItems_last {steps : Nat} {chars rest : List Char} {item : Json}
    (read : readValue steps chars = some (item, ']' :: rest)) :
    readItems (steps + 1) chars = some ([item], rest) := by
  rw [readItems, read]
  rfl

theorem readItems_next {steps : Nat} {chars middle rest : List Char} {item : Json}
    {items : List Json} (read : readValue steps chars = some (item, ',' :: middle))
    (others : readItems steps middle = some (items, rest)) :
    readItems (steps + 1) chars = some (item :: items, rest) := by
  rw [readItems, read]
  exact congrArg (Option.bind · fun found => some (item :: found.1, found.2)) others

theorem readMembers_last {steps : Nat} {chars middle rest : List Char} {name : Option String}
    {value : Json} (named : readText chars = some (name, ':' :: middle))
    (read : readValue steps middle = some (value, '\x7d' :: rest)) :
    readMembers (steps + 1) ('"' :: chars) = some ([(name, value)], rest) := by
  rw [readMembers, skipSpace_cons rfl]
  change (readText chars).bind _ = _
  rw [named]
  change (readValue steps middle).bind _ = _
  rw [read]
  rfl

theorem readMembers_next {steps : Nat} {chars middle later rest : List Char}
    {name : Option String} {value : Json} {members : List (Option String × Json)}
    (named : readText chars = some (name, ':' :: middle))
    (read : readValue steps middle = some (value, ',' :: later))
    (others : readMembers steps later = some (members, rest)) :
    readMembers (steps + 1) ('"' :: chars) = some ((name, value) :: members, rest) := by
  rw [readMembers, skipSpace_cons rfl]
  change (readText chars).bind _ = _
  rw [named]
  change (readValue steps middle).bind _ = _
  rw [read]
  exact congrArg (Option.bind · fun found => some ((name, value) :: found.1, found.2)) others

theorem length_write_pos {value : Json} (plain : value.IsPlain) : 0 < (write value).length := by
  obtain ⟨c, chars, written, -, -⟩ := exists_of_write plain
  rw [written]
  exact Nat.succ_pos _

mutual

/-- **A plain value is read at the start of a text.** -/
theorem readValue_write : ∀ (value : Json) (steps : Nat) (rest : List Char), value.IsPlain →
    EndsNumber rest → 2 * (write value).length ≤ steps + 1 →
      readValue (steps + 1) (write value ++ rest) = some (value, rest)
  | .null, steps, rest, _, _, _ => rfl
  | .bool true, steps, rest, _, _, _ => rfl
  | .bool false, steps, rest, _, _, _ => rfl
  | .number value, steps, rest, plain, ends, _ => by
    obtain ⟨c, chars, written, starts⟩ := exists_of_write_number plain
    have read := readNumber_write plain ends
    rw [written] at read
    rw [write, written, List.cons_append, readValue_number starts, ← List.cons_append, read]
    rfl
  | .string (some text), steps, rest, _, _, _ => by
    have read := readText_write text rest
    rw [write, writeText, List.cons_append, List.append_assoc, readValue, skipSpace_cons rfl]
    exact congrArg (Option.map fun found => (Json.string found.1, found.2)) read
  | .array [], steps, rest, _, _, _ => rfl
  | .array (item :: items), steps, rest, plain, _, enough => by
    have length : (write (.array (item :: items))).length =
        (writeItems (item :: items)).tail.length + 1 := rfl
    obtain ⟨fewer, rfl⟩ : ∃ fewer, steps = fewer + 1 := ⟨steps - 1, by omega⟩
    have read := readItems_write (item :: items) fewer rest plain (List.cons_ne_nil _ _) (by omega)
    refine readValue_array ?_ read
    obtain ⟨c, chars, written, visible, more⟩ := exists_of_write plain.1
    refine ⟨c, chars ++ writeItems items ++ rest, ?_, visible, more⟩
    change write item ++ writeItems items ++ rest = _
    rw [written]
    rfl
  | .object [], steps, rest, _, _, _ => rfl
  | .object ((some name, value) :: members), steps, rest, plain, _, enough => by
    have length : (write (.object ((some name, value) :: members))).length =
        (writeMembers ((some name, value) :: members)).tail.length + 1 := rfl
    obtain ⟨fewer, rfl⟩ : ∃ fewer, steps = fewer + 1 := ⟨steps - 1, by omega⟩
    have read := readMembers_write ((some name, value) :: members) fewer rest plain
      (List.cons_ne_nil _ _) (by omega)
    exact readValue_object read

/-- The items of an array are read after its start. -/
theorem readItems_write : ∀ (items : List Json) (steps : Nat) (rest : List Char), ArePlain items →
    items ≠ [] → 2 * (writeItems items).tail.length ≤ steps →
      readItems (steps + 1) ((writeItems items).tail ++ rest) = some (items, rest)
  | item :: items, steps, rest, plain, _, enough => by
    have written : (writeItems (item :: items)).tail = write item ++ writeItems items := rfl
    rw [written, List.length_append] at enough
    have positive := length_write_pos plain.1
    obtain ⟨fewer, rfl⟩ : ∃ fewer, steps = fewer + 1 := ⟨steps - 1, by omega⟩
    have first := readValue_write item fewer (writeItems items ++ rest) plain.1
      (endsNumber_writeItems items rest) (by omega)
    rw [written, List.append_assoc]
    cases items with
    | nil => exact readItems_last first
    | cons next items =>
      have length : (writeItems (next :: items)).length =
          (writeItems (next :: items)).tail.length + 1 := rfl
      exact readItems_next first (readItems_write (next :: items) fewer rest plain.2
        (List.cons_ne_nil _ _) (by omega))

/-- The members of an object are read after its start. -/
theorem readMembers_write : ∀ (members : List (Option String × Json)) (steps : Nat)
    (rest : List Char), HavePlain members → members ≠ [] →
      2 * (writeMembers members).tail.length ≤ steps →
        readMembers (steps + 1) ((writeMembers members).tail ++ rest) = some (members, rest)
  | (some name, value) :: members, steps, rest, plain, _, enough => by
    have written : (writeMembers ((some name, value) :: members)).tail =
        writeText (some name) ++ ':' :: write value ++ writeMembers members := rfl
    have read := readText_write name (':' :: (write value ++ (writeMembers members ++ rest)))
    have start : writeText (some name) ++ ':' :: write value ++ writeMembers members ++ rest =
        '"' :: (name.toList.flatMap escape ++
          '"' :: ':' :: (write value ++ (writeMembers members ++ rest))) := by
      simp [writeText]
    rw [written, List.length_append, List.length_append, List.length_cons] at enough
    have positive := length_write_pos plain.2.1
    obtain ⟨fewer, rfl⟩ : ∃ fewer, steps = fewer + 1 := ⟨steps - 1, by omega⟩
    have first := readValue_write value fewer (writeMembers members ++ rest) plain.2.1
      (endsNumber_writeMembers members rest) (by omega)
    rw [written, start]
    cases members with
    | nil => exact readMembers_last read first
    | cons next members =>
      have length : (writeMembers (next :: members)).length =
          (writeMembers (next :: members)).tail.length + 1 := rfl
      exact readMembers_next read first (readMembers_write (next :: members) fewer rest plain.2.2
        (List.cons_ne_nil _ _) (by omega))

end

/-- **A plain value is read back from its text.** -/
theorem read?_render {value : Json} (plain : value.IsPlain) : read? (render value) = some value := by
  have ends : EndsNumber [] := fun c first => nomatch first
  have read := readValue_write value (2 * (write value).length + 1) [] plain ends (by omega)
  rw [List.append_nil] at read
  rw [read?, render, String.toList_ofList, read]
  rfl

end Dialogue.Json
