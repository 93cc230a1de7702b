/-
**The sets of numbers and the words of an input.**

A word is looked up in a set by its key. Where punctuation counts, the key of a numeral is the
numeral, and the sets classify what was written. Where it does not count, the sign and the point of
a numeral are dropped like any other punctuation, and the sets classify the digits that are left.

* `readInteger?_of_digits`, `isDecimal_of_digits`: digits write an integer and a real number;
* `Fractional`: a decimal numeral with a fractional part;
* `Fractional.tokenize_text`: it is one word, whose key is the numeral or its digits;
* `Fractional.isRealNumeral_key`, `Fractional.readInt64?_key_isSome_iff`: what the key writes;
* `Agent.classifies_fractional`: so the sets of numbers tell such a word from an integer exactly
  where punctuation counts, or its digits are too large.
-/

import Dialogue.Agent.Setup
import Dialogue.Proofs.Store.Derivation
import Dialogue.Proofs.Text.Lowering

namespace Dialogue

open Text Numeral

/-! ### Digits -/

namespace Numeral

/-- A digit is one of ten characters. -/
theorem mem_of_isDigit {c : Char} (digit : isDigit c) : c ∈ "0123456789".toList := by
  have listed : (List.range 10).map (fun value => Char.ofNat (48 + value)) =
      "0123456789".toList := by decide
  simp only [isDigit, Bool.and_eq_true, decide_eq_true_eq, Char.le_def, UInt32.le_iff_toNat_le]
    at digit
  have least : 48 ≤ c.toNat := digit.1
  have greatest : c.toNat ≤ 57 := digit.2
  rw [← listed]
  refine List.mem_map.mpr ⟨c.toNat - 48, List.mem_range.mpr (by omega), ?_⟩
  rw [Nat.add_sub_cancel' least, Char.ofNat_toNat]

/-- A digit is a visible character that stays when punctuation is dropped and when it is lowered. -/
theorem of_isDigit {c : Char} (digit : isDigit c) :
    isBlank c = false ∧ isPunctuation c = false ∧ lowerChar c = [c] := by
  have each : "0123456789".toList.all fun other =>
      !isBlank other && !isPunctuation other && lowerChar other == [other] := by
    decide +kernel
  simpa [and_assoc] using List.all_eq_true.mp each c (mem_of_isDigit digit)

section Digits

variable {digits : List Char} (filled : digits ≠ []) (all : digits.all isDigit)

include filled all

/-- There is no sign in front of a digit. -/
theorem splitSign_of_digits (rest : List Char) :
    splitSign (digits ++ rest) = (false, digits ++ rest) := by
  obtain ⟨c, others, rfl⟩ := List.exists_cons_of_ne_nil filled
  have digit := List.all_eq_true.mp all c List.mem_cons_self
  rw [List.cons_append]
  unfold splitSign
  split
  · rename_i same
    rw [(List.cons_eq_cons.mp same).1] at digit
    cases digit
  · rename_i same
    rw [(List.cons_eq_cons.mp same).1] at digit
    cases digit
  · rfl

/-- **Digits write the integer that they are.** -/
theorem readInteger?_of_digits : readInteger? digits = some (ofDigits digits : Int) := by
  have unsigned := splitSign_of_digits filled all []
  rw [List.append_nil] at unsigned
  obtain ⟨c, others, rfl⟩ := List.exists_cons_of_ne_nil filled
  rw [readInteger?, unsigned]
  exact if_pos all

/-- **Digits write a real number**, also with a point and further digits after them. -/
theorem isDecimal_of_digits {fraction : List Char} (fractional : fraction.all isDigit) :
    isDecimal digits ∧ isDecimal (digits ++ '.' :: fraction) := by
  have taken : ∀ rest, (∀ c ∈ rest.head?, isDigit c = false) →
      (digits ++ rest).takeWhile isDigit = digits ∧ (digits ++ rest).dropWhile isDigit = rest := by
    intro rest ends
    have none_taken : rest.takeWhile isDigit = [] ∧ rest.dropWhile isDigit = rest := by
      cases rest with
      | nil => exact ⟨rfl, rfl⟩
      | cons c rest => simp [ends c rfl]
    have every := List.all_eq_true.mp all
    rw [List.takeWhile_append_of_pos every, List.dropWhile_append_of_pos every, none_taken.1,
      none_taken.2, List.append_nil]
    exact ⟨rfl, rfl⟩
  have some : digits.isEmpty = false := List.isEmpty_eq_false_iff.mpr filled
  constructor
  · obtain ⟨whole, rest⟩ := taken [] (by simp)
    rw [List.append_nil] at whole rest
    simp [isDecimal, whole, rest, some, isExponent]
  · obtain ⟨whole, rest⟩ := taken ('.' :: fraction) (by simp; decide)
    have after : fraction.dropWhile isDigit = [] := 
      List.dropWhile_eq_nil_iff.mpr (List.all_eq_true.mp fractional)
    simp [isDecimal, whole, rest, some, after, isExponent]

end Digits

end Numeral

/-! ### Decimal numerals with a fractional part -/

/-- **A decimal numeral with a fractional part**: digits, a point and digits, with or without a minus
sign in front. -/
structure Fractional where
  negative : Bool
  whole : List Char
  fraction : List Char
  whole_filled : whole ≠ []
  fraction_filled : fraction ≠ []
  whole_digits : whole.all isDigit
  fraction_digits : fraction.all isDigit

namespace Fractional

def sign (numeral : Fractional) : List Char := if numeral.negative then ['-'] else []

/-- The numeral, as characters. -/
def chars (numeral : Fractional) : List Char :=
  numeral.sign ++ (numeral.whole ++ '.' :: numeral.fraction)

def text (numeral : Fractional) : String := String.ofList numeral.chars

/-- All the digits of the numeral, run together. -/
def digits (numeral : Fractional) : List Char := numeral.whole ++ numeral.fraction

variable (numeral : Fractional)

theorem digits_filled : numeral.digits ≠ [] :=
  List.append_ne_nil_of_left_ne_nil numeral.whole_filled _

theorem all_digits : numeral.digits.all isDigit := by
  rw [digits, List.all_append, numeral.whole_digits, numeral.fraction_digits, Bool.and_true]

/-- A character of a numeral is a digit, the sign or the point. -/
theorem mem_chars {c : Char} (member : c ∈ numeral.chars) :
    c ∈ numeral.digits ∨ c ∈ ['-', '.'] := by
  rcases List.mem_append.mp member with inSign | member
  · refine .inr ?_
    unfold sign at inSign
    split at inSign
    · rw [List.mem_singleton.mp inSign]
      exact List.mem_cons_self
    · cases inSign
  · rcases List.mem_append.mp member with inWhole | member
    · exact .inl (List.mem_append_left _ inWhole)
    · rcases List.mem_cons.mp member with rfl | inFraction
      · exact .inr (List.mem_cons_of_mem _ List.mem_cons_self)
      · exact .inl (List.mem_append_right _ inFraction)

/-- Every character of a numeral is visible, and stays when it is lowered. -/
theorem of_mem_chars {c : Char} (member : c ∈ numeral.chars) :
    isBlank c = false ∧ lowerChar c = [c] := by
  rcases numeral.mem_chars member with inDigits | mark
  · obtain ⟨visible, _, still⟩ := of_isDigit (List.all_eq_true.mp numeral.all_digits c inDigits)
    exact ⟨visible, still⟩
  · have each : ['-', '.'].all fun other => !isBlank other && lowerChar other == [other] := by
      decide +kernel
    simpa using List.all_eq_true.mp each c mark

theorem solid_chars : Solid numeral.chars := by
  refine ⟨?_, fun c member => (numeral.of_mem_chars member).1⟩
  exact List.append_ne_nil_of_right_ne_nil _
    (List.append_ne_nil_of_left_ne_nil numeral.whole_filled _)

/-! ### The word of a numeral -/

/-- What is left of a numeral as a word. -/
def kept (numeral : Fractional) : Punctuation → List Char
  | .strip => numeral.digits
  | .literal => numeral.chars

theorem kept_filled (punctuation : Punctuation) : numeral.kept punctuation ≠ [] := by
  cases punctuation with
  | strip => exact numeral.digits_filled
  | literal => exact numeral.solid_chars.1

/-- Where punctuation does not count, the sign and the point are dropped. -/
theorem cleanChars_chars (normalizer : Normalizer) :
    normalizer.cleanChars numeral.chars = numeral.kept normalizer.punctuation := by
  have stays : ∀ digits : List Char, digits.all isDigit →
      (digits.filter fun c => !isPunctuation c) = digits := fun digits all =>
    List.filter_eq_self.mpr fun c member => by
      rw [(of_isDigit (List.all_eq_true.mp all c member)).2.1]
      rfl
  have marks : isPunctuation '-' ∧ isPunctuation '.' := by decide
  unfold Normalizer.cleanChars
  cases normalizer.punctuation with
  | literal => rfl
  | strip =>
    have unsigned : (numeral.sign.filter fun c => !isPunctuation c) = [] := by
      unfold sign
      split
      · simp [marks.1]
      · rfl
    simp only [chars, kept, digits, List.filter_append, List.filter_cons, unsigned,
      stays _ numeral.whole_digits, stays _ numeral.fraction_digits, marks.2, Bool.not_true,
      Bool.false_eq_true, if_false, List.nil_append]

/-- **A numeral is one word**, and case makes no difference to its key. -/
theorem tokenize_text (normalizer : Normalizer) :
    normalizer.tokenize numeral.text =
      [⟨String.ofList (numeral.kept normalizer.punctuation),
        String.ofList (numeral.kept normalizer.punctuation)⟩] := by
  have still : ∀ c ∈ numeral.kept normalizer.punctuation, lowerChar c = [c] := by
    intro c member
    cases punctuation : normalizer.punctuation with
    | strip =>
      rw [punctuation] at member
      exact (of_isDigit (List.all_eq_true.mp numeral.all_digits c member)).2.2
    | literal =>
      rw [punctuation] at member
      exact (numeral.of_mem_chars member).2
  have folded : normalizer.foldChars (numeral.kept normalizer.punctuation) =
      numeral.kept normalizer.punctuation := by
    unfold Normalizer.foldChars
    split
    · rfl
    · exact lowerChars_eq_self_iff.mpr still
  have some : (numeral.kept normalizer.punctuation).isEmpty = false :=
    List.isEmpty_eq_false_iff.mpr (numeral.kept_filled normalizer.punctuation)
  have word : normalizer.inputWord? numeral.chars =
      Option.some ⟨String.ofList (numeral.kept normalizer.punctuation),
        String.ofList (numeral.kept normalizer.punctuation)⟩ := by
    simp [Normalizer.inputWord?, numeral.cleanChars_chars, some, folded]
  rw [Normalizer.tokenize, text, String.toList_ofList, splitWords_of_solid numeral.solid_chars,
    List.filterMap_cons_some word, List.filterMap_nil]

/-! ### What the key of a numeral writes -/

/-- The numeral with its sign split off. -/
theorem splitSign_chars :
    splitSign numeral.chars = (numeral.negative, numeral.whole ++ '.' :: numeral.fraction) := by
  unfold chars sign
  cases numeral.negative with
  | true => rfl
  | false => exact splitSign_of_digits numeral.whole_filled numeral.whole_digits _

/-- **What is left of a numeral as a word writes a real number.** -/
theorem isRealNumeral_key (punctuation : Punctuation) :
    isRealNumeral (String.ofList (numeral.kept punctuation)) := by
  rw [isRealNumeral, String.toList_ofList, Bool.or_eq_true]
  refine .inl ?_
  cases punctuation with
  | strip =>
    have unsigned := splitSign_of_digits numeral.digits_filled numeral.all_digits []
    rw [List.append_nil] at unsigned
    rw [kept, unsigned]
    exact (@isDecimal_of_digits _ numeral.digits_filled numeral.all_digits [] rfl).1
  | literal =>
    rw [kept, splitSign_chars]
    exact (isDecimal_of_digits numeral.whole_filled numeral.whole_digits
      numeral.fraction_digits).2

/-- A numeral with its point writes no integer. -/
theorem readInteger?_chars : readInteger? numeral.chars = none := by
  -- Whatever stands around it, the point is no digit.
  have point : (numeral.whole ++ '.' :: numeral.fraction).all isDigit = false := by
    rw [List.all_append, List.all_cons, show isDigit '.' = false by decide, Bool.false_and,
      Bool.and_false]
  obtain ⟨c, others, whole⟩ := List.exists_cons_of_ne_nil numeral.whole_filled
  rw [readInteger?, numeral.splitSign_chars]
  rw [whole, List.cons_append] at point ⊢
  exact if_neg (by rw [point]; decide)

/-- **What is left of a numeral as a word writes an integer exactly if punctuation does not count**
and the digits are not too many. -/
theorem readInt64?_key_isSome_iff (punctuation : Punctuation) :
    (readInt64? (String.ofList (numeral.kept punctuation))).isSome ↔
      punctuation = .strip ∧ ofDigits numeral.digits ≤ 9223372036854775807 := by
  rw [readInt64?, readBounded?, String.toList_ofList]
  cases punctuation with
  | strip =>
    rw [kept, readInteger?_of_digits numeral.digits_filled numeral.all_digits]
    simp only [Option.isSome_filter, Option.any_some, Bool.and_eq_true, decide_eq_true_eq, true_and]
    unfold leastInt64 greatestInt64
    omega
  | literal =>
    rw [kept, numeral.readInteger?_chars]
    simp

end Fractional

/-! ### The built-in sets -/

section BuiltIn

variable {sets : WordSets}

theorem contains_reals (unloaded : sets.sets.get? "reals" = none) (word : String) :
    sets.contains "reals" word = isRealNumeral word := by
  rw [WordSets.contains, unloaded]
  rfl

theorem contains_integers (unloaded : sets.sets.get? "integers" = none) (word : String) :
    sets.contains "integers" word = (readInt64? word).isSome := by
  rw [WordSets.contains, unloaded]
  rfl

end BuiltIn

/-- In a derivation of a key, a token accepts its piece. -/
theorem Derives.accepts {scope : Scope} {key : Key} {input that topic : List InputWord}
    {pieces : Pieces} (derives : Derives scope key input that topic pieces) {token : Token}
    {span : List InputWord} (member : (token, span) ∈ key.pattern.zip pieces.pattern) :
    token.Accepts scope span :=
  (List.forall₂_iff_zip.mp derives.pattern.1).2 member

/-- **The sets of numbers and a numeral with a fractional part.** Unless sets of these names were
loaded, such a numeral is one word, and it belongs to the real numbers. It belongs to the integers
exactly if punctuation does not count, so that the word is its digits run together, and these write
an integer of sixty-four bits. So no match of any pattern gives the numeral to the integers where
punctuation counts. -/
theorem Agent.classifies_fractional (agent : Agent) (numeral : Fractional)
    (noIntegers : agent.sets.sets.get? "integers" = none)
    (noReals : agent.sets.sets.get? "reals" = none) :
    ∃ word, agent.normalizer.tokenize numeral.text = [word] ∧
      (agent.settings.punctuation = .literal → word.key = numeral.text) ∧
      (agent.settings.punctuation = .strip → word.key = String.ofList numeral.digits) ∧
      agent.sets.contains "reals" word.key = true ∧
      (agent.sets.contains "integers" word.key = true ↔
        agent.settings.punctuation = .strip ∧
          ofDigits numeral.digits ≤ 9223372036854775807) ∧
      ∀ key input that topic pieces,
        Derives agent.scope key (agent.normalizer.tokenize input) that topic pieces →
        (.set "integers", [word]) ∈ key.pattern.zip pieces.pattern →
          agent.settings.punctuation = .strip ∧
            ofDigits numeral.digits ≤ 9223372036854775807 := by
  have integers := numeral.readInt64?_key_isSome_iff agent.settings.punctuation
  rw [← contains_integers noIntegers] at integers
  refine ⟨_, numeral.tokenize_text agent.normalizer, fun literal => ?_, fun strip => ?_, ?_,
    integers, fun key input that topic pieces derives member => ?_⟩
  · dsimp only [Agent.normalizer, Settings.normalizer]
    rw [literal]
    rfl
  · dsimp only [Agent.normalizer, Settings.normalizer]
    rw [strip]
    rfl
  · rw [contains_reals noReals]
    exact numeral.isRealNumeral_key _
  · obtain ⟨word, same, inSet⟩ := derives.accepts member
    cases same
    exact integers.mp inSet

/-- Three and a half where punctuation counts, and where it does not: there it is thirty-five, and a
match may give it to the integers. -/
theorem Agent.classifies_fractional_half :
    let numeral : Fractional :=
      ⟨false, ['3'], ['5'], by decide, by decide, by decide, by decide⟩
    let literal : Setup :=
      { generator := fun _ => .first, settings := { punctuation := .literal } }
    let strip : Setup := { generator := fun _ => .first }
    let key : Key := ⟨[.set "integers"], [.star], [.star]⟩
    let context : List InputWord := [⟨"unknown", "unknown"⟩]
    numeral.text = "3.5" ∧
    (literal.build.1.sets.sets.get? "integers" = none ∧
      literal.build.1.sets.sets.get? "reals" = none ∧
      ∃ word, literal.build.1.normalizer.tokenize "3.5" = [word] ∧ word.key = "3.5" ∧
        literal.build.1.sets.contains "reals" word.key = true ∧
        literal.build.1.sets.contains "integers" word.key = false) ∧
    strip.build.1.sets.sets.get? "integers" = none ∧
      strip.build.1.sets.sets.get? "reals" = none ∧
      ∃ word, strip.build.1.normalizer.tokenize "3.5" = [word] ∧ word.key = "35" ∧
        strip.build.1.sets.contains "reals" word.key = true ∧
        strip.build.1.sets.contains "integers" word.key = true ∧
        Derives strip.build.1.scope key (strip.build.1.normalizer.tokenize "3.5") context context
          ⟨[[word]], [context], [context]⟩ ∧
        strip.build.1.settings.punctuation = .strip := by
  intro numeral literal strip key context
  refine ⟨rfl, ⟨rfl, rfl, ?_⟩, rfl, rfl, ?_⟩
  · obtain ⟨word, read, written, _, reals, integers, _⟩ :=
      literal.build.1.classifies_fractional numeral rfl rfl
    refine ⟨word, read, written rfl, reals, ?_⟩
    rw [← Bool.not_eq_true, integers]
    exact fun dropped => absurd dropped.1 (by decide)
  · obtain ⟨word, read, _, dropped, reals, integers, matched⟩ :=
      strip.build.1.classifies_fractional numeral rfl rfl
    have inSet := integers.mpr ⟨rfl, by decide⟩
    have star : CutBy strip.build.1.scope [.star] [context] context :=
      ⟨.cons (List.cons_ne_nil _ _) .nil, rfl⟩
    have derives : Derives strip.build.1.scope key (strip.build.1.normalizer.tokenize "3.5") context
        context ⟨[[word]], [context], [context]⟩ :=
      ⟨⟨.cons ⟨word, rfl, inSet⟩ .nil, read.symm⟩, star, star⟩
    exact ⟨word, read, dropped rfl, reals, inSet, derives,
      (matched key "3.5" context context _ derives List.mem_cons_self).1⟩

/-- Where punctuation does not count, three and a half is among the integers. -/
theorem not_classifies_fractional :
    ¬ ∀ (normalizer : Normalizer) (sets : WordSets) (numeral : Fractional),
      sets.sets.get? "integers" = none → sets.sets.get? "reals" = none →
      ∃ word, normalizer.tokenize numeral.text = [word] ∧
        sets.contains "reals" word.key = true ∧ sets.contains "integers" word.key = false := by
  intro always
  let numeral : Fractional := ⟨false, ['3'], ['5'], by decide, by decide, by decide, by decide⟩
  obtain ⟨word, read, _, integers⟩ := always {} {} numeral rfl rfl
  rw [numeral.tokenize_text {}] at read
  cases read
  rw [contains_integers rfl] at integers
  exact absurd integers (by decide)

end Dialogue
