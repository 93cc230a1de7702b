/-
**Counting up and down.**

The two maps that every agent has step the integer of sixty-four bits that a text spells. They give
its neighbours in decimal form, and nothing at the end of the range or for any other text. So what
one of them gives is what the other one takes back.

* `Numeral.Spells`: how an integer is spelled; `Numeral.readInteger?_eq_some_iff`: what is read is
  what is spelled;
* `Numeral.writeInteger_eq`, `Numeral.spells_toString`: what is written is the decimal form, and
  spells the integer;
* `Denotes`: the integer in range that a text spells between blanks;
* `stepInteger_of_denotes`, `iterate_stepInteger`: one step, and several;
* `counting_exact`: what follows for the two maps.
-/

import Dialogue.Proofs.Knowledge.NumberSets
import Mathlib.Data.Nat.Digits.Defs
import Mathlib.Logic.Function.Iterate

namespace Dialogue

open Text Numeral

/-! ### Spellings of integers -/

namespace Numeral

/-- The number that digits stand for: each place counts for ten times the one after it. -/
def placeValue (digits : List Char) : Nat := Nat.ofDigits 10 (digits.map digitValue).reverse

/-- **How an integer is spelled**: in digits, of which there is at least one and any number of zeros
may come first, with or without a sign in front of them. -/
inductive Spells : List Char → Int → Prop
  | unsigned {digits : List Char} (filled : digits ≠ []) (all : digits.all isDigit) :
    Spells digits (placeValue digits)
  | plus {digits : List Char} (filled : digits ≠ []) (all : digits.all isDigit) :
    Spells ('+' :: digits) (placeValue digits)
  | minus {digits : List Char} (filled : digits ≠ []) (all : digits.all isDigit) :
    Spells ('-' :: digits) (-(placeValue digits : Int))

theorem ofDigits_eq_placeValue (digits : List Char) : ofDigits digits = placeValue digits := by
  rw [placeValue, Nat.ofDigits_eq_foldr, ofDigits, List.foldl_eq_foldr_reverse, ← List.map_reverse,
    List.foldr_map]
  exact congrArg (fun step => List.foldr step 0 digits.reverse) (by
    funext digit value
    exact Nat.add_comm _ _)

/-- Without digits after the sign, or with anything else there, nothing is read. -/
theorem readInteger?_eq_some {chars digits : List Char} {negative : Bool} {value : Int}
    (signed : splitSign chars = (negative, digits)) :
    readInteger? chars = some value ↔ digits ≠ [] ∧ digits.all isDigit ∧
      value = if negative then -(placeValue digits : Int) else placeValue digits := by
  rw [← ofDigits_eq_placeValue, readInteger?, signed]
  cases digits with
  | nil => simp
  | cons digit digits =>
    dsimp only
    rw [Option.ite_none_right_eq_some, Option.some.injEq, @eq_comm Int _ value]
    exact (and_iff_right (List.cons_ne_nil digit digits)).symm

/-- **What is read is what is spelled.** -/
theorem readInteger?_eq_some_iff {chars : List Char} {value : Int} :
    readInteger? chars = some value ↔ Spells chars value := by
  constructor
  · intro read
    cases signed : splitSign chars with
    | mk negative digits =>
    obtain ⟨filled, all, rfl⟩ := (readInteger?_eq_some signed).mp read
    unfold splitSign at signed
    split at signed
    · cases signed
      exact .minus filled all
    · cases signed
      exact .plus filled all
    · cases signed
      exact .unsigned filled all
  · intro spells
    cases spells with
    | unsigned filled all =>
      rw [readInteger?_of_digits filled all, ofDigits_eq_placeValue]
    | plus filled all => exact (readInteger?_eq_some rfl).mpr ⟨filled, all, rfl⟩
    | minus filled all => exact (readInteger?_eq_some rfl).mpr ⟨filled, all, rfl⟩

/-! ### The decimal form -/

theorem all_isDigit_toDigits (value : Nat) : (Nat.toDigits 10 value).all isDigit := by
  refine List.all_eq_true.mpr fun c member => ?_
  exact Nat.isDigit_of_mem_toDigits (by decide) (Nat.le_refl 10) member

theorem placeValue_toDigits (value : Nat) : placeValue (Nat.toDigits 10 value) = value := by
  have read := @Nat.ofDigitChars_ten_toDigits value
  rw [Nat.ofDigitChars_eq_foldl] at read
  rw [← ofDigits_eq_placeValue]
  exact read

/-- The decimal form of a negative integer has a sign in front. -/
theorem toList_toString_negSucc (value : Nat) :
    (toString (Int.negSucc value)).toList = '-' :: Nat.toDigits 10 (value + 1) := by
  have form : toString (Int.negSucc value) =
    "-" ++ String.ofList (Nat.toDigits 10 (value + 1)) := rfl
  simp only [form, String.toList_append, String.toList_ofList]
  rfl

theorem toList_toString_ofNat (value : Nat) :
    (toString (Int.ofNat value)).toList = Nat.toDigits 10 value := String.toList_ofList

/-- **What is written is the decimal form.** -/
theorem writeInteger_eq (value : Int) : writeInteger value = toString value := by
  cases value with
  | ofNat value => rfl
  | negSucc value =>
    rw [← String.toList_inj, toList_toString_negSucc, writeInteger, String.toList_ofList,
      if_pos (Int.negSucc_lt_zero value)]
    rfl

/-- **The decimal form spells the integer.** -/
theorem spells_toString (value : Int) : Spells (toString value).toList value := by
  cases value with
  | ofNat value =>
    have spelled := Spells.unsigned (@Nat.toDigits_ne_nil value 10) (all_isDigit_toDigits value)
    rw [placeValue_toDigits] at spelled
    rw [toList_toString_ofNat]
    exact spelled
  | negSucc value =>
    have spelled := Spells.minus (@Nat.toDigits_ne_nil (value + 1) 10)
      (all_isDigit_toDigits (value + 1))
    rw [placeValue_toDigits] at spelled
    rw [toList_toString_negSucc]
    exact spelled

/-- A spelling is visible throughout. -/
theorem Spells.solid {chars : List Char} {value : Int} (spells : Spells chars value) :
    Solid chars := by
  have visible : ∀ digits : List Char, digits.all isDigit → ∀ c ∈ digits, isBlank c = false :=
    fun digits all c member => (of_isDigit (List.all_eq_true.mp all c member)).1
  cases spells with
  | unsigned filled all => exact ⟨filled, visible _ all⟩
  | plus filled all =>
    exact ⟨List.cons_ne_nil _ _, List.forall_mem_cons.mpr ⟨by decide, visible _ all⟩⟩
  | minus filled all =>
    exact ⟨List.cons_ne_nil _ _, List.forall_mem_cons.mpr ⟨by decide, visible _ all⟩⟩

theorem toString_ne_empty (value : Int) : toString value ≠ "" := by
  intro empty
  have filled := (spells_toString value).solid.1
  rw [empty] at filled
  exact filled rfl

end Numeral

/-! ### Steps -/

/-- An integer of sixty-four bits. -/
def InRange (value : Int) : Prop := leastInt64 ≤ value ∧ value ≤ greatestInt64

instance (value : Int) : Decidable (InRange value) := inferInstanceAs (Decidable (_ ∧ _))

/-- **The integer that a text denotes**: what it spells between blanks, if that is in range. -/
def Denotes (text : String) (value : Int) : Prop :=
  Spells (trim text).toList value ∧ InRange value

theorem readInt64?_eq_some_iff {text : String} {value : Int} :
    readInt64? (trim text) = some value ↔ Denotes text value := by
  rw [readInt64?, readBounded?, Option.filter_eq_some_iff, readInteger?_eq_some_iff,
    Bool.and_eq_true, decide_eq_true_eq, decide_eq_true_eq]
  rfl

/-- The decimal form denotes the integer. -/
theorem denotes_toString {value : Int} (inRange : InRange value) :
    Denotes (toString value) value := by
  refine ⟨?_, inRange⟩
  rw [(spells_toString value).solid.trimmed.trim_eq]
  exact spells_toString value

section Steps

variable {step value : Int} {text : String}

/-- **One step**: the decimal form of what is next, if it is in range. -/
theorem stepInteger_of_denotes (denotes : Denotes text value) :
    stepInteger step text = if InRange (value + step) then toString (value + step) else "" := by
  rw [stepInteger, readInt64?_eq_some_iff.mpr denotes]
  dsimp only
  rw [writeInteger_eq]
  rfl

theorem stepInteger_of_not_denotes (nothing : ¬∃ value, Denotes text value) :
    stepInteger step text = "" := by
  have unread : readInt64? (trim text) = none := by
    cases read : readInt64? (trim text) with
    | none => rfl
    | some value => exact absurd ⟨value, readInt64?_eq_some_iff.mp read⟩ nothing
  rw [stepInteger, unread]

/-- A step gives nothing exactly where it leaves the range. -/
theorem stepInteger_eq_empty_iff (denotes : Denotes text value) :
    stepInteger step text = "" ↔ ¬InRange (value + step) := by
  rw [stepInteger_of_denotes denotes]
  split
  · rename_i inRange
    exact iff_of_false (toString_ne_empty _) (not_not_intro inRange)
  · rename_i beyond
    exact iff_of_true rfl beyond

/-- **Several steps**, as long as none of them leaves the range. -/
theorem iterate_stepInteger (denotes : Denotes text value) {count : Nat}
    (stays : ∀ taken ≤ count, InRange (value + taken * step)) :
    (stepInteger step)^[count] text =
      if count = 0 then text else toString (value + count * step) := by
  induction count with
  | zero => rfl
  | succ count ih =>
    have last := stays (count + 1) (Nat.le_refl _)
    have before := ih fun taken fewer => stays taken (Nat.le_succ_of_le fewer)
    have here : Denotes ((stepInteger step)^[count] text) (value + count * step) := by
      rw [before]
      split
      · rename_i start
        rw [start]
        simpa using denotes
      · exact denotes_toString (stays count (Nat.le_succ count))
    have next : value + ((count + 1 : Nat) : Int) * step = value + count * step + step := by
      push_cast
      ring
    rw [next] at last ⊢
    rw [Function.iterate_succ_apply', stepInteger_of_denotes here, if_pos last,
      if_neg (Nat.succ_ne_zero count)]

/-- **There and back**: as many steps the other way lead to the decimal form of the integer. -/
theorem iterate_stepInteger_back {back : Int} (opposite : back = -step)
    (denotes : Denotes text value) {count : Nat}
    (stays : ∀ taken ≤ count, InRange (value + taken * step)) :
    (stepInteger back)^[count] ((stepInteger step)^[count] text) =
      if count = 0 then text else toString value := by
  subst opposite
  cases count with
  | zero => rfl
  | succ count =>
    have there := iterate_stepInteger denotes stays
    rw [if_neg (Nat.succ_ne_zero count)] at there ⊢
    have arrived := denotes_toString (stays (count + 1) (Nat.le_refl _))
    have back := @iterate_stepInteger (-step) _ _ arrived (count + 1) fun taken fewer => by
      have same : value + ((count + 1 : Nat) : Int) * step + taken * -step =
          value + ((count + 1 - taken : Nat) : Int) * step := by
        rw [Nat.cast_sub fewer]
        ring
      rw [same]
      exact stays _ (Nat.sub_le _ _)
    rw [there, back, if_neg (Nat.succ_ne_zero count)]
    congr 1
    ring

end Steps

/-! ### The two maps -/

/-- **What the two maps make of a text that denotes an integer.** -/
structure CountsFrom (text : String) (value : Int) : Prop where
  /-- Only the greatest integer has no successor. -/
  successor_eq_empty : successor text = "" ↔ value = greatestInt64
  successor_eq : value ≠ greatestInt64 → successor text = toString (value + 1)
  /-- Only the least integer has no predecessor. -/
  predecessor_eq_empty : predecessor text = "" ↔ value = leastInt64
  predecessor_eq : value ≠ leastInt64 → predecessor text = toString (value - 1)
  /-- What one map gives is taken back by the other one. -/
  predecessor_successor : successor text ≠ "" → predecessor (successor text) = toString value
  successor_predecessor : predecessor text ≠ "" → successor (predecessor text) = toString value
  /-- Counting up and as far down again; without a step the text stays as it is spelled. -/
  up_down (count : Nat) : value + count ≤ greatestInt64 →
    predecessor^[count] (successor^[count] text) = if count = 0 then text else toString value
  down_up (count : Nat) : leastInt64 ≤ value - count →
    successor^[count] (predecessor^[count] text) = if count = 0 then text else toString value

theorem successor_eq_stepInteger : successor = stepInteger 1 := rfl

theorem predecessor_eq_stepInteger : predecessor = stepInteger (-1) := rfl

theorem Denotes.countsFrom {text : String} {value : Int} (denotes : Denotes text value) :
    CountsFrom text value := by
  obtain ⟨least, greatest⟩ := denotes.2
  have up : ∀ count : Nat, value + count ≤ greatestInt64 →
      predecessor^[count] (successor^[count] text) =
        if count = 0 then text else toString value := by
    intro count within
    rw [successor_eq_stepInteger, predecessor_eq_stepInteger]
    refine iterate_stepInteger_back rfl denotes fun taken fewer => ?_
    unfold InRange
    omega
  have down : ∀ count : Nat, leastInt64 ≤ value - count →
      successor^[count] (predecessor^[count] text) =
        if count = 0 then text else toString value := by
    intro count within
    rw [successor_eq_stepInteger, predecessor_eq_stepInteger]
    refine iterate_stepInteger_back (neg_neg 1).symm denotes fun taken fewer => ?_
    unfold InRange
    omega
  have last : successor text = "" ↔ value = greatestInt64 := by
    rw [successor, stepInteger_eq_empty_iff denotes]
    unfold InRange
    omega
  have first : predecessor text = "" ↔ value = leastInt64 := by
    rw [predecessor, stepInteger_eq_empty_iff denotes]
    unfold InRange
    omega
  refine ⟨last, fun more => ?_, first, fun fewer => ?_, fun filled => ?_, fun filled => ?_,
    up, down⟩
  · rw [successor, stepInteger_of_denotes denotes, if_pos]
    unfold InRange
    omega
  · rw [predecessor, stepInteger_of_denotes denotes, if_pos]
    · rfl
    · unfold InRange
      omega
  · rw [ne_eq, last] at filled
    have once := up 1 (by omega)
    rwa [Function.iterate_one, Function.iterate_one, if_neg one_ne_zero] at once
  · rw [ne_eq, first] at filled
    have once := down 1 (by omega)
    rwa [Function.iterate_one, Function.iterate_one, if_neg one_ne_zero] at once

/-- **Counting is exact.** The maps `successor` and `predecessor` of a bot give the decimal forms of
the neighbours of the integer of sixty-four bits that a text denotes, and nothing exactly at the end
of the range. They undo each other, once and any number of times. For every other text they give
nothing. -/
theorem counting_exact :
    (∀ name text, canonical name = "successor" →
      ({} : Maps).call? name text = some (successor text)) ∧
    (∀ name text, canonical name = "predecessor" →
      ({} : Maps).call? name text = some (predecessor text)) ∧
    (∀ text value, Denotes text value → CountsFrom text value) ∧
    ∀ text, (¬∃ value, Denotes text value) → successor text = "" ∧ predecessor text = "" := by
  refine ⟨fun name text same => ?_, fun name text same => ?_, fun _ _ => Denotes.countsFrom,
    fun text nothing => ?_⟩
  · rw [Maps.call?, same]
    rfl
  · rw [Maps.call?, same]
    rfl
  · exact ⟨stepInteger_of_not_denotes nothing, stepInteger_of_not_denotes nothing⟩

/-- Seven with a sign, zeros and blanks around it, the greatest integer, and a text that is none. -/
theorem counting_exact_seven :
    canonical " Successor" = "successor" ∧
    ({} : Maps).call? " Successor" " +007 " = some "8" ∧
    canonical "PREDECESSOR" = "predecessor" ∧
    ({} : Maps).call? "PREDECESSOR" " +007 " = some "6" ∧
    Denotes " +007 " 7 ∧ CountsFrom " +007 " 7 ∧
    predecessor^[9] (successor^[9] " +007 ") = "7" ∧
    Denotes "9223372036854775807" greatestInt64 ∧ successor "9223372036854775807" = "" ∧
    (¬∃ value, Denotes "+-1" value) ∧ successor "+-1" = "" := by
  obtain ⟨up, down, counts, nothing⟩ := counting_exact
  have seven : Denotes " +007 " 7 := readInt64?_eq_some_iff.mp (by decide +kernel)
  have greatest : Denotes "9223372036854775807" greatestInt64 :=
    readInt64?_eq_some_iff.mp (by decide +kernel)
  have from7 := counts _ _ seven
  have other : ¬∃ value, Denotes "+-1" value := by
    rintro ⟨value, denotes⟩
    have read := readInt64?_eq_some_iff.mpr denotes
    have unread : readInt64? (trim "+-1") = none := by decide +kernel
    rw [unread] at read
    cases read
  have named : canonical " Successor" = "successor" := by decide +kernel
  have namedToo : canonical "PREDECESSOR" = "predecessor" := by decide +kernel
  refine ⟨named, ?_, namedToo, ?_, seven, from7, from7.up_down 9 (by decide), greatest,
    (counts _ _ greatest).successor_eq_empty.mpr rfl, other, (nothing _ other).1⟩
  · rw [up _ _ named, from7.successor_eq (by decide)]
    rfl
  · rw [down _ _ namedToo, from7.predecessor_eq (by decide)]
    rfl

end Dialogue
