/-
**Words and the blanks between them.**

* `isPunctuation_eq_false_of_isBlank`: no character is both a blank and punctuation;
* `Solid`: what a word is, characters without a blank; `solid_of_mem_splitWords`: every word of a
  text is one, and `splitWords_of_solid`: a text that is one is its only word;
* `EndsBlank`, `StartsBlank`: a blank at an end of a text; `splitWords_append`: there a text can be
  cut without cutting a word;
* `Trimmed`, `trimmed_trimChars`, `Trimmed.trimChars_eq`: what trimming gives, and what it leaves as
  it is; `splitWords_trimChars`: it keeps the words;
* `mem_of_mem_unwords`, `trimmed_unwords`, `splitWords_unwords`: words that are joined by spaces are
  found again.
-/

import Dialogue.Text.Blank
import Mathlib.Data.List.TakeWhile

namespace Dialogue.Text

/-- **A blank is no punctuation.** -/
theorem isPunctuation_eq_false_of_isBlank {c : Char} (blank : isBlank c) :
    isPunctuation c = false := by
  have apart : ∀ span ∈ blankSpans, ∀ other ∈ punctuationSpans,
      span.2 < other.1 ∨ other.2 < span.1 := by decide
  rw [isBlank, inSpans_eq_any isAscending_blankSpans, List.any_eq_true] at blank
  obtain ⟨span, inBlanks, held⟩ := blank
  rw [isPunctuation, inSpans_eq_any isAscending_punctuationSpans, List.any_eq_false]
  intro other inMarks heldToo
  simp only [Bool.and_eq_true, decide_eq_true_eq] at held heldToo
  have := apart span inBlanks other inMarks
  omega

/-- Characters that make one word. -/
def Solid (chars : List Char) : Prop := chars ≠ [] ∧ ∀ c ∈ chars, isBlank c = false

instance (chars : List Char) : Decidable (Solid chars) :=
  inferInstanceAs (Decidable (_ ∧ _))

/-- A text that makes one word is its only word. -/
theorem splitWords_of_solid {word : List Char} (solid : Solid word) : splitWords word = [word] :=
  splitWords_of_forall solid.1 solid.2

/-- No part of a text that is cut at its blanks has a blank. -/
theorem isBlank_eq_false_of_mem_splitOnP {chars part : List Char}
    (member : part ∈ chars.splitOnP isBlank) : ∀ c ∈ part, isBlank c = false := by
  induction chars generalizing part with
  | nil =>
    rw [List.splitOnP_nil, List.mem_singleton] at member
    subst member
    exact fun c absent => absurd absent List.not_mem_nil
  | cons c chars ih =>
    rw [List.splitOnP_cons_eq_if_modifyHead] at member
    split at member
    · rcases List.mem_cons.mp member with rfl | later
      · exact fun c absent => absurd absent List.not_mem_nil
      · exact ih later
    · rename_i filled
      -- The character joins the first part of what follows it.
      obtain ⟨first, others, cut⟩ := List.exists_cons_of_ne_nil (List.splitOnP_ne_nil isBlank chars)
      rw [cut, List.modifyHead_cons] at member
      rcases List.mem_cons.mp member with rfl | later
      · intro other inFirst
        rcases List.mem_cons.mp inFirst with rfl | inFirst
        · simpa using filled
        · exact ih (cut ▸ List.mem_cons_self) other inFirst
      · exact ih (cut ▸ List.mem_cons_of_mem first later)

/-- **Every word of a text makes one word.** -/
theorem solid_of_mem_splitWords {chars word : List Char} (member : word ∈ splitWords chars) :
    Solid word :=
  ⟨ne_nil_of_mem_splitWords member,
    isBlank_eq_false_of_mem_splitOnP (List.mem_filter.mp member).1⟩

/-! ### Cutting a text at a blank -/

/-- A text whose last character is a blank. -/
def EndsBlank (chars : List Char) : Prop := chars.getLast?.any isBlank

/-- A text whose first character is a blank. -/
def StartsBlank (chars : List Char) : Prop := chars.head?.any isBlank

instance (chars : List Char) : Decidable (EndsBlank chars) :=
  inferInstanceAs (Decidable (_ = true))

instance (chars : List Char) : Decidable (StartsBlank chars) :=
  inferInstanceAs (Decidable (_ = true))

theorem EndsBlank.exists_concat {chars : List Char} (ends : EndsBlank chars) :
    ∃ init gap, isBlank gap ∧ chars = init ++ [gap] := by
  obtain ⟨gap, last, blank⟩ := (Option.any_eq_true _ _).mp ends
  obtain ⟨init, rfl⟩ := List.getLast?_eq_some_iff.mp last
  exact ⟨init, gap, blank, rfl⟩

theorem StartsBlank.exists_cons {chars : List Char} (starts : StartsBlank chars) :
    ∃ gap rest, isBlank gap ∧ chars = gap :: rest := by
  obtain ⟨gap, first, blank⟩ := (Option.any_eq_true _ _).mp starts
  obtain ⟨rest, rfl⟩ := List.head?_eq_some_iff.mp first
  exact ⟨gap, rest, blank, rfl⟩

theorem endsBlank_append {before after : List Char} (ends : EndsBlank after) :
    EndsBlank (before ++ after) := by
  obtain ⟨init, gap, blank, rfl⟩ := ends.exists_concat
  rw [← List.append_assoc, EndsBlank, List.getLast?_concat]
  exact blank

theorem startsBlank_append {before after : List Char} (starts : StartsBlank before) :
    StartsBlank (before ++ after) := by
  obtain ⟨gap, rest, blank, rfl⟩ := starts.exists_cons
  exact blank

/-- A blank at the end of a text is in none of its words. -/
theorem splitWords_concat_blank {gap : Char} (blank : isBlank gap) (chars : List Char) :
    splitWords (chars ++ [gap]) = splitWords chars := by
  rw [splitWords_append_blank blank, splitWords_nil, List.append_nil]

/-- A blank at the start of a text is in none of its words. -/
theorem splitWords_cons_blank {gap : Char} (blank : isBlank gap) (chars : List Char) :
    splitWords (gap :: chars) = splitWords chars := by
  rw [← List.nil_append (gap :: chars), splitWords_append_blank blank, splitWords_nil,
    List.nil_append]

/-- **A text that is cut beside a blank keeps its words.** -/
theorem splitWords_append {before after : List Char}
    (joint : EndsBlank before ∨ StartsBlank after) :
    splitWords (before ++ after) = splitWords before ++ splitWords after := by
  rcases joint with ends | starts
  · obtain ⟨init, gap, blank, rfl⟩ := ends.exists_concat
    rw [List.append_assoc, List.singleton_append, splitWords_append_blank blank,
      splitWords_concat_blank blank]
  · obtain ⟨gap, rest, blank, rfl⟩ := starts.exists_cons
    rw [splitWords_append_blank blank, splitWords_cons_blank blank]

/-! ### The ends of a text -/

section Ends

variable (test : Char → Bool)

/-- Only characters that satisfy the test are removed from the end. -/
theorem exists_dropEndWhile (chars : List Char) :
    ∃ after, chars = dropEndWhile test chars ++ after ∧ ∀ c ∈ after, test c := by
  refine ⟨(chars.reverse.takeWhile test).reverse, ?_, fun c member => ?_⟩
  · rw [dropEndWhile, ← List.reverse_append, List.takeWhile_append_dropWhile, List.reverse_reverse]
  · exact List.mem_takeWhile_imp (List.mem_reverse.mp member)

/-- Only characters that satisfy the test are removed from the ends. -/
theorem exists_stripWhile (chars : List Char) :
    ∃ before after, chars = before ++ stripWhile test chars ++ after ∧
      (∀ c ∈ before, test c) ∧ ∀ c ∈ after, test c := by
  obtain ⟨after, whole, atEnd⟩ := exists_dropEndWhile test (chars.dropWhile test)
  refine ⟨chars.takeWhile test, after, ?_, fun c => List.mem_takeWhile_imp, atEnd⟩
  rw [List.append_assoc, stripWhile, ← whole, List.takeWhile_append_dropWhile]

end Ends

/-- A text without a blank at either end. -/
def Trimmed (chars : List Char) : Prop := ¬StartsBlank chars ∧ ¬EndsBlank chars

instance (chars : List Char) : Decidable (Trimmed chars) :=
  inferInstanceAs (Decidable (_ ∧ _))

theorem not_startsBlank_dropWhile (chars : List Char) :
    ¬StartsBlank (chars.dropWhile isBlank) := by
  unfold StartsBlank
  have first := List.head?_dropWhile_not isBlank chars
  cases head : (chars.dropWhile isBlank).head? with
  | none => simp
  | some c =>
    rw [head] at first
    simpa using first

/-- **Trimming leaves no blank at an end.** -/
theorem trimmed_trimChars (chars : List Char) : Trimmed (trimChars chars) := by
  constructor
  · intro starts
    obtain ⟨after, whole, _⟩ := exists_dropEndWhile isBlank (chars.dropWhile isBlank)
    have inner : StartsBlank (trimChars chars ++ after) := startsBlank_append starts
    rw [trimChars, stripWhile, ← whole] at inner
    exact not_startsBlank_dropWhile chars inner
  · rw [EndsBlank, trimChars, stripWhile, dropEndWhile, List.getLast?_reverse]
    exact not_startsBlank_dropWhile _

theorem dropWhile_of_not_startsBlank {chars : List Char} (visible : ¬StartsBlank chars) :
    chars.dropWhile isBlank = chars := by
  cases chars with
  | nil => rfl
  | cons c rest => exact List.dropWhile_cons_of_neg visible

/-- **A text without blanks at its ends is left as it is.** -/
theorem Trimmed.trimChars_eq {chars : List Char} (trimmed : Trimmed chars) :
    trimChars chars = chars := by
  have atStart := dropWhile_of_not_startsBlank trimmed.1
  have atEnd : chars.reverse.dropWhile isBlank = chars.reverse := by
    have ends := trimmed.2
    rw [EndsBlank, ← List.head?_reverse] at ends
    cases back : chars.reverse with
    | nil => rfl
    | cons c rest =>
      rw [back] at ends
      exact List.dropWhile_cons_of_neg ends
  rw [trimChars, stripWhile, atStart, dropEndWhile, atEnd, List.reverse_reverse]

theorem Trimmed.trim_eq {text : String} (trimmed : Trimmed text.toList) : trim text = text := by
  rw [trim, trimmed.trimChars_eq, String.ofList_toList]

theorem Solid.trimmed {word : List Char} (solid : Solid word) : Trimmed word := by
  constructor
  · intro starts
    obtain ⟨gap, rest, blank, rfl⟩ := starts.exists_cons
    exact absurd blank (by simp [solid.2 gap List.mem_cons_self])
  · intro ends
    obtain ⟨init, gap, blank, rfl⟩ := ends.exists_concat
    exact absurd blank (by simp [solid.2 gap (List.mem_concat_self)])

/-- Texts without blanks at their ends have none there when they are joined. -/
theorem Trimmed.append {before between after : List Char} (first : Trimmed before)
    (last : Trimmed after) (filledBefore : before ≠ []) (filledAfter : after ≠ []) :
    Trimmed (before ++ between ++ after) := by
  constructor
  · obtain ⟨c, rest, rfl⟩ := List.exists_cons_of_ne_nil filledBefore
    exact first.1
  · have filled : after.getLast?.isSome := by simpa using filledAfter
    rw [EndsBlank, List.getLast?_append, Option.or_of_isSome filled]
    exact last.2

/-- Blanks before a text are in none of its words. -/
theorem splitWords_blanks_append {gap : List Char} (blank : ∀ c ∈ gap, isBlank c)
    (chars : List Char) : splitWords (gap ++ chars) = splitWords chars := by
  induction gap with
  | nil => rfl
  | cons c gap ih =>
    rw [List.cons_append, splitWords_cons_blank (blank c List.mem_cons_self)]
    exact ih fun other member => blank other (List.mem_cons_of_mem c member)

/-- Blanks after a text are in none of its words. -/
theorem splitWords_append_blanks {gap : List Char} (blank : ∀ c ∈ gap, isBlank c)
    (chars : List Char) : splitWords (chars ++ gap) = splitWords chars := by
  have nothing : splitWords gap = [] := by
    rw [← List.append_nil gap, splitWords_blanks_append blank, splitWords_nil]
  cases gap with
  | nil => rw [List.append_nil]
  | cons c gap =>
    have starts : StartsBlank (c :: gap) := blank c List.mem_cons_self
    rw [splitWords_append (.inr starts), nothing, List.append_nil]

theorem mem_of_mem_trimChars {chars : List Char} {c : Char} (member : c ∈ trimChars chars) :
    c ∈ chars := by
  obtain ⟨before, after, whole, _, _⟩ := exists_stripWhile isBlank chars
  rw [whole]
  exact List.mem_append_left _ (List.mem_append_right _ member)

/-- **Trimming keeps the words.** -/
theorem splitWords_trimChars (chars : List Char) :
    splitWords (trimChars chars) = splitWords chars := by
  obtain ⟨before, after, whole, atStart, atEnd⟩ := exists_stripWhile isBlank chars
  have same : splitWords (before ++ trimChars chars ++ after) = splitWords (trimChars chars) := by
    rw [splitWords_append_blanks atEnd, splitWords_blanks_append atStart]
  rw [← same, trimChars, ← whole]

/-! ### Words joined by spaces -/

@[simp] theorem unwords_singleton (part : String) : unwords [part] = part := by
  rw [unwords, String.intercalate_singleton]

theorem unwords_cons_cons (first second : String) (others : List String) :
    (unwords (first :: second :: others)).toList =
      first.toList ++ ' ' :: (unwords (second :: others)).toList := by
  simp [unwords, String.toList_intercalate]

theorem unwords_append {first others : List String} (before : first ≠ []) (after : others ≠ []) :
    (unwords (first ++ others)).toList =
      (unwords first).toList ++ ' ' :: (unwords others).toList := by
  obtain ⟨other, rest, rfl⟩ := List.exists_cons_of_ne_nil after
  induction first with
  | nil => exact absurd rfl before
  | cons word first ih =>
    cases first with
    | nil => simp [unwords, String.toList_intercalate]
    | cons second first =>
      rw [List.cons_append, List.cons_append, unwords_cons_cons, unwords_cons_cons,
        ← List.cons_append, ih (List.cons_ne_nil _ _), List.append_assoc, List.cons_append]

/-- **Texts that are words joined by spaces are joined as their words are.** -/
theorem unwords_flatMap {pieces : String → List String} {texts : List String}
    (joined : ∀ text ∈ texts, unwords (pieces text) = text) (filled : ∀ text ∈ texts, text ≠ "") :
    unwords (texts.flatMap pieces) = unwords texts := by
  have some : ∀ text ∈ texts, pieces text ≠ [] := fun text member nothing => by
    have empty := joined text member
    rw [nothing] at empty
    exact filled text member empty.symm
  induction texts with
  | nil => rfl
  | cons first others ih =>
    obtain ⟨first_joined, joined⟩ := List.forall_mem_cons.mp joined
    obtain ⟨first_some, some⟩ := List.forall_mem_cons.mp some
    have later := ih joined (List.forall_mem_cons.mp filled).2 some
    cases others with
    | nil => simpa using first_joined
    | cons second others =>
      have after : (second :: others).flatMap pieces ≠ [] := fun nothing =>
        some second List.mem_cons_self (List.flatMap_eq_nil_iff.mp nothing second List.mem_cons_self)
      refine String.toList_inj.mp ?_
      rw [List.flatMap_cons, unwords_append first_some after, later, first_joined,
        unwords_cons_cons]

/-- What is found in a text on both sides of a space by itself is found in joined texts one by
one. -/
theorem unwords_distributes {α : Type} (find : List Char → List α) (empty : find [] = [])
    (space : ∀ before after, find (before ++ ' ' :: after) = find before ++ find after)
    (texts : List String) :
    find (unwords texts).toList = texts.flatMap fun text => find text.toList := by
  induction texts with
  | nil => exact empty
  | cons first others ih =>
    cases others with
    | nil => simp
    | cons second others =>
      rw [unwords_cons_cons, space, ih]
      rfl

/-- Joining words by spaces adds only spaces. -/
theorem mem_of_mem_unwords {parts : List String} {c : Char} (member : c ∈ (unwords parts).toList)
    (other : c ≠ ' ') : ∃ part ∈ parts, c ∈ part.toList := by
  induction parts with
  | nil => cases member
  | cons first others ih =>
    cases others with
    | nil => exact ⟨first, List.mem_cons_self, by rwa [unwords_singleton] at member⟩
    | cons second others =>
      rw [unwords_cons_cons, List.mem_append, List.mem_cons] at member
      rcases member with inFirst | same | later
      · exact ⟨first, List.mem_cons_self, inFirst⟩
      · exact absurd same other
      · obtain ⟨part, inOthers, inPart⟩ := ih later
        exact ⟨part, List.mem_cons_of_mem first inOthers, inPart⟩

/-- Words that are joined by spaces have no blank at the ends. -/
theorem trimmed_unwords {parts : List String} (solid : ∀ part ∈ parts, Solid part.toList) :
    Trimmed (unwords parts).toList ∧ (parts ≠ [] → (unwords parts).toList ≠ []) := by
  induction parts with
  | nil => exact ⟨by decide, fun filled => absurd rfl filled⟩
  | cons first others ih =>
    have inFirst := solid first List.mem_cons_self
    cases others with
    | nil =>
      rw [unwords_singleton]
      exact ⟨inFirst.trimmed, fun _ => inFirst.1⟩
    | cons second others =>
      obtain ⟨trimmed, filled⟩ :=
        ih fun part member => solid part (List.mem_cons_of_mem first member)
      rw [unwords_cons_cons, List.append_cons]
      refine ⟨inFirst.trimmed.append trimmed inFirst.1 (filled (List.cons_ne_nil _ _)), fun _ => ?_⟩
      simp [inFirst.1]

/-- **Words that are joined by spaces are found again.** -/
theorem splitWords_unwords {parts : List String} (solid : ∀ part ∈ parts, Solid part.toList) :
    splitWords (unwords parts).toList = parts.map String.toList := by
  rw [unwords_distributes splitWords splitWords_nil (splitWords_append_blank (by decide)),
    List.map_eq_flatMap, List.flatMap_def, List.flatMap_def]
  exact congrArg List.flatten <| List.map_congr_left fun part member =>
    splitWords_of_solid (solid part member)

theorem solid_of_mem_words {text word : String} (member : word ∈ words text) :
    Solid word.toList := by
  obtain ⟨chars, inText, rfl⟩ := List.mem_map.mp member
  rw [String.toList_ofList]
  exact solid_of_mem_splitWords inText

theorem words_unwords {parts : List String} (solid : ∀ part ∈ parts, Solid part.toList) :
    words (unwords parts) = parts := by
  rw [words, splitWords_unwords solid, List.map_map]
  exact (List.map_congr_left fun part _ => String.ofList_toList).trans (List.map_id parts)

end Dialogue.Text
