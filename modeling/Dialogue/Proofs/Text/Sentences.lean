/-
**Splitting into sentences loses no word.**

A text is cut between every end mark and the blank after it. What is dropped are marks and blanks,
so if punctuation does not count, the sentences have the words of the text; and a sentence has no
place left at which it could be cut again.

* `Scattered`: pieces that occur in a text one after the other, with nothing but gaps outside;
* `Unbroken`: a text without a sentence end inside; `unbroken_of_cutAtMarks`: so are the parts of a
  text that is cut, and `cutAtMarks_of_unbroken`: such a text is not cut;
* `scattered_sentenceChars`, `sentences_of_mem`: the sentences of a text lie in it, and each is its
  own only sentence;
* `Normalizer.inputWords_eq`: punctuation that does not count can be removed before the words are
  cut; `tokenize_sentences`: so the sentences have the words of the text;
* `sentences_lossless`: all of that, also for the sentences that an agent answers one by one.
-/

import Dialogue.Agent.State
import Dialogue.Proofs.Text.Words
import Mathlib.Data.List.Chain

namespace Dialogue

open Text

namespace Text

/-! ### Pieces in a text -/

/-- **Pieces that occur in a text in order, without overlap.** What is outside of them are gaps. -/
inductive Scattered (isGap : Char → Bool) : List (List Char) → List Char → Prop
  | nil {chars : List Char} : (∀ c ∈ chars, isGap c) → Scattered isGap [] chars
  | cons {before piece rest : List Char} {pieces : List (List Char)} : (∀ c ∈ before, isGap c) →
      Scattered isGap pieces rest → Scattered isGap (piece :: pieces) (before ++ piece ++ rest)

section Scattered

variable {isGap : Char → Bool}

/-- A gap in front of a text. -/
theorem Scattered.behind {before chars : List Char} {pieces : List (List Char)}
    (gap : ∀ c ∈ before, isGap c) (scattered : Scattered isGap pieces chars) :
    Scattered isGap pieces (before ++ chars) := by
  cases scattered with
  | nil gaps => exact .nil (List.forall_mem_append.mpr ⟨gap, gaps⟩)
  | cons first others =>
    rw [← List.append_assoc, ← List.append_assoc]
    exact .cons (List.forall_mem_append.mpr ⟨gap, first⟩) others

theorem Scattered.append {chars others : List Char} {pieces later : List (List Char)}
    (scattered : Scattered isGap pieces chars) (after : Scattered isGap later others) :
    Scattered isGap (pieces ++ later) (chars ++ others) := by
  induction scattered with
  | nil gaps => exact after.behind gaps
  | cons gap _ ih =>
    rw [List.cons_append, List.append_assoc]
    exact .cons gap ih

/-- Pieces without characters can be left out. -/
theorem Scattered.filter {chars : List Char} {pieces : List (List Char)}
    (scattered : Scattered isGap pieces chars) :
    Scattered isGap (pieces.filter fun piece => !piece.isEmpty) chars := by
  induction scattered with
  | nil gaps => exact .nil gaps
  | @cons before piece rest pieces gap _ ih =>
    cases piece with
    | nil =>
      rw [List.append_nil]
      exact ih.behind gap
    | cons => exact .cons gap ih

end Scattered

/-- What may lie between sentences. -/
def isSentenceGap (c : Char) : Bool := isBlank c || isEndMark c

theorem isSentenceGap_of_isBlank {c : Char} (blank : isBlank c) : isSentenceGap c := by
  simp [isSentenceGap, blank]

theorem isSentenceGap_of_isEndMark {c : Char} (mark : isEndMark c) : isSentenceGap c := by
  simp [isSentenceGap, mark]

/-- A text without the blanks at its ends lies in it. -/
theorem scattered_trimChars (chars : List Char) :
    Scattered isSentenceGap [trimChars chars] chars := by
  obtain ⟨before, after, whole, atStart, atEnd⟩ := exists_stripWhile isBlank chars
  conv => rhs; rw [whole]
  exact .cons (fun c member => isSentenceGap_of_isBlank (atStart c member))
    (.nil fun c member => isSentenceGap_of_isBlank (atEnd c member))

/-- Parts of a text, without their marks and blanks, lie in it. -/
theorem scattered_dropMarks (parts : List (List Char)) :
    Scattered isSentenceGap ((dropMarks parts).map trimChars) parts.flatten := by
  fun_induction dropMarks parts with
  | case1 => exact .nil fun c absent => absurd absent List.not_mem_nil
  | case2 last =>
    rw [List.flatten_singleton]
    exact scattered_trimChars last
  | case3 part next parts ih =>
    obtain ⟨marks, whole, atEnd⟩ := exists_dropEndWhile isEndMark part
    have inFirst : Scattered isSentenceGap [trimChars (dropEndWhile isEndMark part)] part := by
      conv => rhs; rw [whole]
      exact (scattered_trimChars _).append
        (.nil fun c member => isSentenceGap_of_isEndMark (atEnd c member))
    exact inFirst.append ih

/-- **The sentences of a text lie in it**, in order. -/
theorem scattered_sentenceChars (chars : List Char) :
    Scattered isSentenceGap (sentenceChars chars) chars := by
  obtain ⟨before, after, whole, atStart, atEnd⟩ := exists_stripWhile isBlank chars
  have inMiddle : Scattered isSentenceGap (sentenceChars chars) (trimChars chars) := by
    have parts := scattered_dropMarks (cutAtMarks (trimChars chars))
    rw [flatten_cutAtMarks] at parts
    exact parts.filter
  have extended :=
    (inMiddle.behind fun c member => isSentenceGap_of_isBlank (atStart c member)).append
      (.nil fun c member => isSentenceGap_of_isBlank (atEnd c member))
  rwa [List.append_nil, trimChars, ← whole] at extended

/-! ### Sentence ends -/

/-- **No sentence ends inside a text.** -/
def Unbroken (chars : List Char) : Prop :=
  chars.IsChain fun c next => ¬(isEndMark c ∧ isBlank next)

/-- A text that is cut has a first part, which begins like the text. -/
theorem exists_cutAtMarks (chars : List Char) :
    ∃ part parts, cutAtMarks chars = part :: parts ∧ part.head? = chars.head? := by
  cases chars with
  | nil => exact ⟨[], [], rfl, rfl⟩
  | cons c rest =>
    unfold cutAtMarks
    split
    · exact ⟨[c], [], rfl, rfl⟩
    · split
      · exact ⟨[c], _, rfl, rfl⟩
      · exact ⟨c :: _, _, rfl, rfl⟩

/-- A text is cut after its first character, or that one joins the first part of the rest. -/
theorem cutAtMarks_cons {c : Char} {rest part : List Char} {parts : List (List Char)}
    (cut : cutAtMarks rest = part :: parts) :
    cutAtMarks (c :: rest) =
      if isEndMark c && rest.head?.any isBlank then [c] :: part :: parts
      else (c :: part) :: parts := by
  rw [cutAtMarks, cut]

/-- **Every part of a text that is cut is unbroken**, and all but the first start with a blank. -/
theorem unbroken_of_cutAtMarks {chars part : List Char} {parts : List (List Char)}
    (cut : cutAtMarks chars = part :: parts) :
    (∀ other ∈ part :: parts, Unbroken other) ∧ ∀ other ∈ parts, StartsBlank other := by
  induction chars generalizing part parts with
  | nil =>
    obtain ⟨rfl, rfl⟩ := List.cons.inj cut
    exact ⟨List.forall_mem_singleton.mpr .nil, fun _ absent => absurd absent List.not_mem_nil⟩
  | cons c rest ih =>
    obtain ⟨first, others, cutRest, head⟩ := exists_cutAtMarks rest
    obtain ⟨unbroken, starts⟩ := ih cutRest
    rw [cutAtMarks_cons cutRest] at cut
    split at cut
    · rename_i ends
      obtain ⟨rfl, rfl⟩ := List.cons.inj cut
      rw [Bool.and_eq_true, ← head] at ends
      exact ⟨List.forall_mem_cons.mpr ⟨.singleton c, unbroken⟩,
        List.forall_mem_cons.mpr ⟨ends.2, starts⟩⟩
    · rename_i goesOn
      obtain ⟨rfl, rfl⟩ := List.cons.inj cut
      obtain ⟨inFirst, inOthers⟩ := List.forall_mem_cons.mp unbroken
      refine ⟨List.forall_mem_cons.mpr ⟨?_, inOthers⟩, starts⟩
      rw [← head] at goesOn
      refine List.isChain_cons.mpr ⟨fun next isNext ends => goesOn ?_, inFirst⟩
      rw [Option.mem_def.mp isNext]
      simpa using ends

/-- **A text without a sentence end inside is not cut.** -/
theorem cutAtMarks_of_unbroken {chars : List Char} (unbroken : Unbroken chars) :
    cutAtMarks chars = [chars] := by
  induction chars with
  | nil => rfl
  | cons c rest ih =>
    rw [cutAtMarks_cons (ih unbroken.of_cons), if_neg]
    intro ends
    rw [Bool.and_eq_true] at ends
    cases rest with
    | nil => cases ends.2
    | cons next rest => exact (List.isChain_cons_cons.mp unbroken).1 ends

/-- What is left without marks is the front of a part. -/
theorem exists_front_of_mem_dropMarks {parts : List (List Char)} {piece : List Char}
    (member : piece ∈ dropMarks parts) : ∃ part ∈ parts, piece <+: part := by
  fun_induction dropMarks parts with
  | case1 => cases member
  | case2 last =>
    obtain rfl := List.mem_singleton.mp member
    exact ⟨piece, member, List.prefix_rfl⟩
  | case3 part next parts ih =>
    rcases List.mem_cons.mp member with rfl | later
    · obtain ⟨marks, whole, _⟩ := exists_dropEndWhile isEndMark part
      exact ⟨part, List.mem_cons_self, marks, whole.symm⟩
    · obtain ⟨other, inOthers, front⟩ := ih later
      exact ⟨other, List.mem_cons_of_mem part inOthers, front⟩

/-- **A sentence is not empty, has no blank at its ends and no sentence end inside.** -/
theorem of_mem_sentenceChars {chars piece : List Char} (member : piece ∈ sentenceChars chars) :
    piece ≠ [] ∧ Trimmed piece ∧ Unbroken piece := by
  obtain ⟨inPieces, filled⟩ := List.mem_filter.mp member
  obtain ⟨unmarked, inParts, rfl⟩ := List.mem_map.mp inPieces
  refine ⟨by simpa using filled, trimmed_trimChars unmarked, ?_⟩
  obtain ⟨part, inCut, marks, rfl⟩ := exists_front_of_mem_dropMarks inParts
  obtain ⟨first, others, cut, _⟩ := exists_cutAtMarks (trimChars chars)
  have inPart : Unbroken unmarked :=
    ((unbroken_of_cutAtMarks cut).1 _ (cut ▸ inCut)).left_of_append
  obtain ⟨before, after, whole, _, _⟩ := exists_stripWhile isBlank unmarked
  rw [whole] at inPart
  exact inPart.left_of_append.right_of_append

/-- **A text that could be a sentence is its own only sentence.** -/
theorem sentenceChars_of_unbroken {chars : List Char} (filled : chars ≠ [])
    (trimmed : Trimmed chars) (unbroken : Unbroken chars) : sentenceChars chars = [chars] := by
  rw [sentenceChars, trimmed.trimChars_eq, cutAtMarks_of_unbroken unbroken, dropMarks,
    List.map_singleton, trimmed.trimChars_eq, List.filter_cons_of_pos (by simpa using filled)]
  rfl

/-- A text that could be a sentence is its own only sentence. -/
theorem sentences_of_unbroken {text : String} (filled : text ≠ "")
    (trimmed : Trimmed text.toList) (unbroken : Unbroken text.toList) :
    sentences text = [text] := by
  have nonempty : text.toList ≠ [] := mt String.toList_eq_nil_iff.mp filled
  rw [sentences, sentenceChars_of_unbroken nonempty trimmed unbroken, List.map_singleton,
    String.ofList_toList]

/-- Splitting a sentence again gives the sentence. -/
theorem sentences_of_mem {text piece : String} (member : piece ∈ sentences text) :
    sentences piece = [piece] := by
  obtain ⟨chars, inText, rfl⟩ := List.mem_map.mp member
  obtain ⟨filled, trimmed, unbroken⟩ := of_mem_sentenceChars inText
  refine sentences_of_unbroken ?_ ?_ ?_ <;> simpa

end Text

/-! ### Words -/

section Words

/-- Removing characters that are no gap does not move a gap. -/
theorem splitOnP_filter {keeps isGap : Char → Bool} (kept : ∀ c, isGap c → keeps c)
    (chars : List Char) :
    (chars.filter keeps).splitOnP isGap = (chars.splitOnP isGap).map (List.filter keeps) := by
  induction chars with
  | nil => rfl
  | cons c chars ih =>
    rw [List.splitOnP_cons_eq_if_modifyHead]
    obtain ⟨first, others, cut⟩ := List.exists_cons_of_ne_nil (List.splitOnP_ne_nil isGap chars)
    rw [cut, List.map_cons] at ih
    cases gap : isGap c with
    | true =>
      rw [List.filter_cons_of_pos (kept c gap), List.splitOnP_cons_eq_if_modifyHead, gap, ih, cut]
      rfl
    | false =>
      cases stays : keeps c with
      | true =>
        rw [List.filter_cons_of_pos stays, List.splitOnP_cons_eq_if_modifyHead, gap, ih, cut]
        simp [stays]
      | false =>
        rw [List.filter_cons_of_neg (by simp [stays]), ih, cut]
        simp [stays]

namespace Normalizer

variable (normalizer : Normalizer)

/-- The words of some characters of an input. -/
def inputWords (chars : List Char) : List InputWord :=
  (splitWords chars).filterMap normalizer.inputWord?

theorem tokenize_eq (text : String) :
    normalizer.tokenize text = normalizer.inputWords text.toList := rfl

/-- A text that is cut before blanks has the words of its parts. -/
theorem inputWords_flatten {part : List Char} {parts : List (List Char)}
    (starts : ∀ other ∈ parts, StartsBlank other) :
    normalizer.inputWords (part :: parts).flatten =
      (part :: parts).flatMap normalizer.inputWords := by
  induction parts generalizing part with
  | nil => simp
  | cons next parts ih =>
    obtain ⟨atNext, later⟩ := List.forall_mem_cons.mp starts
    have joint : StartsBlank (next :: parts).flatten := startsBlank_append atNext
    rw [List.flatten_cons, List.flatMap_cons, ← ih later, inputWords, inputWords, inputWords,
      ← List.filterMap_append, splitWords_append (.inr joint)]

variable {normalizer} (strip : normalizer.punctuation = .strip)

include strip

/-- **Punctuation that does not count can be removed before the words are cut.** -/
theorem inputWords_eq (chars : List Char) :
    normalizer.inputWords chars = (splitWords (chars.filter fun c => !isPunctuation c)).map
      fun word => ⟨String.ofList (normalizer.foldChars word), String.ofList word⟩ := by
  have kept : ∀ c, isBlank c → !isPunctuation c := fun c blank => by
    rw [isPunctuation_eq_false_of_isBlank blank]
    rfl
  -- Both sides go through the parts between blanks; a part that has nothing left is no word.
  rw [inputWords, splitWords, splitWords, splitOnP_filter kept, List.filter_map, List.map_map,
    ← List.filterMap_eq_map, List.filterMap_filter, List.filterMap_filter]
  refine List.filterMap_congr fun part _ => ?_
  rw [inputWord?, cleanChars, strip]
  cases part with
  | nil => rfl
  | cons c rest =>
    cases left : (c :: rest).filter fun c => !isPunctuation c <;> simp [left]

omit strip in
/-- A mark that ends a sentence is punctuation. -/
theorem isPunctuation_of_isEndMark {c : Char} (mark : isEndMark c) : isPunctuation c := by
  simp only [isEndMark, Bool.or_eq_true, beq_iff_eq] at mark
  rcases mark with (rfl | rfl) | rfl <;> decide

/-- Marks at the end of a text are in none of its words. -/
theorem inputWords_dropEndWhile (chars : List Char) :
    normalizer.inputWords (dropEndWhile isEndMark chars) = normalizer.inputWords chars := by
  obtain ⟨marks, whole, atEnd⟩ := exists_dropEndWhile isEndMark chars
  have uncounted : marks.filter (fun c => !isPunctuation c) = [] := by
    refine List.filter_eq_nil_iff.mpr fun c member => ?_
    rw [isPunctuation_of_isEndMark (atEnd c member)]
    decide
  have same : normalizer.inputWords (dropEndWhile isEndMark chars ++ marks) =
      normalizer.inputWords (dropEndWhile isEndMark chars) := by
    rw [inputWords_eq strip, inputWords_eq strip, List.filter_append, uncounted, List.append_nil]
  rw [← same, ← whole]

/-- Parts have the same words without their marks. -/
theorem flatMap_dropMarks (parts : List (List Char)) :
    (dropMarks parts).flatMap normalizer.inputWords = parts.flatMap normalizer.inputWords := by
  fun_induction dropMarks parts with
  | case1 => rfl
  | case2 last => rfl
  | case3 part next parts ih =>
    rw [List.flatMap_cons, inputWords_dropEndWhile strip, ih]
    rfl

/-- **The sentences of a text have its words**, in order. -/
theorem flatMap_sentenceChars (chars : List Char) :
    (sentenceChars chars).flatMap normalizer.inputWords = normalizer.inputWords chars := by
  have trimmed : ∀ piece, normalizer.inputWords (trimChars piece) = normalizer.inputWords piece :=
    fun piece => by rw [inputWords, splitWords_trimChars, inputWords]
  have filled : ∀ pieces : List (List Char),
      (pieces.filter fun piece => !piece.isEmpty).flatMap normalizer.inputWords =
        pieces.flatMap normalizer.inputWords := by
    intro pieces
    induction pieces with
    | nil => rfl
    | cons piece pieces ih => cases piece <;> simp [ih, inputWords]
  obtain ⟨part, parts, cut, _⟩ := exists_cutAtMarks (trimChars chars)
  have whole : normalizer.inputWords (part :: parts).flatten = _ :=
    normalizer.inputWords_flatten (unbroken_of_cutAtMarks cut).2
  rw [← cut, flatten_cutAtMarks, trimmed] at whole
  rw [whole, ← flatMap_dropMarks strip (cutAtMarks _), sentenceChars, filled, List.flatMap_map]
  simp only [trimmed]

theorem tokenize_sentences (text : String) :
    (sentences text).flatMap normalizer.tokenize = normalizer.tokenize text := by
  rw [tokenize_eq, ← flatMap_sentenceChars strip, sentences, List.flatMap_map]
  simp [tokenize_eq]

end Normalizer

end Words

/-- **Splitting into sentences loses no word.** The sentences of a text are not empty, have no blank
at their ends, and lie in it in order, with nothing but blanks and end marks between and around
them; each is its own only sentence. If punctuation does not count, their words, taken one sentence
after the other, are those of the text, with the same keys and texts. So whichever way an agent cuts
an input, it answers every word once. -/
theorem sentences_lossless (text : String) :
    Scattered isSentenceGap ((sentences text).map String.toList) text.toList ∧
    (∀ sentence ∈ sentences text,
      sentence ≠ "" ∧ trim sentence = sentence ∧ sentences sentence = [sentence]) ∧
    (∀ normalizer : Normalizer, normalizer.punctuation = .strip →
      (sentences text).flatMap normalizer.tokenize = normalizer.tokenize text) ∧
    ∀ agent : Agent, agent.normalizer.punctuation = .strip →
      (agent.inputSentences text).flatMap agent.normalizer.tokenize =
        agent.normalizer.tokenize text := by
  refine ⟨?_, fun sentence member => ?_, fun normalizer strip => ?_, fun agent strip => ?_⟩
  · have lies := scattered_sentenceChars text.toList
    simpa [sentences, Function.comp_def] using lies
  · obtain ⟨chars, inText, rfl⟩ := List.mem_map.mp member
    obtain ⟨filled, trimmed, _⟩ := of_mem_sentenceChars inText
    refine ⟨by simpa using filled, ?_, sentences_of_mem member⟩
    rw [trim, String.toList_ofList, trimmed.trimChars_eq]
  · exact Normalizer.tokenize_sentences strip text
  · rw [Agent.inputSentences]
    split
    · exact Normalizer.tokenize_sentences strip text
    · simp [Normalizer.tokenize_eq, Normalizer.inputWords, splitWords_trimChars]

/-- A point inside a number ends no sentence, marks by themselves are dropped, and the last sentence
keeps its mark. -/
theorem sentences_lossless_marks :
    let text := "Pi is 3.14 . Really?! Yes!"
    let sentence := "Pi is 3.14"
    sentences text = [sentence, "Really", "Yes!"] ∧
    trim sentence = sentence ∧ sentences sentence = [sentence] ∧
    [sentence, "Really", "Yes!"].flatMap (Normalizer.tokenize {}) =
      [⟨"pi", "Pi"⟩, ⟨"is", "is"⟩, ⟨"314", "314"⟩, ⟨"really", "Really"⟩, ⟨"yes", "Yes"⟩] := by
  intro text sentence
  have split : sentences text = [sentence, "Really", "Yes!"] := by decide +kernel
  have words : Normalizer.tokenize {} text =
      [⟨"pi", "Pi"⟩, ⟨"is", "is"⟩, ⟨"314", "314"⟩, ⟨"really", "Really"⟩, ⟨"yes", "Yes"⟩] := by
    decide +kernel
  obtain ⟨_, final, kept, _⟩ := sentences_lossless text
  rw [split] at final kept
  obtain ⟨_, trimmed, itself⟩ := final sentence List.mem_cons_self
  exact ⟨split, trimmed, itself, (kept {} rfl).trans words⟩

end Dialogue
