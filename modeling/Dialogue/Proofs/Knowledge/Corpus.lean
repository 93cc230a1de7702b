/-
**What the examples of some intents contain.**

The words of an example are a text, and one that has words is a document under the place of its
label. Some texts have a vocabulary, in which each word has its place, and each word has a
frequency, the number of texts that contain it. A text grows at its end while it is read:

* `vocabulary_snoc`, `indicesIn_of_grows`: a new word goes to the end of the vocabulary, and the
  other ones keep their places;
* `frequency_snoc`: one word more counts if it is new in the text;
* `wordCounts_bounded`: a frequency is neither zero nor more than the number of texts;
* `documentsOf`, `mem_vocabulary_documentsOf`: the documents of some intents have the words of the
  examples.
-/

import Dialogue.Intent
import Mathlib.Data.List.Induction
import Mathlib.Data.List.Nodup

namespace Dialogue

/-! ### Vocabularies -/

/-- **The distinct words of some texts**, in the order in which they first come. -/
def vocabulary (texts : List (List String)) : List String := texts.flatten.eraseDups

/-- The place of a word in the vocabulary of some texts. -/
def indexIn (texts : List (List String)) (word : String) : Nat := (vocabulary texts).idxOf word

/-- The places of the words of a text, each once. -/
def indicesIn (texts : List (List String)) (words : List String) : List Nat :=
  words.eraseDups.map (indexIn texts)

/-- **How many of some texts contain a word.** -/
def frequency (texts : List (List String)) (word : String) : Nat :=
  texts.countP fun text => text.contains word

/-- How many of some texts contain each of their words, by the place of the word. -/
def wordCounts (texts : List (List String)) : List Nat :=
  (vocabulary texts).map (frequency texts)

section Vocabularies

variable {texts more : List (List String)} {words : List String} {word other : String}

theorem eraseDups_snoc (words : List String) (word : String) :
    (words ++ [word]).eraseDups =
      if word ∈ words then words.eraseDups else words.eraseDups ++ [word] := by
  rw [List.eraseDups_append, List.removeAll]
  by_cases there : word ∈ words <;> simp [there, List.eraseDups_cons]

theorem nodup_eraseDups (words : List String) : words.eraseDups.Nodup := by
  induction words using List.reverseRecOn with
  | nil => simp
  | append_singleton words word ih =>
    rw [eraseDups_snoc]
    split
    · exact ih
    · rename_i fresh
      exact ih.append (List.nodup_singleton word) (by simpa using fresh)

theorem mem_vocabulary : word ∈ vocabulary texts ↔ ∃ text ∈ texts, word ∈ text := by
  rw [vocabulary, List.mem_eraseDups, List.mem_flatten]

theorem nodup_vocabulary (texts : List (List String)) : (vocabulary texts).Nodup :=
  nodup_eraseDups texts.flatten

/-- More texts add words at the end. -/
theorem vocabulary_append (texts more : List (List String)) :
    vocabulary texts <+: vocabulary (texts ++ more) := by
  rw [vocabulary, vocabulary, List.flatten_append, List.eraseDups_append]
  exact List.prefix_append _ _

/-- The vocabulary when one word more is read of the last text. -/
theorem vocabulary_snoc (texts : List (List String)) (words : List String) (word : String) :
    vocabulary (texts ++ [words ++ [word]]) =
      if word ∈ vocabulary (texts ++ [words]) then vocabulary (texts ++ [words])
      else vocabulary (texts ++ [words]) ++ [word] := by
  have longer : (texts ++ [words ++ [word]]).flatten = (texts ++ [words]).flatten ++ [word] := by
    simp
  simp only [vocabulary, longer, eraseDups_snoc, List.mem_eraseDups]

theorem vocabulary_snoc_grows (texts : List (List String)) (words : List String) (word : String) :
    vocabulary (texts ++ [words]) <+: vocabulary (texts ++ [words ++ [word]]) := by
  rw [vocabulary_snoc]
  split
  · exact List.prefix_rfl
  · exact List.prefix_append _ _

theorem mem_vocabulary_snoc (texts : List (List String)) (words : List String) (word : String) :
    word ∈ vocabulary (texts ++ [words ++ [word]]) :=
  mem_vocabulary.mpr ⟨words ++ [word], by simp, by simp⟩

/-- A text without words has no part in the vocabulary. -/
theorem vocabulary_nil (texts : List (List String)) :
    vocabulary (texts ++ [[]]) = vocabulary texts := by
  simp [vocabulary]

theorem indexIn_inj (member : word ∈ vocabulary texts) :
    indexIn texts word = indexIn texts other ↔ word = other :=
  List.idxOf_inj member

theorem indexIn_lt_iff : indexIn texts word < (vocabulary texts).length ↔ word ∈ vocabulary texts :=
  List.idxOf_lt_length_iff

/-- A word of the vocabulary keeps its place when the vocabulary grows. -/
theorem indexIn_of_grows (grows : vocabulary texts <+: vocabulary more)
    (member : word ∈ vocabulary texts) : indexIn more word = indexIn texts word := by
  obtain ⟨rest, same⟩ := grows
  rw [indexIn, ← same, List.idxOf_append_of_mem member]
  rfl

/-- A word of a text is known by its place. -/
theorem mem_indicesIn (member : word ∈ vocabulary texts) :
    indexIn texts word ∈ indicesIn texts words ↔ word ∈ words := by
  rw [indicesIn, List.mem_map]
  constructor
  · rintro ⟨known, listed, same⟩
    rw [(indexIn_inj member).mp same.symm]
    exact List.mem_eraseDups.mp listed
  · exact fun listed => ⟨word, List.mem_eraseDups.mpr listed, rfl⟩

/-- The words of a text keep their places when the vocabulary grows. -/
theorem indicesIn_of_grows (grows : vocabulary texts <+: vocabulary more) (listed : words ∈ texts) :
    indicesIn more words = indicesIn texts words :=
  List.map_congr_left fun _ member =>
    indexIn_of_grows grows (mem_vocabulary.mpr ⟨words, listed, List.mem_eraseDups.mp member⟩)

theorem indicesIn_snoc (texts : List (List String)) (words : List String) (word : String) :
    indicesIn texts (words ++ [word]) =
      if word ∈ words then indicesIn texts words
      else indicesIn texts words ++ [indexIn texts word] := by
  rw [indicesIn, eraseDups_snoc]
  split
  · rfl
  · rw [List.map_append, List.map_singleton]
    rfl

theorem lt_of_mem_indicesIn (listed : words ∈ texts) {index : Nat}
    (member : index ∈ indicesIn texts words) : index < (vocabulary texts).length := by
  obtain ⟨word, found, rfl⟩ := List.mem_map.mp member
  exact indexIn_lt_iff.mpr (mem_vocabulary.mpr ⟨words, listed, List.mem_eraseDups.mp found⟩)

theorem frequency_append (texts more : List (List String)) (word : String) :
    frequency (texts ++ more) word = frequency texts word + frequency more word :=
  List.countP_append

theorem frequency_singleton (words : List String) (word : String) :
    frequency [words] word = if word ∈ words then 1 else 0 := by
  simp [frequency, List.countP_singleton]

theorem frequency_pos_iff : 0 < frequency texts word ↔ word ∈ vocabulary texts := by
  rw [frequency, List.countP_pos_iff, mem_vocabulary]
  simp

/-- A text without words has no part in the counts. -/
theorem wordCounts_nil (texts : List (List String)) :
    wordCounts (texts ++ [[]]) = wordCounts texts := by
  rw [wordCounts, vocabulary_nil]
  refine List.map_congr_left fun word _ => ?_
  rw [frequency_append, frequency_singleton]
  simp

/-- One more text counts for a word once the word is read in it. -/
theorem frequency_snoc (texts : List (List String)) (words : List String) (word other : String) :
    frequency (texts ++ [words ++ [word]]) other =
      if other = word ∧ word ∉ words then frequency (texts ++ [words]) other + 1
      else frequency (texts ++ [words]) other := by
  simp only [frequency_append, frequency_singleton, List.mem_append, List.mem_singleton]
  by_cases same : other = word <;> by_cases there : other ∈ words <;> simp_all

theorem getElem?_wordCounts (member : word ∈ vocabulary texts) :
    (wordCounts texts)[indexIn texts word]? = some (frequency texts word) := by
  rw [wordCounts, List.getElem?_map, indexIn, List.getElem?_idxOf member]
  rfl

/-- A frequency is neither zero nor more than the number of texts. -/
theorem wordCounts_bounded {count : Nat} (member : count ∈ wordCounts texts) :
    1 ≤ count ∧ count ≤ texts.length := by
  obtain ⟨word, known, rfl⟩ := List.mem_map.mp member
  exact ⟨frequency_pos_iff.mpr known, List.countP_le_length⟩

end Vocabularies

/-! ### Documents -/

/-- The words of an example, under the place of its label among the labels. -/
structure Document where
  label : Nat
  words : List String
deriving DecidableEq, Repr

/-- The documents of some examples: those that have words. -/
def documentsAt (place : Nat) (examples : List String) : List Document :=
  ((examples.map contentWords).filter fun words => !words.isEmpty).map (Document.mk place)

/-- The words of each of some documents. -/
abbrev textsOf (documents : List Document) : List (List String) := documents.map Document.words

/-- **The documents of some intents**, in order. -/
def documentsOf (intents : List Intent) : List Document :=
  intents.zipIdx.flatMap fun entry => documentsAt entry.2 entry.1.examples

theorem documentsAt_append (place : Nat) (first second : List String) :
    documentsAt place (first ++ second) = documentsAt place first ++ documentsAt place second := by
  simp [documentsAt]

theorem documentsOf_append (intents : List Intent) (intent : Intent) :
    documentsOf (intents ++ [intent]) =
      documentsOf intents ++ documentsAt intents.length intent.examples := by
  simp [documentsOf, List.zipIdx_append]

theorem of_mem_documentsAt {place : Nat} {examples : List String} {document : Document}
    (member : document ∈ documentsAt place examples) :
    document.label = place ∧ document.words ≠ [] := by
  obtain ⟨words, found, rfl⟩ := List.mem_map.mp member
  exact ⟨rfl, by simpa using (List.mem_filter.mp found).2⟩

/-- A document has words, and its label is the label of an intent. -/
theorem of_mem_documentsOf {intents : List Intent} {document : Document}
    (member : document ∈ documentsOf intents) :
    document.label < intents.length ∧ document.words ≠ [] := by
  obtain ⟨entry, there, found⟩ := List.mem_flatMap.mp member
  obtain ⟨same, words⟩ := of_mem_documentsAt found
  exact ⟨same ▸ List.snd_lt_of_mem_zipIdx there, words⟩

example : documentsOf [⟨"A", ["Hi, hi there", "?!"]⟩, ⟨"B", []⟩, ⟨"C", ["there"]⟩] =
    [⟨0, ["hi", "hi", "there"]⟩, ⟨2, ["there"]⟩] := by rfl

/-- The examples of some intents contain a word. -/
def InCorpus (intents : List Intent) (word : String) : Prop :=
  ∃ intent ∈ intents, ∃ text ∈ intent.examples, word ∈ contentWords text

/-- The documents have the words of the examples. -/
theorem mem_vocabulary_documentsOf {intents : List Intent} {word : String} :
    word ∈ vocabulary (textsOf (documentsOf intents)) ↔ InCorpus intents word := by
  rw [mem_vocabulary]
  constructor
  · rintro ⟨words, listed, inside⟩
    obtain ⟨document, member, rfl⟩ := List.mem_map.mp listed
    obtain ⟨entry, there, found⟩ := List.mem_flatMap.mp member
    obtain ⟨words, kept, rfl⟩ := List.mem_map.mp found
    obtain ⟨text, given, rfl⟩ := List.mem_map.mp (List.mem_filter.mp kept).1
    exact ⟨entry.1, List.fst_mem_of_mem_zipIdx there, text, given, inside⟩
  · -- An example with a word is not left out.
    rintro ⟨intent, member, text, listed, inside⟩
    obtain ⟨place, there⟩ := List.mem_iff_getElem?.mp member
    refine ⟨contentWords text, List.mem_map.mpr ⟨⟨place, contentWords text⟩, ?_, rfl⟩, inside⟩
    refine List.mem_flatMap.mpr ⟨(intent, place), List.mk_mem_zipIdx_iff_getElem?.mpr there, ?_⟩
    refine List.mem_map_of_mem (List.mem_filter.mpr ⟨List.mem_map_of_mem listed, ?_⟩)
    simpa using List.ne_nil_of_mem inside

end Dialogue
