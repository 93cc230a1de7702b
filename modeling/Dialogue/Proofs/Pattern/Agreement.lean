/-
**A pattern's text and an input agree on their words.**

The words of a pattern are cleaned and folded before their keys are tested; those of an input are
cleaned, tested and then folded. Where a pattern has neither references nor words that mean
something else, both give the same keys.

* `Unmarked`: no reference begins anywhere in a text; `parsePattern_of_unmarked`: then the tokens
  are those of its words;
* `isOrdinary`: a word that stands for itself; `wordToken?_eq_map`: its token is the word that an
  input would have;
* `Normalizer.IsWord`, `IsWord.wordToken?_eq`: so, without punctuation, the word of an input can be
  written in a pattern and stands for itself there;
* `Key.ofWords`, `derives_ofWords`: a key of words without contexts is derived from those words;
* `parsePattern_agrees`: so a category finds the text of its own pattern.
-/

import Dialogue.Category
import Dialogue.Proofs.Store.CatchAll
import Dialogue.Proofs.Store.Locality
import Dialogue.Proofs.Text.Words

namespace Dialogue

open Text

/-! ### Texts without references -/

/-- No reference begins anywhere in a text. -/
def Unmarked (chars : List Char) : Prop :=
  ∀ rest, rest <:+ chars → Pattern.readReference? rest = none

/-- A reference begins with its bracket. -/
theorem readReference?_eq_none {chars : List Char} (unopened : chars.head? ≠ some '<') :
    Pattern.readReference? chars = none := by
  cases chars with
  | nil => rfl
  | cons c rest =>
    have other : '<' ≠ c := by
      rintro rfl
      exact unopened rfl
    simp [Pattern.readReference?, Pattern.afterLiteral?, other]

/-- **A text without an opening bracket has no references.** -/
theorem unmarked_of_not_mem {chars : List Char} (unopened : '<' ∉ chars) : Unmarked chars := by
  intro rest suffix
  refine readReference?_eq_none fun opened => unopened (suffix.subset ?_)
  exact List.mem_of_head? opened

/-- A text without references is one stretch. -/
theorem pieces_of_unmarked {chars : List Char} (unmarked : Unmarked chars) :
    Pattern.pieces chars = if chars.isEmpty then [] else [.text chars] := by
  induction chars with
  | nil =>
    rw [Pattern.pieces]
    rfl
  | cons c rest ih =>
    have inRest : Unmarked rest := fun other suffix =>
      unmarked other (suffix.trans (List.suffix_cons c rest))
    rw [Pattern.pieces]
    split
    · rename_i found
      rw [unmarked (c :: rest) List.suffix_rfl] at found
      cases found
    · show Pattern.prependChar c (Pattern.pieces rest) = _
      rw [ih inRest]
      cases rest <;> rfl

namespace Normalizer

variable (normalizer : Normalizer)

/-- **The tokens of a text without references are those of its words.** -/
theorem parsePattern_of_unmarked {text : String} (unmarked : Unmarked text.toList) :
    normalizer.parsePattern text =
      (splitWords text.toList).filterMap normalizer.wordToken? := by
  rw [parsePattern, pieces_of_unmarked unmarked]
  cases text.toList <;> simp [pieceTokens]

/-! ### Words that stand for themselves -/

/-- Whether a word of a pattern is neither a wildcard nor marked as going first. -/
def isOrdinary : List Char → Bool
  | ['*'] | ['_'] | ['#'] | ['^'] => false
  | '$' :: _ :: _ => false
  | _ => true

/-- Folding keeps something of every word. -/
@[simp] theorem foldChars_eq_nil_iff {chars : List Char} :
    normalizer.foldChars chars = [] ↔ chars = [] := by
  unfold foldChars
  split
  · rfl
  · exact lowerChars_eq_nil_iff

/-- The key of a word is empty exactly if nothing of the word counts. -/
theorem key_eq_empty_iff (word : String) :
    normalizer.key word = "" ↔ normalizer.cleanChars word.toList = [] := by
  rw [key, ← String.toList_eq_nil_iff, String.toList_ofList, foldChars_eq_nil_iff]

/-- The word of an input, by the key that a pattern gives it. -/
theorem inputWord?_eq (chars : List Char) :
    normalizer.inputWord? chars =
      if normalizer.key (String.ofList chars) = "" then none
      else some ⟨normalizer.key (String.ofList chars),
        String.ofList (normalizer.cleanChars chars)⟩ := by
  have counts := normalizer.key_eq_empty_iff (String.ofList chars)
  rw [String.toList_ofList] at counts
  by_cases nothing : normalizer.cleanChars chars = []
  · rw [if_pos (counts.mpr nothing)]
    simp [inputWord?, nothing]
  · rw [if_neg (mt counts.mp nothing)]
    simp [inputWord?, nothing, key]

/-- **An ordinary word of a pattern is the word that an input would have.** -/
theorem wordToken?_eq_map {chars : List Char} (ordinary : isOrdinary chars) :
    normalizer.wordToken? chars =
      (normalizer.inputWord? chars).map fun word => .word word.key := by
  have plain : normalizer.wordToken? chars =
      if normalizer.key (String.ofList chars) = "" then none
      else some (.word (normalizer.key (String.ofList chars))) := by
    unfold isOrdinary at ordinary
    unfold wordToken?
    split at ordinary <;> simp_all [String.isEmpty_iff]
  rw [plain, inputWord?_eq]
  split <;> rfl

/-- **A pattern of ordinary words has the words of its own text.** -/
theorem parsePattern_eq_map {text : String} (unmarked : Unmarked text.toList)
    (ordinary : ∀ word ∈ splitWords text.toList, isOrdinary word) :
    normalizer.parsePattern text =
      (normalizer.tokenize text).map fun word => .word word.key := by
  rw [parsePattern_of_unmarked normalizer unmarked, tokenize, List.map_filterMap]
  exact List.filterMap_congr fun word member =>
    normalizer.wordToken?_eq_map (ordinary word member)

/-! ### Words of an input as words of a pattern -/

/-- Cleaning leaves nothing to clean. -/
@[simp] theorem cleanChars_cleanChars (chars : List Char) :
    normalizer.cleanChars (normalizer.cleanChars chars) = normalizer.cleanChars chars := by
  unfold cleanChars
  split <;> simp

/-- Cleaning adds nothing. -/
theorem cleanChars_subset (chars : List Char) : normalizer.cleanChars chars ⊆ chars := by
  unfold cleanChars
  split
  · exact List.filter_subset_self chars
  · exact List.Subset.refl chars

/-- **A word that an input can have.** Its text is clean and has no blank, and its key is that of
its text. -/
structure IsWord (word : InputWord) : Prop where
  solid : Solid word.text.toList
  clean : normalizer.cleanChars word.text.toList = word.text.toList
  key : word.key = normalizer.key word.text

theorem isWord_of_mem_tokenize {text : String} {word : InputWord}
    (member : word ∈ normalizer.tokenize text) : normalizer.IsWord word := by
  obtain ⟨chars, inText, found⟩ := List.mem_filterMap.mp member
  have solid : Solid chars := solid_of_mem_splitWords inText
  rw [inputWord?_eq] at found
  split at found
  · cases found
  · rename_i counts
    obtain rfl := Option.some.inj found
    rw [key_eq_empty_iff, String.toList_ofList] at counts
    refine ⟨⟨?_, fun c inWord => solid.2 c ?_⟩, ?_, ?_⟩
    · rwa [String.toList_ofList]
    · exact normalizer.cleanChars_subset chars (by simpa using inWord)
    · simp
    · simp [key]

/-- The text of a word of an input is that word again. -/
theorem IsWord.inputWord?_eq {word : InputWord} (isWord : normalizer.IsWord word) :
    normalizer.inputWord? word.text.toList = some word := by
  have key : String.ofList (normalizer.foldChars word.text.toList) = word.key := by
    rw [isWord.key, Normalizer.key, isWord.clean]
  have filled := isWord.solid.1
  rw [inputWord?, isWord.clean]
  simp [filled, key]

variable {normalizer} (strip : normalizer.punctuation = .strip)

include strip

/-- Nothing that is clean is punctuation. -/
theorem isPunctuation_eq_false_of_clean {chars : List Char}
    (clean : normalizer.cleanChars chars = chars) : ∀ c ∈ chars, isPunctuation c = false := by
  rw [cleanChars, strip, List.filter_eq_self] at clean
  simpa using clean

/-- What has no punctuation is no word of the pattern language. -/
theorem isOrdinary_of_clean {chars : List Char} (clean : normalizer.cleanChars chars = chars) :
    isOrdinary chars := by
  have plain := isPunctuation_eq_false_of_clean strip clean
  unfold isOrdinary
  split
  · exact absurd (plain '*' List.mem_cons_self) (by decide)
  · exact absurd (plain '_' List.mem_cons_self) (by decide)
  · exact absurd (plain '#' List.mem_cons_self) (by decide)
  · exact absurd (plain '^' List.mem_cons_self) (by decide)
  · exact absurd (plain '$' List.mem_cons_self) (by decide)
  · rfl

/-- **The text of a word of an input, written in a pattern, is a word with its key.** -/
theorem IsWord.wordToken?_eq {word : InputWord} (isWord : normalizer.IsWord word) :
    normalizer.wordToken? word.text.toList = some (.word word.key) := by
  rw [wordToken?_eq_map normalizer (isOrdinary_of_clean strip isWord.clean),
    isWord.inputWord?_eq, Option.map_some]

end Normalizer

/-! ### Keys of words -/

/-- A key that has the given words and leaves the contexts open. -/
def Key.ofWords (words : List InputWord) : Key :=
  Key.ofTokens (words.map fun word => .word word.key) none none

/-- Every word by itself, and every context as one piece. -/
def Pieces.wordByWord (words that topic : List InputWord) : Pieces :=
  ⟨words.map ([·]), [that], [topic]⟩

/-- Words are cut by their own keys. -/
theorem cutBy_words (scope : Scope) (words : List InputWord) :
    CutBy scope (words.map fun word => .word word.key) (words.map ([·])) words := by
  constructor
  · rw [List.forall₂_map_left_iff, List.forall₂_map_right_iff, List.forall₂_same]
    exact fun word _ => ⟨word, rfl, rfl⟩
  · exact List.flatMap_singleton' words

/-- **The key of some words is derived from them**, whatever the contexts are. -/
theorem derives_ofWords (scope : Scope) (words : List InputWord) {that topic : List InputWord}
    (said : that ≠ []) (about : topic ≠ []) :
    Derives scope (Key.ofWords words) words that topic (.wordByWord words that topic) where
  pattern := cutBy_words scope words
  that := ⟨.cons said .nil, List.append_nil that⟩
  topic := ⟨.cons about .nil, List.append_nil topic⟩

/-- **Patterns and inputs agree on their words.** For every normalizer and every text that has no
references and no words but ordinary ones, the tokens of the text as a pattern are its words as an
input, with the same keys. So a definition without contexts that has the text for its pattern
compiles if there is a word; and in every store that changes of the empty one lead to and that has
something under its key, a lookup of those words, with any words for the contexts, finds something,
and finds the category itself if that is what is stored and no other has an earlier derivation. -/
theorem parsePattern_agrees (normalizer : Normalizer) (text : String)
    (unmarked : Unmarked text.toList)
    (ordinary : ∀ word ∈ splitWords text.toList, Normalizer.isOrdinary word) :
    let words := normalizer.tokenize text
    normalizer.parsePattern text = words.map (fun word => .word word.key) ∧
    (words ≠ [] → ∀ (template : Template) (origin : Origin),
      (⟨text, none, none, template⟩ : Definition).compile normalizer origin =
        .ok ⟨.ofWords words, template, origin⟩) ∧
    ∀ {σ : Type} (changes : List (Change σ)) (start : σ) (scope : Scope)
      (that topic : List InputWord),
      let store := ((Store.empty.performAll changes).run start).1.2
      words ≠ [] → that ≠ [] → topic ≠ [] → ∀ category,
        store.find? (.ofWords words) = some category →
          ∃ found, store.lookup scope words that topic = some found ∧
            ((∀ other ∈ store.categories, other ≠ category →
                ∀ pieces, Derives scope other.key words that topic pieces →
                  ¬ List.Lex Choice.Before (other.key.choices pieces)
                    (category.key.choices (.wordByWord words that topic))) →
              found.category = category) := by
  intro words
  have agrees : normalizer.parsePattern text = words.map (fun word => .word word.key) :=
    normalizer.parsePattern_eq_map unmarked ordinary
  refine ⟨agrees, fun filled template origin => ?_, ?_⟩
  · cases split : words with
    | nil => exact absurd split filled
    | cons word others =>
      rw [split] at agrees
      simp [Definition.compile, agrees, Key.ofWords]
  · intro σ changes start scope that topic store filled said about category stored
    have valid : store.Valid := Store.valid_performAll changes start
    have key : category.key = .ofWords words := valid.key_eq stored
    have derives := derives_ofWords scope words said about
    obtain ⟨found, outcome⟩ :=
      Option.isSome_iff_exists.mp (Store.isSome_lookup stored filled derives)
    refine ⟨found, outcome, fun noneEarlier => ?_⟩
    by_contra differ
    obtain ⟨_, pieces, first, _⟩ := (Store.lookup_eq_some_iff valid).mp outcome
    have member : category ∈ store.categories := by
      rwa [Store.mem_categories_iff valid, key]
    rw [← key] at derives
    rcases first.first category member _ derives with ⟨rfl, _⟩ | before
    · exact differ rfl
    · exact noneEarlier found.category first.stored differ pieces first.derives before

/-- A pattern with a full stop and a dash between its words finds its own text. -/
theorem parsePattern_agrees_punctuated :
    let text := "Well - known."
    let category : Category :=
      ⟨.ofWords [⟨"well", "Well"⟩, ⟨"known", "known"⟩], .text "A", .loaded⟩
    let changes : List (Change Unit) := [.insert category]
    let store := ((Store.empty.performAll changes).run ()).1.2
    Normalizer.parsePattern {} text = [.word "well", .word "known"] ∧
    (⟨text, none, none, .text "A"⟩ : Definition).compile {} .loaded = .ok category ∧
    ∃ found, store.lookup ⟨fun _ _ => false, fun _ _ => false, fun _ _ => false⟩
        (Normalizer.tokenize {} text) [⟨"yes", "yes"⟩] [⟨"pets", "pets"⟩] = some found ∧
      found.category.template = .text "A" := by
  intro text category changes store
  have words : Normalizer.tokenize {} text = [⟨"well", "Well"⟩, ⟨"known", "known"⟩] := by
    decide +kernel
  obtain ⟨agrees, compiles, finds⟩ := parsePattern_agrees {} text
    (unmarked_of_not_mem (by decide)) (by decide +kernel)
  rw [words] at agrees compiles finds
  refine ⟨agrees, compiles (by decide) (.text "A") .loaded, ?_⟩
  obtain ⟨found, outcome, itself⟩ := finds changes ()
    ⟨fun _ _ => false, fun _ _ => false, fun _ _ => false⟩ [⟨"yes", "yes"⟩] [⟨"pets", "pets"⟩]
    (by decide) (by decide) (by decide) category rfl
  rw [words]
  refine ⟨found, outcome, ?_⟩
  rw [itself fun other stored differ => absurd (List.mem_singleton.mp stored) differ]

end Dialogue
