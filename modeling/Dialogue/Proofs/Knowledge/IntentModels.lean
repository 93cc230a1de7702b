/-
**Models of intents are well formed.**

A model is made by reading the documents word by word. While this goes on, the texts that came so
far, the present one included, determine the tables: the index of a word is its place in their
vocabulary, and its frequency is how many of them contain it. So every list is long enough wherever
it is read by an index, and an input always has an answer, whatever the scores are.

* `exists_foldlM`, `exists_mapM`: a loop of steps that keep something has an outcome and keeps it;
* `Reading.Knows`, `Reading.Knows.readWord`: what is known while a document is read, and one word
  more;
* `Draft.Holds`, `Draft.Holds.addExample`, `Draft.Holds.finish`: what a draft holds, one example
  more, and the model of it;
* `WellFormed`, `Answers`, `wellFormed_ofIntents`: the model of some intents and its answers.
-/

import Dialogue.Intent
import Dialogue.Proofs.Knowledge.Corpus
import Mathlib.Data.List.Forall2
import Mathlib.Data.Set.Function

namespace Dialogue

/-! ### Loops and lists -/

section Loops

variable {α β σ : Type}

/-- **A loop of steps that keep an invariant** has an outcome, which keeps it. -/
theorem exists_foldlM (Keeps : List α → σ → Prop) {step : σ → α → Option σ}
    (keeps : ∀ done item state, Keeps done state →
      ∃ after, step state item = some after ∧ Keeps (done ++ [item]) after)
    {state : σ} (start : Keeps [] state) (items : List α) :
    ∃ after, items.foldlM step state = some after ∧ Keeps items after := by
  -- The invariant is about the items done, so the last step comes off first.
  induction items using List.reverseRecOn with
  | nil => exact ⟨state, rfl, start⟩
  | append_singleton items item ih =>
    obtain ⟨middle, ran, kept⟩ := ih
    obtain ⟨after, stepped, keptToo⟩ := keeps items item middle kept
    refine ⟨after, ?_, keptToo⟩
    rw [List.foldlM_append, ran]
    simpa using stepped

/-- Steps on items that keep something of each have outcomes, which keep it. -/
theorem exists_mapM {γ : Type} (before : α → γ) (after : β → γ) {step : α → Option β}
    {items : List α}
    (keeps : ∀ item ∈ items, ∃ image, step item = some image ∧ after image = before item) :
    ∃ images, items.mapM step = some images ∧ images.map after = items.map before := by
  induction items with
  | nil => exact ⟨[], rfl, rfl⟩
  | cons item items ih =>
    obtain ⟨image, ran, kept⟩ := keeps item List.mem_cons_self
    obtain ⟨images, others, same⟩ := ih fun other member =>
      keeps other (List.mem_cons_of_mem _ member)
    refine ⟨image :: images, ?_, by rw [List.map_cons, List.map_cons, kept, same]⟩
    rw [List.mapM_cons, ran, others]
    rfl

/-- Two lists have as many items that pass a test if their items agree on it in pairs. -/
theorem countP_eq_of_forall₂ {related : α → β → Prop} {items : List α} {images : List β}
    {first : α → Bool} {second : β → Bool} (pairs : List.Forall₂ related items images)
    (agree : ∀ item image, related item image → (first item = true ↔ second image = true)) :
    items.countP first = images.countP second := by
  induction pairs with
  | nil => rfl
  | cons pair _ ih =>
    rw [List.countP_cons, List.countP_cons, ih]
    simp only [agree _ _ pair]

end Loops

/-! ### Tables -/

/-- A value under a new key goes to the end of a table. -/
theorem Table.set_of_not_mem {κ α : Type} [DecidableEq κ] {table : Table κ α} {key : κ}
    (fresh : key ∉ table.map Prod.fst) (value : α) :
    table.set key value = table ++ [(key, value)] := by
  induction table with
  | nil => rfl
  | cons entry table ih =>
    rw [List.map_cons, List.mem_cons, not_or] at fresh
    rw [Table.set, if_neg (Ne.symm fresh.1), ih fresh.2]
    rfl

/-- The words of a bag, by their indices. -/
def Bag.words (bag : Bag) : List Nat := bag.map Prod.fst

theorem Bag.words_add (index : Nat) (weight : Float) (bag : Bag) :
    (bag.add index weight).words =
      if index ∈ bag.words then bag.words else bag.words ++ [index] :=
  Table.map_fst_set index _ bag

theorem Bag.mem_words_add {index other : Nat} {weight : Float} {bag : Bag} :
    other ∈ (bag.add index weight).words ↔ other = index ∨ other ∈ bag.words := by
  rw [Bag.words_add]
  split
  · rename_i there
    exact ⟨.inr, fun either => either.elim (fun same => same ▸ there) id⟩
  · rw [List.mem_append, List.mem_singleton, or_comm]

theorem Bag.add_ne_nil (index : Nat) (weight : Float) (bag : Bag) :
    bag.add index weight ≠ [] := by
  intro empty
  have inside : index ∈ (bag.add index weight).words := Bag.mem_words_add.mpr (.inl rfl)
  rw [empty] at inside
  exact List.not_mem_nil inside

theorem Bag.isSome_get?_iff {bag : Bag} {index : Nat} :
    (Table.get? index bag).isSome = true ↔ index ∈ bag.words := by
  induction bag with
  | nil => simp [Bag.words]
  | cons entry bag ih =>
    rw [Table.get?, Bag.words, List.map_cons, List.mem_cons, ← Bag.words, ← ih]
    by_cases same : entry.1 = index
    · simp [same]
    · simp [same, Ne.symm same]

/-- The indices of the words are their places. -/
theorem get?_zipIdx (known : List String) (word : String) (start : Nat) :
    Table.get? word (known.zipIdx start) =
      if word ∈ known then some (start + known.idxOf word) else none := by
  induction known generalizing start with
  | nil => rfl
  | cons first rest ih =>
    rw [List.zipIdx_cons, Table.get?, ih]
    by_cases same : first = word
    · simp [same]
    · rw [List.idxOf_cons_ne rest same]
      simp [same, Ne.symm same, Nat.add_comm, Nat.add_left_comm]

/-- Values that change at one place of the vocabulary. -/
theorem map_set_idxOf {known : List String} (distinct : known.Nodup) {word : String}
    {count after : String → Nat} (others : ∀ other, other ≠ word → after other = count other) :
    (known.map count).set (known.idxOf word) (after word) = known.map after := by
  refine List.ext_getElem? fun place => ?_
  rw [List.getElem?_set, List.getElem?_map, List.getElem?_map, List.length_map]
  split
  · rename_i here
    subst here
    by_cases member : word ∈ known
    · rw [if_pos (List.idxOf_lt_length_iff.mpr member), List.getElem?_idxOf member]
      rfl
    · have outside := mt List.idxOf_lt_length_iff.mp member
      rw [if_neg outside, List.getElem?_eq_none (not_lt.mp outside)]
      rfl
  · rename_i elsewhere
    cases found : known[place]? with
    | none => rfl
    | some other =>
      have differ : other ≠ word := by
        rintro rfl
        obtain ⟨inside, rfl⟩ := List.getElem?_eq_some_iff.mp found
        exact elsewhere (distinct.idxOf_getElem place inside)
      rw [Option.map_some, Option.map_some, others other differ]

namespace IntentModel

/-! ### One word more -/

section Words

variable {texts : List (List String)} {words : List String} {word : String}

/-- **A word gets its place** in the vocabulary. -/
theorem enter_zipIdx (texts : List (List String)) (words : List String) (word : String) :
    enter word (vocabulary (texts ++ [words])).zipIdx =
      (indexIn (texts ++ [words ++ [word]]) word,
        (vocabulary (texts ++ [words ++ [word]])).zipIdx) := by
  rw [enter, get?_zipIdx, indexIn, vocabulary_snoc]
  by_cases known : word ∈ vocabulary (texts ++ [words])
  · simp [known]
  · have keys : word ∉ (vocabulary (texts ++ [words])).zipIdx.map Prod.fst := by
      rwa [List.zipIdx_map_fst]
    simp only [known, if_false, Table.set_of_not_mem keys, List.length_zipIdx, List.zipIdx_append,
      List.idxOf_append]
    simp

/-- The counts get a place for a word that is new. -/
theorem grow_wordCounts (texts : List (List String)) (words : List String) (word : String) :
    (if indexIn (texts ++ [words ++ [word]]) word = (wordCounts (texts ++ [words])).length
      then wordCounts (texts ++ [words]) ++ [0] else wordCounts (texts ++ [words])) =
    (vocabulary (texts ++ [words ++ [word]])).map (frequency (texts ++ [words])) := by
  rw [wordCounts, indexIn, vocabulary_snoc, List.length_map]
  by_cases known : word ∈ vocabulary (texts ++ [words])
  · rw [if_pos known, if_neg (List.idxOf_lt_length_iff.mpr known).ne]
  · have absent : frequency (texts ++ [words]) word = 0 :=
      Nat.eq_zero_of_not_pos (mt frequency_pos_iff.mp known)
    have place : (vocabulary (texts ++ [words]) ++ [word]).idxOf word =
        (vocabulary (texts ++ [words])).length := by
      simp [List.idxOf_append, known]
    rw [if_neg known, if_pos place, List.map_append, List.map_singleton, absent]

/-- **A word of a text is counted** when it is read there for the first time. -/
theorem countWord?_wordCounts (texts : List (List String)) {words : List String} {word : String}
    {seen : List Nat} (counted : indexIn (texts ++ [words ++ [word]]) word ∈ seen ↔ word ∈ words) :
    countWord? seen (indexIn (texts ++ [words ++ [word]]) word) (wordCounts (texts ++ [words])) =
      some (wordCounts (texts ++ [words ++ [word]])) := by
  simp only [countWord?, grow_wordCounts, List.contains_iff_mem, counted]
  by_cases there : word ∈ words
  · rw [if_pos there]
    congr 1
    exact List.map_congr_left fun other _ => by rw [frequency_snoc, if_neg fun both => both.2 there]
  · have more :
        frequency (texts ++ [words ++ [word]]) word = frequency (texts ++ [words]) word + 1 := by
      rw [frequency_snoc, if_pos ⟨rfl, there⟩]
    have others : ∀ other, other ≠ word →
        frequency (texts ++ [words ++ [word]]) other = frequency (texts ++ [words]) other :=
      fun other differ => by rw [frequency_snoc, if_neg fun both => differ both.1]
    rw [if_neg there, countMore?, indexIn, List.getElem?_map,
      List.getElem?_idxOf (mem_vocabulary_snoc texts words word), Option.map_some, Option.map_some,
      ← more, map_set_idxOf (nodup_vocabulary _) others]
    rfl

/-- What is known when some words of a document are read, after some other texts. -/
structure Reading.Knows (texts : List (List String)) (words : List String) (reading : Reading) :
    Prop where
  indices : reading.indices = (vocabulary (texts ++ [words])).zipIdx
  counts : reading.frequencies = wordCounts (texts ++ [words])
  seen : ∀ index, index ∈ reading.seen ↔ index ∈ reading.bag.words
  bag : reading.bag.words = indicesIn (texts ++ [words]) words

/-- The bag so far has the indices that its words have after one word more. -/
theorem Reading.Knows.bag_snoc {reading : Reading} (knows : reading.Knows texts words)
    (word : String) : reading.bag.words = indicesIn (texts ++ [words ++ [word]]) words := by
  rw [knows.bag, indicesIn_of_grows (vocabulary_snoc_grows texts words word) (by simp)]

/-- **One word more of a document is read.** -/
theorem Reading.Knows.readWord {reading : Reading} (knows : reading.Knows texts words)
    (share : Float) (word : String) :
    ∃ after, reading.readWord? share word = some after ∧ after.Knows texts (words ++ [word]) := by
  have inBag : indexIn (texts ++ [words ++ [word]]) word ∈ reading.bag.words ↔ word ∈ words := by
    rw [knows.bag_snoc word, mem_indicesIn (mem_vocabulary_snoc texts words word)]
  have ran : reading.readWord? share word = some {
      indices := (vocabulary (texts ++ [words ++ [word]])).zipIdx
      frequencies := wordCounts (texts ++ [words ++ [word]])
      seen := reading.seen.insert (indexIn (texts ++ [words ++ [word]]) word)
      bag := reading.bag.add (indexIn (texts ++ [words ++ [word]]) word) share } := by
    rw [Reading.readWord?, knows.indices, enter_zipIdx, knows.counts]
    simp only [countWord?_wordCounts texts ((knows.seen _).trans inBag)]
    rfl
  refine ⟨_, ran, rfl, rfl, ?_, ?_⟩
  · intro index
    rw [List.mem_insert_iff, knows.seen, Bag.mem_words_add]
  · -- A word that the document has already keeps its place in the bag.
    rw [Bag.words_add, indicesIn_snoc]
    by_cases there : word ∈ words
    · rw [if_pos (inBag.mpr there), if_pos there, knows.bag_snoc word]
    · rw [if_neg (mt inBag.mp there), if_neg there, knows.bag_snoc word]

end Words

/-! ### One example more -/

/-- What a draft holds, whose labels and documents are these. -/
structure Draft.Holds (labels : List String) (documents : List Document) (draft : Draft) :
    Prop where
  labels : draft.model.labels = labels
  indices : draft.model.indices = (vocabulary (textsOf documents)).zipIdx
  counts : draft.frequencies = wordCounts (textsOf documents)
  documentLabels : draft.model.documentLabels = documents.map Document.label
  bags : draft.model.bags.map Bag.words =
    documents.map fun document => indicesIn (textsOf documents) document.words

section Drafts

variable {labels : List String} {documents : List Document} {draft : Draft}

/-- A whole document is read. -/
theorem Draft.Holds.readWords (holds : draft.Holds labels documents) (share : Float)
    (words : List String) :
    ∃ reading, words.foldlM (Reading.readWord? share)
        { indices := draft.model.indices, frequencies := draft.frequencies } = some reading ∧
      reading.Knows (textsOf documents) words := by
  refine exists_foldlM (Reading.Knows (textsOf documents))
    (fun done word reading knows => knows.readWord share word) ?_ words
  refine ⟨?_, ?_, fun index => by simp [Bag.words], by simp [Bag.words, indicesIn]⟩
  · rw [vocabulary_nil]
    exact holds.indices
  · rw [wordCounts_nil]
    exact holds.counts

/-- **One example more** is one document more, if it has words. -/
theorem Draft.Holds.addExample (holds : draft.Holds labels documents) (place : Nat)
    (text : String) :
    ∃ after, draft.addExample? place text = some after ∧
      after.Holds labels (documents ++ documentsAt place [text]) := by
  unfold Draft.addExample?
  by_cases empty : (contentWords text).isEmpty
  · have none : documentsAt place [text] = [] := by simp [documentsAt, empty]
    rw [none, List.append_nil]
    exact ⟨draft, if_pos empty, holds⟩
  · have one : documentsAt place [text] = [⟨place, contentWords text⟩] := by
      simp [documentsAt, empty]
    obtain ⟨reading, ran, knows⟩ :=
      holds.readWords (1 / (contentWords text).length.toFloat) (contentWords text)
    simp only [empty, Bool.false_eq_true, if_false, ran, one]
    refine ⟨_, rfl, holds.labels, ?_, ?_, ?_, ?_⟩
    · simpa using knows.indices
    · simpa using knows.counts
    · simp [holds.documentLabels]
    · -- The words of the earlier documents keep their indices.
      have earlier : documents.map (fun document =>
          indicesIn (textsOf documents) document.words) =
          documents.map fun document =>
            indicesIn (textsOf documents ++ [contentWords text]) document.words :=
        List.map_congr_left fun document there =>
          (indicesIn_of_grows (vocabulary_append _ _) (List.mem_map_of_mem there)).symm
      simp only [List.map_append, List.map_singleton, holds.bags, earlier, knows.bag]

/-- All examples of an intent are added. -/
theorem Draft.Holds.addExamples (holds : draft.Holds labels documents) (place : Nat)
    (examples : List String) :
    ∃ after, examples.foldlM (Draft.addExample? place) draft = some after ∧
      after.Holds labels (documents ++ documentsAt place examples) := by
  have start : Draft.Holds labels (documents ++ documentsAt place []) draft := by
    simpa [documentsAt] using holds
  refine exists_foldlM (fun done draft =>
    Draft.Holds labels (documents ++ documentsAt place done) draft) ?_ start examples
  intro done text draft kept
  rw [documentsAt_append, ← List.append_assoc]
  exact kept.addExample place text

/-- An intent is added. -/
theorem Draft.Holds.addIntent (holds : draft.Holds labels documents) (intent : Intent) :
    ∃ after, draft.addIntent? intent = some after ∧
      after.Holds (labels ++ [intent.label])
        (documents ++ documentsAt labels.length intent.examples) := by
  have labeled : Draft.Holds (labels ++ [intent.label]) documents
      { draft with model := { draft.model with labels := labels ++ [intent.label] } } :=
    ⟨rfl, holds.indices, holds.counts, holds.documentLabels, holds.bags⟩
  rw [Draft.addIntent?, holds.labels]
  exact labeled.addExamples labels.length intent.examples

/-- **The draft of some intents** holds their labels and documents. -/
theorem exists_draft? (intents : List Intent) :
    ∃ draft, draft? intents = some draft ∧
      draft.Holds (intents.map Intent.label) (documentsOf intents) := by
  refine exists_foldlM (fun done draft =>
    Draft.Holds (done.map Intent.label) (documentsOf done) draft) ?_ ⟨rfl, rfl, rfl, rfl, rfl⟩
    intents
  intro done intent draft kept
  rw [documentsOf_append, List.map_append]
  simpa using kept.addIntent intent

/-! ### The finished model -/

theorem exists_weighShares? {rarity : List Float} {shares : Bag}
    (inside : ∀ index ∈ shares.words, index < rarity.length) :
    ∃ bag, weighShares? rarity shares = some bag ∧ bag.words = shares.words := by
  refine exists_mapM Prod.fst Prod.fst fun entry member => ?_
  have bound := inside entry.1 (List.mem_map_of_mem member)
  exact ⟨(entry.1, entry.2 * rarity[entry.1]), by rw [List.getElem?_eq_getElem bound]; rfl, rfl⟩

/-- The words in the bags have indices below the number of words. -/
theorem Draft.Holds.lt_of_mem_words (holds : draft.Holds labels documents) {bag : Bag}
    (member : bag ∈ draft.model.bags) {index : Nat} (inside : index ∈ bag.words) :
    index < draft.frequencies.length := by
  have listed : bag.words ∈ draft.model.bags.map Bag.words := List.mem_map_of_mem member
  rw [holds.bags] at listed
  obtain ⟨document, there, same⟩ := List.mem_map.mp listed
  rw [← same] at inside
  rw [holds.counts, wordCounts, List.length_map]
  exact lt_of_mem_indicesIn (List.mem_map_of_mem there) inside

/-- **A draft is finished**, and what it holds stays the same. -/
theorem Draft.Holds.finish (holds : draft.Holds labels documents) :
    ∃ model, draft.finish? = some model ∧
      Draft.Holds labels documents { model := model, frequencies := draft.frequencies } ∧
      model.rarity = draft.frequencies.map fun frequency =>
        (model.bags.length.toFloat / frequency.toFloat).log := by
  have weighed : ∀ shares ∈ draft.model.bags, ∃ bag,
      weighShares? (draft.frequencies.map fun frequency =>
        (draft.model.bags.length.toFloat / frequency.toFloat).log) shares = some bag ∧
      bag.words = shares.words := by
    intro shares member
    refine exists_weighShares? fun index inside => ?_
    rw [List.length_map]
    exact holds.lt_of_mem_words member inside
  obtain ⟨bags, ran, same⟩ := exists_mapM Bag.words Bag.words weighed
  have count : bags.length = draft.model.bags.length := by
    simpa using congrArg List.length same
  refine ⟨_, by rw [Draft.finish?, ran]; rfl, ?_, by rw [count]⟩
  exact ⟨holds.labels, holds.indices, holds.counts, holds.documentLabels, same.trans holds.bags⟩

end Drafts

/-- **A model of some intents is well formed**, with these frequencies of its words. -/
structure WellFormed (intents : List Intent) (counts : List Nat) (model : IntentModel) :
    Prop where
  /-- The words of the examples and the numbers below their number are one to one. -/
  bijective : Set.BijOn (fun word => model.indices.get? word) {word | InCorpus intents word}
    (some '' {index | index < model.indices.length})
  get?_eq_none_iff : ∀ word, model.indices.get? word = none ↔ ¬ InCorpus intents word
  /-- The bags are those of the documents: they have weights for their words. -/
  stored : List.Forall₂ (fun document bag => ∀ word index, model.indices.get? word = some index →
    ((bag.get? index).isSome ↔ word ∈ document.words)) (documentsOf intents) model.bags
  /-- The frequency of a word is how many documents contain it, by their words and by their bags. -/
  counted : ∀ word index, model.indices.get? word = some index → ∃ count,
    counts[index]? = some count ∧
    count = (documentsOf intents).countP (fun document => document.words.contains word) ∧
    count = model.bags.countP (fun bag => (bag.get? index).isSome)
  bounded : ∀ count ∈ counts, 1 ≤ count ∧ count ≤ model.bags.length
  /-- Neither a frequency nor the number of words of a document, which a share is of, is zero. -/
  words_ne_nil : ∀ document ∈ documentsOf intents, document.words ≠ []
  rarity : model.rarity = counts.map fun count =>
    (model.bags.length.toFloat / count.toFloat).log
  length_rarity : model.rarity.length = model.indices.length
  bags : ∀ bag ∈ model.bags, ∀ entry ∈ bag, entry.1 < model.indices.length
  labels : model.labels = intents.map Intent.label
  documentLabels : model.documentLabels = (documentsOf intents).map Document.label
  length_documentLabels : model.documentLabels.length = model.bags.length
  documentLabels_lt : ∀ place ∈ model.documentLabels, place < model.labels.length

section WellFormed

variable {labels : List String} {documents : List Document} {draft : Draft}

theorem Draft.Holds.get?_indices (holds : draft.Holds labels documents) (word : String) :
    draft.model.indices.get? word =
      if word ∈ vocabulary (textsOf documents) then some (indexIn (textsOf documents) word)
      else none := by
  rw [holds.indices, get?_zipIdx, Nat.zero_add]
  rfl

theorem Draft.Holds.get?_indices_iff (holds : draft.Holds labels documents) {word : String}
    {index : Nat} :
    draft.model.indices.get? word = some index ↔
      word ∈ vocabulary (textsOf documents) ∧ indexIn (textsOf documents) word = index := by
  rw [holds.get?_indices]
  split <;> simp [*]

theorem Draft.Holds.length_indices (holds : draft.Holds labels documents) :
    draft.model.indices.length = (vocabulary (textsOf documents)).length := by
  rw [holds.indices, List.length_zipIdx]

theorem Draft.Holds.length_frequencies (holds : draft.Holds labels documents) :
    draft.frequencies.length = draft.model.indices.length := by
  rw [holds.length_indices, holds.counts, wordCounts, List.length_map]

theorem Draft.Holds.length_bags (holds : draft.Holds labels documents) :
    draft.model.bags.length = documents.length := by
  simpa using congrArg List.length holds.bags

/-- The words and the numbers below their number are one to one. -/
theorem Draft.Holds.bijOn_indices (holds : draft.Holds labels documents) :
    Set.BijOn (fun word => draft.model.indices.get? word)
      {word | word ∈ vocabulary (textsOf documents)}
      (some '' {index | index < draft.model.indices.length}) := by
  rw [holds.length_indices]
  refine ⟨?_, ?_, ?_⟩
  · intro word known
    exact ⟨indexIn (textsOf documents) word, indexIn_lt_iff.mpr known,
      (holds.get?_indices_iff.mpr ⟨known, rfl⟩).symm⟩
  · intro first known second other same
    have places := holds.get?_indices_iff.mp
      ((holds.get?_indices_iff.mpr ⟨known, rfl⟩).symm.trans same).symm
    exact (indexIn_inj known).mp places.2.symm
  · -- The word of an index is the one at that place.
    rintro - ⟨index, inside, rfl⟩
    have known := List.getElem_mem (l := vocabulary (textsOf documents)) inside
    exact ⟨_, known, holds.get?_indices_iff.mpr
      ⟨known, (nodup_vocabulary (textsOf documents)).idxOf_getElem index inside⟩⟩

/-- The bags are those of the documents. -/
theorem Draft.Holds.stored (holds : draft.Holds labels documents) :
    List.Forall₂ (fun document bag => ∀ word index, draft.model.indices.get? word = some index →
      ((bag.get? index).isSome ↔ word ∈ document.words)) documents draft.model.bags := by
  have same := List.forall₂_eq_eq_eq.symm ▸ holds.bags.symm
  rw [List.forall₂_map_left_iff, List.forall₂_map_right_iff] at same
  refine same.imp fun document bag words word index found => ?_
  obtain ⟨known, rfl⟩ := holds.get?_indices_iff.mp found
  rw [Bag.isSome_get?_iff, ← words, mem_indicesIn known]

/-- As many documents contain a word as bags have a weight for it. -/
theorem Draft.Holds.countP_bags (holds : draft.Holds labels documents) {word : String}
    {index : Nat} (found : draft.model.indices.get? word = some index) :
    documents.countP (fun document => document.words.contains word) =
      draft.model.bags.countP (fun bag => (bag.get? index).isSome) := by
  refine countP_eq_of_forall₂ holds.stored fun document bag same => ?_
  rw [List.contains_iff_mem, same word index found]

/-- **What a draft holds of some intents** makes its model well formed. -/
theorem Draft.Holds.wellFormed {intents : List Intent}
    (holds : draft.Holds (intents.map Intent.label) (documentsOf intents))
    (rarity : draft.model.rarity = draft.frequencies.map fun count =>
      (draft.model.bags.length.toFloat / count.toFloat).log) :
    draft.model.WellFormed intents draft.frequencies where
  bijective := by
    simpa only [mem_vocabulary_documentsOf] using holds.bijOn_indices
  get?_eq_none_iff := by
    intro word
    rw [holds.get?_indices, ← mem_vocabulary_documentsOf]
    simp
  stored := holds.stored
  counted := by
    intro word index found
    obtain ⟨known, rfl⟩ := holds.get?_indices_iff.mp found
    refine ⟨_, ?_, rfl, holds.countP_bags found⟩
    rw [holds.counts, getElem?_wordCounts known, frequency, List.countP_map]
    rfl
  bounded := by
    intro count member
    rw [holds.length_bags, ← List.length_map Document.words]
    exact wordCounts_bounded (holds.counts ▸ member)
  words_ne_nil := fun document member => (of_mem_documentsOf member).2
  rarity := rarity
  length_rarity := by rw [rarity, List.length_map, holds.length_frequencies]
  bags := by
    intro bag member entry inside
    rw [← holds.length_frequencies]
    exact holds.lt_of_mem_words member (List.mem_map_of_mem inside)
  labels := holds.labels
  documentLabels := holds.documentLabels
  length_documentLabels := by rw [holds.documentLabels, List.length_map, holds.length_bags]
  documentLabels_lt := by
    intro place member
    rw [holds.documentLabels] at member
    obtain ⟨document, listed, rfl⟩ := List.mem_map.mp member
    rw [holds.labels, List.length_map]
    exact (of_mem_documentsOf listed).1

end WellFormed

/-! ### Answers -/

/-- The better place is the next one, or there is another one. -/
theorem betterPlace_eq (best : Option (Float × Nat)) (next : Float × Nat) :
    betterPlace best next = some next ∨
      ∃ other, best = some other ∧ betterPlace best next = best := by
  cases best with
  | none => exact .inl rfl
  | some top =>
    rw [betterPlace]
    split
    · exact .inl rfl
    · exact .inr ⟨top, rfl, rfl⟩

theorem exists_foldl_betterPlace {entries : List (Float × Nat)} (nonempty : entries ≠ []) :
    ∃ entry ∈ entries, entries.foldl betterPlace none = some entry := by
  induction entries using List.reverseRecOn with
  | nil => exact absurd rfl nonempty
  | append_singleton entries next ih =>
    rw [List.foldl_append, List.foldl_cons, List.foldl_nil]
    rcases betterPlace_eq (entries.foldl betterPlace none) next with better | ⟨other, top, same⟩
    · exact ⟨next, by simp, better⟩
    · have earlier : entries ≠ [] := by
        rintro rfl
        cases top
      obtain ⟨entry, member, best⟩ := ih earlier
      exact ⟨entry, List.mem_append_left _ member, same.trans best⟩

/-- Where there are scores, whatever they are, the best one has a place among them. -/
theorem exists_bestPlace {scores : List Float} (nonempty : scores ≠ []) :
    ∃ place, bestPlace scores = some place ∧ place < scores.length := by
  have entries : scores.zipIdx ≠ [] := by simpa using nonempty
  obtain ⟨entry, member, best⟩ := exists_foldl_betterPlace entries
  refine ⟨entry.2, by rw [bestPlace, best]; rfl, ?_⟩
  simpa using List.snd_lt_of_mem_zipIdx member

section Answers

variable {intents : List Intent} {counts : List Nat} {model : IntentModel}

/-- A word of the examples has an index, and it is known how much it tells. -/
theorem WellFormed.exists_index (wellFormed : model.WellFormed intents counts)
    {word : String} (known : InCorpus intents word) :
    ∃ index, model.indices.get? word = some index ∧ index < model.rarity.length := by
  obtain ⟨index, bound, same⟩ := wellFormed.bijective.mapsTo known
  exact ⟨index, same.symm, wellFormed.length_rarity ▸ bound⟩

/-- There are documents where there are words. -/
theorem WellFormed.bags_ne_nil (wellFormed : model.WellFormed intents counts)
    {word : String} (known : InCorpus intents word) : model.bags ≠ [] := by
  obtain ⟨index, found, -⟩ := wellFormed.exists_index known
  obtain ⟨count, counted, -, -⟩ := wellFormed.counted word index found
  obtain ⟨positive, bound⟩ := wellFormed.bounded count (List.mem_of_getElem? counted)
  exact List.ne_nil_of_length_pos (positive.trans bound)

/-- Every text has weights; there are none exactly if it shares no word with the examples. -/
theorem WellFormed.exists_weigh? (wellFormed : model.WellFormed intents counts)
    (text : String) :
    ∃ bag, model.weigh? text = some bag ∧
      (bag = [] ↔ ∀ word ∈ contentWords text, ¬ InCorpus intents word) := by
  rw [weigh?]
  split
  · rename_i empty
    exact ⟨[], rfl, by simp [List.isEmpty_iff.mp empty]⟩
  · refine exists_foldlM (fun done bag =>
      bag = [] ↔ ∀ word ∈ done, ¬ InCorpus intents word) ?_ (by simp) (contentWords text)
    intro done word bag kept
    by_cases known : InCorpus intents word
    · obtain ⟨index, found, inside⟩ := wellFormed.exists_index known
      simp only [weighWord?, found, List.getElem?_eq_getElem inside, Option.map_some]
      exact ⟨_, rfl, iff_of_false (Bag.add_ne_nil _ _ bag) fun unknown =>
        unknown word (by simp) known⟩
    · simp only [weighWord?, (wellFormed.get?_eq_none_iff word).mpr known]
      refine ⟨bag, rfl, kept.trans ?_⟩
      simp [or_imp, forall_and, known]

/-- Every document has a label. -/
theorem WellFormed.exists_labelOf? (wellFormed : model.WellFormed intents counts)
    {document : Nat} (inside : document < model.bags.length) :
    ∃ label ∈ model.labels, model.labelOf? document = some label := by
  rw [← wellFormed.length_documentLabels] at inside
  have valid := wellFormed.documentLabels_lt _ (List.getElem_mem inside)
  refine ⟨model.labels[model.documentLabels[document]], List.getElem_mem valid, ?_⟩
  rw [labelOf?, List.getElem?_eq_getElem inside]
  exact List.getElem?_eq_getElem valid

/-- What a model of some intents answers to a text, by some score. -/
structure Answers (intents : List Intent) (score : Bag → Bag → Float) (model : IntentModel)
    (text : String) (answer : Option String) : Prop where
  bestMatch : model.bestMatch? score text = some answer
  eq_none_iff : answer = none ↔ intents = []
  mem_labels : ∀ label, answer = some label → label ∈ intents.map Intent.label
  eq_head? : (∀ word ∈ contentWords text, ¬ InCorpus intents word) →
    answer = (intents.map Intent.label).head?

/-- **A well formed model answers every text**, whatever the scores are. -/
theorem WellFormed.exists_answer (wellFormed : model.WellFormed intents counts)
    (score : Bag → Bag → Float) (text : String) :
    ∃ answer, model.Answers intents score text answer := by
  obtain ⟨bag, ran, unshared⟩ := wellFormed.exists_weigh? text
  by_cases empty : bag = []
  · refine ⟨model.labels.head?, ?_, ?_, ?_, fun _ => by rw [wellFormed.labels]⟩
    · rw [bestMatch?, ran]
      simp [empty]
    · rw [wellFormed.labels, List.head?_eq_none_iff, List.map_eq_nil_iff]
    · intro label first
      rw [← wellFormed.labels]
      exact List.mem_of_head? first
  · obtain ⟨word, -, known⟩ : ∃ word ∈ contentWords text, InCorpus intents word := by
      simpa using mt unshared.mpr empty
    have scores : model.bags.map (score bag) ≠ [] := by
      simpa using wellFormed.bags_ne_nil known
    obtain ⟨document, best, inside⟩ := exists_bestPlace scores
    rw [List.length_map] at inside
    obtain ⟨label, member, found⟩ := wellFormed.exists_labelOf? inside
    rw [wellFormed.labels] at member
    refine ⟨some label, ?_, iff_of_false (by simp) ?_, ?_, fun unknown => ?_⟩
    · rw [bestMatch?, ran]
      simp [empty, best, found]
    · rintro rfl
      exact List.not_mem_nil member
    · intro other same
      cases same
      exact member
    · exact absurd (unshared.mpr unknown) empty

/-- **The model of some intents is well formed and answers every text.** -/
theorem wellFormed_ofIntents (intents : List Intent) :
    ∃ draft, draft? intents = some draft ∧ draft.finish? = some (ofIntents intents) ∧
      (ofIntents intents).WellFormed intents draft.frequencies ∧
      (∀ score text, ∃ answer, (ofIntents intents).Answers intents score text answer) ∧
      ∀ text, (ofIntents intents).Answers intents similarity text
        ((ofIntents intents).bestMatch text) := by
  obtain ⟨draft, drafted, holds⟩ := exists_draft? intents
  obtain ⟨model, finished, kept, rarity⟩ := holds.finish
  have built : ofIntents intents = model := by
    rw [ofIntents, ofIntents?, drafted]
    simp [finished]
  have wellFormed : model.WellFormed intents draft.frequencies := kept.wellFormed rarity
  rw [built]
  refine ⟨draft, drafted, finished, wellFormed, wellFormed.exists_answer, fun text => ?_⟩
  obtain ⟨answer, answers⟩ := wellFormed.exists_answer similarity text
  have same : model.bestMatch text = answer := by rw [bestMatch, answers.bestMatch]; rfl
  rwa [same]

end Answers

end IntentModel

end Dialogue
