/-
**Captures reconstruct the match.**

A lookup cuts the words of each part of a query into one piece for each token of the key that it
finds, and records the pieces of the capturing tokens. Where it cuts depends on the keys of the
words alone; their texts are carried along.

* `Segment.select`, `Key.tokens`, `Pieces.parts`: what belongs to a part; `derives_iff`: a
  derivation cuts every part by itself;
* `capturedPieces`: the pieces of the capturing tokens; `capturesOf_eq`: captures are their texts,
  and `length_capturedPieces`: there is one for each capturing token;
* `capturedWords`, `get_captures`: the words that a single capture holds;
* `SameKeys`: words that differ in their texts alone; `CutBy.recut`: what cuts words cuts such words
  at the same places;
* `Store.IsFirst.recut`, `Store.lookup_recut`: then the first derivation is the same, and so is
  what a lookup finds;
* `captures_reconstruct`: all of that, in every store that changes lead to.
-/

import Dialogue.Proofs.Store.Locality

namespace Dialogue

/-! ### The parts of a derivation -/

/-- What belongs to a part, of three things that belong to one part each. -/
def Segment.select {α : Type} (segment : Segment) (pattern that topic : α) : α :=
  match segment with
  | .pattern => pattern
  | .that => that
  | .topic => topic

/-- The tokens of a part of a key. -/
def Key.tokens (key : Key) (segment : Segment) : List Token :=
  segment.select key.pattern key.that key.topic

/-- The pieces of a part. -/
def Pieces.parts (pieces : Pieces) (segment : Segment) : List (List InputWord) :=
  segment.select pieces.pattern pieces.that pieces.topic

/-- **A derivation of a key cuts the words of every part by themselves.** -/
theorem derives_iff {scope : Scope} {key : Key} {input that topic : List InputWord}
    {pieces : Pieces} :
    Derives scope key input that topic pieces ↔
      ∀ segment : Segment, CutBy scope (key.tokens segment) (pieces.parts segment)
        (segment.select input that topic) := by
  constructor
  · intro derives segment
    cases segment with
    | pattern => exact derives.pattern
    | that => exact derives.that
    | topic => exact derives.topic
  · intro cut
    exact ⟨cut .pattern, cut .that, cut .topic⟩

/-! ### The pieces of capturing tokens -/

/-- The texts of some words, joined by single spaces. -/
def spanText (span : List InputWord) : String := Text.unwords (span.map InputWord.text)

/-- The pieces that capturing tokens consume, in order. -/
def capturedPieces (tokens : List Token) (pieces : List (List InputWord)) :
    List (List InputWord) :=
  ((tokens.zip pieces).filter fun pair => pair.1.isCapturing).map Prod.snd

/-- Captures are the texts of the captured pieces. -/
theorem capturesOf_eq (tokens : List Token) (pieces : List (List InputWord)) :
    capturesOf tokens pieces = (capturedPieces tokens pieces).map spanText := by
  unfold capturesOf capturedPieces spanText
  rw [List.map_map]
  rfl

/-- The captures of a part are those of its tokens. -/
theorem list_captures (key : Key) (pieces : Pieces) (segment : Segment) :
    (key.captures pieces).list segment =
      (capturedPieces (key.tokens segment) (pieces.parts segment)).map spanText := by
  rw [← capturesOf_eq]
  cases segment <;> rfl

/-- There is one captured piece for each capturing token. -/
theorem length_capturedPieces {tokens : List Token} {pieces : List (List InputWord)}
    (lengths : pieces.length = tokens.length) :
    (capturedPieces tokens pieces).length = tokens.countP Token.isCapturing := by
  have covered : tokens.length ≤ pieces.length := by rw [lengths]
  unfold capturedPieces
  rw [List.length_map, ← List.countP_eq_length_filter]
  calc
    _ = ((tokens.zip pieces).map Prod.fst).countP Token.isCapturing := List.countP_map.symm
    _ = tokens.countP Token.isCapturing := by rw [List.map_fst_zip covered]

/-- The words that a capture of a part holds, counted from one; none beyond the last one. -/
def capturedWords (key : Key) (pieces : Pieces) (segment : Segment) : Nat → List InputWord
  | 0 => []
  | index + 1 => ((capturedPieces (key.tokens segment) (pieces.parts segment))[index]?).getD []

/-- A capture is the text of its words. -/
theorem get_captures (key : Key) (pieces : Pieces) (segment : Segment) (index : Nat) :
    (key.captures pieces).get segment index =
      spanText (capturedWords key pieces segment index) := by
  cases index with
  | zero => rfl
  | succ index =>
    rw [Captures.get, list_captures, List.getElem?_map, capturedWords]
    cases (capturedPieces (key.tokens segment) (pieces.parts segment))[index]? <;> rfl

/-- **No capture holds a word of another part.** -/
theorem Derives.mem_of_mem_capturedWords {scope : Scope} {key : Key}
    {input that topic : List InputWord} {pieces : Pieces}
    (derives : Derives scope key input that topic pieces) {segment : Segment} {index : Nat}
    {word : InputWord} (member : word ∈ capturedWords key pieces segment index) :
    word ∈ segment.select input that topic := by
  rw [← (derives_iff.mp derives segment).2, List.mem_flatten]
  cases index with
  | zero => cases member
  | succ index =>
    rw [capturedWords] at member
    cases piece : (capturedPieces (key.tokens segment) (pieces.parts segment))[index]? with
    | none =>
      rw [piece] at member
      cases member
    | some span =>
      rw [piece] at member
      obtain ⟨⟨token, _⟩, paired, rfl⟩ := List.mem_map.mp (List.mem_of_getElem? piece)
      exact ⟨_, (List.of_mem_zip (List.mem_of_mem_filter paired)).2, member⟩

/-! ### Words with the same keys -/

/-- Words that differ in their texts alone. -/
def SameKeys (words others : List InputWord) : Prop :=
  words.map InputWord.key = others.map InputWord.key

theorem SameKeys.length_eq {words others : List InputWord} (same : SameKeys words others) :
    words.length = others.length := by
  simpa using congrArg List.length same

/-- Words with the keys of two spans are two spans. -/
theorem SameKeys.split {span rest others : List InputWord} (same : SameKeys (span ++ rest) others) :
    ∃ span' rest', others = span' ++ rest' ∧ SameKeys span span' ∧ SameKeys rest rest' := by
  unfold SameKeys at same
  rw [List.map_append] at same
  obtain ⟨span', rest', rfl, inSpan, inRest⟩ := List.map_eq_append_iff.mp same.symm
  exact ⟨span', rest', rfl, inSpan.symm, inRest.symm⟩

/-- **A token looks at the keys of words alone.** -/
theorem SameKeys.accepts {scope : Scope} {token : Token} {span other : List InputWord}
    (same : SameKeys span other) (accepts : token.Accepts scope span) :
    token.Accepts scope other := by
  have single : ∀ test : String → Prop, (∃ word, span = [word] ∧ test word.key) →
      ∃ word, other = [word] ∧ test word.key := by
    rintro test ⟨word, rfl, passes⟩
    obtain ⟨word', rfl, key⟩ := List.map_eq_singleton_iff.mp same.symm
    exact ⟨word', rfl, by rwa [key]⟩
  cases token with
  | word key => exact single (· = key) accepts
  | priority key => exact single (· = key) accepts
  | set name => exact single (fun key => scope.inSet name key) accepts
  | bot name => exact single (fun key => scope.isBot name key) accepts
  | predicate name => exact single (fun key => scope.isPredicate name key) accepts
  | star | underscore =>
    show other ≠ []
    rintro rfl
    exact accepts (List.eq_nil_of_length_eq_zero same.length_eq)
  | hash | caret => trivial

/-- **Words with the same keys are cut at the same places.** -/
theorem CutBy.recut {scope : Scope} {tokens : List Token} {pieces : List (List InputWord)}
    {words others : List InputWord} (cut : CutBy scope tokens pieces words)
    (same : SameKeys words others) :
    ∃ recut, CutBy scope tokens recut others ∧
      recut.map List.length = pieces.map List.length := by
  obtain ⟨accepted, rfl⟩ := cut
  induction accepted generalizing others with
  | nil =>
    obtain rfl := List.map_eq_nil_iff.mp (Eq.symm same)
    exact ⟨[], ⟨.nil, rfl⟩, rfl⟩
  | @cons token span tokens pieces accepts _ ih =>
    rw [List.flatten_cons] at same
    obtain ⟨span', rest', rfl, inSpan, inRest⟩ := same.split
    obtain ⟨recut, ⟨accepted, rfl⟩, lengths⟩ := ih inRest
    refine ⟨span' :: recut, ⟨.cons (inSpan.accepts accepts) accepted, rfl⟩, ?_⟩
    rw [List.map_cons, List.map_cons, lengths, inSpan.length_eq]

/-! ### Derivations from words with the same keys -/

/-- Pieces of the same lengths, part by part. -/
def Pieces.SameLengths (pieces others : Pieces) : Prop :=
  ∀ segment, (pieces.parts segment).map List.length = (others.parts segment).map List.length

/-- Choices depend on the lengths of the pieces alone. -/
theorem choicesOf_congr (tokens : List Token) {pieces others : List (List InputWord)}
    (lengths : pieces.map List.length = others.map List.length) :
    choicesOf tokens pieces = choicesOf tokens others := by
  have byLength : ∀ cut : List (List InputWord), choicesOf tokens cut =
      List.zipWith Choice.token tokens (cut.map List.length) := by
    intro cut
    rw [List.zipWith_map_right]
    rfl
  rw [byLength, byLength, lengths]

theorem Key.choices_congr (key : Key) {pieces others : Pieces}
    (lengths : pieces.SameLengths others) : key.choices pieces = key.choices others := by
  have pattern := choicesOf_congr key.pattern (lengths .pattern)
  have that := choicesOf_congr key.that (lengths .that)
  have topic := choicesOf_congr key.topic (lengths .topic)
  unfold Key.choices
  simp only [Pieces.parts, Segment.select] at pattern that topic
  rw [pattern, that, topic]

/-- Where the cuts lie determines the pieces. -/
theorem Derives.eq_of_sameLengths {scope : Scope} {key other : Key}
    {input that topic : List InputWord} {pieces others : Pieces}
    (derives : Derives scope key input that topic pieces)
    (derivesOther : Derives scope other input that topic others)
    (lengths : pieces.SameLengths others) : pieces = others := by
  have parts : ∀ segment, pieces.parts segment = others.parts segment := by
    intro segment
    have whole := (derives_iff.mp derives segment).2
    have wholeOther := (derives_iff.mp derivesOther segment).2
    exact List.eq_iff_flatten_eq.mpr ⟨whole.trans wholeOther.symm, lengths segment⟩
  have pattern := parts .pattern
  have that := parts .that
  have topic := parts .topic
  cases pieces
  cases others
  simp_all [Pieces.parts, Segment.select]

section Recut

variable {scope : Scope} {input that topic input' that' topic' : List InputWord}
  (sameInput : SameKeys input input') (sameThat : SameKeys that that')
  (sameTopic : SameKeys topic topic')

include sameInput sameThat sameTopic

/-- A derivation cuts words with the same keys at the same places. -/
theorem Derives.recut {key : Key} {pieces : Pieces}
    (derives : Derives scope key input that topic pieces) :
    ∃ others, Derives scope key input' that' topic' others ∧ others.SameLengths pieces := by
  obtain ⟨pattern, inPattern, patternLengths⟩ := derives.pattern.recut sameInput
  obtain ⟨response, inThat, thatLengths⟩ := derives.that.recut sameThat
  obtain ⟨subject, inTopic, topicLengths⟩ := derives.topic.recut sameTopic
  refine ⟨⟨pattern, response, subject⟩, ⟨inPattern, inThat, inTopic⟩, fun segment => ?_⟩
  cases segment with
  | pattern => exact patternLengths
  | that => exact thatLengths
  | topic => exact topicLengths

/-- **The first derivation from some words is the first one from words with the same keys.** -/
theorem Store.IsFirst.recut {store : Store} {category : Category} {pieces : Pieces}
    (first : store.IsFirst scope input that topic category pieces) :
    ∃ others, store.IsFirst scope input' that' topic' category others ∧
      others.SameLengths pieces := by
  obtain ⟨others, derives, lengths⟩ := first.derives.recut sameInput sameThat sameTopic
  refine ⟨others, ⟨first.stored, derives, fun rival stored cuts derivesRival => ?_⟩, lengths⟩
  -- A rival derivation is one from the given words, cut back.
  obtain ⟨back, derivesBack, backLengths⟩ :=
    derivesRival.recut (Eq.symm sameInput) (Eq.symm sameThat) (Eq.symm sameTopic)
  rcases first.first rival stored back derivesBack with ⟨rfl, rfl⟩ | before
  · refine .inl ⟨rfl, derivesRival.eq_of_sameLengths derives fun segment => ?_⟩
    rw [← backLengths segment, lengths segment]
  · rw [category.key.choices_congr lengths, ← rival.key.choices_congr backLengths]
    exact .inr before

/-- **A lookup of words with the same keys finds the same category** and cuts at the same places. -/
theorem Store.lookup_recut {store : Store} (valid : store.Valid) {found : Match}
    (outcome : store.lookup scope input that topic = some found) :
    ∃ pieces others, store.IsFirst scope input that topic found.category pieces ∧
      store.IsFirst scope input' that' topic' found.category others ∧
      others.SameLengths pieces ∧ found.captures = found.category.key.captures pieces ∧
      store.lookup scope input' that' topic' =
        some ⟨found.category, found.category.key.captures others⟩ := by
  obtain ⟨filled, pieces, first, captured⟩ := (Store.lookup_eq_some_iff valid).mp outcome
  obtain ⟨others, second, lengths⟩ := first.recut sameInput sameThat sameTopic
  have filled' : input' ≠ [] := by
    rintro rfl
    exact filled (List.eq_nil_of_length_eq_zero sameInput.length_eq)
  refine ⟨pieces, others, first, second, lengths, captured, ?_⟩
  exact (Store.lookup_eq_some_iff valid).mpr ⟨filled', others, second, rfl⟩

/-- A lookup of words with the same keys finds nothing where one of the words finds nothing. -/
theorem Store.lookup_eq_none_of_sameKeys {store : Store} (valid : store.Valid)
    (nothing : store.lookup scope input that topic = none) :
    store.lookup scope input' that' topic' = none := by
  refine Option.eq_none_iff_forall_ne_some.mpr fun found outcome => ?_
  obtain ⟨_, _, _, _, _, _, back⟩ := Store.lookup_recut (Eq.symm sameInput) (Eq.symm sameThat)
    (Eq.symm sameTopic) valid outcome
  rw [nothing] at back
  cases back

end Recut

/-- Captures of pieces that are cut at the same places from the same words are the same. -/
theorem list_captures_congr {scope : Scope} {key : Key}
    {input that topic input' that' topic' : List InputWord} {pieces others : Pieces}
    (derives : Derives scope key input that topic pieces)
    (derivesOther : Derives scope key input' that' topic' others)
    (lengths : others.SameLengths pieces) {segment : Segment}
    (same : segment.select input that topic = segment.select input' that' topic') :
    (key.captures others).list segment = (key.captures pieces).list segment := by
  have whole := (derives_iff.mp derives segment).2
  have wholeOther := (derives_iff.mp derivesOther segment).2
  have parts : others.parts segment = pieces.parts segment := by
    refine List.eq_iff_flatten_eq.mpr ⟨?_, lengths segment⟩
    rw [whole, wholeOther, same]
  rw [list_captures, list_captures, parts]

/-- **Captures reconstruct the match.** In every store that changes of the empty one lead to:

* what a lookup finds has a first derivation, which cuts the words of every part into one piece for
  each token of that part, and the captures of the part are the texts of the pieces of its capturing
  tokens, one for each;
* for words with other texts and the same keys a lookup finds the same category and cuts at the same
  places, and the captures of a part are the same if the words of that part are. -/
theorem captures_reconstruct {σ : Type} (changes : List (Change σ)) (start : σ) (scope : Scope)
    (input that topic : List InputWord) :
    let store := ((Store.empty.performAll changes).run start).1.2
    (∀ found, store.lookup scope input that topic = some found →
      ∃ pieces, store.IsFirst scope input that topic found.category pieces ∧
        ∀ segment,
          CutBy scope (found.category.key.tokens segment) (pieces.parts segment)
            (segment.select input that topic) ∧
          found.captures.list segment = (capturedPieces (found.category.key.tokens segment)
            (pieces.parts segment)).map spanText ∧
          (found.captures.list segment).length =
            (found.category.key.tokens segment).countP Token.isCapturing) ∧
    ∀ input' that' topic', SameKeys input input' → SameKeys that that' → SameKeys topic topic' →
      Option.Rel (fun found other => other.category = found.category ∧
          ∃ pieces others, store.IsFirst scope input that topic found.category pieces ∧
            store.IsFirst scope input' that' topic' other.category others ∧
            ∀ segment,
              (others.parts segment).map List.length = (pieces.parts segment).map List.length ∧
              (segment.select input that topic = segment.select input' that' topic' →
                other.captures.list segment = found.captures.list segment))
        (store.lookup scope input that topic) (store.lookup scope input' that' topic') := by
  intro store
  have valid : store.Valid := Store.valid_performAll changes start
  constructor
  · intro found outcome
    obtain ⟨_, pieces, first, captured⟩ := (Store.lookup_eq_some_iff valid).mp outcome
    refine ⟨pieces, first, fun segment => ?_⟩
    have cut := derives_iff.mp first.derives segment
    rw [captured, list_captures, List.length_map, length_capturedPieces cut.length_eq]
    exact ⟨cut, rfl, rfl⟩
  · intro input' that' topic' sameInput sameThat sameTopic
    cases outcome : store.lookup scope input that topic with
    | none =>
      rw [Store.lookup_eq_none_of_sameKeys sameInput sameThat sameTopic valid outcome]
      exact .none
    | some found =>
      obtain ⟨pieces, others, first, second, lengths, captured, outcome'⟩ :=
        Store.lookup_recut sameInput sameThat sameTopic valid outcome
      rw [outcome']
      refine .some ⟨rfl, pieces, others, first, second, fun segment => ⟨lengths segment, ?_⟩⟩
      intro same
      rw [captured]
      exact list_captures_congr first.derives second.derives lengths same

/-- A caret that takes nothing captures the empty text, and a star takes the rest. -/
theorem captures_reconstruct_caret :
    let category : Category :=
      ⟨⟨[.caret, .word "NAME", .star], [.star], [.underscore, .hash]⟩, .text "A", .loaded⟩
    let changes : List (Change Unit) := [.insert category]
    let store := ((Store.empty.performAll changes).run ()).1.2
    let scope : Scope := ⟨fun _ _ => false, fun _ _ => false, fun _ _ => false⟩
    let answer := fun input => store.lookup scope input [⟨"YES", "yes"⟩] [⟨"PETS", "pets"⟩]
    (answer [⟨"NAME", "name"⟩, ⟨"ADA", "Ada"⟩, ⟨"B", "b"⟩]).isSome ∧
    (∃ pieces : Pieces, ∀ segment : Segment,
      (⟨["", "Ada b"], ["yes"], ["pets", ""]⟩ : Captures).list segment =
        (capturedPieces (category.key.tokens segment) (pieces.parts segment)).map spanText) ∧
    Option.Rel (fun found other => other.category = found.category)
      (answer [⟨"NAME", "name"⟩, ⟨"ADA", "Ada"⟩, ⟨"B", "b"⟩])
      (answer [⟨"NAME", "Name"⟩, ⟨"ADA", "ADA"⟩, ⟨"B", "B"⟩]) := by
  intro category changes store scope answer
  obtain ⟨reconstructed, recut⟩ := captures_reconstruct changes () scope
    [⟨"NAME", "name"⟩, ⟨"ADA", "Ada"⟩, ⟨"B", "b"⟩] [⟨"YES", "yes"⟩] [⟨"PETS", "pets"⟩]
  refine ⟨rfl, ?_, ?_⟩
  · obtain ⟨pieces, _, parts⟩ := reconstructed
      ⟨category, ⟨["", "Ada b"], ["yes"], ["pets", ""]⟩⟩ rfl
    exact ⟨pieces, fun segment => (parts segment).2.1⟩
  · have weaken : ∀ {Strong Weak : Match → Match → Prop} {first second : Option Match},
        Option.Rel Strong first second → (∀ found other, Strong found other → Weak found other) →
          Option.Rel Weak first second := by
      rintro Strong Weak _ _ (related | _) weaker
      · exact .some (weaker _ _ related)
      · exact .none
    exact weaken (recut [⟨"NAME", "Name"⟩, ⟨"ADA", "ADA"⟩, ⟨"B", "B"⟩] [⟨"YES", "yes"⟩]
      [⟨"PETS", "pets"⟩] rfl rfl rfl) fun found other alike => alike.1

end Dialogue
