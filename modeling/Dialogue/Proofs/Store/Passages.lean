/-
**Passages and searches.**

* `Passage`: steps through a forest with the category at their end, ordered by their choices;
* `Finds`: what it means that a search finds the first of some passages. `Finds.orElse`,
  `Finds.findSome`, `Finds.after`: the ways to put searches together keep it;
* `mem_ways_iff`, `pairwise_ways`: the ways of a step are what it can take, the better choice first;
* `before_of_compare`: steps are kept in the order of their choices within a phase.
-/

import Dialogue.Proofs.Store.Derivation

namespace Dialogue

/-- Steps through a forest, and the category at their end. -/
structure Passage where
  steps : List Step
  category : Category

namespace Passage

/-- The path of a passage. -/
def path (passage : Passage) : List Edge := passage.steps.map Prod.fst

/-- The order of passages is that of their choices. -/
def Before (first second : Passage) : Prop :=
  List.Lex Choice.Before (choicesOfSteps first.steps) (choicesOfSteps second.steps)

/-- A passage behind one more step. -/
def behind (step : Step) (passage : Passage) : Passage :=
  ⟨step :: passage.steps, passage.category⟩

/-- The match of a passage that starts in a part of the key. -/
def found (segment : Segment) (passage : Passage) : Match :=
  ⟨passage.category, capturesOfSteps segment passage.steps⟩

/-- Passages behind the same step are ordered like without it. -/
theorem Before.behind {first second : Passage} (before : first.Before second) (step : Step) :
    (first.behind step).Before (second.behind step) :=
  List.Lex.cons before

theorem before_of_choice {first second : Step} (before : first.choice.Before second.choice)
    (passage other : Passage) : (passage.behind first).Before (other.behind second) :=
  List.Lex.rel before

end Passage

/-! ### Searches -/

/-- **A search finds the first of some passages**, or nothing if there is none. -/
def Finds (segment : Segment) (passages : Passage → Prop) : Option Match → Prop
  | none => ∀ passage, ¬ passages passage
  | some found => ∃ passage, passages passage ∧ passage.found segment = found ∧
      ∀ other, passages other → other = passage ∨ passage.Before other

namespace Finds

variable {segment : Segment}

theorem congr {passages others : Passage → Prop} {outcome : Option Match}
    (finds : Finds segment passages outcome)
    (same : ∀ passage, passages passage ↔ others passage) : Finds segment others outcome := by
  have equal : passages = others := by
    funext passage
    exact propext (same passage)
  rwa [← equal]

/-- A second search is made if the first one finds nothing. -/
theorem orElse {first second : Passage → Prop} {outcome other : Option Match}
    (finds : Finds segment first outcome) (findsOther : Finds segment second other)
    (before : ∀ passage later, first passage → second later → passage.Before later) :
    Finds segment (fun passage => first passage ∨ second passage) (outcome <|> other) := by
  cases outcome with
  | some found =>
    obtain ⟨passage, member, same, least⟩ := finds
    refine ⟨passage, .inl member, same, ?_⟩
    rintro later (inFirst | inSecond)
    · exact least later inFirst
    · exact .inr (before passage later member inSecond)
  | none =>
    refine findsOther.congr fun passage => ?_
    rw [or_iff_right (finds passage)]

/-- Searches are made one after the other. -/
theorem findSome {ways : List Way} {outcome : Way → Option Match} {passages : Way → Passage → Prop}
    (finds : ∀ way ∈ ways, Finds segment (passages way) (outcome way))
    (before : ways.Pairwise fun first second => ∀ passage later,
      passages first passage → passages second later → passage.Before later) :
    Finds segment (fun passage => ∃ way ∈ ways, passages way passage)
      (ways.findSome? outcome) := by
  induction ways with
  | nil =>
    rintro passage ⟨way, member, _⟩
    cases member
  | cons way ways ih =>
    obtain ⟨first, others⟩ := List.pairwise_cons.mp before
    have here := finds way List.mem_cons_self
    have later := ih (fun other member => finds other (List.mem_cons_of_mem _ member)) others
    have either := here.orElse later fun passage after inFirst ⟨other, member, inSecond⟩ =>
      first other member passage after inFirst inSecond
    have unfolded : (way :: ways).findSome? outcome =
        (outcome way <|> ways.findSome? outcome) := by
      rw [List.findSome?_cons]
      cases outcome way <;> rfl
    rw [unfolded]
    refine either.congr fun passage => ?_
    simp

end Finds

/-! ### The ways of a step -/

/-- What a step captures of the words that it consumes, the last word first. -/
def Edge.captured (edge : Edge) (span : List InputWord) : Option (List InputWord) :=
  match edge with
  | .token kind => if kind.isCapturing then some span.reverse else none
  | .that | .topic => none

section Ways

variable {scope : Scope} {query : Query}

theorem mem_spanWays_iff {admits : List InputWord → Bool} {way : Way} :
    way ∈ spanWays admits query ↔ ∃ span rest, query.words = span ++ rest ∧
      admits span.reverse = true ∧ way = (some span.reverse, query.withWords rest) := by
  unfold spanWays
  simp only [List.mem_map, List.mem_filter, mem_cuts_iff]
  constructor
  · rintro ⟨⟨taken, rest⟩, ⟨whole, admitted⟩, rfl⟩
    exact ⟨taken.reverse, rest, whole.symm, by rwa [List.reverse_reverse],
      by rw [List.reverse_reverse]⟩
  · rintro ⟨span, rest, whole, admitted, rfl⟩
    refine ⟨(span.reverse, rest), ⟨?_, admitted⟩, rfl⟩
    rw [List.reverse_reverse, whole]

theorem mem_wordWays_iff {captures : Bool} {accepts : InputWord → Bool} {way : Way} :
    way ∈ wordWays captures accepts query ↔ ∃ word rest, query.words = word :: rest ∧
      accepts word = true ∧
        way = (if captures then some [word] else none, query.withWords rest) := by
  unfold wordWays
  cases query.words with
  | nil => simp
  | cons word words =>
    by_cases accepted : accepts word
    · simp [accepted]
    · simp [accepted]

theorem mem_wordWays_iff_takes {token : Token} {accepts : InputWord → Bool} {way : Way}
    (same : ∀ span, token.Accepts scope span ↔ ∃ word, span = [word] ∧ accepts word = true) :
    way ∈ wordWays token.isCapturing accepts query ↔
      ∃ span, Takes scope query (.token token) span way.2 ∧
        way.1 = (Edge.token token).captured span := by
  rw [mem_wordWays_iff]
  constructor
  · rintro ⟨word, rest, whole, accepted, rfl⟩
    refine ⟨[word], ?_, rfl⟩
    exact .token whole ((same [word]).mpr ⟨word, rfl, accepted⟩)
  · rintro ⟨span, takes, captured⟩
    obtain ⟨rest, whole, accepts', left⟩ := takes_token_iff.mp takes
    obtain ⟨word, rfl, accepted⟩ := (same span).mp accepts'
    exact ⟨word, rest, whole, accepted, Prod.ext captured left⟩

theorem mem_spanWays_iff_takes {token : Token} {admits : List InputWord → Bool} {way : Way}
    (capturing : token.isCapturing = true)
    (same : ∀ span, token.Accepts scope span ↔ admits span.reverse = true) :
    way ∈ spanWays admits query ↔
      ∃ span, Takes scope query (.token token) span way.2 ∧
        way.1 = (Edge.token token).captured span := by
  have captures : ∀ span, (Edge.token token).captured span = some span.reverse :=
    fun span => if_pos capturing
  rw [mem_spanWays_iff]
  constructor
  · rintro ⟨span, rest, whole, admitted, rfl⟩
    exact ⟨span, .token whole ((same span).mpr admitted), (captures span).symm⟩
  · rintro ⟨span, takes, captured⟩
    obtain ⟨rest, whole, accepted, left⟩ := takes_token_iff.mp takes
    rw [captures] at captured
    exact ⟨span, rest, whole, (same span).mp accepted, Prod.ext captured left⟩

theorem mem_next_iff {edge : Edge} (boundary : edge.phase = .boundary) {way : Way} :
    way ∈ Edge.ways.next query edge ↔
      ∃ span, Takes scope query edge span way.2 ∧ way.1 = edge.captured span := by
  have captures : ∀ span, edge.captured span = none := by
    intro span
    cases edge with
    | token token => cases token <;> cases boundary
    | that => rfl
    | topic => rfl
  unfold Edge.ways.next
  constructor
  · intro member
    split at member
    · rename_i step rest next
      split at member
      · rename_i same
        rw [List.mem_singleton.mp member]
        rw [same] at next
        exact ⟨[], .next next, (captures []).symm⟩
      · cases member
    · cases member
  · obtain ⟨words, left⟩ := way
    rintro ⟨span, takes, captured⟩
    rw [captures] at captured
    rw [(takes.of_boundary boundary).2]
    simpa using captured

/-- **The ways of a step are what it can take.** -/
theorem mem_ways_iff {edge : Edge} {way : Way} :
    way ∈ edge.ways scope query ↔
      ∃ span, Takes scope query edge span way.2 ∧ way.1 = edge.captured span := by
  cases edge with
  | that => exact mem_next_iff rfl
  | topic => exact mem_next_iff rfl
  | token token =>
    cases token with
    | word key =>
      show way ∈ wordWays (Token.word key).isCapturing (fun word => word.key == key) query ↔ _
      exact mem_wordWays_iff_takes fun span => by simp [Token.Accepts]
    | priority key =>
      show way ∈ wordWays (Token.priority key).isCapturing (fun word => word.key == key) query ↔ _
      exact mem_wordWays_iff_takes fun span => by simp [Token.Accepts]
    | set name =>
      show way ∈ wordWays (Token.set name).isCapturing
        (fun word => scope.inSet name word.key) query ↔ _
      exact mem_wordWays_iff_takes fun span => Iff.rfl
    | bot name =>
      show way ∈ wordWays (Token.bot name).isCapturing
        (fun word => scope.isBot name word.key) query ↔ _
      exact mem_wordWays_iff_takes fun span => Iff.rfl
    | predicate name =>
      show way ∈ wordWays (Token.predicate name).isCapturing
        (fun word => scope.isPredicate name word.key) query ↔ _
      exact mem_wordWays_iff_takes fun span => Iff.rfl
    | star =>
      show way ∈ spanWays (fun span => !span.isEmpty) query ↔ _
      exact mem_spanWays_iff_takes rfl fun span => by simp [Token.Accepts]
    | underscore =>
      show way ∈ spanWays (fun span => !span.isEmpty) query ↔ _
      exact mem_spanWays_iff_takes rfl fun span => by simp [Token.Accepts]
    | hash =>
      show way ∈ spanWays (fun _ => true) query ↔ _
      exact mem_spanWays_iff_takes rfl fun span => by simp [Token.Accepts]
    | caret =>
      show way ∈ spanWays (fun _ => true) query ↔ _
      exact mem_spanWays_iff_takes rfl fun span => by simp [Token.Accepts]

/-! ### A search behind a step -/

/-- What a step leaves shows which words it consumed. -/
theorem Takes.span_eq {edge : Edge} {span other : List InputWord} {left : Query}
    (takes : Takes scope query edge span left) (takesOther : Takes scope query edge other left) :
    span = other := by
  cases edge with
  | that => rw [(takes_that_iff.mp takes).1, (takes_that_iff.mp takesOther).1]
  | topic => rw [(takes_topic_iff.mp takes).1, (takes_topic_iff.mp takesOther).1]
  | token token =>
    obtain ⟨rest, whole, _, rfl⟩ := takes_token_iff.mp takes
    obtain ⟨rest', wholeOther, _, same⟩ := takes_token_iff.mp takesOther
    have words := congrArg Query.words same
    rw [words_withWords, words_withWords] at words
    rw [whole, words] at wholeOther
    exact List.append_cancel_right wholeOther

/-- The match of a passage behind a step is the one of the passage, with the capture of the step in
front. -/
theorem Passage.found_behind {edge : Edge} {way : Way} {span : List InputWord}
    (takes : Takes scope query edge span way.2) (captured : way.1 = edge.captured span)
    (passage : Passage) : (passage.behind (edge, span)).found query.segment =
      (passage.found way.2.segment).after query way := by
  unfold Passage.found Passage.behind Match.after captureWay
  rw [captured]
  cases edge with
  | that =>
    obtain ⟨_, _, _, _, left⟩ := takes_that_iff.mp takes
    rw [left]
    rfl
  | topic =>
    obtain ⟨_, _, _, left⟩ := takes_topic_iff.mp takes
    rw [left]
    rfl
  | token token =>
    obtain ⟨rest, _, _, left⟩ := takes_token_iff.mp takes
    have segment : way.2.segment = query.segment := by
      rw [left]
      cases query <;> rfl
    rw [segment, capturesOfSteps, Edge.captured]
    by_cases capturing : token.isCapturing = true
    · rw [if_pos capturing, if_pos capturing]
      simp [joinTexts]
    · rw [if_neg capturing, if_neg capturing]

/-- **A search behind a step finds the first passage behind it.** -/
theorem Finds.after {edge : Edge} {way : Way} {span : List InputWord}
    {passages : Passage → Prop} {outcome : Option Match}
    (finds : Finds way.2.segment passages outcome)
    (takes : Takes scope query edge span way.2) (captured : way.1 = edge.captured span) :
    Finds query.segment (fun passage => ∃ later, passages later ∧ passage = later.behind (edge, span))
      (outcome.map (Match.after query way)) := by
  cases outcome with
  | none =>
    rintro passage ⟨later, member, _⟩
    exact finds later member
  | some found =>
    obtain ⟨first, member, same, least⟩ := finds
    refine ⟨first.behind (edge, span), ⟨first, member, rfl⟩, ?_, ?_⟩
    · rw [Passage.found_behind takes captured, same]
    · rintro _ ⟨later, inLater, rfl⟩
      rcases least later inLater with rfl | before
      · exact .inl rfl
      · exact .inr (before.behind (edge, span))

/-! ### The order of ways -/

/-- Cuts are listed from the longest first part on. -/
theorem pairwise_cuts (words : List InputWord) :
    (cuts words).Pairwise fun first second => first.2.length < second.2.length := by
  induction words with
  | nil => simp
  | cons word words ih =>
    rw [cuts_cons, List.pairwise_append, List.pairwise_map]
    refine ⟨ih, List.pairwise_singleton _ _, ?_⟩
    intro longer member shorter last
    obtain ⟨cut, inCuts, rfl⟩ := List.mem_map.mp member
    rw [List.mem_singleton.mp last]
    have whole := congrArg List.length (mem_cuts_iff.mp inCuts)
    simp at whole ⊢
    omega

/-- A token that leaves more words has consumed fewer. -/
theorem before_of_length_lt {token : Token} {span other left rest : List InputWord}
    (takes : Takes scope query (.token token) span (query.withWords left))
    (takesOther : Takes scope query (.token token) other (query.withWords rest))
    (fewer : left.length < rest.length) :
    (Step.choice (.token token, span)).Before (Step.choice (.token token, other)) := by
  obtain ⟨left', whole, _, same⟩ := takes_token_iff.mp takes
  obtain ⟨rest', wholeOther, _, sameOther⟩ := takes_token_iff.mp takesOther
  have left_eq : left = left' := by
    have words := congrArg Query.words same
    rwa [words_withWords, words_withWords] at words
  have rest_eq : rest = rest' := by
    have words := congrArg Query.words sameOther
    rwa [words_withWords, words_withWords] at words
  have lengths := congrArg List.length (whole.symm.trans wholeOther)
  rw [List.length_append, List.length_append, ← left_eq, ← rest_eq] at lengths
  refine .inr ⟨by cases token <;> rfl, .inr ⟨rfl, ?_⟩⟩
  show other.length < span.length
  omega

theorem pairwise_spanWays (admits : List InputWord → Bool) (token : Token) :
    (spanWays admits query).Pairwise fun first second => ∀ span other,
      Takes scope query (.token token) span first.2 →
        Takes scope query (.token token) other second.2 →
          (Step.choice (.token token, span)).Before (Step.choice (.token token, other)) := by
  unfold spanWays
  rw [List.pairwise_map]
  refine ((pairwise_cuts query.words).filter _).imp ?_
  intro longer shorter fewer span other takes takesOther
  exact before_of_length_lt takes takesOther fewer

/-- There is at most one way to consume one word. -/
theorem pairwise_wordWays (captures : Bool) (accepts : InputWord → Bool)
    (Related : Way → Way → Prop) : (wordWays captures accepts query).Pairwise Related := by
  unfold wordWays
  cases query.words with
  | nil => exact .nil
  | cons word words =>
    by_cases accepted : accepts word
    · simp [accepted]
    · simp [accepted]

/-- There is at most one way into another part. -/
theorem pairwise_next (edge : Edge) (Related : Way → Way → Prop) :
    (Edge.ways.next query edge).Pairwise Related := by
  unfold Edge.ways.next
  split
  · split
    · exact List.pairwise_singleton _ _
    · exact .nil
  · exact .nil

/-- **Of two ways of a step, the first one makes the better choice.** -/
theorem pairwise_ways (edge : Edge) :
    (edge.ways scope query).Pairwise fun first second => ∀ span other,
      Takes scope query edge span first.2 → Takes scope query edge other second.2 →
        (Step.choice (edge, span)).Before (Step.choice (edge, other)) := by
  cases edge with
  | that => exact pairwise_next .that _
  | topic => exact pairwise_next .topic _
  | token token =>
    cases token with
    | word key => exact pairwise_wordWays _ _ _
    | priority key => exact pairwise_wordWays _ _ _
    | set name => exact pairwise_wordWays _ _ _
    | bot name => exact pairwise_wordWays _ _ _
    | predicate name => exact pairwise_wordWays _ _ _
    | star =>
      show (spanWays (fun span => !span.isEmpty) query).Pairwise _
      exact pairwise_spanWays _ _
    | underscore =>
      show (spanWays (fun span => !span.isEmpty) query).Pairwise _
      exact pairwise_spanWays _ _
    | hash =>
      show (spanWays (fun _ => true) query).Pairwise _
      exact pairwise_spanWays _ _
    | caret =>
      show (spanWays (fun _ => true) query).Pairwise _
      exact pairwise_spanWays _ _

end Ways

/-! ### The order of steps -/

/-- The kind of a choice says when its step is tried. -/
theorem rank_choice (step : Step) :
    (step.1.phase = .before → step.choice.rank = step.1.rank ∧ step.choice.rank < 7) ∧
      (step.1.phase = .boundary → step.choice.rank = 7) ∧
      (step.1.phase = .after → step.choice.rank = step.1.rank + 1 ∧ 7 < step.choice.rank) := by
  obtain ⟨edge, span⟩ := step
  cases edge with
  | that => simp [Edge.phase, Step.choice, Choice.rank]
  | topic => simp [Edge.phase, Step.choice, Choice.rank]
  | token token => cases token <;> simp [Edge.phase, Step.choice, Choice.rank, Edge.rank]

/-- A token that is kept before another one, and tried in the same phase, is the better choice. -/
theorem before_of_compare {first second : Step} (before : first.1.compare second.1 = .lt)
    (phase : first.1.phase = second.1.phase) (inside : second.1.phase ≠ .boundary) :
    first.choice.Before second.choice := by
  have name : ∀ step : Step, step.1.phase ≠ .boundary → step.choice.name = step.1.name := by
    rintro ⟨edge, span⟩ inside
    cases edge with
    | token token => rfl
    | that => exact absurd rfl inside
    | topic => exact absurd rfl inside
  have ranks : first.choice.rank - first.1.rank = second.choice.rank - second.1.rank ∧
      first.1.rank ≤ first.choice.rank ∧ second.1.rank ≤ second.choice.rank := by
    have here := rank_choice first
    have there := rank_choice second
    cases place : second.1.phase with
    | boundary => exact absurd place inside
    | before =>
      have first_eq := (here.1 (phase.trans place)).1
      have second_eq := (there.1 place).1
      omega
    | after =>
      have first_eq := (here.2.2 (phase.trans place)).1
      have second_eq := (there.2.2 place).1
      omega
  rw [Edge.compare, Ordering.then_eq_lt, Nat.compare_eq_lt, Nat.compare_eq_eq] at before
  rcases before with rank | ⟨rank, names⟩
  · exact .inl (by omega)
  · refine .inr ⟨by omega, .inl ?_⟩
    rwa [name first (by rwa [phase]), name second inside]

end Dialogue
