/-
**Derivations.**

A derivation of a key cuts the words of a query into pieces, one for each token of the key: first
the words of the input, then those of the response, then those of the topic. The choices made on the
way, from left to right, say which derivation is better.

* `Token.Accepts`, `Pieces`, `Derives`: what a token consumes, and the cuts;
* `Choice`, `Choice.Before`, `Key.choices`: the order of choices, and the choices of a derivation;
* `Key.captures`: what a derivation captures;
* `Takes`, `Passes`: the same for one step and for the steps of a path; `passes_iff_derives`.
-/

import Dialogue.Store.Search
import Mathlib.Data.List.Forall2
import Mathlib.Data.List.Lex

namespace Dialogue

/-! ### Derivations of a key -/

namespace Token

/-- Which words a token consumes: one word that it accepts, or a span of words. -/
def Accepts (scope : Scope) (token : Token) (span : List InputWord) : Prop :=
  match token with
  | .word key | .priority key => ∃ word, span = [word] ∧ word.key = key
  | .set name => ∃ word, span = [word] ∧ scope.inSet name word.key
  | .bot name => ∃ word, span = [word] ∧ scope.isBot name word.key
  | .predicate name => ∃ word, span = [word] ∧ scope.isPredicate name word.key
  | .star | .underscore => span ≠ []
  | .hash | .caret => True

end Token

/-- One piece for each token of a key. -/
structure Pieces where
  pattern : List (List InputWord)
  that : List (List InputWord)
  topic : List (List InputWord)

/-- Some words are cut, in order and without remainder, into pieces that tokens accept. -/
def CutBy (scope : Scope) (tokens : List Token) (pieces : List (List InputWord))
    (words : List InputWord) : Prop :=
  List.Forall₂ (Token.Accepts scope) tokens pieces ∧ pieces.flatten = words

/-- **A derivation of a key.** -/
structure Derives (scope : Scope) (key : Key) (input that topic : List InputWord)
    (pieces : Pieces) : Prop where
  pattern : CutBy scope key.pattern pieces.pattern input
  that : CutBy scope key.that pieces.that that
  topic : CutBy scope key.topic pieces.topic topic

/-- A choice in a derivation: a token consumes a number of words, or a part of the key ends. -/
inductive Choice where
  | token (token : Token) (length : Nat)
  | boundary

namespace Choice

/-- The place of a kind of choice among the others. -/
def rank : Choice → Nat
  | .token (.priority _) _ => 0
  | .token .hash _ => 1
  | .token .underscore _ => 2
  | .token (.bot _) _ => 3
  | .token (.predicate _) _ => 4
  | .token (.word _) _ => 5
  | .token (.set _) _ => 6
  | .boundary => 7
  | .token .caret _ => 8
  | .token .star _ => 9

/-- What tells choices of one kind apart. -/
def name : Choice → String
  | .token chosen _ => (Edge.token chosen).name
  | .boundary => ""

/-- How many words are consumed. -/
def length : Choice → Nat
  | .token _ words => words
  | .boundary => 0

/-- **The order of choices**: by kind, then by name, then the longer span first. -/
def Before (first second : Choice) : Prop :=
  first.rank < second.rank ∨ first.rank = second.rank ∧
    (compare first.name second.name = .lt ∨
      first.name = second.name ∧ second.length < first.length)

/-- The order of choices is strict. -/
instance : Std.Asymm Before where
  asymm first second before after := by
    rcases before with rank | ⟨rank, names | ⟨name, longer⟩⟩
    · rcases after with rank' | ⟨rank', _⟩ <;> omega
    · rcases after with rank' | ⟨_, names' | ⟨name', _⟩⟩
      · omega
      · exact Std.OrientedCmp.not_lt_of_lt names names'
      · rw [name', Std.ReflOrd.compare_self] at names
        cases names
    · rcases after with rank' | ⟨_, names' | ⟨_, longer'⟩⟩
      · omega
      · rw [name, Std.ReflOrd.compare_self] at names'
        cases names'
      · omega

end Choice

/-- The choices that tokens make with their pieces. -/
def choicesOf (tokens : List Token) (pieces : List (List InputWord)) : List Choice :=
  List.zipWith (fun token span => .token token span.length) tokens pieces

/-- The texts of the pieces of capturing tokens. -/
def capturesOf (tokens : List Token) (pieces : List (List InputWord)) : List String :=
  ((tokens.zip pieces).filter fun pair => pair.1.isCapturing).map fun pair =>
    Text.unwords (pair.2.map InputWord.text)

namespace Key

/-- **The choices of a derivation**, from left to right. -/
def choices (key : Key) (pieces : Pieces) : List Choice :=
  choicesOf key.pattern pieces.pattern ++ .boundary ::
    (choicesOf key.that pieces.that ++ .boundary ::
      (choicesOf key.topic pieces.topic ++ [.boundary]))

/-- What a derivation captures. -/
def captures (key : Key) (pieces : Pieces) : Captures where
  pattern := capturesOf key.pattern pieces.pattern
  that := capturesOf key.that pieces.that
  topic := capturesOf key.topic pieces.topic

end Key

/-! ### Steps of a path -/

/-- A step of a path with the words that it consumes. -/
abbrev Step := Edge × List InputWord

/-- **A step consumes some words of a query and leaves another query.** -/
inductive Takes (scope : Scope) (query : Query) : Edge → List InputWord → Query → Prop where
  | token {token : Token} {span rest : List InputWord} :
    query.words = span ++ rest → token.Accepts scope span →
      Takes scope query (.token token) span (query.withWords rest)
  | next {edge : Edge} {left : Query} : query.next? = some (edge, left) →
    Takes scope query edge [] left

/-- **Some steps consume a whole query.** -/
inductive Passes (scope : Scope) : Query → List Step → Prop where
  | done {query : Query} : query.isDone = true → Passes scope query []
  | step {query left : Query} {edge : Edge} {span : List InputWord} {steps : List Step} :
    Takes scope query edge span left → Passes scope left steps →
      Passes scope query ((edge, span) :: steps)

/-- The choice of a step. -/
def Step.choice : Step → Choice
  | (.token token, span) => .token token span.length
  | (.that, _) | (.topic, _) => .boundary

/-- The choices of some steps; the end is a choice as well. -/
def choicesOfSteps (steps : List Step) : List Choice := steps.map Step.choice ++ [.boundary]

/-- What some steps capture, from a part of the key on. -/
def capturesOfSteps : Segment → List Step → Captures
  | _, [] => .empty
  | segment, (.token token, span) :: steps =>
    if token.isCapturing then
      (capturesOfSteps segment steps).prepend segment (Text.unwords (span.map InputWord.text))
    else capturesOfSteps segment steps
  | _, (.that, _) :: steps => capturesOfSteps .that steps
  | _, (.topic, _) :: steps => capturesOfSteps .topic steps

/-- Tokens with their pieces as steps. -/
def stepsOf (tokens : List Token) (pieces : List (List InputWord)) : List Step :=
  (tokens.map Edge.token).zip pieces

/-- The steps of a derivation. -/
def Key.steps (key : Key) (pieces : Pieces) : List Step :=
  stepsOf key.pattern pieces.pattern ++ (.that, []) ::
    (stepsOf key.that pieces.that ++ (.topic, []) :: stepsOf key.topic pieces.topic)

section Steps

variable {scope : Scope}

/-! ### What steps choose and capture -/

theorem map_choice_stepsOf (tokens : List Token) (pieces : List (List InputWord)) :
    (stepsOf tokens pieces).map Step.choice = choicesOf tokens pieces := by
  unfold stepsOf choicesOf
  induction tokens generalizing pieces with
  | nil => simp
  | cons token tokens ih =>
    cases pieces with
    | nil => simp
    | cons span pieces => simp [ih, Step.choice]

theorem choicesOfSteps_steps (key : Key) (pieces : Pieces) :
    choicesOfSteps (key.steps pieces) = key.choices pieces := by
  simp [choicesOfSteps, Key.steps, Key.choices, map_choice_stepsOf, Step.choice]

/-- The captures of a part, in front of those that come later. -/
theorem capturesOfSteps_stepsOf_append (segment : Segment) (tokens : List Token)
    (pieces : List (List InputWord)) (steps : List Step) :
    capturesOfSteps segment (stepsOf tokens pieces ++ steps) =
      (capturesOf tokens pieces).foldr (Captures.prepend segment)
        (capturesOfSteps segment steps) := by
  unfold stepsOf capturesOf
  induction tokens generalizing pieces with
  | nil => rfl
  | cons token tokens ih =>
    cases pieces with
    | nil => rfl
    | cons span pieces =>
      rw [List.map_cons, List.zip_cons_cons, List.cons_append, capturesOfSteps,
        List.zip_cons_cons, List.filter_cons]
      cases capturing : token.isCapturing with
      | true => simp [ih]
      | false => simp [ih]

/-- Texts in front of the captures of their part. -/
theorem foldr_prepend (texts : List String) (captures : Captures) :
    texts.foldr (Captures.prepend .pattern) captures =
        { captures with pattern := texts ++ captures.pattern } ∧
      texts.foldr (Captures.prepend .that) captures =
        { captures with that := texts ++ captures.that } ∧
      texts.foldr (Captures.prepend .topic) captures =
        { captures with topic := texts ++ captures.topic } := by
  induction texts with
  | nil => exact ⟨rfl, rfl, rfl⟩
  | cons text texts ih => simp [ih, Captures.prepend]

theorem capturesOfSteps_steps (key : Key) (pieces : Pieces) :
    capturesOfSteps .pattern (key.steps pieces) = key.captures pieces := by
  have topic := capturesOfSteps_stepsOf_append .topic key.topic pieces.topic []
  rw [List.append_nil] at topic
  rw [Key.steps, capturesOfSteps_stepsOf_append, capturesOfSteps,
    capturesOfSteps_stepsOf_append, capturesOfSteps, topic]
  simp [foldr_prepend, capturesOfSteps, Captures.empty, Key.captures]

/-! ### Steps and derivations -/

@[simp] theorem withWords_words (query : Query) : query.withWords query.words = query := by
  cases query <;> rfl

@[simp] theorem words_withWords (query : Query) (words : List InputWord) :
    (query.withWords words).words = words := by
  cases query <;> rfl

@[simp] theorem withWords_withWords (query : Query) (words others : List InputWord) :
    (query.withWords words).withWords others = query.withWords others := by
  cases query <;> rfl

theorem takes_token_iff {query left : Query} {token : Token} {span : List InputWord} :
    Takes scope query (.token token) span left ↔
      ∃ rest, query.words = span ++ rest ∧ token.Accepts scope span ∧
        left = query.withWords rest := by
  constructor
  · intro takes
    cases takes with
    | token words accepts => exact ⟨_, words, accepts, rfl⟩
    | next next =>
      unfold Query.next? at next
      split at next <;> cases next
  · rintro ⟨rest, words, accepts, rfl⟩
    exact .token words accepts

theorem takes_that_iff {query left : Query} {span : List InputWord} :
    Takes scope query .that span left ↔
      span = [] ∧ ∃ response subject, query = .pattern [] response subject ∧
        left = .that response subject := by
  constructor
  · intro takes
    cases takes with
    | next next =>
      unfold Query.next? at next
      split at next
      · cases next
        exact ⟨rfl, _, _, rfl, rfl⟩
      · cases next
      · cases next
  · rintro ⟨rfl, response, subject, rfl, rfl⟩
    exact .next rfl

theorem takes_topic_iff {query left : Query} {span : List InputWord} :
    Takes scope query .topic span left ↔
      span = [] ∧ ∃ subject, query = .that [] subject ∧ left = .topic subject := by
  constructor
  · intro takes
    cases takes with
    | next next =>
      unfold Query.next? at next
      split at next
      · cases next
      · cases next
        exact ⟨rfl, _, rfl, rfl⟩
      · cases next
  · rintro ⟨rfl, subject, rfl, rfl⟩
    exact .next rfl

theorem passes_cons_iff {query : Query} {edge : Edge} {span : List InputWord}
    {steps : List Step} :
    Passes scope query ((edge, span) :: steps) ↔
      ∃ left, Takes scope query edge span left ∧ Passes scope left steps := by
  constructor
  · intro passes
    cases passes with
    | step takes passes => exact ⟨_, takes, passes⟩
  · rintro ⟨left, takes, passes⟩
    exact .step takes passes

/-- A step into another part consumes nothing, and there is only one. -/
theorem Takes.of_boundary {query left : Query} {edge : Edge} {span : List InputWord}
    (takes : Takes scope query edge span left) (boundary : edge.phase = .boundary) :
    span = [] ∧ query.next? = some (edge, left) := by
  cases takes with
  | @token token => cases token <;> cases boundary
  | next next => exact ⟨rfl, next⟩

/-- Tokens cut the front of the words that are left. -/
theorem passes_stepsOf_append_iff {tokens : List Token} {pieces : List (List InputWord)}
    (lengths : pieces.length = tokens.length) {query : Query} {steps : List Step} :
    Passes scope query (stepsOf tokens pieces ++ steps) ↔
      ∃ left, List.Forall₂ (Token.Accepts scope) tokens pieces ∧
        query.words = pieces.flatten ++ left ∧ Passes scope (query.withWords left) steps := by
  induction tokens generalizing pieces query with
  | nil =>
    rw [List.eq_nil_of_length_eq_zero lengths]
    constructor
    · intro passes
      exact ⟨query.words, .nil, rfl, by rwa [withWords_words]⟩
    · rintro ⟨left, _, words, passes⟩
      have whole : left = query.words := words.symm
      rwa [whole, withWords_words] at passes
  | cons token tokens ih =>
    cases pieces with
    | nil => cases lengths
    | cons span pieces =>
      have shorter : pieces.length = tokens.length := Nat.succ.inj lengths
      have unfolded : stepsOf (token :: tokens) (span :: pieces) ++ steps =
        (.token token, span) :: (stepsOf tokens pieces ++ steps) := rfl
      rw [unfolded, passes_cons_iff]
      constructor
      · rintro ⟨middle, takes, passes⟩
        obtain ⟨rest, words, accepts, rfl⟩ := takes_token_iff.mp takes
        obtain ⟨left, accepted, restWords, passes⟩ := (ih shorter).mp passes
        rw [words_withWords] at restWords
        rw [withWords_withWords] at passes
        refine ⟨left, .cons accepts accepted, ?_, passes⟩
        rw [words, restWords, List.flatten_cons, List.append_assoc]
      · rintro ⟨left, accepted, words, passes⟩
        obtain ⟨accepts, accepted⟩ := List.forall₂_cons.mp accepted
        rw [List.flatten_cons, List.append_assoc] at words
        refine ⟨_, .token words accepts, (ih shorter).mpr ⟨left, accepted, ?_, ?_⟩⟩
        · rw [words_withWords]
        · rwa [withWords_withWords]

theorem map_fst_stepsOf {tokens : List Token} {pieces : List (List InputWord)}
    (lengths : pieces.length = tokens.length) :
    (stepsOf tokens pieces).map Prod.fst = tokens.map Edge.token := by
  have covered : (tokens.map Edge.token).length ≤ pieces.length := by simp [lengths]
  unfold stepsOf
  exact List.map_fst_zip covered

/-- Steps over tokens carry one piece for each of them. -/
theorem exists_stepsOf {tokens : List Token} {path : List Edge} {steps : List Step}
    (same : steps.map Prod.fst = tokens.map Edge.token ++ path) :
    ∃ pieces later, pieces.length = tokens.length ∧ steps = stepsOf tokens pieces ++ later ∧
      later.map Prod.fst = path := by
  induction tokens generalizing steps with
  | nil => exact ⟨[], steps, rfl, rfl, same⟩
  | cons token tokens ih =>
    cases steps with
    | nil => cases same
    | cons step steps =>
      obtain ⟨edge, span⟩ := step
      obtain ⟨first, others⟩ := List.cons.inj same
      obtain ⟨pieces, later, lengths, rfl, path⟩ := ih others
      cases first
      exact ⟨span :: pieces, later, congrArg Nat.succ lengths, rfl, path⟩

theorem CutBy.length_eq {tokens : List Token} {pieces : List (List InputWord)}
    {words : List InputWord} (cut : CutBy scope tokens pieces words) :
    pieces.length = tokens.length :=
  cut.1.length_eq.symm

/-- The words of the topic are consumed to the end. -/
theorem passes_topic_iff {tokens : List Token} {pieces : List (List InputWord)}
    (lengths : pieces.length = tokens.length) {words : List InputWord} :
    Passes scope (.topic words) (stepsOf tokens pieces) ↔ CutBy scope tokens pieces words := by
  rw [← List.append_nil (stepsOf tokens pieces), passes_stepsOf_append_iff lengths]
  constructor
  · rintro ⟨left, accepted, whole, passes⟩
    cases passes with
    | done done =>
      cases left with
      | nil => exact ⟨accepted, by simpa [Query.words] using whole.symm⟩
      | cons => cases done
  · rintro ⟨accepted, whole⟩
    exact ⟨[], accepted, by simp [Query.words, whole], .done rfl⟩

/-- The words of the response are consumed, and then those of the topic. -/
theorem passes_that_iff {tokens : List Token} {pieces : List (List InputWord)}
    (lengths : pieces.length = tokens.length) {words subject : List InputWord}
    {steps : List Step} :
    Passes scope (.that words subject) (stepsOf tokens pieces ++ (.topic, []) :: steps) ↔
      CutBy scope tokens pieces words ∧ Passes scope (.topic subject) steps := by
  rw [passes_stepsOf_append_iff lengths]
  constructor
  · rintro ⟨left, accepted, whole, passes⟩
    obtain ⟨next, takes, passes⟩ := passes_cons_iff.mp passes
    obtain ⟨_, _, same, rfl⟩ := takes_topic_iff.mp takes
    cases same
    exact ⟨⟨accepted, by simpa [Query.words] using whole.symm⟩, passes⟩
  · rintro ⟨⟨accepted, whole⟩, passes⟩
    refine ⟨[], accepted, by simp [Query.words, whole], ?_⟩
    exact passes_cons_iff.mpr ⟨_, .next rfl, passes⟩

/-- The words of the input are consumed, and then those of the response and of the topic. -/
theorem passes_pattern_iff {tokens : List Token} {pieces : List (List InputWord)}
    (lengths : pieces.length = tokens.length) {words response subject : List InputWord}
    {steps : List Step} :
    Passes scope (.pattern words response subject)
        (stepsOf tokens pieces ++ (.that, []) :: steps) ↔
      CutBy scope tokens pieces words ∧ Passes scope (.that response subject) steps := by
  rw [passes_stepsOf_append_iff lengths]
  constructor
  · rintro ⟨left, accepted, whole, passes⟩
    obtain ⟨next, takes, passes⟩ := passes_cons_iff.mp passes
    obtain ⟨_, _, _, same, rfl⟩ := takes_that_iff.mp takes
    cases same
    exact ⟨⟨accepted, by simpa [Query.words] using whole.symm⟩, passes⟩
  · rintro ⟨⟨accepted, whole⟩, passes⟩
    refine ⟨[], accepted, by simp [Query.words, whole], ?_⟩
    exact passes_cons_iff.mpr ⟨_, .next rfl, passes⟩

/-- Steps into another part consume nothing. -/
theorem eq_nil_of_mem_of_passes {query : Query} {steps : List Step}
    (passes : Passes scope query steps) {edge : Edge} {span : List InputWord}
    (member : (edge, span) ∈ steps) (boundary : edge.phase = .boundary) : span = [] := by
  induction passes with
  | done _ => cases member
  | step takes _ ih =>
    rcases List.mem_cons.mp member with same | later
    · cases same
      exact (takes.of_boundary boundary).1
    · exact ih later

/-- **The steps along the path of a key that consume a query are its derivations.** -/
theorem passes_iff_derives {key : Key} {input that topic : List InputWord} {steps : List Step} :
    steps.map Prod.fst = key.path ∧ Passes scope (.pattern input that topic) steps ↔
      ∃ pieces, Derives scope key input that topic pieces ∧ steps = key.steps pieces := by
  constructor
  · rintro ⟨path, passes⟩
    obtain ⟨first, fromThat, firstLength, rfl, thatPath⟩ := exists_stepsOf path
    obtain ⟨⟨_, span⟩, responses, rfl, rfl, responsePath⟩ := List.map_eq_cons_iff.mp thatPath
    obtain ⟨second, fromTopic, secondLength, rfl, topicPath⟩ := exists_stepsOf responsePath
    obtain ⟨⟨_, span'⟩, subjects, rfl, rfl, subjectPath⟩ := List.map_eq_cons_iff.mp topicPath
    rw [← List.append_nil (key.topic.map Edge.token)] at subjectPath
    obtain ⟨third, others, thirdLength, rfl, nothing⟩ := exists_stepsOf subjectPath
    rw [List.map_eq_nil_iff.mp nothing, List.append_nil] at passes ⊢
    have thatSpan : span = [] :=
      eq_nil_of_mem_of_passes passes (List.mem_append_right _ List.mem_cons_self) rfl
    have inRest : (Edge.topic, span') ∈ stepsOf key.that second ++ (.topic, span') ::
        stepsOf key.topic third := List.mem_append_right _ List.mem_cons_self
    have topicSpan : span' = [] :=
      eq_nil_of_mem_of_passes passes
        (List.mem_append_right _ (List.mem_cons_of_mem _ inRest)) rfl
    rw [thatSpan, topicSpan, passes_pattern_iff firstLength, passes_that_iff secondLength,
      passes_topic_iff thirdLength] at passes
    obtain ⟨inPattern, inThat, inTopic⟩ := passes
    refine ⟨⟨first, second, third⟩, ⟨inPattern, inThat, inTopic⟩, ?_⟩
    rw [thatSpan, topicSpan]
    rfl
  · rintro ⟨pieces, derives, rfl⟩
    constructor
    · have thatPath := map_fst_stepsOf derives.that.length_eq
      have topicPath := map_fst_stepsOf derives.topic.length_eq
      simp [Key.steps, Key.path, map_fst_stepsOf derives.pattern.length_eq, thatPath, topicPath]
    · rw [Key.steps, passes_pattern_iff derives.pattern.length_eq,
        passes_that_iff derives.that.length_eq, passes_topic_iff derives.topic.length_eq]
      exact ⟨derives.pattern, derives.that, derives.topic⟩

end Steps

end Dialogue
