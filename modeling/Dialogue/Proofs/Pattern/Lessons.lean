/-
**What a lesson makes of captured words.**

The pattern of a lesson is written as text, of its own and of captures, and then read again. If
punctuation does not count, captured words are read as words, with the keys that they had, as long
as blanks set captures apart from the text of the author.

* `LessonPart.Apart`, `Guarded`: such patterns;
* `gather`: neighbouring texts as one; `lessonTokens`: the tokens of each text, and a word for every
  captured word; `mem_lessonTokens`: all other tokens are the author's;
* `Guarded.parsePattern_eq`: those are the tokens of the pattern;
* `learned_tokens`: and of the category that is learned. A context without tokens is any context.
-/

import Dialogue.Proofs.Evaluation.Recursion
import Dialogue.Proofs.Pattern.Agreement
import Dialogue.Proofs.Store.Capturing

namespace Dialogue

open Evaluation Text

/-! ### Parts of a lesson -/

namespace LessonPart

/-- Whether a part is a capture, or text in which no reference can begin. -/
def isSimple : LessonPart → Bool
  | .text content => '<' ∉ content.toList
  | .eval (.capture _ _) => true
  | .eval _ => false

/-- Two parts that do not touch each other's words: where text meets a template there is a blank. -/
def Apart : LessonPart → LessonPart → Prop
  | .text _, .text _ => True
  | .text before, .eval _ => EndsBlank before.toList
  | .eval _, .text after => StartsBlank after.toList
  | .eval _, .eval _ => False

/-- The text of a simple part. -/
def textOf (captures : Captures) : LessonPart → String
  | .text content => content
  | .eval (.capture segment index) => captures.get segment index.toNat
  | .eval _ => ""

/-- The tokens of a simple part: those of its text, or one word for each captured word. -/
def tokens (normalizer : Normalizer) (captured : Segment → Nat → List InputWord) :
    LessonPart → List Token
  | .text content => normalizer.parsePattern content
  | .eval (.capture segment index) =>
    (captured segment index.toNat).map fun word => .word word.key
  | .eval _ => []

/-- A part in front of others; text joins the text after it. -/
def join : LessonPart → List LessonPart → List LessonPart
  | .text content, .text more :: parts => .text (content ++ more) :: parts
  | part, parts => part :: parts

end LessonPart

/-- Parts with neighbouring texts made one. -/
def gather (parts : List LessonPart) : List LessonPart := parts.foldr LessonPart.join []

/-- **Parts whose captures are set apart.** -/
structure Guarded (parts : List LessonPart) : Prop where
  simple : ∀ part ∈ parts, part.isSimple
  apart : parts.IsChain LessonPart.Apart

/-- **The tokens of some parts**, in order: those of every text, and one word for each captured
word. -/
def lessonTokens (normalizer : Normalizer) (captured : Segment → Nat → List InputWord)
    (parts : List LessonPart) : List Token :=
  (gather parts).flatMap (LessonPart.tokens normalizer captured)

/-- **What is not the word of a capture was written by the author.** -/
theorem mem_lessonTokens {normalizer : Normalizer} {captured : Segment → Nat → List InputWord}
    {parts : List LessonPart} {token : Token}
    (member : token ∈ lessonTokens normalizer captured parts) :
    (∃ key, token = .word key) ∨
      ∃ content, .text content ∈ gather parts ∧ token ∈ normalizer.parsePattern content := by
  obtain ⟨part, inParts, inPart⟩ := List.mem_flatMap.mp member
  unfold LessonPart.tokens at inPart
  split at inPart
  · rename_i content
    exact .inr ⟨content, inParts, inPart⟩
  · obtain ⟨word, _, rfl⟩ := List.mem_map.mp inPart
    exact .inl ⟨word.key, rfl⟩
  · cases inPart

/-! ### Neighbouring texts -/

section Gather

variable {captures : Captures}

/-- Two parts with a blank between their texts. -/
def LessonPart.Cut (captures : Captures) (before after : LessonPart) : Prop :=
  EndsBlank (before.textOf captures).toList ∨ StartsBlank (after.textOf captures).toList

theorem gather_cons (part : LessonPart) (parts : List LessonPart) :
    gather (part :: parts) = part.join (gather parts) := rfl

/-- Gathered parts have the same text. -/
theorem join_textOf_gather (parts : List LessonPart) :
    String.join ((gather parts).map (LessonPart.textOf captures)) =
      String.join (parts.map (LessonPart.textOf captures)) := by
  induction parts with
  | nil => rfl
  | cons part parts ih =>
    rw [gather_cons, List.map_cons, String.join_cons, ← ih]
    unfold LessonPart.join
    split
    · rename_i gathered
      rw [gathered]
      simp [LessonPart.textOf, String.append_assoc]
    · rw [List.map_cons, String.join_cons]

/-- Gathered parts are simple. -/
theorem isSimple_of_mem_gather {parts : List LessonPart} (simple : ∀ part ∈ parts, part.isSimple) :
    ∀ part ∈ gather parts, part.isSimple := by
  induction parts with
  | nil => exact fun part absent => absurd absent List.not_mem_nil
  | cons part parts ih =>
    have inFirst := simple part List.mem_cons_self
    have inOthers := ih fun other member => simple other (List.mem_cons_of_mem part member)
    rw [gather_cons]
    unfold LessonPart.join
    split
    · rename_i content more others gathered
      rw [gathered] at inOthers
      have inMore := inOthers _ List.mem_cons_self
      intro other member
      rcases List.mem_cons.mp member with rfl | later
      · simp_all [LessonPart.isSimple]
      · exact inOthers other (List.mem_cons_of_mem _ later)
    · exact List.forall_mem_cons.mpr ⟨inFirst, inOthers⟩

/-- The first of some gathered parts begins with what the first of the parts is. -/
theorem exists_gather_text (content : String) (parts : List LessonPart) :
    ∃ more others, gather (.text content :: parts) = .text (content ++ more) :: others := by
  rw [gather_cons]
  unfold LessonPart.join
  split
  · rename_i same _
    obtain rfl := LessonPart.text.inj same
    exact ⟨_, _, rfl⟩
  · exact ⟨"", gather parts, by rw [String.append_empty]⟩

/-- **Gathered parts have blanks between them.** -/
theorem isChain_gather {parts : List LessonPart} (apart : parts.IsChain LessonPart.Apart) :
    (gather parts).IsChain (LessonPart.Cut captures) := by
  induction parts with
  | nil => exact .nil
  | cons part parts ih =>
    have later := ih apart.of_cons
    cases parts with
    | nil => cases part <;> exact .singleton _
    | cons next parts =>
      have joint := (List.isChain_cons_cons.mp apart).1
      match part, next with
      | .eval _, .eval _ => exact absurd joint id
      | .text content, .eval template => exact .cons_cons (.inl joint) later
      | .eval template, .text content =>
        obtain ⟨more, others, gathered⟩ := exists_gather_text content parts
        rw [gather_cons, gathered]
        rw [gathered] at later
        refine .cons_cons (.inr ?_) later
        rw [LessonPart.textOf, String.toList_append]
        exact startsBlank_append joint
      | .text content, .text other =>
        obtain ⟨more, others, gathered⟩ := exists_gather_text other parts
        rw [gather_cons, gathered]
        rw [gathered] at later
        -- The text joins one that is already set apart from what follows it.
        cases others with
        | nil => exact .singleton _
        | cons after others =>
          obtain ⟨cut, others⟩ := List.isChain_cons_cons.mp later
          refine .cons_cons (cut.imp_left fun ends => ?_) others
          rw [LessonPart.textOf, String.toList_append]
          exact endsBlank_append ends

end Gather

/-! ### Reading the pattern again -/

section Reading

variable {normalizer : Normalizer} (strip : normalizer.punctuation = .strip)
  {captures : Captures} {captured : Segment → Nat → List InputWord}
  (holds : ∀ segment index, captures.get segment index = spanText (captured segment index))
  (words : ∀ segment index, ∀ word ∈ captured segment index, normalizer.IsWord word)

include strip holds words

/-- The words of a capture, written as text, are words with their keys. -/
theorem filterMap_splitWords_capture (segment : Segment) (index : Nat) :
    (splitWords (captures.get segment index).toList).filterMap normalizer.wordToken? =
      (captured segment index).map fun word => .word word.key := by
  have solid : ∀ text ∈ (captured segment index).map InputWord.text, Solid text.toList := by
    intro text member
    obtain ⟨word, inCapture, rfl⟩ := List.mem_map.mp member
    exact (words segment index word inCapture).solid
  rw [holds, spanText, splitWords_unwords solid, List.map_map, List.filterMap_map,
    ← List.filterMap_eq_map]
  exact List.filterMap_congr fun word member => (words segment index word member).wordToken?_eq strip

/-- No reference can begin in a capture. -/
theorem not_mem_capture (segment : Segment) (index : Nat) :
    '<' ∉ (captures.get segment index).toList := by
  rw [holds, spanText]
  intro member
  obtain ⟨text, inTexts, inText⟩ := mem_of_mem_unwords member (by decide)
  obtain ⟨word, inCapture, rfl⟩ := List.mem_map.mp inTexts
  have clean := (words segment index word inCapture).clean
  have counts : isPunctuation '<' = false :=
    Normalizer.isPunctuation_eq_false_of_clean strip clean '<' inText
  revert counts
  decide

section Part

variable {part : LessonPart} (simple : part.isSimple)

include simple

/-- No reference can begin in a simple part. -/
theorem not_mem_textOf : '<' ∉ (part.textOf captures).toList := by
  match part with
  | .text content => simpa [LessonPart.isSimple, LessonPart.textOf] using simple
  | .eval (.capture segment index) => exact not_mem_capture strip holds words segment index.toNat

/-- The words of a simple part are its tokens. -/
theorem filterMap_splitWords_part :
    (splitWords (part.textOf captures).toList).filterMap normalizer.wordToken? =
      part.tokens normalizer captured := by
  match part with
  | .text content =>
    have unopened : '<' ∉ content.toList := by simpa [LessonPart.isSimple] using simple
    exact (normalizer.parsePattern_of_unmarked (unmarked_of_not_mem unopened)).symm
  | .eval (.capture segment index) =>
    exact filterMap_splitWords_capture strip holds words segment index.toNat

end Part

variable {parts : List LessonPart}

/-- Parts with blanks between them have the tokens of each. -/
theorem filterMap_splitWords_parts (simple : ∀ part ∈ parts, part.isSimple)
    (cut : parts.IsChain (LessonPart.Cut captures)) :
    (splitWords (String.join (parts.map (LessonPart.textOf captures))).toList).filterMap
        normalizer.wordToken? =
      parts.flatMap (LessonPart.tokens normalizer captured) := by
  induction parts with
  | nil => rfl
  | cons part parts ih =>
    have inFirst :=
      filterMap_splitWords_part strip holds words (simple part List.mem_cons_self)
    have inOthers := ih (fun other member => simple other (List.mem_cons_of_mem part member))
      cut.of_cons
    rw [List.map_cons, String.join_cons, String.toList_append, List.flatMap_cons, ← inFirst,
      ← inOthers, ← List.filterMap_append]
    congr 1
    cases parts with
    | nil => simp [String.join]
    | cons next parts =>
      refine splitWords_append ((List.isChain_cons_cons.mp cut).1.imp_right fun starts => ?_)
      rw [List.map_cons, String.join_cons, String.toList_append]
      exact startsBlank_append starts

/-- **Parts whose captures are set apart are read as they are written.** -/
theorem Guarded.parsePattern_eq (guarded : Guarded parts) :
    normalizer.parsePattern (String.join (parts.map (LessonPart.textOf captures))) =
      lessonTokens normalizer captured parts := by
  have simple := isSimple_of_mem_gather guarded.simple
  have unopened :
      '<' ∉ (String.join ((gather parts).map (LessonPart.textOf captures))).toList := by
    rw [String.toList_join, List.mem_flatMap]
    rintro ⟨text, inTexts, inText⟩
    obtain ⟨part, inParts, rfl⟩ := List.mem_map.mp inTexts
    exact not_mem_textOf strip holds words (simple part inParts) inText
  rw [← join_textOf_gather, normalizer.parsePattern_of_unmarked (unmarked_of_not_mem unopened),
    filterMap_splitWords_parts strip holds words simple (isChain_gather guarded.apart),
    lessonTokens]

end Reading

/-! ### Evaluating a lesson -/

section Evaluating

variable {redirect : String → Evaluation String}

/-- Simple parts are evaluated without any change. -/
theorem runIn_concatenate_simple {parts : List LessonPart} (simple : ∀ part ∈ parts, part.isSimple)
    (context : Context) :
    (concatenate (evaluateParts redirect parts)).runIn context =
      (.ok (String.join (parts.map (LessonPart.textOf context.captures))), context) := by
  induction parts with
  | nil => rfl
  | cons part parts ih =>
    have inFirst : (part.evaluate redirect).runIn context =
        (.ok (part.textOf context.captures), context) := by
      match part, simple part List.mem_cons_self with
      | .text content, _ => rfl
      | .eval (.capture segment index), _ => rfl
    have inOthers := ih fun other member => simple other (List.mem_cons_of_mem part member)
    rw [evaluateParts, concatenate, runIn_bind, inFirst]
    dsimp only
    rw [runIn_bind, inOthers]
    dsimp only
    rw [runIn_pure, List.map_cons, String.join_cons]

/-- The steps by which a lesson gives its definition. -/
theorem exists_of_runIn_define {lesson : Lesson} {context after : Context} {definition : Definition}
    (defined : (lesson.define redirect).runIn context = (.ok definition, after)) :
    ∃ afterPattern afterThat afterTopic,
      (concatenate (evaluateParts redirect lesson.pattern)).runIn context =
        (.ok definition.pattern, afterPattern) ∧
      (evaluateContext redirect lesson.that).runIn afterPattern =
        (.ok definition.that, afterThat) ∧
      (evaluateContext redirect lesson.topic).runIn afterThat =
        (.ok definition.topic, afterTopic) ∧
      (lesson.template.close redirect).runIn afterTopic = (.ok definition.template, after) := by
  obtain ⟨pattern, that, topic, template⟩ := lesson
  obtain ⟨_, afterPattern, ranPattern, defined⟩ := exists_of_runIn_bind defined
  obtain ⟨_, afterThat, ranThat, defined⟩ := exists_of_runIn_bind defined
  obtain ⟨_, afterTopic, ranTopic, defined⟩ := exists_of_runIn_bind defined
  obtain ⟨_, _, ranTemplate, defined⟩ := exists_of_runIn_bind defined
  cases defined
  exact ⟨afterPattern, afterThat, afterTopic, ranPattern, ranThat, ranTopic, ranTemplate⟩

/-- A guarded context gives its text, where the captures are the given ones. -/
theorem eq_join_of_runIn_evaluateContext {parts : List LessonPart} (guarded : Guarded parts)
    {captures : Captures} {context after : Context} (same : context.captures = captures)
    {text : Option String}
    (ran : (evaluateContext redirect (some parts)).runIn context = (.ok text, after)) :
    text = some (String.join (parts.map (LessonPart.textOf captures))) := by
  obtain ⟨content, _, ranParts, ended⟩ := exists_of_runIn_bind ran
  rw [runIn_concatenate_simple guarded.simple, same] at ranParts
  cases ranParts
  cases ended
  rfl

end Evaluating

/-- **Guarded parts give their texts**, whatever the other parts of the lesson do: they leave the
captures alone. -/
theorem define_guarded {lesson : Lesson} {context after : Context} {definition : Definition}
    (defined : (lesson.define redirect).runIn context = (.ok definition, after)) :
    (Guarded lesson.pattern →
      definition.pattern = String.join (lesson.pattern.map (LessonPart.textOf context.captures))) ∧
    (∀ parts, lesson.that = some parts → Guarded parts →
      definition.that = some (String.join (parts.map (LessonPart.textOf context.captures)))) ∧
    ∀ parts, lesson.topic = some parts → Guarded parts →
      definition.topic = some (String.join (parts.map (LessonPart.textOf context.captures))) := by
  have congruence := advances_course.redirecting.toCongruence
  obtain ⟨afterPattern, afterThat, afterTopic, ranPattern, ranThat, ranTopic, _⟩ :=
    exists_of_runIn_define defined
  have toThat : Advances context afterPattern := by
    have led :=
      congruence.concatenate (congruence.evaluateParts advances_course.redirect lesson.pattern) context
    rwa [ranPattern] at led
  have toTopic : Advances context afterThat := by
    have led := congruence.evaluateContext advances_course.redirect lesson.that afterPattern
    rw [ranThat] at led
    exact toThat.trans led
  refine ⟨fun guarded => ?_, fun parts given guarded => ?_, fun parts given guarded => ?_⟩
  · rw [runIn_concatenate_simple guarded.simple, Prod.mk.injEq, Except.ok.injEq] at ranPattern
    exact ranPattern.1.symm
  · rw [given] at ranThat
    exact eq_join_of_runIn_evaluateContext guarded toThat.captures ranThat
  · rw [given] at ranTopic
    exact eq_join_of_runIn_evaluateContext guarded toTopic.captures ranTopic

/-- **A lesson is learned under the given tokens**, as far as its captures are set apart. A context
without tokens is any context. -/
structure Lesson.LearnedAs (lesson : Lesson) (tokens : List LessonPart → List Token)
    (key : Key) : Prop where
  pattern : Guarded lesson.pattern → key.pattern = tokens lesson.pattern
  that {parts : List LessonPart} : lesson.that = some parts → Guarded parts →
    key.that = Key.orAny (some (tokens parts))
  topic {parts : List LessonPart} : lesson.topic = some parts → Guarded parts →
    key.topic = Key.orAny (some (tokens parts))

/-- The key of a definition has the tokens of its texts, and its pattern has one. -/
theorem key_eq_of_compile {normalizer : Normalizer} {origin : Origin} {definition : Definition}
    {category : Category} (compiled : definition.compile normalizer origin = .ok category) :
    normalizer.parsePattern definition.pattern ≠ [] ∧
      category.key = Key.ofTokens (normalizer.parsePattern definition.pattern)
        (definition.that.map normalizer.parsePattern)
        (definition.topic.map normalizer.parsePattern) := by
  unfold Definition.compile at compiled
  split at compiled
  · cases compiled
  · rename_i token tokens read
    rw [← Except.ok.inj compiled, read]
    exact ⟨List.cons_ne_nil token tokens, rfl⟩

/-- **No pattern is planted through a lesson.** If punctuation does not count, then in every store
that changes of the empty one lead to, and for whatever a lookup of the words of three texts finds:

* parts whose captures are set apart are evaluated without any change, to a text that is read as
  the tokens of every text among them and one word, with its key, for each captured word;
* of those tokens, all that are not words are the author's;
* a lesson that is evaluated with those captures is learned under these tokens, unless its pattern
  is left without any. -/
theorem learned_tokens {normalizer : Normalizer} (strip : normalizer.punctuation = .strip)
    {σ : Type} (changes : List (Change σ)) (start : σ) (scope : Scope)
    (input that topic : String) :
    let store := ((Store.empty.performAll changes).run start).1.2
    let inputWords := normalizer.tokenize input
    let thatWords := normalizer.tokenize that
    let topicWords := normalizer.tokenize topic
    ∀ found, store.lookup scope inputWords thatWords topicWords = some found →
      ∃ pieces, store.IsFirst scope inputWords thatWords topicWords found.category pieces ∧
        found.captures = found.category.key.captures pieces ∧
        let tokens := lessonTokens normalizer (capturedWords found.category.key pieces)
        (∀ parts, Guarded parts → ∀ redirect context, context.captures = found.captures →
          ∃ text, (concatenate (evaluateParts redirect parts)).runIn context = (.ok text, context) ∧
            normalizer.parsePattern text = tokens parts) ∧
        (∀ parts, ∀ token ∈ tokens parts, (∃ key, token = .word key) ∨
          ∃ content, .text content ∈ gather parts ∧ token ∈ normalizer.parsePattern content) ∧
        ∀ (lesson : Lesson) (context after : Context) (answer : String),
          context.captures = found.captures → context.agent.normalizer = normalizer →
          (Template.learn lesson).run.runIn context = (.ok answer, after) →
            ∃ definition taught,
              (lesson.define redirect).runIn context = (.ok definition, taught) ∧
              match definition.compile normalizer .learned with
              | .ok category =>
                after.agent = taught.agent.learn category ∧ category.key.pattern ≠ [] ∧
                  lesson.LearnedAs tokens category.key
              | .error _ =>
                after.agent = taught.agent ∧ (Guarded lesson.pattern → tokens lesson.pattern = [])
    := by
  intro store inputWords thatWords topicWords found outcome
  have valid : store.Valid := Store.valid_performAll changes start
  obtain ⟨_, pieces, first, captured⟩ := (Store.lookup_eq_some_iff valid).mp outcome
  refine ⟨pieces, first, captured, ?_⟩
  intro tokens
  have holds := get_captures found.category.key pieces
  rw [← captured] at holds
  have words : ∀ segment index, ∀ word ∈ capturedWords found.category.key pieces segment index,
      normalizer.IsWord word := by
    intro segment index word member
    have said := first.derives.mem_of_mem_capturedWords member
    cases segment with
    | pattern | that | topic => exact normalizer.isWord_of_mem_tokenize said
  have read : ∀ parts, Guarded parts →
      normalizer.parsePattern (String.join (parts.map (LessonPart.textOf found.captures))) =
        tokens parts :=
    fun parts guarded => guarded.parsePattern_eq strip holds words
  refine ⟨fun parts guarded redirect context same => ?_, fun parts token => mem_lessonTokens, ?_⟩
  · refine ⟨_, runIn_concatenate_simple guarded.simple context, ?_⟩
    rw [same]
    exact read parts guarded
  · intro lesson context after answer same normal ran
    rw [Template.run_eq, Template.evaluate] at ran
    obtain ⟨definition, taught, defined, ran⟩ := exists_of_runIn_bind ran
    obtain ⟨_, _, learned, ended⟩ := exists_of_runIn_bind ran
    cases ended
    obtain ⟨pattern, response, subject⟩ := define_guarded defined
    rw [same] at pattern response subject
    have normalTaught : taught.agent.normalizer = normalizer := by
      have led := advances_course.redirecting.toCongruence.define advances_course.redirect lesson context
      rw [defined] at led
      rw [← normal]
      exact congrArg Settings.normalizer led.settings
    rw [← normalTaught] at read ⊢
    refine ⟨definition, taught, defined, ?_⟩
    cases compiled : definition.compile taught.agent.normalizer .learned with
    | error fault =>
      rw [runIn_learn_of_error compiled] at learned
      cases learned
      refine ⟨rfl, fun guarded => ?_⟩
      rw [← read _ guarded, ← pattern guarded]
      exact ((definition.compile_eq_error_iff _ _ _).mp compiled).1
    | ok category =>
      rw [runIn_learn_of_ok compiled] at learned
      cases learned
      obtain ⟨filled, key⟩ := key_eq_of_compile compiled
      refine ⟨rfl, ?_, fun guarded => ?_, fun given guarded => ?_, fun given guarded => ?_⟩
      · rwa [key]
      · rw [key, ← read _ guarded, ← pattern guarded]
        rfl
      · rw [key, ← read _ guarded, Key.ofTokens, response _ given guarded]
        rfl
      · rw [key, ← read _ guarded, Key.ofTokens, subject _ given guarded]
        rfl

/-- A user who says a wildcard, a priority word and a reference has them learned as words. -/
theorem learned_tokens_markup :
    let asked : Category := ⟨⟨[.word "remember", .hash], [.star], [.star]⟩, .text "A", .loaded⟩
    let changes : List (Change Unit) := [.insert asked]
    let store := ((Store.empty.performAll changes).run ()).1.2
    let scope : Scope := ⟨fun _ _ => false, fun _ _ => false, fun _ _ => false⟩
    let input := "Remember * $five <set>Odd</set>"
    let captures : Captures := ⟨["five setOddset"], ["yes"], ["pets"]⟩
    let parts : List LessonPart := [.text "say ", .eval (.capture .pattern 1)]
    let setup : Setup := { generator := fun _ => .first }
    let context : Context := { agent := setup.build.1, captures := captures }
    store.lookup scope (Normalizer.tokenize {} input) (Normalizer.tokenize {} "yes")
        (Normalizer.tokenize {} "pets") = some ⟨asked, captures⟩ ∧
      ∃ text, (concatenate (evaluateParts redirect parts)).runIn context = (.ok text, context) ∧
        ∀ token ∈ Normalizer.parsePattern {} text, ∃ key, token = .word key := by
  intro asked changes store scope input captures parts setup context
  have outcome : store.lookup scope (Normalizer.tokenize {} input) (Normalizer.tokenize {} "yes")
      (Normalizer.tokenize {} "pets") = some ⟨asked, captures⟩ := by
    have words : Normalizer.tokenize {} input =
        [⟨"remember", "Remember"⟩, ⟨"five", "five"⟩, ⟨"setoddset", "setOddset"⟩] := by
      decide +kernel
    rw [words]
    rfl
  obtain ⟨pieces, _, _, evaluated, authored, _⟩ :=
    learned_tokens rfl changes () scope input "yes" "pets" ⟨asked, captures⟩ outcome
  have joint : EndsBlank "say ".toList := by decide
  obtain ⟨text, ran, read⟩ := evaluated parts
    ⟨by decide, .cons_cons joint (.singleton _)⟩ redirect context rfl
  refine ⟨outcome, text, ran, fun token member => ?_⟩
  rw [read] at member
  rcases authored parts token member with word | ⟨content, inParts, inContent⟩
  · exact word
  · have same : content = "say " := by
      rcases List.mem_cons.mp inParts with first | later
      · exact LessonPart.text.inj first
      · cases List.mem_singleton.mp later
    have unopened : '<' ∉ content.toList := by
      rw [same]
      decide
    rw [Normalizer.parsePattern_eq_map {} (unmarked_of_not_mem unopened)
      (by rw [same]; decide +kernel)] at inContent
    obtain ⟨word, _, rfl⟩ := List.mem_map.mp inContent
    exact ⟨word.key, rfl⟩

/-- Texts that touch are read as one, and a context without words is any context. -/
theorem not_learned_tokens :
    let asked : Category := ⟨⟨[.word "remember", .hash], [.star], [.star]⟩, .text "A", .loaded⟩
    let changes : List (Change Unit) := [.insert asked]
    let store := ((Store.empty.performAll changes).run ()).1.2
    let found : Match := ⟨asked, ⟨[""], ["yes"], ["pets"]⟩⟩
    let response : List LessonPart := [.eval (.capture .pattern 1)]
    let lesson : Lesson := ⟨[.text "ab", .text "cd"], some response, none, .text "B"⟩
    let setup : Setup := { generator := fun _ => .first }
    let context : Context := { agent := setup.build.1, captures := found.captures }
    let tokens := LessonPart.tokens {} fun _ _ => []
    store.lookup ⟨fun _ _ => false, fun _ _ => false, fun _ _ => false⟩
        (Normalizer.tokenize {} "remember") (Normalizer.tokenize {} "yes")
        (Normalizer.tokenize {} "pets") = some found ∧
      Guarded lesson.pattern ∧ Guarded response ∧
      ∃ definition learned,
        (lesson.define redirect).runIn context = (.ok definition, context) ∧
        definition.compile {} .learned = .ok learned ∧
        learned.key.pattern ≠ lesson.pattern.flatMap tokens ∧
        learned.key.that ≠ response.flatMap tokens := by
  intro asked changes store found response lesson setup context tokens
  have read : ∀ text : String, '<' ∉ text.toList → Normalizer.parsePattern {} text =
      (splitWords text.toList).filterMap (Normalizer.wordToken? {}) :=
    fun text unopened => Normalizer.parsePattern_of_unmarked {} (unmarked_of_not_mem unopened)
  have touching : Normalizer.parsePattern {} "abcd" = [.word "abcd"] :=
    (read "abcd" (by decide)).trans (by decide +kernel)
  have first : Normalizer.parsePattern {} "ab" = [.word "ab"] :=
    (read "ab" (by decide)).trans (by decide +kernel)
  have second : Normalizer.parsePattern {} "cd" = [.word "cd"] :=
    (read "cd" (by decide)).trans (by decide +kernel)
  have nothing : Normalizer.parsePattern {} "" = [] := read "" (by decide)
  refine ⟨by rfl, ⟨by decide, ?_⟩, ⟨by decide, .singleton _⟩, ⟨"abcd", some "", none, .text "B"⟩,
    ⟨⟨[.word "abcd"], [.star], [.star]⟩, .text "B", .learned⟩, rfl, ?_, ?_, ?_⟩
  · exact .cons_cons trivial (.singleton _)
  · simp [Definition.compile, touching, nothing, Key.ofTokens, Key.orAny]
  · simp [lesson, tokens, LessonPart.tokens, first, second]
  · simp [response, tokens, LessonPart.tokens]

end Dialogue
