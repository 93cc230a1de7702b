/-
**Captured text re-enters matching unchanged.**

What a wildcard takes is kept as text, and a redirection of that text cuts it into sentences and
words again. If punctuation does not count, this gives back the words that were taken: their texts
are clean, joined by single spaces, and have no mark at which a sentence could end.

* `Normalizer.tokenize_spanText`, `Normalizer.sentences_spanText`: the text of some words has those
  words, and is one sentence;
* `Agent.isWord_of_mem_select`: all that an agent looks up are words of texts;
* `Context.Regular`: an agent in a turn, with the settings and the store that it can have;
* `Supplied`: the templates among some marks are evaluated with captures of a lookup among them;
  `supplied_marks` for the marks of a template, `supplied_chronicle` for all that happens inside,
  and `Agent.supplied_chronicle` for a turn;
* `Normalizer.StandsFor`, `Normalizer.StandsFor.marksOfRedirect_eq`: a text that is read as some
  words, and looks them up when it is redirected; `Store.exists_standsFor`: so the captures of a
  lookup are;
* `captures_reenter`: all of that, for single lookups and wherever a turn evaluates a template.
-/

import Dialogue.Proofs.Evaluation.Chronicle
import Dialogue.Proofs.Pattern.Agreement
import Dialogue.Proofs.Repertoire.Conversation
import Dialogue.Proofs.Store.Capturing
import Dialogue.Proofs.Text.Sentences

namespace Dialogue

open Evaluation Text

/-! ### The text of some words -/

namespace Normalizer

variable {normalizer : Normalizer} {words : List InputWord}
  (areWords : ∀ word ∈ words, normalizer.IsWord word)

include areWords

theorem solid_of_areWords : ∀ part ∈ words.map InputWord.text, Solid part.toList := by
  intro part member
  obtain ⟨word, inWords, rfl⟩ := List.mem_map.mp member
  exact (areWords word inWords).solid

/-- **The text of some words has those words**, with the same keys and texts. -/
theorem tokenize_spanText : normalizer.tokenize (spanText words) = words := by
  rw [tokenize, spanText, splitWords_unwords (solid_of_areWords areWords), List.map_map,
    List.filterMap_map]
  have back : ∀ word ∈ words, (normalizer.inputWord? ∘ String.toList ∘ InputWord.text) word =
      some word := fun word member => (areWords word member).inputWord?_eq
  exact (List.filterMap_congr back).trans List.filterMap_some

/-- Words have a text, and only words have one. -/
theorem spanText_eq_empty_iff : spanText words = "" ↔ words = [] := by
  constructor
  · intro nothing
    have read := tokenize_spanText areWords
    rw [nothing] at read
    exact read.symm
  · rintro rfl
    rfl

/-- **The text of some words is one sentence**, if punctuation does not count. -/
theorem sentences_spanText (strip : normalizer.punctuation = .strip) (filled : words ≠ []) :
    sentences (spanText words) = [spanText words] := by
  have unmarked : ∀ c ∈ (spanText words).toList, isEndMark c = false := by
    intro c member
    by_contra mark
    have mark : isEndMark c := by simpa using mark
    by_cases space : c = ' '
    · rw [space] at mark
      exact absurd mark (by decide)
    · obtain ⟨part, inParts, inPart⟩ := mem_of_mem_unwords member space
      obtain ⟨word, inWords, rfl⟩ := List.mem_map.mp inParts
      have plain := isPunctuation_eq_false_of_clean strip (areWords word inWords).clean c inPart
      rw [isPunctuation_of_isEndMark mark] at plain
      cases plain
  refine sentences_of_unbroken (mt (spanText_eq_empty_iff areWords).mp filled)
    (trimmed_unwords (solid_of_areWords areWords)).1 ?_
  refine List.Pairwise.isChain (List.pairwise_of_forall_mem_list fun c member _ _ ends => ?_)
  rw [unmarked c member] at ends
  cases ends.1

end Normalizer

/-- Words of a capture are words that an input can have. -/
theorem Derives.areWords {normalizer : Normalizer} {scope : Scope} {key : Key}
    {input that topic : List InputWord} {pieces : Pieces}
    (derives : Derives scope key input that topic pieces)
    (said : ∀ segment : Segment, ∀ word ∈ segment.select input that topic, normalizer.IsWord word)
    (segment : Segment) (index : Nat) :
    ∀ word ∈ capturedWords key pieces segment index, normalizer.IsWord word :=
  fun word member => said segment word (derives.mem_of_mem_capturedWords member)

/-- **All that an agent looks up are words of texts**: the sentence, the last response and the
topic, or what stands for a missing one. -/
theorem Agent.isWord_of_mem_select (agent : Agent) (sentence : String) (segment : Segment) :
    ∀ word ∈ segment.select (agent.normalizer.tokenize sentence) agent.thatWords agent.topicWords,
      agent.normalizer.IsWord word := by
  have inContext : ∀ context, ∀ word ∈ agent.contextWords context,
      agent.normalizer.IsWord word := by
    intro context word member
    unfold contextWords at member
    split at member
    · exact agent.normalizer.isWord_of_mem_tokenize member
    · exact agent.normalizer.isWord_of_mem_tokenize member
  intro word member
  cases segment with
  | pattern => exact agent.normalizer.isWord_of_mem_tokenize member
  | that => exact inContext _ word member
  | topic => exact inContext _ word member

/-! ### Agents in a turn -/

/-- **An agent in a turn.** It has the settings that the turn began with, and a repertoire that
revisions lead to. -/
structure Context.Regular (settings : Settings) (context : Context) : Prop where
  settings : context.agent.settings = settings
  layered : ∃ layers, Layered context.agent.repertoire layers

section Regular

variable {settings : Settings} {context : Context}

/-- Every evaluation keeps an agent regular. -/
theorem Revised.regular {before after : Context} (revised : Revised before after)
    (regular : before.Regular settings) : after.Regular settings := by
  obtain ⟨revisions, made, repertoire, _⟩ := revised.made
  obtain ⟨layers, layered⟩ := regular.layered
  refine ⟨revised.settings.trans regular.settings, layers.reviseAll revisions, ?_⟩
  rw [repertoire]
  exact layered.reviseAll fun revision member => (made revision member).fits

theorem Context.Regular.run (regular : context.Regular settings) (template : Template) :
    (template.run.runIn context).2.Regular settings :=
  (revised_course.toInnerCourse.run template context).regular regular

theorem Context.Regular.respond (regular : context.Regular settings) (sentence : String) :
    ((respond sentence).runIn context).2.Regular settings :=
  (revised_course.toInnerCourse.respond sentence context).regular regular

/-- **A bot that was set up is regular** after any calls. -/
theorem regular_receiveAll (setup : Setup) (calls : List Call) :
    ({ agent := setup.build.1.receiveAll calls } : Context).Regular setup.settings where
  settings := setup.build.1.settings_receiveAll calls
  layered := exists_layered_receiveAll setup calls

end Regular

/-! ### Where captures come from -/

/-- Whether a mark is neither an evaluation nor a lookup. -/
def Mark.isAside : Mark → Bool
  | .evaluates _ _ | .looksUp _ _ => false
  | .assigns _ _ | .repeats | .stops | .hears _ => true

/-- **The captures among some marks come from lookups among them**, or are ones that were there
before. All contexts are those of an agent in a turn. -/
structure Supplied (settings : Settings) (own : Captures → Prop) (marks : List Mark) : Prop where
  evaluates {template : Template} {inner : Context} : .evaluates template inner ∈ marks →
    inner.Regular settings ∧ (own inner.captures ∨ ∃ sentence place found,
      .looksUp sentence place ∈ marks ∧
        place.agent.lookup (settings.normalizer.tokenize sentence) = some found ∧
        inner.captures = found.captures)
  looksUp {sentence : String} {place : Context} : .looksUp sentence place ∈ marks →
    place.Regular settings

namespace Supplied

variable {settings : Settings} {own : Captures → Prop} {marks others : List Mark}

theorem nil : Supplied settings own [] where
  evaluates member := by cases member
  looksUp member := by cases member

theorem append (first : Supplied settings own marks) (second : Supplied settings own others) :
    Supplied settings own (marks ++ others) where
  evaluates member := by
    rcases List.mem_append.mp member with before | after
    · obtain ⟨regular, supplied⟩ := first.evaluates before
      refine ⟨regular, supplied.imp_right ?_⟩
      rintro ⟨sentence, place, found, asked, outcome⟩
      exact ⟨sentence, place, found, List.mem_append_left others asked, outcome⟩
    · obtain ⟨regular, supplied⟩ := second.evaluates after
      refine ⟨regular, supplied.imp_right ?_⟩
      rintro ⟨sentence, place, found, asked, outcome⟩
      exact ⟨sentence, place, found, List.mem_append_right marks asked, outcome⟩
  looksUp member := (List.mem_append.mp member).elim first.looksUp second.looksUp

/-- A mark without a context, and what follows. -/
theorem aside {mark : Mark} (aside : mark.isAside) (supplied : Supplied settings own others) :
    Supplied settings own (mark :: others) := by
  have alone : Supplied settings own [mark] :=
    { evaluates := fun member => by
        rw [← List.mem_singleton.mp member] at aside
        cases aside
      looksUp := fun member => by
        rw [← List.mem_singleton.mp member] at aside
        cases aside }
  exact alone.append supplied

/-- An evaluation with captures that were there before, and what follows. -/
theorem evaluation {template : Template} {inner : Context} (regular : inner.Regular settings)
    (owned : own inner.captures) (supplied : Supplied settings own others) :
    Supplied settings own (.evaluates template inner :: others) := by
  have alone : Supplied settings own [.evaluates template inner] :=
    { evaluates := fun member => by
        cases List.mem_singleton.mp member
        exact ⟨regular, .inl owned⟩
      looksUp := fun member => by cases List.mem_singleton.mp member }
  exact alone.append supplied

end Supplied

section Marks

variable {settings : Settings} {own : Captures → Prop} {context : Context}

theorem supplied_marksOfAll {templates : List Template} (regular : context.Regular settings)
    (owned : own context.captures) : Supplied settings own (marksOfAll templates context) := by
  induction templates generalizing context with
  | nil => exact .nil
  | cons template templates ih =>
    refine .evaluation regular owned ?_
    have kept := regular.run template
    have captures := (advances_course.run template context).captures
    generalize template.run.runIn context = outcome at kept captures ⊢
    obtain ⟨result, after⟩ := outcome
    cases result with
    | ok text => exact ih kept (captures.symm ▸ owned)
    | error interruption => exact .nil

/-- **A template that answers a sentence is evaluated with the captures of its lookup.** -/
theorem supplied_marksOfReply (regular : context.Regular settings) (sentence : String) :
    Supplied settings own (marksOfReply sentence context) where
  looksUp member := by
    rcases List.mem_cons.mp member with same | later
    · cases same
      exact regular
    · split at later
      · cases later
      · cases List.mem_singleton.mp later
  evaluates member := by
    rcases List.mem_cons.mp member with same | later
    · cases same
    · split at later
      · cases later
      · rename_i found outcome
        cases List.mem_singleton.mp later
        have normalizer : context.agent.normalizer = settings.normalizer :=
          congrArg Settings.normalizer regular.settings
        rw [normalizer] at outcome
        exact ⟨⟨regular.settings, regular.layered⟩,
          .inr ⟨sentence, context, found, List.mem_cons_self, outcome, rfl⟩⟩

theorem supplied_marksOfReplies {sentences : List String} (regular : context.Regular settings) :
    Supplied settings own (marksOfReplies sentences context) := by
  induction sentences generalizing context with
  | nil => exact .nil
  | cons sentence sentences ih =>
    refine (supplied_marksOfReply regular sentence).append ?_
    have kept := regular.respond sentence
    generalize (respond sentence).runIn context = outcome at kept ⊢
    obtain ⟨result, after⟩ := outcome
    cases result with
    | ok reply => exact ih kept
    | error interruption => exact .nil

theorem supplied_marksOfRedirect (regular : context.Regular settings) (query : String) :
    Supplied settings own (marksOfRedirect query context) := by
  unfold marksOfRedirect
  split
  · exact .nil
  · exact supplied_marksOfReplies ⟨regular.settings, regular.layered⟩

theorem supplied_marksOfPasses {guards : List Guard} {left : Nat}
    (regular : context.Regular settings) (owned : own context.captures) :
    Supplied settings own (marksOfPasses guards left context) := by
  induction left generalizing context with
  | zero => exact .nil
  | succ left ih =>
    unfold marksOfPasses
    split
    · exact .nil
    · rename_i guard chosen
      have inBody : ({ context with looping := false } : Context).Regular settings :=
        ⟨regular.settings, regular.layered⟩
      refine .evaluation inBody owned ?_
      have kept := inBody.run guard.body
      have captures := (advances_course.run guard.body { context with looping := false }).captures
      generalize guard.body.run.runIn { context with looping := false } = outcome at kept captures ⊢
      obtain ⟨result, after⟩ := outcome
      cases result with
      | error interruption => exact .nil
      | ok text =>
        dsimp only
        split
        · split
          · refine .aside rfl (ih ?_ ?_)
            · exact ⟨kept.settings, kept.layered⟩
            · exact captures.symm ▸ owned
          · exact .aside rfl .nil
        · exact .nil

/-- **What happens directly inside a template has its captures**, or those of a lookup there. -/
theorem supplied_marks (template : Template) (regular : context.Regular settings)
    (owned : own context.captures) : Supplied settings own (template.marks context) := by
  by_cases plain : template.isPlain
  · rw [marks_of_isPlain plain]
    exact supplied_marksOfAll regular owned
  cases template with
  | assign name value =>
    refine .evaluation regular owned ?_
    split
    · exact .aside rfl .nil
    · exact .nil
  | redirect content =>
    refine .evaluation regular owned ?_
    have kept := regular.run content
    generalize content.run.runIn context = outcome at kept ⊢
    obtain ⟨result, after⟩ := outcome
    cases result with
    | ok query => exact supplied_marksOfRedirect kept query
    | error interruption => exact .nil
  | redirectCapture => exact supplied_marksOfRedirect regular _
  | condition guards => exact supplied_marksOfPasses regular owned
  | random items =>
    cases drawn : items[context.agent.draws.head items.length]? with
    | none =>
      have nothing : (Template.random items).marks context = [] := by
        change (items[context.agent.draws.head items.length]?).toList.map _ = _
        rw [drawn]
        rfl
      rw [nothing]
      exact .nil
    | some item =>
      rw [marks_random drawn]
      exact .evaluation ⟨regular.settings, regular.layered⟩ owned .nil
  | loop => exact .nil
  | _ => exact absurd rfl plain

/-- What happens inside the templates among some marks comes from lookups as well. -/
theorem Supplied.expand {inner : Template × Context → List Mark} {marks : List Mark}
    (supplied : Supplied settings own marks)
    (inside : ∀ part place, .evaluates part place ∈ marks →
      Supplied settings (· = place.captures) (inner (part, place))) :
    Supplied settings own (marks.flatMap (Mark.expand inner)) := by
  -- An evaluation among the marks, seen from all that happens inside.
  have direct : ∀ {template place}, .evaluates template place ∈ marks →
      own place.captures ∨ ∃ sentence asking found,
        .looksUp sentence asking ∈ marks.flatMap (Mark.expand inner) ∧
          asking.agent.lookup (settings.normalizer.tokenize sentence) = some found ∧
          place.captures = found.captures := by
    intro template place among
    refine (supplied.evaluates among).2.imp_right ?_
    rintro ⟨sentence, asking, found, asked, outcome⟩
    exact ⟨sentence, asking, found, mem_flatMap_expand_iff.mpr (.inl asked), outcome⟩
  constructor
  · intro template place member
    rcases mem_flatMap_expand_iff.mp member with among | ⟨part, outer, among, deeper⟩
    · exact ⟨(supplied.evaluates among).1, direct among⟩
    · obtain ⟨regular, kept | ⟨sentence, asking, found, asked, outcome⟩⟩ :=
        (inside part outer among).evaluates deeper
      · rw [kept]
        exact ⟨regular, direct among⟩
      · have within := mem_flatMap_expand_iff.mpr (.inr ⟨part, outer, among, asked⟩)
        exact ⟨regular, .inr ⟨sentence, asking, found, within, outcome⟩⟩
  · intro sentence place member
    rcases mem_flatMap_expand_iff.mp member with among | ⟨part, outer, among, deeper⟩
    · exact supplied.looksUp among
    · exact (inside part outer among).looksUp deeper

/-- **All that happens inside a template has its captures**, or those of a lookup there. -/
theorem supplied_chronicle (template : Template) (context : Context)
    (regular : context.Regular settings) :
    Supplied settings (· = context.captures) (chronicle (template, context)) := by
  rw [chronicle_eq]
  have direct : Supplied settings (· = context.captures) (template.marks context) :=
    supplied_marks template regular rfl
  exact direct.expand fun part place _member =>
    supplied_chronicle part place (direct.evaluates _member).1
termination_by measureOf (template, context)
decreasing_by exact smaller_of_mem_marks _member

theorem supplied_marksOfAnswer {sentences : List String} (regular : context.Regular settings) :
    Supplied settings own (marksOfAnswer sentences context) := by
  induction sentences generalizing context with
  | nil => exact .nil
  | cons sentence sentences ih =>
    have heard : (context.heard sentence).Regular settings := ⟨regular.settings, regular.layered⟩
    have first : Supplied settings own (marksOfSentence sentence context) := by
      refine .aside rfl ((supplied_marksOfReply heard sentence).append ?_)
      have kept := heard.respond sentence
      generalize (respond sentence).runIn (context.heard sentence) = outcome at kept ⊢
      obtain ⟨result, after⟩ := outcome
      match result with
      | .ok (some reply) => exact .nil
      | .error interruption => exact .nil
      | .ok none =>
        change Supplied settings own (marksOfFallback sentence after)
        unfold marksOfFallback
        split
        · exact .nil
        · rename_i replacement _
          have classified : (after.classified sentence replacement).Regular settings :=
            ⟨kept.settings, kept.layered⟩
          exact supplied_marksOfReply classified replacement
    refine first.append ?_
    have kept := (revised_course.answerSentence sentence context).regular regular
    generalize (answerSentence sentence).runIn context = outcome at kept ⊢
    obtain ⟨result, after⟩ := outcome
    cases result with
    | ok reply => exact ih kept
    | error interruption => exact .nil

/-- **In a turn, every template is evaluated with the captures of a lookup of that turn.** -/
theorem Agent.supplied_chronicle {agent : Agent}
    (regular : ({ agent := agent } : Context).Regular settings) (input : String) :
    Supplied settings (fun _ => False) (agent.chronicle input) := by
  have direct : Supplied settings (fun _ => False)
      (marksOfAnswer (agent.inputSentences input) { agent := agent }) :=
    supplied_marksOfAnswer regular
  exact direct.expand fun part place member =>
    Dialogue.supplied_chronicle part place (direct.evaluates member).1

end Marks

/-! ### Redirected captures -/

/-- What happens when some words are looked up for a sentence. -/
def marksOfWords (sentence : String) (words : List InputWord) (context : Context) : List Mark :=
  .looksUp sentence context ::
    match context.agent.lookup words with
    | none => []
    | some found => [.evaluates found.category.template (context.entered sentence found)]

/-- What happens when the text of some words is redirected: the words are looked up once, unless
there are none or redirections are nested too deep. -/
def marksOfSpan (words : List InputWord) (context : Context) : List Mark :=
  if context.agent.settings.maxRedirects ≤ context.depth ∨ words = [] then []
  else marksOfWords (spanText words) words (context.descended (spanText words))

/-- **A text that stands for some words.** It is their texts, and is read as one sentence of just
these words, with the same keys. -/
structure Normalizer.StandsFor (normalizer : Normalizer) (text : String)
    (words : List InputWord) : Prop where
  eq_spanText : text = spanText words
  sentences_eq : text ≠ "" → sentences text = [text]
  tokenize_eq_words : normalizer.tokenize text = words

section StandsFor

variable {normalizer : Normalizer} (strip : normalizer.punctuation = .strip)

include strip

theorem standsFor_spanText {words : List InputWord}
    (areWords : ∀ word ∈ words, normalizer.IsWord word) :
    normalizer.StandsFor (spanText words) words where
  eq_spanText := rfl
  sentences_eq filled := by
    refine Normalizer.sentences_spanText areWords strip ?_
    rintro rfl
    exact filled rfl
  tokenize_eq_words := Normalizer.tokenize_spanText areWords

omit strip in
/-- **Redirecting a text that stands for some words looks up these words**, and nothing else. -/
theorem Normalizer.StandsFor.marksOfRedirect_eq {text : String} {words : List InputWord}
    (stands : normalizer.StandsFor text words) {context : Context}
    (normal : context.agent.normalizer = normalizer) :
    marksOfRedirect text context = marksOfSpan words context := by
  unfold marksOfRedirect marksOfSpan
  by_cases reached : context.agent.settings.maxRedirects ≤ context.depth
  · rw [if_pos reached, if_pos (.inl reached)]
  rw [if_neg reached]
  by_cases filled : words = []
  · have nothing : text = "" := by
      rw [stands.eq_spanText, filled]
      rfl
    rw [if_pos (.inr filled), nothing]
    rfl
  · have said : text ≠ "" := by
      intro nothing
      apply filled
      rw [← stands.tokenize_eq_words, nothing]
      rfl
    have read : (context.descended text).agent.normalizer.tokenize text = words := by
      have same : (context.descended text).agent.normalizer = normalizer := normal
      rw [same, stands.tokenize_eq_words]
    have reply : marksOfReply text (context.descended text) =
        marksOfWords text words (context.descended text) := by
      rw [marksOfReply, read]
      rfl
    rw [if_neg (not_or.mpr ⟨reached, filled⟩), stands.sentences_eq said, marksOfReplies, reply,
      ← stands.eq_spanText]
    split <;> exact List.append_nil _

/-- **The captures of a lookup stand for the words they were bound to**, if all that is looked up
are words of texts. -/
theorem Store.exists_standsFor {store : Store} (valid : store.Valid) {scope : Scope}
    {input that topic : List InputWord} {found : Match}
    (said : ∀ segment : Segment, ∀ word ∈ segment.select input that topic, normalizer.IsWord word)
    (outcome : store.lookup scope input that topic = some found) :
    ∃ pieces, store.IsFirst scope input that topic found.category pieces ∧
      ∀ segment index, normalizer.StandsFor (found.captures.get segment index)
        (capturedWords found.category.key pieces segment index) := by
  obtain ⟨_, pieces, first, captured⟩ := (Store.lookup_eq_some_iff valid).mp outcome
  refine ⟨pieces, first, fun segment index => ?_⟩
  rw [captured, get_captures]
  exact standsFor_spanText strip (first.derives.areWords said segment index)

/-- **Captured text re-enters matching unchanged.** If punctuation does not count, then:

* in every store that changes of the empty one lead to, every capture of a lookup of words of texts
  stands for the words that its token took;
* wherever a turn of a bot evaluates a template, at whatever depth, its captures are those of a
  lookup of that turn and stand for the words that it bound, and redirecting one of them looks up
  these words and no others. -/
theorem captures_reenter :
    (∀ {σ : Type} (changes : List (Change σ)) (start : σ) (scope : Scope)
      (input that topic : String),
      let store := ((Store.empty.performAll changes).run start).1.2
      let inputWords := normalizer.tokenize input
      let thatWords := normalizer.tokenize that
      let topicWords := normalizer.tokenize topic
      ∀ found, store.lookup scope inputWords thatWords topicWords = some found →
        ∃ pieces, store.IsFirst scope inputWords thatWords topicWords found.category pieces ∧
          ∀ segment index, normalizer.StandsFor (found.captures.get segment index)
            (capturedWords found.category.key pieces segment index)) ∧
    ∀ (setup : Setup) (calls : List Call) (input : String),
      setup.settings.normalizer = normalizer →
      let marks := (setup.build.1.receiveAll calls).chronicle input
      ∀ template context, .evaluates template context ∈ marks →
        ∃ sentence place found pieces,
          .looksUp sentence place ∈ marks ∧
          place.agent.lookup (normalizer.tokenize sentence) = some found ∧
          place.agent.repertoire.store.IsFirst place.agent.scope (normalizer.tokenize sentence)
            place.agent.thatWords place.agent.topicWords found.category pieces ∧
          let words := capturedWords found.category.key pieces
          (∀ segment index,
            normalizer.StandsFor (context.captures.get segment index) (words segment index)) ∧
          Template.redirectCapture.marks context = marksOfSpan (words .pattern 1) context ∧
          ∀ segment index, (Template.redirect (.capture segment index)).marks context =
            .evaluates (.capture segment index) context ::
              marksOfSpan (words segment index.toNat) context := by
  constructor
  · intro σ changes start scope input that topic store inputWords thatWords topicWords found
      outcome
    refine Store.exists_standsFor strip (Store.valid_performAll changes start) ?_ outcome
    intro segment
    cases segment <;> exact fun _ member => normalizer.isWord_of_mem_tokenize member
  · intro setup calls input normal marks template context member
    have supplied := Agent.supplied_chronicle (regular_receiveAll setup calls) input
    subst normal
    obtain ⟨regular, none | ⟨sentence, place, found, asked, outcome, same⟩⟩ :=
      supplied.evaluates member
    · exact none.elim
    obtain ⟨settings, _, layered⟩ := supplied.looksUp asked
    have said := place.agent.isWord_of_mem_select sentence
    have placed : place.agent.normalizer = setup.settings.normalizer :=
      congrArg Settings.normalizer settings
    rw [placed] at said
    obtain ⟨pieces, first, stands⟩ := Store.exists_standsFor strip layered.valid said outcome
    rw [← same] at stands
    have redirected : ∀ segment index,
        marksOfRedirect (context.captures.get segment index) context =
          marksOfSpan (capturedWords found.category.key pieces segment index) context :=
      fun segment index => (stands segment index).marksOfRedirect_eq
        (congrArg Settings.normalizer regular.settings)
    exact ⟨sentence, place, found, pieces, asked, outcome, first, stands, redirected .pattern 1,
      fun segment index => congrArg _ (redirected segment index.toNat)⟩

end StandsFor

/-- A word with a final sigma and two that were cleaned are taken, and read back with their keys. -/
theorem captures_reenter_sigma :
    let category : Category :=
      ⟨⟨[.word "repeat", .star], [.star], [.star]⟩, .redirectCapture, .loaded⟩
    let changes : List (Change Unit) := [.insert category]
    let store := ((Store.empty.performAll changes).run ()).1.2
    let scope : Scope := ⟨fun _ _ => false, fun _ _ => false, fun _ _ => false⟩
    let text := "ΟΔΟΣ its 314"
    let taken : List InputWord := [⟨"οδος", "ΟΔΟΣ"⟩, ⟨"its", "its"⟩, ⟨"314", "314"⟩]
    store.lookup scope (Normalizer.tokenize {} "Repeat: ΟΔΟΣ... it's 3.14!")
        (Normalizer.tokenize {} "yes") (Normalizer.tokenize {} "pets") =
      some ⟨category, ⟨[text], ["yes"], ["pets"]⟩⟩ ∧
    sentences text = [text] ∧ ∃ pieces, capturedWords category.key pieces .pattern 1 = taken := by
  intro category changes store scope text taken
  have words :
      Normalizer.tokenize {} "Repeat: ΟΔΟΣ... it's 3.14!" = ⟨"repeat", "Repeat"⟩ :: taken := by
    decide +kernel
  have read : Normalizer.tokenize {} text = taken := by decide +kernel
  have outcome : store.lookup scope (Normalizer.tokenize {} "Repeat: ΟΔΟΣ... it's 3.14!")
      (Normalizer.tokenize {} "yes") (Normalizer.tokenize {} "pets") =
        some ⟨category, ⟨[text], ["yes"], ["pets"]⟩⟩ := by
    rw [words]
    rfl
  obtain ⟨pieces, _, stands⟩ := (captures_reenter rfl).1 changes () scope
    "Repeat: ΟΔΟΣ... it's 3.14!" "yes" "pets" _ outcome
  have first : Normalizer.StandsFor {} text (capturedWords category.key pieces .pattern 1) :=
    stands .pattern 1
  refine ⟨outcome, first.sentences_eq (by decide), pieces, ?_⟩
  rw [← first.tokenize_eq_words, read]

end Dialogue
