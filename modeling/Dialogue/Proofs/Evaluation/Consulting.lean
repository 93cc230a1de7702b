/-
**What the classifier decides.**

The classifier is asked about a sentence of the input if no category answers it when its turn
comes, and about nothing else: not about what a category redirects to, and not about the text that
it put in the place of a sentence. So a turn is the same with two classifiers that agree on these
sentences.

* `missed`, `Agent.missed`: the sentences that no category answers when their turn comes;
* `asksNothing_respond`: no reply asks the classifier anything, however deep it redirects;
* `questions_answer`: so what is asked about is what is missed, in order;
* `Beside`: two contexts that differ in the classifier, and in what it was asked;
* `Beside.respond`, `Beside.answerSentence`, `Beside.answer`: they stay so, sentence by sentence;
* `Agent.takeTurn_consulting`: what follows for turns.
-/

import Dialogue.Proofs.Evaluation.Accounts
import Dialogue.Proofs.Evaluation.Isolation

namespace Dialogue

open Evaluation

variable {α β : Type}

/-! ### Asking the classifier -/

/-- What a sentence is to be replaced by, if anything. -/
def consult (classifier : Option Classifier) (sentence : String) : Option String :=
  classifier.bind fun classifier => classifier sentence

/-- The sentence that the classifier was asked about. -/
def Event.question? : Event → Option String
  | .consulted sentence => some sentence
  | .notice _ | .notified _ => none

/-- **What the classifier was asked about**, in the order of the events. -/
def questions (events : List Event) : List String := events.filterMap Event.question?

/-- The events but for the questions to the classifier. -/
def besidesQuestions (events : List Event) : List Event :=
  events.filter fun event => event.question?.isNone

theorem questions_append (first second : List Event) :
    questions (first ++ second) = questions first ++ questions second :=
  List.filterMap_append

/-- Events that are no questions add none. -/
theorem questions_append_of_silent {events : List Event}
    (silent : ∀ event ∈ events, event.question? = none) (past : List Event) :
    questions (events ++ past) = questions past := by
  rw [questions_append, questions, List.filterMap_eq_nil_iff.mpr silent, List.nil_append]

theorem questions_noted (notices : List Notice) (past : List Event) :
    questions ((notices.map Event.notice).reverse ++ past) = questions past := by
  refine questions_append_of_silent (fun event member => ?_) past
  obtain ⟨notice, _, rfl⟩ := List.mem_map.mp (List.mem_reverse.mp member)
  rfl

/-! ### Sentences that are missed -/

/-- Whether a category answers a sentence now. -/
def Agent.answers (agent : Agent) (sentence : String) : Bool :=
  (agent.lookup (agent.normalizer.tokenize sentence)).isSome

/-- A sentence, if no category answers it now. -/
def Agent.missIn (agent : Agent) (sentence : String) : List String :=
  if agent.answers sentence then [] else [sentence]

/-- **The sentences that no category answers when their turn comes**, if some sentences of an input
are answered in order. An interruption keeps the turn of the later ones from coming. -/
def missed : List String → Context → List String
  | [], _ => []
  | sentence :: sentences, context =>
    (context.heard sentence).agent.missIn sentence ++
      match (answerSentence sentence).runIn context with
      | (.ok _, after) => missed sentences after
      | (.error _, _) => []

/-- **The sentences of an input that no category answers when their turn comes.** -/
def Agent.missed (agent : Agent) (input : String) : List String :=
  Dialogue.missed (agent.inputSentences input) { agent := agent }

namespace Context

/-- The context after a sentence was missed. -/
def unmatched (context : Context) (sentence : String) : Context :=
  { context with journal := .notice (.unmatched sentence) :: context.journal }

/-- The context after the classifier, if there is one, was asked about a sentence. -/
def asked (context : Context) (sentence : String) : Context :=
  { context with journal :=
    (context.agent.classifier.map fun _ => Event.consulted sentence).toList ++ context.journal }

end Context

section Sentence

variable {sentence : String} {context : Context}

theorem runIn_fallback :
    (fallback sentence).runIn context =
      match consult context.agent.classifier sentence with
      | none => (.ok none, context.asked sentence)
      | some replacement =>
        (respond replacement).runIn (context.classified sentence replacement) := by
  unfold fallback consult Context.asked
  rw [runIn_look_bind]
  cases context.agent.classifier with
  | none => rfl
  | some classifier =>
    dsimp only [Option.bind_some]
    rw [runIn_record_bind]
    cases classifier sentence with
    | none => rfl
    | some replacement => rfl

/-- A sentence that a category answers is answered by it. -/
theorem runIn_answerSentence_of_answers
    (answered : (context.heard sentence).agent.answers sentence = true) :
    (answerSentence sentence).runIn context =
      (respond sentence).runIn (context.heard sentence) := by
  obtain ⟨found, matched⟩ := Option.isSome_iff_exists.mp answered
  rw [answerSentence, runIn_recordInput_bind, runIn_bind, runIn_respond_of_some matched]
  generalize found.category.template.run.runIn _ = outcome
  obtain ⟨result, after⟩ := outcome
  cases result <;> rfl

/-- A sentence that is missed is left to the classifier. -/
theorem runIn_answerSentence_of_misses
    (misses : (context.heard sentence).agent.answers sentence = false) :
    (answerSentence sentence).runIn context =
      (fallback sentence).runIn ((context.heard sentence).unmatched sentence) := by
  have nothing := Option.isNone_iff_eq_none.mp (Option.isSome_eq_false_iff.mp misses)
  rw [answerSentence, runIn_recordInput_bind, runIn_bind, runIn_respond_of_none nothing]
  rfl

end Sentence

/-! ### Replies ask nothing -/

/-- A step that asks the classifier nothing. -/
def AsksNothing (action : Evaluation α) : Prop :=
  Keeps (fun context => questions context.journal) action

theorem asksNothing_setPredicate (name value : String) : AsksNothing (setPredicate name value) := by
  intro context
  dsimp only
  rw [runIn_setPredicate]
  refine questions_append_of_silent (fun event member => ?_) _
  obtain ⟨notification, _, rfl⟩ := List.mem_map.mp (List.mem_reverse.mp member)
  rfl

theorem asksNothing_draw (choices : Nat) : AsksNothing (draw choices) := by
  intro context
  dsimp only
  rw [runIn_draw]

theorem asksNothing_learn (definition : Definition) : AsksNothing (learn definition) := by
  intro context
  dsimp only
  cases compiled : definition.compile context.agent.normalizer .learned with
  | ok category =>
    rw [runIn_learn_of_ok compiled]
    exact questions_noted _ _
  | error fault =>
    rw [runIn_learn_of_error compiled]
    exact questions_noted _ _

theorem asksNothing_unlearn : AsksNothing unlearn := by
  intro context
  dsimp only
  rw [runIn_unlearn]
  exact questions_noted _ _

theorem asksNothing_exceedLoops : AsksNothing (exceedLoops : Evaluation α) := by
  intro context
  dsimp only
  rw [runIn_exceedLoops]
  rfl

theorem asksNothing_countLoop : AsksNothing countLoop := by
  intro context
  dsimp only
  rw [runIn_countLoop]
  split
  · exact asksNothing_exceedLoops _
  · rfl

theorem asksNothing_exceedRedirects (query : String) :
    AsksNothing (exceedRedirects query : Evaluation α) := by
  intro context
  dsimp only
  rw [runIn_exceedRedirects]
  rfl

theorem rerunning_asksNothing : Rerunning fun _ first _ => AsksNothing first where
  pure := keeps_pure
  bind first next := first.bind next
  look _ := keeps_look _
  captures _ := rfl
  askAgain _ := rfl
  note _ _ := rfl
  setPredicate := asksNothing_setPredicate
  draw := asksNothing_draw
  learn := asksNothing_learn
  unlearn := asksNothing_unlearn
  underCondition body context := body { context with looping := false }
  countLoop := asksNothing_countLoop
  exceedLoops := asksNothing_exceedLoops
  loopsLeft _ := rfl

theorem redirecting_asksNothing : Redirecting fun _ first _ => AsksNothing first where
  toCongruence := rerunning_asksNothing.congruence
  inCategory captures body context := body { context with captures := captures, looping := false }
  deeper body context := body { context with depth := context.depth + 1 }
  noteRedirected _ _ := rfl
  exceedRedirects := asksNothing_exceedRedirects

/-- **A reply asks the classifier nothing**, whatever it redirects to and is missed there. -/
theorem asksNothing_respond (sentence : String) : AsksNothing (respond sentence) :=
  redirecting_asksNothing.respond (fun _ => rfl) sentence

/-! ### The same context with another classifier -/

/-- The agent with another classifier. -/
def Agent.withClassifier (agent : Agent) (classifier : Option Classifier) : Agent :=
  { agent with classifier := classifier }

def Context.withClassifier (classifier : Option Classifier) (context : Context) : Context :=
  { context with agent := context.agent.withClassifier classifier }

/-- **Replies do not notice the classifier.** -/
theorem transport_withClassifier (classifier : Option Classifier) :
    Transport (Context.withClassifier classifier) where
  view blind context := blind context.agent context.agent.settings.maxRedirects
    context.agent.settings.maxLoops classifier
  settings _ := rfl
  captures _ := rfl
  depth _ := rfl
  loops _ := rfl
  looping _ := rfl
  withCaptures _ _ := rfl
  withDepth _ _ := rfl
  withLoops _ _ := rfl
  withLooping _ _ := rfl
  record _ _ := rfl
  withPredicates _ _ := rfl
  withDraws _ _ := rfl
  withRepertoire _ _ := rfl

theorem runIn_respond_withClassifier (sentence : String) (classifier : Option Classifier)
    (context : Context) :
    (respond sentence).runIn (context.withClassifier classifier) =
      (((respond sentence).runIn context).1,
        ((respond sentence).runIn context).2.withClassifier classifier) := by
  have commutes : CommutesWith (Context.withClassifier classifier) (Option Reply)
      (respond sentence) (respond sentence) :=
    (transport_withClassifier classifier).respond sentence
  exact commutes context

/-- **A reply keeps the classifier**: it does not notice when its own one is put in. -/
theorem classifier_respond (sentence : String) (context : Context) :
    ((respond sentence).runIn context).2.agent.classifier = context.agent.classifier := by
  have same := runIn_respond_withClassifier sentence context.agent.classifier context
  exact congrArg (fun outcome => outcome.2.agent.classifier) same

/-! ### What is asked in a turn -/

theorem classifier_answerSentence (sentence : String) (context : Context) :
    ((answerSentence sentence).runIn context).2.agent.classifier = context.agent.classifier := by
  cases answered : (context.heard sentence).agent.answers sentence with
  | true =>
    rw [runIn_answerSentence_of_answers answered]
    exact classifier_respond sentence (context.heard sentence)
  | false =>
    rw [runIn_answerSentence_of_misses answered, runIn_fallback]
    split
    · rfl
    · exact classifier_respond _ _

/-- **A sentence is asked about if it is missed**, and its replacement is not. -/
theorem questions_answerSentence (sentence : String) (context : Context) :
    questions ((answerSentence sentence).runIn context).2.journal =
      (if context.agent.classifier.isSome then (context.heard sentence).agent.missIn sentence
        else []) ++ questions context.journal := by
  unfold Agent.missIn
  cases answered : (context.heard sentence).agent.answers sentence with
  | true =>
    rw [runIn_answerSentence_of_answers answered]
    refine (asksNothing_respond sentence (context.heard sentence)).trans ?_
    split <;> rfl
  | false =>
    have unchanged : ((context.heard sentence).unmatched sentence).agent.classifier =
      context.agent.classifier := rfl
    rw [runIn_answerSentence_of_misses answered, runIn_fallback, unchanged]
    cases classifier : context.agent.classifier with
    | none =>
      dsimp only [consult, Option.bind_none]
      rw [Context.asked, unchanged, classifier]
      rfl
    | some classify =>
      dsimp only [consult, Option.bind_some]
      cases classify sentence with
      | none =>
        dsimp only
        rw [Context.asked, unchanged, classifier]
        rfl
      | some replacement => exact asksNothing_respond _ _

/-- **What is asked about is what is missed**, if there is a classifier. The journal has the latest
first. -/
theorem questions_answer (sentences : List String) (context : Context) :
    questions ((answer sentences).runIn context).2.journal =
      (if context.agent.classifier.isSome then (missed sentences context).reverse else []) ++
        questions context.journal := by
  induction sentences generalizing context with
  | nil => cases context.agent.classifier.isSome <;> rfl
  | cons sentence sentences ih =>
    have first := questions_answerSentence sentence context
    have kept := classifier_answerSentence sentence context
    have single : ((context.heard sentence).agent.missIn sentence).reverse =
        (context.heard sentence).agent.missIn sentence := by
      unfold Agent.missIn
      split <;> rfl
    rw [answer, runIn_bind, missed, List.reverse_append, single]
    generalize (answerSentence sentence).runIn context = outcome at first kept ⊢
    obtain ⟨result, after⟩ := outcome
    cases result with
    | error interruption => exact first
    | ok reply =>
      have others := ih after
      rw [kept, first] at others
      dsimp only
      refine (view_bind (fun context => questions context.journal)
        (fun _ => keeps_pure _) after).trans (others.trans ?_)
      cases context.agent.classifier.isSome with
      | false => rfl
      | true => exact (List.append_assoc _ _ _).symm

/-! ### Two classifiers -/

/-- **A context beside another one**, in which everything is the same but for the classifier and
what it was asked. -/
structure Beside (one other : Option Classifier) (first second : Context) : Prop where
  own : first.agent.classifier = one
  eq : second = { first.withClassifier other with journal := second.journal }
  besides : besidesQuestions second.journal = besidesQuestions first.journal

/-- Two outcomes with one result, and contexts beside each other. -/
structure EndsBeside (one other : Option Classifier)
    (first second : Except Interruption α × Context) : Prop where
  result : second.1 = first.1
  context : Beside one other first.2 second.2

namespace Beside

variable {one other : Option Classifier} {first second : Context}

/-- Steps that end beside each other, and are followed by steps that do. -/
theorem bind {action : Evaluation α} {next : α → Evaluation β}
    (ends : EndsBeside one other (action.runIn first) (action.runIn second))
    (rest : ∀ value after left, action.runIn first = (.ok value, after) →
      Beside one other after left →
        EndsBeside one other ((next value).runIn after) ((next value).runIn left)) :
    EndsBeside one other ((action >>= next).runIn first) ((action >>= next).runIn second) := by
  rw [runIn_bind, runIn_bind]
  generalize ran : action.runIn first = outcome at ends rest ⊢
  generalize action.runIn second = otherOutcome at ends ⊢
  obtain ⟨result, after⟩ := outcome
  obtain ⟨otherResult, left⟩ := otherOutcome
  obtain ⟨rfl, beside⟩ := ends
  cases otherResult with
  | error interruption => exact ⟨rfl, beside⟩
  | ok value => exact rest value after left rfl beside

variable (beside : Beside one other first second)

include beside

/-- The same event happens in both. -/
theorem record (event : Event) :
    Beside one other { first with journal := event :: first.journal }
      { second with journal := event :: second.journal } where
  own := beside.own
  eq := by rw [beside.eq]; rfl
  besides := by
    have past := beside.besides
    unfold besidesQuestions at past ⊢
    rw [List.filter_cons, List.filter_cons, past]

/-- **A reply is the same beside.** It does not notice the classifier, and depends neither on what
has happened. -/
theorem respond (sentence : String) :
    EndsBeside one other ((respond sentence).runIn first) ((respond sentence).runIn second) := by
  obtain ⟨result, agent, loops, events, replies⟩ :=
    runIn_respond sentence (first.withClassifier other)
  have moved := runIn_respond_withClassifier sentence other first
  rw [replies (first.withClassifier other) rfl rfl rfl] at moved
  obtain ⟨rfl, after⟩ := Prod.mk.inj moved
  have ran := replies second (by rw [beside.eq]) (by rw [beside.eq]) (by rw [beside.eq])
  have journal : ((Evaluation.respond sentence).runIn first).2.journal = events ++ first.journal :=
    (congrArg Context.journal after).symm
  rw [ran]
  refine ⟨rfl, (classifier_respond sentence first).trans beside.own, ?_, ?_⟩
  · dsimp only
    rw [← after, beside.eq]
  · dsimp only
    rw [journal, besidesQuestions, besidesQuestions, List.filter_append, List.filter_append]
    exact congrArg _ beside.besides

theorem heard (sentence : String) :
    Beside one other (first.heard sentence) (second.heard sentence) where
  own := beside.own
  eq := by rw [beside.eq]; rfl
  besides := beside.besides

theorem asked (sentence : String) :
    Beside one other (first.asked sentence) (second.asked sentence) where
  own := beside.own
  eq := by rw [beside.eq]; rfl
  besides := by
    have silent : ∀ (classifier : Option Classifier) (past : List Event),
        besidesQuestions ((classifier.map fun _ => Event.consulted sentence).toList ++ past) =
          besidesQuestions past := by
      intro classifier past
      cases classifier <;> rfl
    exact (silent _ _).trans (beside.besides.trans (silent _ _).symm)

/-- What happens when a missed sentence is replaced by the same text. -/
theorem classified (sentence replacement : String) :
    Beside one other (first.classified sentence replacement)
      (second.classified sentence replacement) :=
  (beside.record (.consulted sentence)).record (.notice (.classified sentence replacement))

/-- A sentence is answered by a category in both contexts or in none. -/
theorem missIn (sentence : String) :
    second.agent.missIn sentence = first.agent.missIn sentence := by
  rw [beside.eq]
  rfl

/-- **A missed sentence for which the classifiers have the same replacement.** -/
theorem fallback {sentence : String} (agree : consult one sentence = consult other sentence) :
    EndsBeside one other ((fallback sentence).runIn first) ((fallback sentence).runIn second) := by
  have otherOwn : second.agent.classifier = other := by
    rw [beside.eq]
    rfl
  rw [runIn_fallback, runIn_fallback, beside.own, otherOwn, ← agree]
  cases consult one sentence with
  | none => exact ⟨rfl, beside.asked sentence⟩
  | some replacement => exact (beside.classified sentence replacement).respond replacement

/-- **A sentence is answered the same**, if the classifiers agree on it should it be missed. -/
theorem answerSentence {sentence : String}
    (agree : sentence ∈ (first.heard sentence).agent.missIn sentence →
      consult one sentence = consult other sentence) :
    EndsBeside one other ((answerSentence sentence).runIn first)
      ((answerSentence sentence).runIn second) := by
  have heard := beside.heard sentence
  have alike : (second.heard sentence).agent.answers sentence =
      (first.heard sentence).agent.answers sentence := by
    rw [heard.eq]
    rfl
  cases answered : (first.heard sentence).agent.answers sentence with
  | true =>
    rw [answered] at alike
    rw [runIn_answerSentence_of_answers answered, runIn_answerSentence_of_answers alike]
    exact heard.respond sentence
  | false =>
    rw [answered] at alike
    rw [runIn_answerSentence_of_misses answered, runIn_answerSentence_of_misses alike]
    refine (heard.record (.notice (.unmatched sentence))).fallback (agree ?_)
    rw [Agent.missIn, answered]
    exact List.mem_cons_self

/-- **Sentences are answered the same**, if the classifiers agree on those that are missed. These
are the same then. -/
theorem answer {sentences : List String}
    (agree : ∀ sentence ∈ missed sentences first,
      consult one sentence = consult other sentence) :
    EndsBeside one other ((answer sentences).runIn first) ((answer sentences).runIn second) ∧
      missed sentences second = missed sentences first := by
  induction sentences generalizing first second with
  | nil => exact ⟨⟨rfl, beside⟩, rfl⟩
  | cons sentence sentences ih =>
    rw [missed] at agree
    have same := beside.answerSentence fun member => agree sentence (List.mem_append_left _ member)
    have later : ∀ reply after left, (Evaluation.answerSentence sentence).runIn first =
        (.ok reply, after) → Beside one other after left →
          EndsBeside one other ((Evaluation.answer sentences).runIn after)
            ((Evaluation.answer sentences).runIn left) ∧
          missed sentences left = missed sentences after := by
      intro reply after left ran beside
      refine ih beside fun other member => agree other (List.mem_append_right _ ?_)
      rw [ran]
      exact member
    refine ⟨?_, ?_⟩
    · refine Beside.bind same fun reply after left ran beside => ?_
      refine Beside.bind (later reply after left ran beside).1 fun others after left _ beside => ?_
      exact ⟨rfl, beside⟩
    · rw [missed, missed, (beside.heard sentence).missIn]
      generalize ran : (Evaluation.answerSentence sentence).runIn first = outcome at same later
      generalize (Evaluation.answerSentence sentence).runIn second = otherOutcome at same
      obtain ⟨result, after⟩ := outcome
      obtain ⟨otherResult, left⟩ := otherOutcome
      obtain ⟨rfl, beside⟩ := same
      cases otherResult with
      | error interruption => rfl
      | ok reply => exact congrArg _ (later reply after left rfl beside).2

end Beside

/-! ### Turns -/

/-- **Two turns are the same**, but for the classifier of the agent and what it was asked. -/
structure SameTurn (other : Option Classifier)
    (first second : Except Interruption Turn × Agent × List Event) : Prop where
  result : second.1 = first.1
  agent : second.2.1 = first.2.1.withClassifier other
  events : besidesQuestions second.2.2 = besidesQuestions first.2.2

theorem besidesQuestions_reverse (events : List Event) :
    besidesQuestions events.reverse = (besidesQuestions events).reverse :=
  List.filter_reverse

theorem Agent.beside_withClassifier (agent : Agent) (other : Option Classifier) :
    Beside agent.classifier other { agent := agent } { agent := agent.withClassifier other } :=
  ⟨rfl, rfl, rfl⟩

theorem Agent.questions_takeTurn (agent : Agent) (input : String) :
    questions (agent.takeTurn input).2.2 =
      if agent.classifier.isSome then agent.missed input else [] := by
  have asked := questions_answer (agent.inputSentences input) { agent := agent }
  cases answered : (answer (agent.inputSentences input)).runIn { agent := agent } with
  | mk result after =>
  rw [answered] at asked
  have journal : questions after.journal.reverse =
      if agent.classifier.isSome then agent.missed input else [] := by
    rw [questions, List.filterMap_reverse, ← questions, asked]
    cases classifier : agent.classifier.isSome with
    | false => rfl
    | true => simp [questions, Agent.missed]
  cases result with
  | ok replies => rw [takeTurn_of_ok answered, journal]
  | error interruption =>
    rw [takeTurn_of_error answered, List.reverse_cons, questions_append, journal]
    exact List.append_nil _

theorem Agent.sameTurn_of_agree {agent : Agent} {other : Option Classifier} {input : String}
    (agree : ∀ sentence ∈ agent.missed input,
      consult agent.classifier sentence = consult other sentence) :
    SameTurn other (agent.takeTurn input) ((agent.withClassifier other).takeTurn input) ∧
      (agent.withClassifier other).missed input = agent.missed input := by
  obtain ⟨ends, same⟩ := (agent.beside_withClassifier other).answer agree
  refine ⟨?_, same⟩
  cases answered : (answer (agent.inputSentences input)).runIn { agent := agent } with
  | mk result after =>
  cases otherAnswered : (answer (agent.inputSentences input)).runIn
      { agent := agent.withClassifier other } with
  | mk otherResult left =>
  rw [answered, otherAnswered] at ends
  obtain ⟨rfl, beside⟩ := ends
  have agents : left.agent = after.agent.withClassifier other := congrArg Context.agent beside.eq
  cases otherResult with
  | ok replies =>
    rw [takeTurn_of_ok answered, takeTurn_of_ok otherAnswered, agents]
    refine ⟨rfl, rfl, ?_⟩
    rw [besidesQuestions_reverse, besidesQuestions_reverse, beside.besides]
  | error interruption =>
    rw [takeTurn_of_error answered, takeTurn_of_error otherAnswered, agents]
    refine ⟨rfl, rfl, ?_⟩
    rw [besidesQuestions_reverse, besidesQuestions_reverse]
    exact congrArg (fun events => (Event.notice _ :: events).reverse) beside.besides

/-- **The classifier decides what becomes of missed sentences, and nothing else.**

* A turn asks the classifier, if there is one, about the sentences of the input that no category
  answers when their turn comes, in order, and about nothing else. So it is asked neither about a
  query that is redirected to nor about the text that it put in the place of a sentence.
* Let two agents differ in the classifier alone. If the classifiers have the same replacement, or
  none, for each of these sentences, then the turns come to the same record or the same
  interruption, leave the same agent but for the classifier, and the same is noted and told, but for
  the questions.
* If no sentence is missed, that is so for any two classifiers. -/
theorem Agent.takeTurn_consulting :
    (∀ (agent : Agent) (input : String),
      questions (agent.takeTurn input).2.2 =
        if agent.classifier.isSome then agent.missed input else []) ∧
    (∀ (agent : Agent) (other : Option Classifier) (input : String),
      (∀ sentence ∈ agent.missed input,
        consult agent.classifier sentence = consult other sentence) →
          SameTurn other (agent.takeTurn input) ((agent.withClassifier other).takeTurn input) ∧
            (agent.withClassifier other).missed input = agent.missed input) ∧
    ∀ (agent : Agent) (input : String), agent.missed input = [] →
      ∀ other, SameTurn other (agent.takeTurn input)
        ((agent.withClassifier other).takeTurn input) := by
  refine ⟨Agent.questions_takeTurn, fun agent other input => Agent.sameTurn_of_agree,
    fun agent input answered other => ?_⟩
  refine (Agent.sameTurn_of_agree fun sentence member => ?_).1
  rw [answered] at member
  cases member

/-- Two classifiers agree on a sentence that is missed, and on one whose replacement is missed once
more, but not on what is missed behind a redirection. Without a missed sentence, none is as good. -/
theorem Agent.takeTurn_consulting_redirected :
    let setup : Setup := { generator := fun _ => .first, definitions :=
      [⟨"hi", none, none, .text "Hello."⟩, ⟨"go", none, none, .redirect (.text "nowhere")⟩] }
    let replacements : Table String String := [("What", "go"), ("Why", "because")]
    let one : Classifier := (replacements ++ [("nowhere", "hi"), ("because", "hi")]).get?
    let other : Classifier := replacements.get?
    let agent := setup.build.1.withClassifier (some one)
    agent.missed "What. Go. Why. Hi" = ["What", "Why"] ∧
    (∀ sentence ∈ agent.missed "What. Go. Why. Hi",
      consult agent.classifier sentence = consult (some other) sentence) ∧
    consult agent.classifier "nowhere" ≠ consult (some other) "nowhere" ∧
    consult agent.classifier "because" ≠ consult (some other) "because" ∧
    questions (agent.takeTurn "What. Go. Why. Hi").2.2 = ["What", "Why"] ∧
    SameTurn (some other) (agent.takeTurn "What. Go. Why. Hi")
      ((agent.withClassifier (some other)).takeTurn "What. Go. Why. Hi") ∧
    agent.missed "Go. Hi" = [] ∧
    SameTurn none (agent.takeTurn "Go. Hi") ((agent.withClassifier none).takeTurn "Go. Hi") := by
  intro setup replacements one other agent
  have missed : agent.missed "What. Go. Why. Hi" = ["What", "Why"] := by decide +kernel
  have agree : ∀ sentence ∈ agent.missed "What. Go. Why. Hi",
      consult agent.classifier sentence = consult (some other) sentence := by
    rw [missed]
    decide
  have answered : agent.missed "Go. Hi" = [] := by decide +kernel
  obtain ⟨asked, same, any⟩ := Agent.takeTurn_consulting
  refine ⟨missed, agree, by decide, by decide, ?_, (same agent (some other) _ agree).1, answered,
    any agent "Go. Hi" answered none⟩
  rw [asked, missed]
  rfl

end Dialogue
