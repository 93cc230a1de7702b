/-
**The input sentences of a conversation are one sequence.**

* `heardIn`: the sentences of the input that are noted in some marks. A sentence that is answered is
  noted first (`heardIn_marksOfSentence`), and nothing inside notes any (`heardIn_chronicle`);
* `WhileAnswering`: a moment at which a sentence of a turn is being answered;
  `WhileAnswering.inputSentences_eq`: the history then ends with the sentences up to that one;
* `receiveAll_inputSentences`: the sequence, during a turn and when it ends.
-/

import Dialogue.Proofs.Memory.Ledger

namespace Dialogue

open Evaluation

/-! ### What is heard in a turn -/

/-- The context in which a template is evaluated or a category is looked up. -/
def Mark.place? : Mark → Option Context
  | .evaluates _ context | .looksUp _ context => some context
  | .assigns .. | .repeats | .stops | .hears _ => none

/-- A mark that fits where things stand is made there. -/
theorem Mark.Fits.standing_eq {standing : Standing} {mark : Mark} {context : Context}
    (fits : mark.Fits standing) (here : mark.place? = some context) :
    context.standing = standing := by
  cases mark with
  | evaluates | looksUp =>
    cases here
    exact fits
  | assigns | repeats | stops | hears => cases here

def Mark.heard? : Mark → Option String
  | .hears sentence => some sentence
  | .evaluates .. | .looksUp .. | .assigns .. | .repeats | .stops => none

/-- **The sentences of the input that are noted in some marks**, in order. -/
def heardIn (marks : List Mark) : List String := marks.filterMap Mark.heard?

theorem heardIn_append (first second : List Mark) :
    heardIn (first ++ second) = heardIn first ++ heardIn second :=
  List.filterMap_append

/-- **The history after some marks** has the sentences that were noted in them at its end. -/
theorem Standing.inputSentences_foldl (standing : Standing) (marks : List Mark) :
    (marks.foldl Standing.follow standing).history.inputSentences =
      standing.history.inputSentences ++ heardIn marks := by
  induction marks generalizing standing with
  | nil => exact (List.append_nil _).symm
  | cons mark marks ih =>
    rw [List.foldl_cons, ih]
    cases mark with
    | hears sentence =>
      rw [follow, History.inputSentences_recordInput, List.append_assoc]
      rfl
    | evaluates | looksUp | assigns | repeats | stops => rfl

/-- **No template notes a sentence of the input.** -/
theorem heardIn_chronicle (place : Template × Context) : heardIn (chronicle place) = [] := by
  obtain ⟨template, context⟩ := place
  have followed := (accounts_chronicle template context).eq_foldl
  have noted := context.standing.inputSentences_foldl (chronicle (template, context))
  rw [← followed] at noted
  have same : (template.run.runIn context).2.standing.history = context.standing.history :=
    (advances_course.run template context).history
  rw [same] at noted
  exact List.self_eq_append_right.mp noted

theorem heardIn_expand (marks : List Mark) :
    heardIn (marks.flatMap (Mark.expand chronicle)) = heardIn marks := by
  induction marks with
  | nil => rfl
  | cons mark marks ih =>
    rw [List.flatMap_cons, heardIn_append, ih]
    cases mark with
    | evaluates template context =>
      rw [show heardIn (Mark.expand chronicle (.evaluates template context)) =
        heardIn (chronicle (template, context)) from rfl, heardIn_chronicle]
      rfl
    | looksUp | assigns | repeats | stops | hears => rfl

theorem heardIn_marksOfReply (sentence : String) (context : Context) :
    heardIn (marksOfReply sentence context) = [] := by
  unfold marksOfReply
  cases context.agent.lookup (context.agent.normalizer.tokenize sentence) <;> rfl

theorem heardIn_marksOfFallback (sentence : String) (context : Context) :
    heardIn (marksOfFallback sentence context) = [] := by
  unfold marksOfFallback
  split
  · rfl
  · exact heardIn_marksOfReply _ _

theorem heardIn_marksOfSentence (sentence : String) (context : Context) :
    heardIn (marksOfSentence sentence context) = [sentence] := by
  have replied := heardIn_marksOfReply sentence (context.heard sentence)
  refine congrArg (sentence :: ·) ?_
  refine (heardIn_append _ _).trans ?_
  rw [replied, List.nil_append]
  split
  · exact heardIn_marksOfFallback _ _
  · rfl

/-- An answer that is completed has noted all of its sentences. -/
theorem heardIn_marksOfAnswer {sentences : List String} {context after : Context}
    {replies : List Reply} (answered : (answer sentences).runIn context = (.ok replies, after)) :
    heardIn (marksOfAnswer sentences context) = sentences := by
  induction sentences generalizing context replies with
  | nil => rfl
  | cons sentence sentences ih =>
    rw [answer] at answered
    obtain ⟨reply, middle, first, answered⟩ := exists_of_runIn_bind answered
    obtain ⟨others, finish, later, returned⟩ := exists_of_runIn_bind answered
    cases returned
    rw [marksOfAnswer, heardIn_append, heardIn_marksOfSentence, first]
    exact congrArg (sentence :: ·) (ih later)

theorem History.inputSentences_append (history : History) (turn : Turn) :
    (history.append turn).inputSentences =
      history.turns.flatMap Turn.inputSentences ++ turn.inputSentences := by
  rw [inputSentences, turns_append, List.flatMap_append, List.flatMap_singleton]
  exact List.append_nil _

/-- Answering sentences puts them at the end of the history's. -/
theorem inputSentences_of_answer {sentences : List String} {context after : Context}
    {replies : List Reply} (answered : (answer sentences).runIn context = (.ok replies, after)) :
    after.agent.history.inputSentences =
      context.agent.history.inputSentences ++ sentences := by
  have followed := (accounts_marksOfAnswer sentences context).eq_foldl
  have noted := context.standing.inputSentences_foldl
    ((marksOfAnswer sentences context).flatMap (Mark.expand chronicle))
  rw [← followed, heardIn_expand, heardIn_marksOfAnswer answered, answered] at noted
  exact noted

/-! ### Where a turn stands -/

/-- Everything that happens while a sentence of the input is answered, in order. -/
def chronicleOfSentence (sentence : String) (context : Context) : List Mark :=
  (marksOfSentence sentence context).flatMap (Mark.expand chronicle)

/-- **A mark is made while one of some sentences is answered**, after the ones before it. -/
structure WhileAnswering (context : Context) (sentences earlier : List String) (sentence : String)
    (mark : Mark) : Prop where
  whole : ∃ later, sentences = earlier ++ sentence :: later
  made : ∃ replies start, (answer earlier).runIn context = (.ok replies, start) ∧
    mark ∈ chronicleOfSentence sentence start

/-- **Whatever happens in a turn happens while one of its sentences is answered.** -/
theorem exists_whileAnswering {sentences : List String} {context : Context} {mark : Mark}
    (made : mark ∈ (marksOfAnswer sentences context).flatMap (Mark.expand chronicle)) :
    ∃ earlier sentence, WhileAnswering context sentences earlier sentence mark := by
  induction sentences generalizing context with
  | nil => cases made
  | cons sentence sentences ih =>
    rw [marksOfAnswer, List.flatMap_append] at made
    rcases List.mem_append.mp made with here | later
    · exact ⟨[], sentence, ⟨sentences, rfl⟩, [], context, rfl, here⟩
    · cases answered : (answerSentence sentence).runIn context with
      | mk result after =>
      rw [answered] at later
      cases result with
      | error interruption => cases later
      | ok reply =>
        obtain ⟨earlier, other, ⟨rest, whole⟩, replies, start, reached, member⟩ := ih later
        refine ⟨sentence :: earlier, other, ⟨rest, congrArg _ whole⟩, reply.toList ++ replies,
          start, ?_, member⟩
        rw [answer, runIn_bind, answered]
        dsimp only
        rw [runIn_bind, reached]
        rfl

/-- **While a sentence is answered, it is the last one of the history's**, behind those that were
answered before it. -/
theorem WhileAnswering.inputSentences_eq {context place : Context}
    {sentences earlier : List String} {sentence : String} {mark : Mark}
    (answering : WhileAnswering context sentences earlier sentence mark)
    (here : mark.place? = some place) :
    place.agent.history.inputSentences =
      context.agent.history.inputSentences ++ earlier ++ [sentence] := by
  obtain ⟨_, replies, start, answered, made⟩ := answering
  obtain ⟨before, later, split⟩ := List.append_of_mem made
  have accounts := accounts_marksOfSentence sentence start
  rw [← chronicleOfSentence, split] at accounts
  have stands : place.standing = before.foldl Standing.follow start.standing :=
    accounts.fits.standing_eq here
  -- the sentence is noted before anything else happens, and no other one is noted
  have noted : heardIn before = [sentence] := by
    have all : heardIn before ++ heardIn (mark :: later) = [sentence] := by
      rw [← heardIn_append, ← split, chronicleOfSentence, heardIn_expand, heardIn_marksOfSentence]
    cases before with
    | nil =>
      have first : .hears sentence = mark := (List.cons.inj split).1
      rw [← first] at here
      cases here
    | cons first before =>
      have first_eq : .hears sentence = first := (List.cons.inj split).1
      rw [← first_eq] at all ⊢
      have nothing := (List.append_eq_nil_iff.mp (List.cons.inj all).2).1
      exact congrArg (sentence :: ·) nothing
  have sequence := start.standing.inputSentences_foldl before
  rw [← stands, noted] at sequence
  exact sequence.trans (congrArg (· ++ [sentence]) (inputSentences_of_answer answered))

/-! ### Where a turn ends -/

/-- **Completing a turn moves the sentences that were noted into its record**, and no sentence is
counted otherwise for that. -/
theorem Agent.inputSentences_of_completed {agent : Agent} {input : String} {turn : Turn}
    (settled : agent.history.pending = []) (completed : (agent.takeTurn input).1 = .ok turn) :
    turn.inputSentences = agent.inputSentences input ∧
      (agent.takeTurn input).2.1.history.inputSentences =
        ((answer (agent.inputSentences input)).runIn
          { agent := agent }).2.agent.history.inputSentences := by
  cases answered : (answer (agent.inputSentences input)).runIn { agent := agent } with
  | mk result after =>
  cases result with
  | error interruption =>
    rw [takeTurn_of_error answered] at completed
    cases completed
  | ok replies =>
    have kept := completed_answer agent input
    rw [answered] at kept
    have noted := inputSentences_of_answer answered
    rw [takeTurn_of_ok answered] at completed ⊢
    obtain rfl := Except.ok.inj completed
    refine ⟨rfl, (after.agent.history.inputSentences_append _).trans (Eq.trans ?_ noted.symm)⟩
    rw [History.turns, kept, History.inputSentences, settled]
    exact congrArg (· ++ _) (List.append_nil _).symm

/-- **The input sentences of a conversation are one sequence.**

They are counted back through the sentences of the completed turns, in order, and then those of the
turn in progress up to the one that is being answered: so it is wherever a turn stands while it
answers a sentence, be it in a template, in a redirection at any depth, in a pass of a condition or
in what the classifier makes of the sentence. The sentence that is being answered is therefore the
last one of all, and a template that asks for an input sentence gets it from there. Completing the
turn changes no count, since its record has the same sentences; interrupting it leaves none of
them. -/
theorem receiveAll_inputSentences (setup : Setup) (calls : List Call) :
    let agent := setup.build.1.receiveAll calls
    let recorded := (setup.build.1.completed calls).flatMap Turn.inputSentences
    (∀ back, agent.history.input (back + 1) = (recorded.reverse[back]?).getD "") ∧
    (∀ input, ∀ mark ∈ agent.chronicle input, ∃ earlier sentence,
      WhileAnswering { agent := agent } (agent.inputSentences input) earlier sentence mark) ∧
    (∀ input earlier sentence mark context,
      WhileAnswering { agent := agent } (agent.inputSentences input) earlier sentence mark →
        mark.place? = some context →
          (∀ back, context.agent.history.input (back + 1) =
            ((recorded ++ earlier ++ [sentence]).reverse[back]?).getD "") ∧
          context.agent.history.input 1 = sentence ∧
          ∀ index, (Template.input index).run.runIn context =
            (.ok (context.agent.history.input index.toNat), context)) ∧
    (∀ input turn, (agent.takeTurn input).1 = .ok turn →
      turn.inputSentences = agent.inputSentences input ∧
      ∀ index, (agent.takeTurn input).2.1.history.input index =
        ((answer (agent.inputSentences input)).runIn
          { agent := agent }).2.agent.history.input index) ∧
    ∀ input interruption, (agent.takeTurn input).1 = .error interruption →
      ∀ index, (agent.takeTurn input).2.1.history.input index = agent.history.input index := by
  intro agent recorded
  obtain ⟨turns, settled⟩ := setup.build.1.receiveAll_history calls rfl
  have sequence : agent.history.inputSentences = recorded := by
    rw [History.inputSentences, settled, turns]
    exact List.append_nil _
  refine ⟨fun back => ?_, fun input mark made => exists_whileAnswering made, ?_, ?_, ?_⟩
  · rw [History.input, sequence, nthBack]
  · intro input earlier sentence mark context answering here
    have known := answering.inputSentences_eq here
    rw [sequence] at known
    refine ⟨fun back => ?_, ?_, fun index => rfl⟩
    · rw [History.input, known, nthBack]
    · rw [History.input, known, nthBack, List.reverse_append]
      rfl
  · intro input turn completed
    obtain ⟨record, moved⟩ := Agent.inputSentences_of_completed settled completed
    refine ⟨record, fun index => ?_⟩
    rw [History.input, History.input, moved]
  · intro input interruption interrupted index
    rw [Agent.history_of_interrupted agent settled interrupted]

end Dialogue
