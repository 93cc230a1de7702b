/-
**The history is a ledger of the completed turns.**

* `Agent.completed`: the turns that some calls complete, in order;
* `Agent.receive_history`: a call adds the turn that it completes, and leaves nothing behind of one
  that is interrupted; `Agent.receiveAll_history`: so do calls in order;
* `History.that_last`, `topicAfter`: what a category is looked up with besides the sentence;
* `receiveAll_ledger`: the ledger, and that lookups go by it.
-/

import Dialogue.Agent.Call
import Dialogue.Proofs.Evaluation.Accounts

namespace Dialogue

open Evaluation

/-! ### What an evaluation makes of the history -/

theorem Standing.completed_foldl (standing : Standing) (marks : List Mark) :
    (marks.foldl Standing.follow standing).history.completed = standing.history.completed := by
  induction marks generalizing standing with
  | nil => rfl
  | cons mark marks ih =>
    rw [List.foldl_cons, ih]
    cases mark <;> rfl

/-- The turns of the history stay while a turn is answered. -/
theorem completed_answer (agent : Agent) (input : String) :
    ((answer (agent.inputSentences input)).runIn { agent := agent }).2.agent.history.completed =
      agent.history.completed := by
  have followed := (agent.accounts_chronicle input).eq_foldl
  have kept := ({ agent := agent } : Context).standing.completed_foldl (agent.chronicle input)
  rw [← followed] at kept
  exact kept

/-! ### Calls -/

namespace Agent

/-- The turn that a call completes. -/
def record? (agent : Agent) : Call → Option Turn
  | .turn input => (agent.takeTurn input).1.toOption
  | .define _ | .remove _ | .setPredicate _ _ | .subscribe _ | .unsubscribe _ => none

/-- **The turns that calls complete, in order.** -/
def completed (agent : Agent) : List Call → List Turn
  | [] => []
  | call :: calls => (agent.record? call).toList ++ (agent.receive call).completed calls

/-- **A call adds the turn that it completes to the history**, and leaves no input behind. -/
theorem receive_history (agent : Agent) (call : Call) (settled : agent.history.pending = []) :
    (agent.receive call).history =
      ⟨(agent.record? call).toList ++ agent.history.completed, []⟩ := by
  have same : agent.history = ⟨agent.history.completed, []⟩ := by rw [← settled]
  cases call with
  | turn input =>
    have kept := completed_answer agent input
    rw [receive, record?]
    cases answered : (answer (agent.inputSentences input)).runIn { agent := agent } with
    | mk result after =>
    rw [answered] at kept
    cases result with
    | ok replies =>
      rw [takeTurn_of_ok answered, ← kept]
      rfl
    | error interruption =>
      rw [takeTurn_of_error answered, ← kept]
      rfl
  | define definition =>
    rw [receive, define]
    cases definition.compile agent.normalizer .loaded <;> exact same
  | remove | setPredicate | subscribe | unsubscribe => exact same

/-- **Calls add the turns that they complete to the history.** -/
theorem receiveAll_history (agent : Agent) (calls : List Call)
    (settled : agent.history.pending = []) :
    (agent.receiveAll calls).history.turns = agent.history.turns ++ agent.completed calls ∧
      (agent.receiveAll calls).history.pending = [] := by
  induction calls generalizing agent with
  | nil => exact ⟨(List.append_nil _).symm, settled⟩
  | cons call calls ih =>
    have received := agent.receive_history call settled
    obtain ⟨turns, pending⟩ := ih (agent.receive call) (by rw [received])
    refine ⟨turns.trans ?_, pending⟩
    rw [received, completed, ← List.append_assoc, History.turns, History.turns,
      List.reverse_append]
    cases agent.record? call <;> rfl

/-- A turn that is interrupted leaves the history as it was. -/
theorem history_of_interrupted (agent : Agent) {input : String} {interruption : Interruption}
    (settled : agent.history.pending = [])
    (interrupted : (agent.takeTurn input).1 = .error interruption) :
    (agent.takeTurn input).2.1.history = agent.history := by
  have received := agent.receive_history (.turn input) settled
  rw [record?, interrupted] at received
  refine received.trans ?_
  rw [← settled]
  rfl

end Agent

/-! ### Lookups -/

/-- The last sentence that was said in some turns; empty if nothing was. -/
def lastSentence (turns : List Turn) : String :=
  (turns.getLast?.bind fun turn => turn.sentences.getLast?).getD ""

/-- Looking back one sentence and one turn finds the last sentence that was said. -/
theorem History.that_last (history : History) : history.that 1 1 = lastSentence history.turns := by
  have recent : history.recent? 1 = history.turns.getLast? := by
    rw [turns, List.getLast?_reverse, List.head?_eq_getElem?]
    rfl
  rw [that, recent, lastSentence]
  cases history.turns.getLast? with
  | none => rfl
  | some turn =>
    have last : turn.that 1 = (turn.sentences.getLast?).getD "" := by
      rw [Turn.that, nthBack, List.getLast?_eq_head?_reverse, List.head?_eq_getElem?]
    exact last

/-- **The topic after some marks**: the last value that it was given. -/
def topicAfter (topic : String) : List Mark → String
  | [] => topic
  | .assigns name value :: marks =>
    topicAfter (if Text.canonical "topic" = Text.canonical name then value else topic) marks
  | _ :: marks => topicAfter topic marks

theorem Standing.topic_foldl (standing : Standing) (marks : List Mark) :
    (marks.foldl Standing.follow standing).predicates.get "topic" =
      topicAfter (standing.predicates.get "topic") marks := by
  induction marks generalizing standing with
  | nil => rfl
  | cons mark marks ih =>
    rw [List.foldl_cons, ih]
    cases mark with
    | assigns name value =>
      rw [topicAfter]
      exact congrArg (topicAfter · marks) (Predicates.get_set _ _ _ _)
    | evaluates | looksUp | repeats | stops | hears => rfl

/-- **A lookup goes by the turns before and by the topic that was set last.** -/
theorem lookup_of_looksUp {agent : Agent} {input sentence : String} {context : Context}
    {before later : List Mark}
    (reached : agent.chronicle input = before ++ .looksUp sentence context :: later)
    (words : List InputWord) :
    context.agent.lookup words =
      context.agent.repertoire.store.lookup context.agent.scope words
        (agent.contextWords (lastSentence agent.history.turns))
        (agent.contextWords (topicAfter (agent.predicates.get "topic") before)) := by
  have accounts := agent.accounts_chronicle input
  rw [reached] at accounts
  let start : Standing := ({ agent := agent } : Context).standing
  have here : context.standing = before.foldl Standing.follow start := accounts.fits
  have settings : context.agent.settings = agent.settings :=
    (congrArg Standing.settings here).trans (start.settings_foldl before)
  have turns : context.agent.history.turns = agent.history.turns := congrArg List.reverse
    ((congrArg (fun standing => standing.history.completed) here).trans
      (start.completed_foldl before))
  have topic : context.agent.predicates.get "topic" =
      topicAfter (agent.predicates.get "topic") before :=
    (congrArg (fun standing => standing.predicates.get "topic") here).trans
      (start.topic_foldl before)
  have contextWords : ∀ text, context.agent.contextWords text = agent.contextWords text := by
    intro text
    rw [Agent.contextWords, Agent.contextWords, Agent.normalizer, Agent.normalizer, settings]
  rw [Agent.lookup, Agent.thatWords, Agent.topicWords, History.that_last, turns, topic,
    contextWords, contextWords]

/-- **The history is a ledger of the completed turns.**

After any calls, the history has the turns that were completed, in order, and no input of a turn in
progress; a turn that is interrupted leaves the history as it was. No template changes the history.
So whatever category is looked up during a turn, be it for a sentence of the input, for what the
classifier makes of one or for a redirected query, is looked up with the last sentence that was said
before the turn and with the topic that was set last; what stands for a missing context takes the
place of either if it has no words. -/
theorem receiveAll_ledger (setup : Setup) (calls : List Call) :
    (setup.build.1.receiveAll calls).history.turns = setup.build.1.completed calls ∧
    (setup.build.1.receiveAll calls).history.pending = [] ∧
    (∀ input interruption,
      ((setup.build.1.receiveAll calls).takeTurn input).1 = .error interruption →
        ((setup.build.1.receiveAll calls).takeTurn input).2.1.history =
          (setup.build.1.receiveAll calls).history) ∧
    (∀ (template : Template) (context : Context),
      (template.run.runIn context).2.agent.history = context.agent.history) ∧
    ∀ input sentence context before later,
      (setup.build.1.receiveAll calls).chronicle input =
          before ++ .looksUp sentence context :: later →
        ∀ words, context.agent.lookup words =
          context.agent.repertoire.store.lookup context.agent.scope words
            ((setup.build.1.receiveAll calls).contextWords
              (lastSentence (setup.build.1.completed calls)))
            ((setup.build.1.receiveAll calls).contextWords
              (topicAfter ((setup.build.1.receiveAll calls).predicates.get "topic") before)) := by
  obtain ⟨turns, settled⟩ := setup.build.1.receiveAll_history calls rfl
  refine ⟨turns, settled, ?_, ?_, ?_⟩
  · intro input interruption interrupted
    exact Agent.history_of_interrupted _ settled interrupted
  · intro template context
    exact (advances_course.run template context).history
  · intro input sentence context before later reached words
    have looked := lookup_of_looksUp reached words
    rw [turns] at looked
    exact looked

end Dialogue
