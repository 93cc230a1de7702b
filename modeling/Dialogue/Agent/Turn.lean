/-
**Turns.**

A turn answers the sentences of an input one after the other. A sentence that no category matches
may be replaced once by what the classifier makes of it. The turn is kept in the history if it is
completed; one that is interrupted leaves no trace there.

* `Evaluation.answer`: the replies to some sentences, and the key of the last category that replied;
* `Agent.takeTurn`: a turn, the agent after it, and what happened.
-/

import Dialogue.Agent.Redirect

namespace Dialogue

namespace Evaluation

/-- Note a sentence of the input as being answered. -/
def recordInput (sentence : String) : Evaluation Unit :=
  change fun agent => { agent with history := agent.history.recordInput sentence }

/-- The reply to what the classifier makes of a sentence, if it makes anything of it. -/
def fallback (sentence : String) : Evaluation (Option Reply) := do
  match ← look Agent.classifier with
  | none => pure none
  | some classifier => do
    record (.consulted sentence)
    match classifier sentence with
    | none => pure none
    | some replacement => do
      note (.classified sentence replacement)
      respond replacement

/-- The reply to a sentence of the input. -/
def answerSentence (sentence : String) : Evaluation (Option Reply) := do
  recordInput sentence
  match ← respond sentence with
  | some reply => pure (some reply)
  | none => fallback sentence

/-- The replies to some sentences of the input, in order. -/
def answer : List String → Evaluation (List Reply)
  | [] => pure []
  | sentence :: sentences => do
    let reply ← answerSentence sentence
    let others ← answer sentences
    pure (reply.toList ++ others)

end Evaluation

/-- The response made of some replies. -/
def responseOf (replies : List Reply) : String :=
  Text.unwords ((replies.map fun reply => Text.collapse reply.text).filter fun text =>
    !text.isEmpty)

/-- The record of a turn with some replies. -/
def Turn.ofReplies (input : String) (sentences : List String) (replies : List Reply) : Turn where
  input := input
  inputSentences := sentences
  matched := replies.getLast?.map Reply.key
  response := responseOf replies
  sentences := Text.sentences (responseOf replies)

namespace Agent

/-- The answer to an input, the agent after it, and what happened, in order. -/
def takeTurn (agent : Agent) (input : String) :
    Except Interruption Turn × Agent × List Event :=
  let sentences := agent.inputSentences input
  let (result, after) := (Evaluation.answer sentences).runIn { agent := agent }
  match result with
  | .ok replies =>
    let turn := Turn.ofReplies input sentences replies
    (.ok turn, { after.agent with history := after.agent.history.append turn },
      after.journal.reverse)
  | .error interruption =>
    (.error interruption, { after.agent with history := after.agent.history.discardPending },
      (.notice (.turnAborted input interruption) :: after.journal).reverse)

/-- A turn that is completed becomes part of the history. -/
theorem takeTurn_of_ok {agent : Agent} {input : String} {replies : List Reply} {after : Context}
    (answered : (Evaluation.answer (agent.inputSentences input)).runIn { agent := agent } =
      (.ok replies, after)) :
    agent.takeTurn input =
      (.ok (Turn.ofReplies input (agent.inputSentences input) replies),
        { after.agent with
          history := after.agent.history.append
            (Turn.ofReplies input (agent.inputSentences input) replies) },
        after.journal.reverse) := by
  unfold takeTurn
  dsimp only
  rw [answered]

/-- A turn that is interrupted leaves no trace in the history. -/
theorem takeTurn_of_error {agent : Agent} {input : String} {interruption : Interruption}
    {after : Context}
    (interrupted : (Evaluation.answer (agent.inputSentences input)).runIn { agent := agent } =
      (.error interruption, after)) :
    agent.takeTurn input =
      (.error interruption,
        { after.agent with history := after.agent.history.discardPending },
        (.notice (.turnAborted input interruption) :: after.journal).reverse) := by
  unfold takeTurn
  dsimp only
  rw [interrupted]

/-- The agent with a predicate set from outside a turn, the value it had, and who is told. -/
def setPredicate (agent : Agent) (name value : String) : Agent × String × List Notification :=
  ({ agent with predicates := agent.predicates.set name value }, agent.predicates.previous name,
    agent.predicates.notifications name value)

/-- The agent with the category of a definition, if it has one, and what is noted. -/
def define (agent : Agent) (definition : Definition) : Bool × Agent × List Notice :=
  let remarks := definition.remarks agent.normalizer
  match definition.compile agent.normalizer .loaded with
  | .ok category => (true, agent.addCategory category, remarks)
  | .error fault => (false, agent, remarks ++ [.skippedCategory fault])

/-- The key under which the category of a definition would be stored, and what is noted. -/
def keyOf (agent : Agent) (definition : Definition) : Option Key × List Notice :=
  (match definition.compile agent.normalizer .loaded with
    | .ok category => some category.key
    | .error _ => none,
    definition.remarks agent.normalizer)

end Agent

end Dialogue
