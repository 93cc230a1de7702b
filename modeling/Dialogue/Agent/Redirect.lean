/-
**Answering queries.**

* `respondOver`: a sentence is matched and the template of the category is evaluated, over a step
  that answers redirected queries;
* `redirectWithin`: a query is answered sentence by sentence, with a number of nested redirections
  left; it fails at once with none left. The recursion is on that number;
* `redirect`, `respond`, `Template.run`: the same with as many redirections as the context has left.
-/

import Dialogue.Agent.Evaluate

namespace Dialogue

/-- What a category answers. -/
structure Reply where
  text : String
  key : Key
deriving DecidableEq, Repr

namespace Evaluation

variable {α : Type}

/-- The reply to a sentence, over a step that answers redirected queries; none if no category
matches. -/
def respondOver (redirect : String → Evaluation String) (sentence : String) :
    Evaluation (Option Reply) := do
  match ← look fun agent => agent.lookup (agent.normalizer.tokenize sentence) with
  | none => do
    note (.unmatched sentence)
    pure none
  | some found => do
    note (.matched sentence found.category.key)
    let text ← inCategory found.captures (found.category.template.evaluate redirect)
    pure (some ⟨text, found.category.key⟩)

/-- The trimmed replies to some sentences, in order, without the empty ones. -/
def replies (respond : String → Evaluation (Option Reply)) :
    List String → Evaluation (List String)
  | [] => pure []
  | sentence :: sentences => do
    let reply ← respond sentence
    let others ← replies respond sentences
    match reply.map fun reply => Text.trim reply.text with
    | none => pure others
    | some text => pure (if text.isEmpty then others else text :: others)

/-- End the turn because redirections are nested too deep. -/
def exceedRedirects (query : String) : Evaluation α := do
  let limit ← look fun agent => agent.settings.maxRedirects
  note (.redirectLimitReached limit query)
  throw (.redirectLimit limit)

/-- Note a redirection at its depth. -/
def noteRedirected (query : String) : Evaluation Unit := do
  note (.redirected (← get).depth query)

/-- The answer to a query with a number of nested redirections left. -/
def redirectWithin : Nat → String → Evaluation String
  | 0, query => exceedRedirects query
  | left + 1, query => deeper do
    noteRedirected query
    let texts ← replies (respondOver (redirectWithin left)) (Text.sentences query)
    pure (Text.unwords texts)

/-- How many more redirections can be nested. -/
def redirectsLeft : Evaluation Nat := do
  let context ← get
  return context.agent.settings.maxRedirects - context.depth

def redirect (query : String) : Evaluation String := do
  redirectWithin (← redirectsLeft) query

/-- The reply to a sentence; none if no category matches. -/
def respond (sentence : String) : Evaluation (Option Reply) := do
  respondOver (redirectWithin (← redirectsLeft)) sentence

end Evaluation

def Template.run (template : Template) : Evaluation String := do
  template.evaluate (Evaluation.redirectWithin (← Evaluation.redirectsLeft))

end Dialogue
