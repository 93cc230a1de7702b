/-
**Calls.**

Whoever owns an agent talks to it, changes what it can answer, and sets and watches its predicates.
`Agent.receive` is the agent after one call, and `Agent.receiveAll` after some calls in order.
-/

import Dialogue.Agent.Setup

namespace Dialogue

/-- What the owner of an agent can do with it. -/
inductive Call where
  /-- An input is answered. -/
  | turn (input : String)
  /-- The category of a definition is added. -/
  | define (definition : Definition)
  /-- The category under a key is removed. -/
  | remove (key : Key)
  | setPredicate (name value : String)
  | subscribe (name : String)
  | unsubscribe (subscription : Subscription)

namespace Agent

/-- The agent after a call. -/
def receive (agent : Agent) : Call → Agent
  | .turn input => (agent.takeTurn input).2.1
  | .define definition => (agent.define definition).2.1
  | .remove key => agent.removeCategory key
  | .setPredicate name value => (agent.setPredicate name value).1
  | .subscribe name => { agent with predicates := (agent.predicates.subscribe name).2 }
  | .unsubscribe subscription =>
    { agent with predicates := (agent.predicates.unsubscribe subscription).2 }

def receiveAll (agent : Agent) (calls : List Call) : Agent := calls.foldl receive agent

end Agent

end Dialogue
