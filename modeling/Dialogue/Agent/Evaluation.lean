/-
**Steps of an evaluation.**

* `Context`: the agent, the captures of the category being evaluated, how deep redirections are
  nested, how often conditions of the turn were evaluated again, whether the present condition is to
  be, and what has happened so far;
* `Evaluation`: a step that changes the context and gives a value or an interruption. The context
  survives an interruption;
* `underCondition`, `inCategory`, `deeper`: steps that are taken inside something and leave the
  parts of the context that belong to it as they were, also when they are interrupted.
-/

import Dialogue.Agent.State

namespace Dialogue

/-- Something that happens during an evaluation and that somebody outside may see. -/
inductive Event where
  | notice (notice : Notice)
  | notified (notification : Notification)
  /-- The classifier was asked about a sentence. -/
  | consulted (sentence : String)
deriving DecidableEq, Repr

/-- Where an evaluation stands. -/
structure Context where
  agent : Agent
  captures : Captures := .empty
  /-- How deep redirections are nested. -/
  depth : Nat := 0
  /-- How often conditions of this turn were evaluated again. -/
  loops : Nat := 0
  /-- Whether the innermost condition is to be evaluated again. -/
  looping : Bool := false
  /-- What has happened, the latest first. -/
  journal : List Event := []

/-- A step of an evaluation. -/
abbrev Evaluation (α : Type) := ExceptT Interruption (StateM Context) α

namespace Evaluation

variable {α : Type}

/-- The step given by what it does to a context. -/
def ofStep (step : Context → Except Interruption α × Context) : Evaluation α := step

/-- What a step does to a context. -/
def runIn (action : Evaluation α) (context : Context) : Except Interruption α × Context :=
  action context

/-- A step that gives a value changes nothing. -/
@[simp] theorem runIn_pure (value : α) (context : Context) :
    (pure value : Evaluation α).runIn context = (.ok value, context) := rfl

/-- A step that interrupts changes nothing. -/
@[simp] theorem runIn_throw (interruption : Interruption) (context : Context) :
    (throw interruption : Evaluation α).runIn context = (.error interruption, context) := rfl

/-- A step is followed by another one where the first left off, unless it is interrupted. -/
theorem runIn_bind {β : Type} (action : Evaluation α) (next : α → Evaluation β)
    (context : Context) :
    (action >>= next).runIn context =
      match action.runIn context with
      | (.ok value, after) => (next value).runIn after
      | (.error interruption, after) => (.error interruption, after) := by
  simp only [runIn, bind, ExceptT.bind, ExceptT.mk, ExceptT.bindCont, StateT.bind]
  cases action context with
  | mk result after => cases result <;> rfl

/-- The agent as it is now. -/
def agent : Evaluation Agent := do return (← get).agent

/-- Something about the agent as it is now. -/
def look (view : Agent → α) : Evaluation α := do return view (← agent)

/-- The captures of the category being evaluated. -/
def captures : Evaluation Captures := do return (← get).captures

/-- A change of the agent. -/
def change (image : Agent → Agent) : Evaluation Unit :=
  modify fun context => { context with agent := image context.agent }

def record (event : Event) : Evaluation Unit :=
  modify fun context => { context with journal := event :: context.journal }

/-- Record what happens, in order. -/
def recordAll (events : List Event) : Evaluation Unit := events.forM record

def note (notice : Notice) : Evaluation Unit := record (.notice notice)

def noteAll (notices : List Notice) : Evaluation Unit := recordAll (notices.map Event.notice)

/-! ### Steps inside something -/

/-- Evaluate the body of a condition, and say whether it asks for another evaluation. What the
surrounding condition is to do stays as it was. -/
def underCondition (body : Evaluation α) : Evaluation (α × Bool) := ofStep fun context =>
  let (result, after) := body.runIn { context with looping := false }
  (result.map fun value => (value, after.looping), { after with looping := context.looping })

/-- Evaluate the template of a category with its captures. The captures outside, and what the
condition outside is to do, stay as they were. -/
def inCategory (captures : Captures) (body : Evaluation α) : Evaluation α := ofStep fun context =>
  let (result, after) := body.runIn { context with captures := captures, looping := false }
  (result, { after with captures := context.captures, looping := context.looping })

/-- Evaluate something one redirection deeper. -/
def deeper (body : Evaluation α) : Evaluation α := ofStep fun context =>
  let (result, after) := body.runIn { context with depth := context.depth + 1 }
  (result, { after with depth := context.depth })

/-! ### Elementary steps -/

/-- Give a predicate a value and tell its subscribers. -/
def setPredicate (name value : String) : Evaluation Unit := do
  let predicates := (← agent).predicates
  change fun agent => { agent with predicates := agent.predicates.set name value }
  recordAll ((predicates.notifications name value).map Event.notified)

/-- The image of an argument under a map; empty, and noted, if there is none of the name. -/
def callMap (name argument : String) : Evaluation String := do
  match ← look fun agent => agent.maps.call? name argument with
  | some image => pure image
  | none => do
    note (.unknownMap name)
    pure ""

/-- The present date in a layout. -/
def showDate (locale timezone : Option String) (layout : String) : Evaluation String := do
  let (notices, text) := (← look Agent.dates) locale timezone layout
  noteAll notices
  pure text

/-- Ask for another evaluation of the condition around. -/
def askAgain : Evaluation Unit := modify fun context => { context with looping := true }

/-- The next draw among a number of choices. -/
def draw (choices : Nat) : Evaluation Nat := do
  let index ← look fun agent => agent.draws.head choices
  change fun agent => { agent with draws := agent.draws.tail choices }
  pure index

/-- One of some steps, as the next draw says; none of none. -/
def takeOne (actions : List (Evaluation String)) : Evaluation String := do
  if actions.isEmpty then pure ""
  else do
    let index ← draw actions.length
    (actions[index]?).getD (pure "")

/-- The texts of some steps, taken in order, as one text. -/
def concatenate : List (Evaluation String) → Evaluation String
  | [] => pure ""
  | action :: actions => do
    let first ← action
    let others ← concatenate actions
    pure (first ++ others)

/-- Learn the category of a definition; noted, and nothing else, if it has none. -/
def learn (definition : Definition) : Evaluation Unit := do
  let agent ← agent
  noteAll (definition.remarks agent.normalizer)
  match definition.compile agent.normalizer .learned with
  | .ok category => do
    change fun agent => agent.learn category
    noteAll (agent.repertoire.learningNotices category)
  | .error fault => note (.malformedLesson fault)

def unlearn : Evaluation Unit := do
  let agent ← agent
  change Agent.unlearn
  noteAll (agent.repertoire.unlearningNotices agent.settings.unlearnPolicy)

/-! ### Conditions -/

/-- A guard whose body is a step. -/
structure Branch where
  predicate : Option String
  value : Option String
  body : Evaluation String

def Branch.applies (predicates : Predicates) (branch : Branch) : Bool :=
  match branch.predicate, branch.value with
  | _, none => true
  | some name, some expected => predicates.get name == expected
  | none, some _ => false

/-- End the turn because conditions were evaluated again too often. -/
def exceedLoops {α : Type} : Evaluation α := do
  let limit ← look fun agent => agent.settings.maxLoops
  note (.loopLimitReached limit)
  throw (.loopLimit limit)

/-- Count one more evaluation of a condition, unless that is more than the turn allows. -/
def countLoop : Evaluation Unit := do
  modify fun context => { context with loops := context.loops + 1 }
  if (← agent).settings.maxLoops < (← get).loops then exceedLoops

/-- Evaluate the first branch that applies, if any, and say whether the condition is to be evaluated
again. -/
def evaluateOnce (branches : List Branch) : Evaluation (Option (String × Bool)) := do
  match branches.find? (Branch.applies (← look Agent.predicates)) with
  | none => pure none
  | some branch => do
    let (text, again) ← underCondition branch.body
    if again then countLoop
    pure (some (text, again))

/-- Evaluate a condition, and again as long as it asks for that, at most a number of times more. -/
def evaluateAgain (branches : List Branch) : Nat → Evaluation (List String)
  | 0 => do
    match ← evaluateOnce branches with
    | none => pure []
    | some (text, false) => pure [text]
    | some (_, true) => exceedLoops
  | left + 1 => do
    match ← evaluateOnce branches with
    | none => pure []
    | some (text, false) => pure [text]
    | some (text, true) => do
      let texts ← evaluateAgain branches left
      pure (text :: texts)

/-- How often conditions can be evaluated again. -/
def loopsLeft : Evaluation Nat := do
  let context ← get
  return context.agent.settings.maxLoops - context.loops

/-- Evaluate a condition. It can be evaluated again as often as the turn still allows; beyond that
counting fails. -/
def condition (branches : List Branch) : Evaluation String := do
  let texts ← evaluateAgain branches (← loopsLeft)
  pure (Text.unwords texts)

end Evaluation

end Dialogue
