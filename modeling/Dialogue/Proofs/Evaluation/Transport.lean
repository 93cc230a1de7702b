/-
**Contexts that make no difference.**

An image of contexts is a transport if it leaves alone what evaluations look at, and if it does not
matter whether something is changed before or after it. Then every template and every reply has the
same outcome in a context and in its image, and leaves the image of the context it leaves.

* `PlainTransport`, `PlainTransport.elementary`: the image, for steps without a body;
* `Transport`, `Transport.redirecting`: the image, and that evaluations commute with it;
* `transport_past`: what happened before is such an image. Evaluations add to the journal and do not
  read it.
-/

import Dialogue.Proofs.Evaluation.Congruence
import Dialogue.Proofs.Evaluation.Steps

namespace Dialogue

open Evaluation

variable {α : Type}

/-- **An image of contexts that steps without a body do not notice.** -/
structure PlainTransport (image : Context → Context) : Prop where
  view {α : Type} {view : Agent → α} (blind : Blind view) (context : Context) :
    view (image context).agent = view context.agent
  captures (context : Context) : (image context).captures = context.captures
  depth (context : Context) : (image context).depth = context.depth
  loops (context : Context) : (image context).loops = context.loops
  looping (context : Context) : (image context).looping = context.looping
  withCaptures (context : Context) (captures : Captures) :
    image { context with captures := captures } = { image context with captures := captures }
  withDepth (context : Context) (depth : Nat) :
    image { context with depth := depth } = { image context with depth := depth }
  withLoops (context : Context) (loops : Nat) :
    image { context with loops := loops } = { image context with loops := loops }
  withLooping (context : Context) (looping : Bool) :
    image { context with looping := looping } = { image context with looping := looping }
  record (context : Context) (event : Event) :
    image { context with journal := event :: context.journal } =
      { image context with journal := event :: (image context).journal }
  withPredicates (context : Context) (predicates : Predicates) :
    image { context with agent := { context.agent with predicates := predicates } } =
      { image context with agent := { (image context).agent with predicates := predicates } }
  withDraws (context : Context) (draws : Draws) :
    image { context with agent := { context.agent with draws := draws } } =
      { image context with agent := { (image context).agent with draws := draws } }
  withRepertoire (context : Context) (repertoire : Repertoire) :
    image { context with agent := { context.agent with repertoire := repertoire } } =
      { image context with agent := { (image context).agent with repertoire := repertoire } }

/-- **An image of contexts that evaluations do not notice.** The limits are the same. -/
structure Transport (image : Context → Context) : Prop extends PlainTransport image where
  settings (context : Context) : (image context).agent.settings = context.agent.settings

/-- A step has the same outcome in the image of a context, and leaves the image of what it leaves;
the other step is not looked at. -/
def CommutesWith (image : Context → Context) (α : Type) (first _ : Evaluation α) : Prop :=
  ∀ context, first.runIn (image context) =
    ((first.runIn context).1, image (first.runIn context).2)

namespace PlainTransport

variable {image : Context → Context}

theorem commutes_bind {β : Type} {first second : Evaluation α}
    {firstNext secondNext : α → Evaluation β} (step : CommutesWith image α first second)
    (next : ∀ value, CommutesWith image β (firstNext value) (secondNext value)) :
    CommutesWith image β (first >>= firstNext) (second >>= secondNext) := by
  intro context
  have moved := step context
  rw [runIn_bind, runIn_bind, moved]
  generalize first.runIn context = outcome
  obtain ⟨result, after⟩ := outcome
  cases result with
  | error interruption => rfl
  | ok value => exact next value after

theorem commutes_read {value : Context → α} {second : Evaluation α}
    (same : ∀ context, value (image context) = value context) :
    CommutesWith image α (do return value (← get)) second := by
  intro context
  change (Except.ok (value (image context)), image context) = _
  rw [same]
  rfl

variable (transport : PlainTransport image)

include transport

theorem commutes_record (event : Event) {second : Evaluation Unit} :
    CommutesWith image Unit (Evaluation.record event) second :=
  fun context => congrArg (Prod.mk _) (transport.record context event).symm

theorem withEvents (context : Context) (events : List Event) :
    image { context with journal := events ++ context.journal } =
      { image context with journal := events ++ (image context).journal } := by
  induction events with
  | nil => rfl
  | cons event events ih =>
    have last := transport.record { context with journal := events ++ context.journal } event
    rw [ih] at last
    exact last

/-- A change of the repertoire, and what is noted about it. -/
theorem withRepertoireAndEvents (context : Context) (repertoire : Repertoire)
    (events : List Event) :
    image { context with
      agent := { context.agent with repertoire := repertoire }
      journal := events ++ context.journal } =
      { image context with
        agent := { (image context).agent with repertoire := repertoire }
        journal := events ++ (image context).journal } := by
  have noted := transport.withEvents
    { context with agent := { context.agent with repertoire := repertoire } } events
  rw [transport.withRepertoire] at noted
  exact noted

theorem repertoire (context : Context) :
    (image context).agent.repertoire = context.agent.repertoire := by
  have seen : Blind Agent.repertoire := fun _ _ _ _ => rfl
  exact transport.view seen context

theorem commutes_learn (definition : Definition) {second : Evaluation Unit} :
    CommutesWith image Unit (learn definition) second := by
  intro context
  have seen : Blind Agent.normalizer := fun _ _ _ _ => rfl
  have normalizer := transport.view seen context
  cases compiled : definition.compile context.agent.normalizer .learned with
  | ok category =>
    have moved := compiled
    rw [← normalizer] at moved
    rw [runIn_learn_of_ok compiled, runIn_learn_of_ok moved, normalizer, Agent.learn,
      Agent.learn, Agent.mapRepertoire, Agent.mapRepertoire, transport.repertoire,
      transport.withRepertoireAndEvents]
  | error fault =>
    have moved := compiled
    rw [← normalizer] at moved
    rw [runIn_learn_of_error compiled, runIn_learn_of_error moved, normalizer,
      transport.withEvents]

theorem commutes_unlearn {second : Evaluation Unit} : CommutesWith image Unit unlearn second := by
  intro context
  have seen : Blind fun agent => agent.settings.unlearnPolicy := fun _ _ _ _ => rfl
  have policy := transport.view seen context
  rw [runIn_unlearn, runIn_unlearn, Agent.unlearn, Agent.unlearn, Agent.mapRepertoire,
    Agent.mapRepertoire, transport.repertoire, policy, transport.withRepertoireAndEvents]

theorem commutes_setPredicate (name value : String) {second : Evaluation Unit} :
    CommutesWith image Unit (setPredicate name value) second := by
  intro context
  have seen : Blind Agent.predicates := fun _ _ _ _ => rfl
  have changed := transport.withPredicates context (context.agent.predicates.set name value)
  have told := transport.withEvents { context with
    agent := { context.agent with predicates := context.agent.predicates.set name value } }
    ((context.agent.predicates.notifications name value).map Event.notified).reverse
  rw [changed] at told
  rw [runIn_setPredicate, runIn_setPredicate, transport.view seen, told]

theorem commutes_draw (choices : Nat) {second : Evaluation Nat} :
    CommutesWith image Nat (draw choices) second := by
  intro context
  have seen : Blind Agent.draws := fun _ _ _ _ => rfl
  have used := transport.withDraws context (context.agent.draws.tail choices)
  rw [runIn_draw, runIn_draw, transport.view seen, used]

theorem elementary : Elementary (CommutesWith image) where
  pure _ _ := rfl
  bind := commutes_bind
  look seen context := by
    change (Except.ok _, image context) = _
    rw [transport.view seen]
    rfl
  captures := commutes_read transport.captures
  askAgain context := congrArg (Prod.mk _) (transport.withLooping context true).symm
  note _ := transport.commutes_record _
  setPredicate name value := transport.commutes_setPredicate name value
  draw choices := transport.commutes_draw choices
  learn definition := transport.commutes_learn definition
  unlearn := transport.commutes_unlearn

end PlainTransport

namespace Transport

variable {image : Context → Context} (transport : Transport image)

include transport

theorem commutes_exceedLoops {second : Evaluation α} :
    CommutesWith image α exceedLoops second := by
  intro context
  rw [runIn_exceedLoops, runIn_exceedLoops, transport.settings, transport.record]

theorem rerunning : Rerunning (CommutesWith image) where
  toElementary := transport.elementary
  underCondition {α first second} body context := by
    have moved := body { context with looping := false }
    rw [transport.withLooping] at moved
    rw [runIn_underCondition, runIn_underCondition, moved]
    generalize first.runIn { context with looping := false } = outcome
    rw [transport.looping outcome.2, transport.looping context,
      transport.withLooping outcome.2 context.looping]
  countLoop context := by
    have counted := transport.withLoops context (context.loops + 1)
    have exceeded : CommutesWith image Unit exceedLoops exceedLoops :=
      transport.commutes_exceedLoops
    rw [runIn_countLoop, runIn_countLoop, transport.settings, transport.loops, ← counted,
      exceeded]
    split <;> rfl
  exceedLoops := transport.commutes_exceedLoops
  loopsLeft := PlainTransport.commutes_read fun context => by rw [transport.settings, transport.loops]

/-- **Every reply has the same outcome in the image of a context.** -/
theorem redirecting : Redirecting (CommutesWith image) where
  toCongruence := transport.rerunning.congruence
  inCategory {α first second} captures body context := by
    have moved := body { context with captures := captures, looping := false }
    have entered : image { context with captures := captures, looping := false } =
        { image context with captures := captures, looping := false } := by
      have flagged := transport.withLooping { context with captures := captures } false
      rw [transport.withCaptures] at flagged
      exact flagged
    rw [entered] at moved
    rw [runIn_inCategory, runIn_inCategory, transport.captures context,
      transport.looping context, moved]
    generalize first.runIn { context with captures := captures, looping := false } = outcome
    have left := transport.withLooping { outcome.2 with captures := context.captures }
      context.looping
    rw [transport.withCaptures] at left
    rw [left]
  deeper {α first second} body context := by
    have moved := body { context with depth := context.depth + 1 }
    rw [transport.withDepth] at moved
    rw [runIn_deeper, runIn_deeper, transport.depth, moved]
    generalize first.runIn { context with depth := context.depth + 1 } = outcome
    rw [transport.withDepth outcome.2 context.depth]
  noteRedirected query context := by
    have same : Event.notice (.redirected (image context).depth query) =
        .notice (.redirected context.depth query) := by rw [transport.depth]
    rw [runIn_noteRedirected, runIn_noteRedirected, same, transport.record]
  exceedRedirects query context := by
    rw [runIn_exceedRedirects, runIn_exceedRedirects, transport.settings, transport.record]

/-- **Every reply has the same outcome.** -/
theorem respond (sentence : String) {second : Evaluation (Option Reply)} :
    CommutesWith image (Option Reply) (respond sentence) second := by
  have left : CommutesWith image Nat redirectsLeft redirectsLeft :=
    PlainTransport.commutes_read fun context => by rw [transport.settings, transport.depth]
  exact PlainTransport.commutes_bind left fun left =>
    transport.redirecting.respondOver (transport.redirecting.redirectWithin left) sentence

end Transport

/-! ### The past -/

/-- A context in which more has happened before. -/
def Context.after (past : List Event) (context : Context) : Context :=
  { context with journal := context.journal ++ past }

/-- **What happened before makes no difference.** -/
theorem transport_past (past : List Event) : Transport (Context.after past) where
  view _ _ := rfl
  settings _ := rfl
  captures _ := rfl
  depth _ := rfl
  loops _ := rfl
  looping _ := rfl
  withCaptures _ _ := rfl
  withDepth _ _ := rfl
  withLoops _ _ := rfl
  withLooping _ _ := rfl
  record _ _ := rfl
  withPredicates _ _ := rfl
  withDraws _ _ := rfl
  withRepertoire _ _ := rfl

end Dialogue
