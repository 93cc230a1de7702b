/-
**Redirections are isolated.**

* `runIn_respond`: what a category answers depends on nothing but the agent, how deep redirections
  are nested and how often conditions were evaluated again. It leaves alone what belongs to the
  category that asked;
* `kept_course`: whatever is evaluated, the captures and the depth are in the end what they were;
* `respond_isolated`: both, and which loops a condition obeys.
-/

import Dialogue.Agent.Setup
import Dialogue.Proofs.Evaluation.Course
import Dialogue.Proofs.Evaluation.Loops
import Dialogue.Proofs.Evaluation.Transport

namespace Dialogue

open Evaluation

/-- **Captures and depth are kept.** Where they change, they are put back, also after an
interruption. -/
theorem kept_course :
    Course fun before after => after.captures = before.captures ∧ after.depth = before.depth where
  refl context := ⟨rfl, rfl⟩
  trans earlier later := ⟨later.1.trans earlier.1, later.2.trans earlier.2⟩
  askAgain context := ⟨rfl, rfl⟩
  countLoop context := ⟨rfl, rfl⟩
  record context event aside := ⟨rfl, rfl⟩
  setPredicate context name value := ⟨rfl, rfl⟩
  draw context draws := ⟨rfl, rfl⟩
  recordInput context sentence := ⟨rfl, rfl⟩
  learn context definition := by
    cases compiled : definition.compile context.agent.normalizer .learned with
    | ok category =>
      rw [runIn_learn_of_ok compiled]
      exact ⟨rfl, rfl⟩
    | error fault =>
      rw [runIn_learn_of_error compiled]
      exact ⟨rfl, rfl⟩
  unlearn context := by
    rw [runIn_unlearn]
    exact ⟨rfl, rfl⟩
  redirected context query := ⟨rfl, rfl⟩
  underCondition led := led
  inCategory _ led := ⟨rfl, led.2⟩
  deeper led := ⟨led.1, rfl⟩

/-- What is outside a category makes no difference to its reply, and is left as it is. -/
theorem runIn_respondOver_outside (redirect : String → Evaluation String) (sentence : String)
    (context : Context) (captures : Captures) (looping : Bool) :
    (respondOver redirect sentence).runIn
        { context with captures := captures, looping := looping } =
      (((respondOver redirect sentence).runIn context).1,
        { ((respondOver redirect sentence).runIn context).2 with
          captures := captures, looping := looping }) := by
  cases found : context.agent.lookup (context.agent.normalizer.tokenize sentence) with
  | none =>
    rw [runIn_respondOver_of_none found]
    exact runIn_respondOver_of_none found
  | some answer =>
    rw [runIn_respondOver_of_some found]
    exact runIn_respondOver_of_some found

/-- **A reply depends on the agent, the depth and the count alone.** It changes the agent and the
count, and adds to the journal; all else stays as it is. -/
theorem runIn_respond (sentence : String) (context : Context) :
    ∃ result agent loops events,
      ∀ other : Context, other.agent = context.agent → other.depth = context.depth →
        other.loops = context.loops →
          (respond sentence).runIn other = (result, { other with
            agent := agent, loops := loops, journal := events ++ other.journal }) := by
  -- The reply in a context without captures and without a past.
  let bare : Context := { agent := context.agent, depth := context.depth, loops := context.loops }
  refine ⟨((respond sentence).runIn bare).1, ((respond sentence).runIn bare).2.agent,
    ((respond sentence).runIn bare).2.loops, ((respond sentence).runIn bare).2.journal, ?_⟩
  rintro ⟨_, captures, _, _, looping, past⟩ rfl rfl rfl
  have depth : ((respond sentence).runIn bare).2.depth = context.depth :=
    (kept_course.respond sentence bare).2
  have outside : (respond sentence).runIn
      { bare with captures := captures, looping := looping } =
        (((respond sentence).runIn bare).1, { ((respond sentence).runIn bare).2 with
          captures := captures, looping := looping }) := by
    rw [respond, runIn_redirectsLeft_bind, runIn_redirectsLeft_bind]
    exact runIn_respondOver_outside _ sentence bare captures looping
  have past_added : CommutesWith (Context.after past) (Option Reply) (respond sentence)
      (respond sentence) := (transport_past past).respond sentence
  have moved := past_added { bare with captures := captures, looping := looping }
  have start : Context.after past { bare with captures := captures, looping := looping } =
      ⟨context.agent, captures, context.depth, context.loops, looping, past⟩ := rfl
  rw [outside, start] at moved
  rw [moved, Context.after, depth]

/-- **Redirections are isolated.**

A sentence has the same reply, or the same interruption, in any two contexts with the same agent,
depth and count, and changes nothing but the agent, the count and the journal, in the same way.
Every template leaves the captures and the depth as they were, and every condition what the
condition around it is to do. A condition is evaluated again exactly if the branch that was taken
reached a loop on its own level. -/
theorem respond_isolated :
    (∀ (sentence : String) (first second : Context), first.agent = second.agent →
      first.depth = second.depth → first.loops = second.loops →
        ∃ result agent loops events,
          (respond sentence).runIn first = (result, { first with
            agent := agent, loops := loops, journal := events ++ first.journal }) ∧
          (respond sentence).runIn second = (result, { second with
            agent := agent, loops := loops, journal := events ++ second.journal })) ∧
    (∀ (template : Template) (context : Context),
      (template.run.runIn context).2.captures = context.captures ∧
        (template.run.runIn context).2.depth = context.depth) ∧
    (∀ (guards : List Guard) (context : Context),
      ((Template.condition guards).run.runIn context).2.looping = context.looping) ∧
    ∀ (left : Nat) (guards : List Guard) (context after : Context) (text : String) (again : Bool),
      (evaluateOnce (branches (redirectWithin left) guards)).runIn context =
          (.ok (some (text, again)), after) →
        (again = true ↔ ∃ guard place,
          chosenGuard (redirectWithin left) guards context.agent.predicates = some guard ∧
            Reaches (redirectWithin left) (guard.body, { context with looping := false })
              (.loop, place)) := by
  refine ⟨?_, kept_course.run, ?_, ?_⟩
  · intro sentence first second agent depth loops
    obtain ⟨result, agentAfter, loopsAfter, events, same⟩ := runIn_respond sentence first
    refine ⟨result, agentAfter, loopsAfter, events, same first rfl rfl rfl, ?_⟩
    exact same second agent.symm depth.symm loops.symm
  · intro guards context
    rw [Template.run, runIn_redirectsLeft_bind, Template.evaluate]
    exact quiet_condition _ context
  · intro left guards context after text again ran
    exact again_iff (quiet_redirectWithin left) ran

/-- Captures and a loop outside do not reach a reply that redirects and says its own captures before
and after that, and a loop inside a condition is found. -/
theorem respond_isolated_greeting :
    let setup : Setup := { generator := fun _ => .first, definitions :=
      [⟨"hello *", none, none, .sequence [.capture .pattern 1, .text ", ",
          .redirect (.sequence [.text "who is doctor ", .capture .pattern 1]), .text " ",
          .capture .pattern 1]⟩,
        ⟨"who is *", none, none, .sequence [.text "dear ", .capture .pattern 1]⟩] }
    let context : Context := { agent := setup.build.1 }
    let outside : Context := { context with captures := ⟨["B"], [], []⟩, looping := true }
    let guards : List Guard := [⟨none, none, .sequence [.text "A", .loop]⟩]
    (∃ result agent loops events,
      (respond "HELLO Ada").runIn context = (result, { context with
        agent := agent, loops := loops, journal := events ++ context.journal }) ∧
      (respond "HELLO Ada").runIn outside = (result, { outside with
        agent := agent, loops := loops, journal := events ++ outside.journal })) ∧
    ((respond "HELLO Ada").runIn outside).1 =
      .ok (some ⟨"Ada, dear doctor Ada Ada", ⟨[.word "hello", .star], [.star], [.star]⟩⟩) ∧
    ∃ guard place, chosenGuard (redirectWithin 0) guards context.agent.predicates = some guard ∧
      Reaches (redirectWithin 0) (guard.body, { context with looping := false }) (.loop, place) := by
  intro setup context outside guards
  refine ⟨?_, by decide +kernel, ?_⟩
  · exact respond_isolated.1 "HELLO Ada" context outside rfl rfl rfl
  · exact (respond_isolated.2.2.2 0 guards context { context with loops := 1 } "A" true rfl).mp rfl

end Dialogue
