/-
**The recursion of an evaluation, without bounds.**

A redirection carries how many more may be nested, and a condition how often it can be evaluated
again. Both numbers only say what the context says anyway: they can be left out of the equations.

* `Advances`, `advances_course`: what every evaluation leaves alone, and that its count of loops only
  grows;
* `Alike`: steps that do the same wherever a property holds that they keep;
* `Template.run_eq`, `respond_eq`, `runIn_redirect`: a template, a reply and a redirection in terms of
  themselves. Redirections compare the depth with the limit;
* `passes_eq`: the passes of a condition in terms of themselves. Only counting compares with a limit.
-/

import Dialogue.Proofs.Evaluation.Course
import Dialogue.Proofs.Evaluation.Loops

namespace Dialogue

open Evaluation

variable {α : Type}

/-! ### What stays -/

/-- **A context that an evaluation can leave.** The agent's settings and history, the captures and
the depth are what they were, and no loop is forgotten. -/
structure Advances (before after : Context) : Prop where
  settings : after.agent.settings = before.agent.settings
  history : after.agent.history = before.agent.history
  captures : after.captures = before.captures
  depth : after.depth = before.depth
  loops_le : before.loops ≤ after.loops

theorem Advances.refl (context : Context) : Advances context context :=
  ⟨rfl, rfl, rfl, rfl, Nat.le_refl _⟩

theorem Advances.trans {first second third : Context} (earlier : Advances first second)
    (later : Advances second third) : Advances first third where
  settings := later.settings.trans earlier.settings
  history := later.history.trans earlier.history
  captures := later.captures.trans earlier.captures
  depth := later.depth.trans earlier.depth
  loops_le := Nat.le_trans earlier.loops_le later.loops_le

/-- **Every evaluation advances.** Where captures and depth change, they are put back. -/
theorem advances_course : InnerCourse Advances where
  refl := .refl
  trans := .trans
  askAgain _ := ⟨rfl, rfl, rfl, rfl, Nat.le_refl _⟩
  countLoop context := ⟨rfl, rfl, rfl, rfl, Nat.le_succ context.loops⟩
  record _ _ _ := ⟨rfl, rfl, rfl, rfl, Nat.le_refl _⟩
  setPredicate _ _ _ := ⟨rfl, rfl, rfl, rfl, Nat.le_refl _⟩
  draw _ _ := ⟨rfl, rfl, rfl, rfl, Nat.le_refl _⟩
  learn context definition := by
    cases compiled : definition.compile context.agent.normalizer .learned with
    | ok category =>
      rw [runIn_learn_of_ok compiled]
      exact ⟨rfl, rfl, rfl, rfl, Nat.le_refl _⟩
    | error fault =>
      rw [runIn_learn_of_error compiled]
      exact ⟨rfl, rfl, rfl, rfl, Nat.le_refl _⟩
  unlearn context := by
    rw [runIn_unlearn]
    exact ⟨rfl, rfl, rfl, rfl, Nat.le_refl _⟩
  redirected _ _ := ⟨rfl, rfl, rfl, rfl, Nat.le_refl _⟩
  underCondition led := ⟨led.settings, led.history, led.captures, led.depth, led.loops_le⟩
  inCategory _ led := ⟨led.settings, led.history, rfl, led.depth, led.loops_le⟩
  deeper led := ⟨led.settings, led.history, led.captures, rfl, led.loops_le⟩

/-! ### The same where a property holds -/

/-- Two steps do the same in every context that has a property, and leave it. -/
def Alike (Holds : Context → Prop) (α : Type) (first second : Evaluation α) : Prop :=
  ∀ context, Holds context →
    first.runIn context = second.runIn context ∧ Holds (first.runIn context).2

section Alike

variable {Holds : Context → Prop}

theorem alike_bind {β : Type} {first second : Evaluation α} {firstNext secondNext : α → Evaluation β}
    (step : Alike Holds α first second)
    (next : ∀ value, Alike Holds β (firstNext value) (secondNext value)) :
    Alike Holds β (first >>= firstNext) (second >>= secondNext) := by
  intro context holds
  obtain ⟨same, kept⟩ := step context holds
  rw [runIn_bind, runIn_bind, ← same]
  generalize first.runIn context = outcome at kept ⊢
  obtain ⟨result, after⟩ := outcome
  cases result with
  | error interruption => exact ⟨rfl, kept⟩
  | ok value => exact next value after kept

variable {Leads : Context → Context → Prop}
  (kept : ∀ before after : Context, Leads before after → Holds before → Holds after)

include kept

/-- A step is like itself if it follows a course that keeps the property. -/
theorem alike_self {action : Evaluation α} (follows : Follows Leads α action action) :
    Alike Holds α action action :=
  fun context holds => ⟨rfl, kept context _ (follows context) holds⟩

variable (course : InnerCourse Leads)

include course

theorem alike_elementary : Elementary (Alike Holds) where
  pure value := alike_self kept (course.elementary.pure value)
  bind := alike_bind
  look blind := alike_self kept (course.elementary.look blind)
  captures := alike_self kept course.elementary.captures
  askAgain := alike_self kept course.elementary.askAgain
  note aside := alike_self kept (course.elementary.note aside)
  setPredicate name value := alike_self kept (course.elementary.setPredicate name value)
  draw choices := alike_self kept (course.elementary.draw choices)
  learn definition := alike_self kept (course.elementary.learn definition)
  unlearn := alike_self kept course.elementary.unlearn

variable (unlooped : ∀ (context : Context) (looping : Bool), Holds context →
  Holds { context with looping := looping })

include unlooped

theorem alike_rerunning : Rerunning (Alike Holds) where
  toElementary := alike_elementary kept course
  underCondition {α first second} body context holds := by
    obtain ⟨same, left⟩ := body _ (unlooped context false holds)
    rw [runIn_underCondition, runIn_underCondition, ← same]
    exact ⟨rfl, unlooped _ context.looping left⟩
  countLoop := alike_self kept course.rerunning.countLoop
  exceedLoops := alike_self kept course.rerunning.exceedLoops
  loopsLeft := alike_self kept course.rerunning.loopsLeft

/-- Replies are alike where their redirections are, if the property is not about captures. -/
theorem alike_replying (uncaptured : ∀ (context : Context) (captures : Captures),
    Holds context → Holds { context with captures := captures }) : Replying (Alike Holds) where
  toCongruence := (alike_rerunning kept course unlooped).congruence
  inCategory {α first second} captures body context holds := by
    obtain ⟨same, left⟩ := body _ (uncaptured _ captures (unlooped context false holds))
    rw [runIn_inCategory, runIn_inCategory, ← same]
    exact ⟨rfl, uncaptured _ context.captures (unlooped _ context.looping left)⟩

end Alike

/-! ### Redirections -/

/-- A context has a limit for redirections, and a depth. -/
def AtDepth (limit depth : Nat) (context : Context) : Prop :=
  context.agent.settings.maxRedirects = limit ∧ context.depth = depth

theorem AtDepth.kept {limit depth : Nat} {before after : Context} (advances : Advances before after)
    (atDepth : AtDepth limit depth before) : AtDepth limit depth after :=
  ⟨(congrArg Settings.maxRedirects advances.settings).trans atDepth.1,
    advances.depth.trans atDepth.2⟩

/-- What is as deep as the limit and the depth say is what the context says. -/
theorem alike_redirect (limit depth : Nat) (query : String) :
    Alike (AtDepth limit depth) String (redirectWithin (limit - depth) query) (redirect query) := by
  intro context atDepth
  have advances := advances_course.redirecting.redirectWithin (limit - depth) query context
  refine ⟨?_, atDepth.kept advances⟩
  rw [redirect, runIn_redirectsLeft_bind, atDepth.1, atDepth.2]

theorem alike_replying_atDepth (limit depth : Nat) : Replying (Alike (AtDepth limit depth)) :=
  alike_replying (fun _ _ => AtDepth.kept) advances_course (fun _ _ atDepth => atDepth)
    fun _ _ atDepth => atDepth

/-- **A template is evaluated over redirections of its own kind.** -/
theorem Template.run_eq (template : Template) :
    template.run = template.evaluate Evaluation.redirect := by
  refine funext fun context => ?_
  let limit := context.agent.settings.maxRedirects
  have atDepth : AtDepth limit context.depth context := ⟨rfl, rfl⟩
  have alike := (alike_replying_atDepth limit context.depth).evaluate
    (alike_redirect limit context.depth) template
  exact (alike context atDepth).1

/-- **A reply is given over redirections of its own kind.** -/
theorem respond_eq (sentence : String) : respond sentence = respondOver redirect sentence := by
  refine funext fun context => ?_
  let limit := context.agent.settings.maxRedirects
  have atDepth : AtDepth limit context.depth context := ⟨rfl, rfl⟩
  have alike := (alike_replying_atDepth limit context.depth).respondOver
    (alike_redirect limit context.depth) sentence
  exact (alike context atDepth).1

/-- The answers to the sentences of a query. -/
def answerQuery (query : String) : Evaluation String := do
  let texts ← replies respond (Text.sentences query)
  pure (Text.unwords texts)

/-- The answer to a query that is followed. -/
def followQuery (query : String) : Evaluation String := deeper do
  noteRedirected query
  answerQuery query

/-- The context in which the sentences of a query are answered. -/
def Context.descended (context : Context) (query : String) : Context :=
  { context with
    depth := context.depth + 1
    journal := .notice (.redirected (context.depth + 1) query) :: context.journal }

theorem runIn_followQuery (query : String) (context : Context) :
    (followQuery query).runIn context =
      (((answerQuery query).runIn (context.descended query)).1,
        { ((answerQuery query).runIn (context.descended query)).2 with
          depth := context.depth }) := by
  rw [followQuery, runIn_deeper, runIn_bind, runIn_noteRedirected, Context.descended]

/-- **A query is followed unless the depth has reached the limit.** -/
theorem runIn_redirect (query : String) (context : Context) :
    (redirect query).runIn context =
      if context.agent.settings.maxRedirects ≤ context.depth then
        (exceedRedirects query).runIn context
      else (followQuery query).runIn context := by
  rw [redirect, runIn_redirectsLeft_bind]
  split
  · rename_i reached
    rw [Nat.sub_eq_zero_of_le reached, redirectWithin]
  · rename_i below
    let limit := context.agent.settings.maxRedirects
    have left : limit - context.depth = limit - (context.depth + 1) + 1 := by omega
    have replying := alike_replying_atDepth limit (context.depth + 1)
    have answers : ∀ sentence, Alike (AtDepth limit (context.depth + 1)) (Option Reply)
        (respondOver (redirectWithin (limit - (context.depth + 1))) sentence)
        (respond sentence) := by
      intro sentence
      rw [respond_eq]
      exact replying.respondOver (alike_redirect limit (context.depth + 1)) sentence
    have followed := replying.map (replying.replies answers (Text.sentences query)) Text.unwords
    have descended : AtDepth limit (context.depth + 1) (context.descended query) := ⟨rfl, rfl⟩
    have same := (followed _ descended).1
    change (redirectWithin (limit - context.depth) query).runIn context = _
    rw [runIn_followQuery, answerQuery, ← same, left, redirectWithin, runIn_deeper, runIn_bind,
      runIn_noteRedirected, Context.descended]

/-! ### Templates with a step of their own -/

theorem run_assign (name : String) (value : Template) :
    (Template.assign name value).run = (do
      let text ← value.run
      setPredicate name text
      pure text : Evaluation String) := by
  rw [Template.run_eq, Template.run_eq, Template.evaluate]

theorem run_redirect (content : Template) :
    (Template.redirect content).run = (do redirect (← content.run) : Evaluation String) := by
  rw [Template.run_eq, Template.run_eq, Template.evaluate]

theorem run_redirectCapture :
    Template.redirectCapture.run =
      (do redirect ((← captures).get .pattern 1) : Evaluation String) := by
  rw [Template.run_eq, Template.evaluate]

/-! ### Conditions -/

section Condition

variable {guards : List Guard} {guard : Guard} {context after : Context} {text : String}

/-- The branches of a condition. -/
def branchesOf (guards : List Guard) : List Branch := branches redirect guards

/-- The guard whose body a condition evaluates. -/
def Context.chosen (context : Context) (guards : List Guard) : Option Guard :=
  chosenGuard redirect guards context.agent.predicates

theorem runIn_evaluateOnce_of_none (nothing : context.chosen guards = none) :
    (evaluateOnce (branchesOf guards)).runIn context = (.ok none, context) := by
  unfold Context.chosen at nothing
  rw [evaluateOnce, runIn_look_bind, branchesOf, find?_branches, nothing]
  rfl

/-- The chosen body is evaluated, and the pass is counted if it asks for another one. -/
theorem runIn_evaluateOnce_of_some (chosen : context.chosen guards = some guard) :
    (evaluateOnce (branchesOf guards)).runIn context =
      (do
        let (text, again) ← underCondition guard.body.run
        if again then countLoop
        pure (some (text, again)) : Evaluation (Option (String × Bool))).runIn context := by
  unfold Context.chosen at chosen
  rw [evaluateOnce, runIn_look_bind, branchesOf, find?_branches, chosen, Option.map_some]
  dsimp only
  rw [body_branch, Template.run_eq]

/-- The body is interrupted. -/
theorem pass_interrupted {interruption : Interruption} (chosen : context.chosen guards = some guard)
    (ran : guard.body.run.runIn { context with looping := false } =
      (.error interruption, after)) :
    (evaluateOnce (branchesOf guards)).runIn context =
      (.error interruption, { after with looping := context.looping }) := by
  rw [runIn_evaluateOnce_of_some chosen, runIn_bind, runIn_underCondition, ran]
  rfl

/-- The body does not ask for another pass. -/
theorem pass_last (chosen : context.chosen guards = some guard)
    (ran : guard.body.run.runIn { context with looping := false } = (.ok text, after))
    (done : after.looping = false) :
    (evaluateOnce (branchesOf guards)).runIn context =
      (.ok (some (text, false)), { after with looping := context.looping }) := by
  rw [runIn_evaluateOnce_of_some chosen, runIn_bind, runIn_underCondition, ran]
  dsimp only [Except.map]
  rw [done]
  rfl

/-- The body asks for another pass, and the turn allows one. -/
theorem pass_counted (chosen : context.chosen guards = some guard)
    (ran : guard.body.run.runIn { context with looping := false } = (.ok text, after))
    (asks : after.looping = true) (allowed : after.loops < after.agent.settings.maxLoops) :
    (evaluateOnce (branchesOf guards)).runIn context =
      (.ok (some (text, true)),
        { after with looping := context.looping, loops := after.loops + 1 }) := by
  rw [runIn_evaluateOnce_of_some chosen, runIn_bind, runIn_underCondition, ran]
  dsimp only [Except.map]
  rw [asks, if_pos rfl, runIn_bind, runIn_countLoop, if_neg (Nat.not_lt.mpr allowed)]
  rfl

/-- The body asks for another pass, and the turn allows none. -/
theorem pass_stopped (chosen : context.chosen guards = some guard)
    (ran : guard.body.run.runIn { context with looping := false } = (.ok text, after))
    (asks : after.looping = true) (refused : after.agent.settings.maxLoops ≤ after.loops) :
    (evaluateOnce (branchesOf guards)).runIn context =
      (.error (.loopLimit after.agent.settings.maxLoops),
        { after with
          looping := context.looping
          loops := after.loops + 1
          journal := .notice (.loopLimitReached after.agent.settings.maxLoops) ::
            after.journal }) := by
  rw [runIn_evaluateOnce_of_some chosen, runIn_bind, runIn_underCondition, ran]
  dsimp only [Except.map]
  rw [asks, if_pos rfl, runIn_bind, runIn_countLoop, if_pos (Nat.lt_succ_of_le refused),
    runIn_exceedLoops]

/-- What another pass starts from: a pass was counted, and no more than allowed. -/
theorem loops_of_again
    (ran : (evaluateOnce (branchesOf guards)).runIn context = (.ok (some (text, true)), after)) :
    after.agent.settings = context.agent.settings ∧ context.loops < after.loops ∧
      after.loops ≤ after.agent.settings.maxLoops := by
  cases chosen : context.chosen guards with
  | none =>
    rw [runIn_evaluateOnce_of_none chosen] at ran
    cases ran
  | some guard =>
  have advances := advances_course.run guard.body { context with looping := false }
  cases body : guard.body.run.runIn { context with looping := false } with
  | mk result left =>
  rw [body] at advances
  cases result with
  | error interruption =>
    rw [pass_interrupted chosen body] at ran
    cases ran
  | ok text =>
    cases asks : left.looping with
    | false =>
      rw [pass_last chosen body asks] at ran
      cases ran
    | true =>
      rcases Nat.lt_or_ge left.loops left.agent.settings.maxLoops with allowed | refused
      · rw [pass_counted chosen body asks allowed] at ran
        cases ran
        exact ⟨advances.settings, Nat.lt_succ_of_le advances.loops_le, allowed⟩
      · rw [pass_stopped chosen body asks refused] at ran
        cases ran

/-- One evaluation more than the turn allows makes no difference. -/
theorem runIn_evaluateAgain_succ {left : Nat} {context : Context}
    (enough : context.agent.settings.maxLoops ≤ context.loops + left) :
    (evaluateAgain (branchesOf guards) (left + 1)).runIn context =
      (evaluateAgain (branchesOf guards) left).runIn context := by
  induction left generalizing context with
  | zero =>
    rw [evaluateAgain, evaluateAgain, runIn_bind, runIn_bind]
    cases ran : (evaluateOnce (branchesOf guards)).runIn context with
    | mk result after =>
    match result with
    | .error _ | .ok none | .ok (some (_, false)) => rfl
    | .ok (some (text, true)) =>
      have counted := loops_of_again ran
      rw [counted.1] at counted
      omega
  | succ left ih =>
    conv_lhs => rw [evaluateAgain, runIn_bind]
    conv_rhs => rw [evaluateAgain, runIn_bind]
    cases ran : (evaluateOnce (branchesOf guards)).runIn context with
    | mk result after =>
    match result with
    | .error _ | .ok none | .ok (some (_, false)) => rfl
    | .ok (some (text, true)) =>
      have counted := loops_of_again ran
      have enoughAfter : after.agent.settings.maxLoops ≤ after.loops + left := by
        rw [counted.1]
        omega
      dsimp only
      rw [runIn_bind, runIn_bind, ih enoughAfter]

/-- The texts of the passes of a condition. -/
def passes (guards : List Guard) : Evaluation (List String) := do
  evaluateAgain (branchesOf guards) (← loopsLeft)

/-- Any number of evaluations that covers what the turn allows gives the passes. -/
theorem runIn_evaluateAgain {left : Nat}
    (enough : context.agent.settings.maxLoops ≤ context.loops + left) :
    (evaluateAgain (branchesOf guards) left).runIn context = (passes guards).runIn context := by
  have covered : ∀ extra, (evaluateAgain (branchesOf guards)
      (context.agent.settings.maxLoops - context.loops + extra)).runIn context =
        (passes guards).runIn context := by
    intro extra
    induction extra with
    | zero => rfl
    | succ extra ih =>
      rw [← Nat.add_assoc, runIn_evaluateAgain_succ (by omega), ih]
  have exact_left : left = context.agent.settings.maxLoops - context.loops +
      (left - (context.agent.settings.maxLoops - context.loops)) := by omega
  rw [exact_left]
  exact covered _

theorem run_condition (guards : List Guard) :
    (Template.condition guards).run = do return Text.unwords (← passes guards) := by
  rw [Template.run_eq, Template.evaluate, condition, passes, bind_assoc]
  rfl

/-- **A condition is evaluated once, and again as long as it asks for that.** Only counting
compares with the limit. -/
theorem passes_eq (guards : List Guard) :
    passes guards = (do
      match ← evaluateOnce (branchesOf guards) with
      | none => pure []
      | some (text, false) => pure [text]
      | some (text, true) => do
        let texts ← passes guards
        pure (text :: texts) : Evaluation (List String)) := by
  refine funext fun context => ?_
  have enough : (evaluateAgain (branchesOf guards)
      (context.agent.settings.maxLoops + 1)).runIn context = (passes guards).runIn context :=
    runIn_evaluateAgain (by omega)
  change (passes guards).runIn context = Evaluation.runIn _ context
  rw [← enough, evaluateAgain, runIn_bind, runIn_bind]
  cases ran : (evaluateOnce (branchesOf guards)).runIn context with
  | mk result after =>
  match result with
  | .error _ | .ok none | .ok (some (_, false)) => rfl
  | .ok (some (text, true)) =>
    have enoughAfter : after.agent.settings.maxLoops ≤
        after.loops + context.agent.settings.maxLoops := by
      rw [(loops_of_again ran).1]
      omega
    dsimp only
    rw [runIn_bind, runIn_bind, runIn_evaluateAgain enoughAfter]

end Condition

end Dialogue
