/-
**Evaluations end.**

A redirection jumps to whatever category answers, also to one that was learned on the way, and a
condition is evaluated again as long as it asks for that. Still what is evaluated inside an
evaluation is always smaller, and an evaluation ends with a text or at a limit.

* `Succeeds`: a step that is never interrupted; the steps without a body are such;
* `Ends`: a step that is interrupted by nothing but the limits of the settings, and that counts no
  more loops than they allow, up to the one at which it stops;
* `ends_redirecting`, `ends_answer`: templates, replies and turns end so;
* `evaluation_terminates`: evaluations in terms of themselves, what gets smaller, and how they end.
-/

import Dialogue.Proofs.Evaluation.Accounts
import Dialogue.Proofs.Evaluation.Limits

namespace Dialogue

open Evaluation

variable {α : Type}

/-! ### Steps that succeed -/

/-- A step that is never interrupted; the other one is not looked at. -/
def Succeeds (α : Type) (first _ : Evaluation α) : Prop :=
  ∀ context, ∃ value, (first.runIn context).1 = .ok value

theorem succeeds_bind {β : Type} {first second : Evaluation α}
    {firstNext secondNext : α → Evaluation β} (step : Succeeds α first second)
    (next : ∀ value, Succeeds β (firstNext value) (secondNext value)) :
    Succeeds β (first >>= firstNext) (second >>= secondNext) := by
  intro context
  obtain ⟨value, succeeded⟩ := step context
  rw [runIn_bind]
  generalize first.runIn context = outcome at succeeded
  obtain ⟨result, after⟩ := outcome
  cases succeeded
  exact next value after

theorem succeeds_elementary : Elementary Succeeds where
  pure value _ := ⟨value, rfl⟩
  bind := succeeds_bind
  look _ _ := ⟨_, rfl⟩
  captures _ := ⟨_, rfl⟩
  askAgain _ := ⟨_, rfl⟩
  note _ _ := ⟨_, rfl⟩
  setPredicate name value context := ⟨(), congrArg Prod.fst (runIn_setPredicate name value context)⟩
  draw choices context := ⟨_, congrArg Prod.fst (runIn_draw choices context)⟩
  learn definition context := by
    cases compiled : definition.compile context.agent.normalizer .learned with
    | ok category => exact ⟨(), congrArg Prod.fst (runIn_learn_of_ok compiled)⟩
    | error fault => exact ⟨(), congrArg Prod.fst (runIn_learn_of_error compiled)⟩
  unlearn context := ⟨(), congrArg Prod.fst (runIn_unlearn context)⟩

/-! ### Steps that end at a limit -/

/-- An interruption by a limit of some settings. -/
def Settings.Allows (settings : Settings) (interruption : Interruption) : Prop :=
  interruption = .redirectLimit settings.maxRedirects ∨
    interruption = .loopLimit settings.maxLoops

/-- **A step that only the limits interrupt**; the other one is not looked at. -/
structure Ends (α : Type) (first second : Evaluation α) : Prop where
  settings (context : Context) :
    (first.runIn context).2.agent.settings = context.agent.settings
  ok {context after : Context} {value : α} : first.runIn context = (.ok value, after) →
    context.loops ≤ context.agent.settings.maxLoops →
      after.loops ≤ context.agent.settings.maxLoops
  error {context after : Context} {interruption : Interruption} :
    first.runIn context = (.error interruption, after) →
      context.agent.settings.Allows interruption ∧
        (context.loops ≤ context.agent.settings.maxLoops →
          after.loops ≤ context.agent.settings.maxLoops + 1)

namespace Ends

variable {first second : Evaluation α}

/-- A step that succeeds and counts no loops. -/
theorem of_succeeds (succeeds : Succeeds α first second)
    (settings : ∀ context, (first.runIn context).2.agent.settings = context.agent.settings)
    (loops : ∀ context, (first.runIn context).2.loops = context.loops) : Ends α first second where
  settings := settings
  ok {context after value} ran within := by
    have same := loops context
    rw [ran] at same
    rw [same]
    exact within
  error {context after interruption} ran := by
    obtain ⟨value, succeeded⟩ := succeeds context
    rw [ran] at succeeded
    cases succeeded

theorem bind {β : Type} {firstNext secondNext : α → Evaluation β} (step : Ends α first second)
    (next : ∀ value, Ends β (firstNext value) (secondNext value)) :
    Ends β (first >>= firstNext) (second >>= secondNext) where
  settings context := by
    have kept := step.settings context
    rw [runIn_bind]
    generalize first.runIn context = outcome at kept ⊢
    obtain ⟨result, middle⟩ := outcome
    cases result with
    | error interruption => exact kept
    | ok value => exact ((next value).settings middle).trans kept
  ok {context after result} ran within := by
    obtain ⟨value, middle, stepped, continued⟩ := exists_of_runIn_bind ran
    have kept := step.settings context
    rw [stepped] at kept
    have withinMiddle := step.ok stepped within
    rw [← kept] at withinMiddle ⊢
    exact (next value).ok continued withinMiddle
  error {context after interruption} ran := by
    rw [runIn_bind] at ran
    cases stepped : first.runIn context with
    | mk result middle =>
    rw [stepped] at ran
    cases result with
    | error other =>
      cases ran
      exact step.error stepped
    | ok value =>
      have kept := step.settings context
      rw [stepped] at kept
      have ended := (next value).error ran
      rw [kept] at ended
      exact ⟨ended.1, fun within => ended.2 (step.ok stepped within)⟩

end Ends

theorem ends_elementary : Elementary Ends where
  pure value := .of_succeeds (succeeds_elementary.pure value) (fun _ => rfl) fun _ => rfl
  bind := .bind
  look blind := .of_succeeds (succeeds_elementary.look blind) (fun _ => rfl) fun _ => rfl
  captures := .of_succeeds succeeds_elementary.captures (fun _ => rfl) fun _ => rfl
  askAgain := .of_succeeds succeeds_elementary.askAgain (fun _ => rfl) fun _ => rfl
  note aside := .of_succeeds (succeeds_elementary.note aside) (fun _ => rfl) fun _ => rfl
  setPredicate name value := .of_succeeds (succeeds_elementary.setPredicate name value)
    (fun context => (advances_course.elementary.setPredicate name value context).settings)
    fun context => (stays_course.elementary.setPredicate name value context).loops
  draw choices := .of_succeeds (succeeds_elementary.draw choices)
    (fun context => (advances_course.elementary.draw choices context).settings)
    fun context => (stays_course.elementary.draw choices context).loops
  learn definition := .of_succeeds (succeeds_elementary.learn definition)
    (fun context => (advances_course.learn context definition).settings)
    fun context => (stays_course.learn context definition).loops
  unlearn := .of_succeeds succeeds_elementary.unlearn
    (fun context => (advances_course.unlearn context).settings)
    fun context => (stays_course.unlearn context).loops

/-- What is done inside something ends as it does alone. -/
theorem Ends.inside {β : Type} {first second : Evaluation α} {outer other : Evaluation β}
    (body : Ends α first second) (enter : Context → Context)
    (leave : Context → Context → Context) (image : Context → α → β)
    (entered : ∀ context, (enter context).agent = context.agent ∧
      (enter context).loops = context.loops)
    (left : ∀ context after, (leave context after).agent = after.agent ∧
      (leave context after).loops = after.loops)
    (runs : ∀ context, outer.runIn context =
      ((first.runIn (enter context)).1.map (image (first.runIn (enter context)).2),
        leave context (first.runIn (enter context)).2)) : Ends β outer other where
  settings context := by
    rw [runs, (left _ _).1, body.settings, (entered context).1]
  ok {context after value} ran within := by
    rw [runs] at ran
    cases inside : first.runIn (enter context) with
    | mk result middle =>
    rw [inside] at ran
    cases result with
    | error interruption => cases ran
    | ok found =>
      cases ran
      have ended := body.ok inside
      rw [(entered context).1, (entered context).2] at ended
      rw [(left context middle).2]
      exact ended within
  error {context after interruption} ran := by
    rw [runs] at ran
    cases inside : first.runIn (enter context) with
    | mk result middle =>
    rw [inside] at ran
    cases result with
    | ok found => cases ran
    | error other =>
      cases ran
      have ended := body.error inside
      rw [(entered context).1, (entered context).2] at ended
      rw [(left context middle).2]
      exact ended

theorem ends_exceedLoops {second : Evaluation α} : Ends α exceedLoops second where
  settings context := by rw [runIn_exceedLoops]
  ok ran := by
    rw [runIn_exceedLoops] at ran
    cases ran
  error ran := by
    rw [runIn_exceedLoops] at ran
    cases ran
    exact ⟨.inr rfl, Nat.le_succ_of_le⟩

theorem ends_countLoop : Ends Unit countLoop countLoop where
  settings context := (advances_course.rerunning.countLoop context).settings
  ok {context after _} ran _ := by
    rw [runIn_countLoop] at ran
    split at ran
    · rw [runIn_exceedLoops] at ran
      cases ran
    · rename_i allowed
      cases ran
      exact Nat.le_of_not_lt allowed
  error {context after interruption} ran := by
    rw [runIn_countLoop] at ran
    split at ran
    · rw [runIn_exceedLoops] at ran
      cases ran
      exact ⟨.inr rfl, Nat.succ_le_succ⟩
    · cases ran

theorem ends_exceedRedirects (query : String) :
    Ends String (exceedRedirects query) (exceedRedirects query) where
  settings context := by rw [runIn_exceedRedirects]
  ok ran := by
    rw [runIn_exceedRedirects] at ran
    cases ran
  error ran := by
    rw [runIn_exceedRedirects] at ran
    cases ran
    exact ⟨.inl rfl, Nat.le_succ_of_le⟩

theorem ends_rerunning : Rerunning Ends where
  toElementary := ends_elementary
  underCondition body := body.inside (fun context => { context with looping := false })
    (fun context after => { after with looping := context.looping })
    (fun after value => (value, after.looping))
    (fun _ => ⟨rfl, rfl⟩) (fun _ _ => ⟨rfl, rfl⟩) (runIn_underCondition _)
  countLoop := ends_countLoop
  exceedLoops := ends_exceedLoops
  loopsLeft := .of_succeeds (fun _ => ⟨_, rfl⟩) (fun _ => rfl) fun _ => rfl

theorem ends_redirecting : Redirecting Ends where
  toCongruence := ends_rerunning.congruence
  inCategory {_ first _} captures body := body.inside
    (fun context => { context with captures := captures, looping := false })
    (fun context after => { after with captures := context.captures, looping := context.looping })
    (fun _ => id) (fun _ => ⟨rfl, rfl⟩) (fun _ _ => ⟨rfl, rfl⟩) fun context => by
      rw [runIn_inCategory, Except.map_id, id]
  deeper body := body.inside (fun context => { context with depth := context.depth + 1 })
    (fun context after => { after with depth := context.depth })
    (fun _ => id) (fun _ => ⟨rfl, rfl⟩) (fun _ _ => ⟨rfl, rfl⟩) fun context => by
      rw [runIn_deeper, Except.map_id, id]
  noteRedirected query := .of_succeeds (fun _ => ⟨(), rfl⟩) (fun _ => rfl) fun _ => rfl
  exceedRedirects := ends_exceedRedirects

theorem ends_redirectsLeft : Ends Nat redirectsLeft redirectsLeft :=
  .of_succeeds (fun _ => ⟨_, rfl⟩) (fun _ => rfl) fun _ => rfl

/-- **A template ends with a text or at a limit.** -/
theorem ends_run (template : Template) : Ends String template.run template.run :=
  ends_redirecting.run ends_redirectsLeft template

/-- **A turn ends with replies or at a limit.** -/
theorem ends_answer (sentences : List String) :
    Ends (List Reply) (answer sentences) (answer sentences) := by
  have answering : Answering Ends :=
    { toElementary := ends_elementary
      respond := ends_redirecting.respond ends_redirectsLeft
      recordInput := fun _ => .of_succeeds (fun _ => ⟨(), rfl⟩) (fun _ => rfl) fun _ => rfl
      classifier := .of_succeeds (fun _ => ⟨_, rfl⟩) (fun _ => rfl) fun _ => rfl
      consulted := fun _ => .of_succeeds (fun _ => ⟨(), rfl⟩) (fun _ => rfl) fun _ => rfl }
  exact answering.answer sentences

theorem takeTurn_ends (agent : Agent) (input : String) :
    (∃ turn, (agent.takeTurn input).1 = .ok turn) ∨
      ∃ interruption, (agent.takeTurn input).1 = .error interruption ∧
        agent.settings.Allows interruption := by
  cases answered : (answer (agent.inputSentences input)).runIn { agent := agent } with
  | mk result after =>
  cases result with
  | ok replies => exact .inl ⟨_, congrArg Prod.fst (Agent.takeTurn_of_ok answered)⟩
  | error interruption =>
    have ended := (ends_answer _).error answered
    exact .inr ⟨interruption, congrArg Prod.fst (Agent.takeTurn_of_error answered), ended.1⟩

/-- The loops of a turn are never counted beyond the one at which it stops. -/
theorem loops_answer_le (agent : Agent) (input : String) :
    ((answer (agent.inputSentences input)).runIn { agent := agent }).2.loops ≤
      agent.settings.maxLoops + 1 := by
  have start : ({ agent := agent } : Context).loops ≤ agent.settings.maxLoops := Nat.zero_le _
  cases answered : (answer (agent.inputSentences input)).runIn { agent := agent } with
  | mk result after =>
  cases result with
  | ok replies => exact Nat.le_succ_of_le ((ends_answer _).ok answered start)
  | error interruption => exact ((ends_answer _).error answered).2 start

/-- **Evaluations come to an end.**

Templates, replies, redirections and conditions are what they are in terms of themselves: the depth
of a redirection is compared with its limit, a repeated pass is counted and compared with its limit,
and nothing else bounds the recursion. Whatever is evaluated directly inside the evaluation of a
template is smaller: more redirections are used up, or as many and more loops, or as many of both and
the template is smaller. So an evaluation gives a text or is interrupted by one of the two limits,
and so is a turn. All conditions of a turn together are evaluated again no more often than the
settings allow. -/
theorem evaluation_terminates :
    (∀ template : Template, template.run = template.evaluate redirect) ∧
    (∀ sentence, respond sentence = respondOver redirect sentence) ∧
    (∀ query context, (redirect query).runIn context =
      if context.agent.settings.maxRedirects ≤ context.depth then
        (exceedRedirects query).runIn context
      else (followQuery query).runIn context) ∧
    (∀ guards, (Template.condition guards).run = do return Text.unwords (← passes guards)) ∧
    (∀ guards, passes guards = (do
      match ← evaluateOnce (branchesOf guards) with
      | none => pure []
      | some (text, false) => pure [text]
      | some (text, true) => do
        let texts ← passes guards
        pure (text :: texts) : Evaluation (List String))) ∧
    WellFounded Smaller ∧
    (∀ template part context place, .evaluates part place ∈ template.marks context →
      Smaller (part, place) (template, context)) ∧
    (∀ (template : Template) (context : Context),
      (∃ text, (template.run.runIn context).1 = .ok text) ∨
        ∃ interruption, (template.run.runIn context).1 = .error interruption ∧
          context.agent.settings.Allows interruption) ∧
    ∀ (agent : Agent) (input : String),
      ((∃ turn, (agent.takeTurn input).1 = .ok turn) ∨
        ∃ interruption, (agent.takeTurn input).1 = .error interruption ∧
          agent.settings.Allows interruption) ∧
      reruns (agent.chronicle input) ≤ agent.settings.maxLoops ∧
      ((answer (agent.inputSentences input)).runIn { agent := agent }).2.loops ≤
        agent.settings.maxLoops + 1 := by
  refine ⟨Template.run_eq, respond_eq, runIn_redirect, run_condition, passes_eq,
    smaller_wellFounded, fun _ _ _ _ => smaller_of_mem_marks, ?_, fun agent input => ?_⟩
  · intro template context
    cases ran : template.run.runIn context with
    | mk result after =>
    cases result with
    | ok text => exact .inl ⟨text, rfl⟩
    | error interruption =>
      exact .inr ⟨interruption, rfl, ((ends_run template).error ran).1⟩
  · refine ⟨takeTurn_ends agent input, ?_, loops_answer_le agent input⟩
    exact (agent.accounts_chronicle input).reruns_le

end Dialogue
