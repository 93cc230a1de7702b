/-
**What steps leave alone.**

* `Keeps`: a step leaves what is seen of a context as it was, also when it is interrupted;
* `Overlooks`: a view of contexts that sees neither what has happened nor the repertoire. Every step
  of a template but a few keeps such a view;
* `view_evaluate_of_parts`: so a plain template changes what its parts change.
-/

import Dialogue.Proofs.Evaluation.Calls

namespace Dialogue

open Evaluation

variable {α β γ : Type}

/-- **A step that leaves what is seen of a context as it was.** -/
def Keeps (view : Context → γ) (action : Evaluation α) : Prop :=
  ∀ context, view (action.runIn context).2 = view context

section Keeps

variable {view : Context → γ}

theorem keeps_pure (value : α) : Keeps view (pure value) := fun _ => rfl

theorem keeps_look (see : Agent → α) : Keeps view (look see) := fun _ => rfl

/-- A step that keeps a view leaves what an earlier one made of it. -/
theorem view_bind (view : Context → γ) {action : Evaluation α} {next : α → Evaluation β}
    (keeps : ∀ value, Keeps view (next value)) (context : Context) :
    view ((action >>= next).runIn context).2 = view (action.runIn context).2 := by
  rw [runIn_bind]
  generalize action.runIn context = outcome
  obtain ⟨result, after⟩ := outcome
  cases result with
  | error interruption => rfl
  | ok value => exact keeps value after

theorem Keeps.bind {action : Evaluation α} {next : α → Evaluation β} (first : Keeps view action)
    (keeps : ∀ value, Keeps view (next value)) : Keeps view (action >>= next) :=
  fun context => (view_bind view keeps context).trans (first context)

theorem view_effect (view : Context → γ) (action : Evaluation α) (context : Context) :
    view ((effect action).runIn context).2 = view (action.runIn context).2 :=
  view_bind view (fun _ => keeps_pure ()) context

end Keeps

/-! ### Steps that note and learn -/

/-- **A view that sees neither what has happened nor the repertoire.** -/
structure Overlooks (view : Context → γ) : Prop where
  journal (context : Context) (events : List Event) :
    view { context with journal := events } = view context
  repertoire (context : Context) (repertoire : Repertoire) :
    view { context with agent := { context.agent with repertoire := repertoire } } = view context

namespace Overlooks

variable {view : Context → γ} (overlooks : Overlooks view)

include overlooks

theorem keeps_record (event : Event) : Keeps view (record event) :=
  fun context => overlooks.journal context _

theorem keeps_noteAll (notices : List Notice) : Keeps view (noteAll notices) := by
  intro context
  rw [runIn_noteAll]
  exact overlooks.journal context _

theorem keeps_learn (definition : Definition) : Keeps view (learn definition) := by
  intro context
  cases compiled : definition.compile context.agent.normalizer .learned with
  | ok category =>
    rw [runIn_learn_of_ok compiled]
    exact (overlooks.journal _ _).trans (overlooks.repertoire context _)
  | error fault =>
    rw [runIn_learn_of_error compiled]
    exact overlooks.journal context _

theorem keeps_unlearn : Keeps view unlearn := by
  intro context
  rw [runIn_unlearn]
  exact (overlooks.journal _ _).trans (overlooks.repertoire context _)

theorem keeps_callMap (name argument : String) : Keeps view (callMap name argument) := by
  refine (keeps_look _).bind fun image => ?_
  cases image with
  | some image => exact keeps_pure image
  | none => exact (overlooks.keeps_record _).bind fun _ => keeps_pure ""

theorem keeps_showDate (locale timezone : Option String) (layout : String) :
    Keeps view (showDate locale timezone layout) :=
  (keeps_look _).bind fun _ => (overlooks.keeps_noteAll _).bind fun _ => keeps_pure _

end Overlooks

/-! ### Plain templates -/

/-- Whether evaluating a template is evaluating its parts and then doing something that only notes
and learns. -/
def Template.isPlain : Template → Bool
  | .assign .. | .redirectCapture | .redirect _ | .condition _ | .loop | .random _ => false
  | _ => true

variable {redirect : String → Evaluation String}

theorem effect_concatenate (templates : List Template) :
    effect (concatenate (evaluateEach redirect templates)) = evaluateAll redirect templates := by
  induction templates with
  | nil => rfl
  | cons template templates ih =>
    have rest : effect (concatenate (evaluateEach redirect (template :: templates))) =
        effect (template.evaluate redirect) >>= fun _ => evaluateAll redirect templates := by
      rw [← ih]
      exact effect_bind fun _ => effect_map _ _
    rw [rest, evaluateAll, effect, bind_assoc]
    simp only [pure_bind]

/-- A template whose content is evaluated before something that keeps a view. -/
theorem view_evaluate_of_content {view : Context → γ} {content : Template}
    {next : String → Evaluation String} (keeps : ∀ text, Keeps view (next text))
    (context : Context) :
    view ((content.evaluate redirect >>= next).runIn context).2 =
      view ((evaluateAll redirect [content]).runIn context).2 := by
  rw [view_bind view keeps, evaluateAll_singleton, view_effect view]

/-- **A plain template changes what its parts change.** -/
theorem view_evaluate_of_parts {view : Context → γ} (overlooks : Overlooks view)
    {template : Template} (plain : template.isPlain) (context : Context) :
    view ((template.evaluate redirect).runIn context).2 =
      view ((evaluateAll redirect template.parts).runIn context).2 := by
  cases template with
  | text text => rfl
  | sequence parts => rw [Template.evaluate, Template.parts, ← effect_concatenate, view_effect view]
  | capture segment index => rfl
  | think inner => exact view_evaluate_of_content (fun _ => keeps_pure "") context
  | «recall» name => rfl
  | property name => rfl
  | map name inner =>
    exact view_evaluate_of_content (fun _ => overlooks.keeps_callMap _ _) context
  | that turn sentence => rfl
  | input index => rfl
  | request index => rfl
  | response index => rfl
  | date locale timezone format =>
    exact view_evaluate_of_content (fun _ => overlooks.keeps_showDate _ _ _) context
  | learn lesson =>
    have learned : ∀ definition, Keeps view (do learn definition; pure "" : Evaluation String) :=
      fun definition => (overlooks.keeps_learn definition).bind fun _ => keeps_pure ""
    rw [Template.evaluate, view_bind view learned, Template.parts, ← effect_define, view_effect view]
  | unlearn => exact overlooks.keeps_unlearn.bind (fun _ => keeps_pure "") context
  | eval inner => rw [Template.evaluate, Template.parts, evaluateAll_singleton, view_effect view]
  | substitute kind inner => exact view_evaluate_of_content (fun _ => keeps_look _) context
  | styled style inner => exact view_evaluate_of_content (fun _ => keeps_pure _) context
  | assign | redirectCapture | redirect | condition | loop | random => cases plain

end Dialogue
