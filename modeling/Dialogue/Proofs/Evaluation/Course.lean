/-
**What an evaluation does to its context.**

A relation between the context before a step and the one after it is a course of evaluation if the
changes that elementary steps make follow it, if it is kept from step to step, and if it is kept by
what is put back after a condition, a category or a redirection. Every template and every reply
follows a course, whether it succeeds or is interrupted, and so does every turn if noting a sentence
of the input does.

* `PlainCourse`, `PlainCourse.elementary`: the relation for steps without a body;
* `InnerCourse`, `InnerCourse.redirecting`: the relation, and how it is one that templates and
  replies respect; `InnerCourse.redirect`, `InnerCourse.run`, `InnerCourse.respond`: what follows;
* `Course`, `Course.answer`, `Course.answerSentence`: the same for turns.
-/

import Dialogue.Proofs.Evaluation.Congruence

namespace Dialogue

open Evaluation

variable {α : Type}

/-- **A relation between a context and the one that a step without a body leaves.** -/
structure PlainCourse (Leads : Context → Context → Prop) : Prop where
  refl (context : Context) : Leads context context
  trans {first second third : Context} : Leads first second → Leads second third →
    Leads first third
  askAgain (context : Context) : Leads context { context with looping := true }
  record (context : Context) {event : Event}
    (aside : ∀ notice, event = .notice notice → notice.isAside) :
    Leads context { context with journal := event :: context.journal }
  setPredicate (context : Context) (name value : String) :
    Leads context { context with
      agent := { context.agent with predicates := context.agent.predicates.set name value } }
  draw (context : Context) (draws : Draws) :
    Leads context { context with agent := { context.agent with draws := draws } }
  learn (context : Context) (definition : Definition) :
    Leads context ((learn definition).runIn context).2
  unlearn (context : Context) : Leads context (unlearn.runIn context).2

/-- **A relation between a context and the one that a step of a template leaves.** -/
structure InnerCourse (Leads : Context → Context → Prop) : Prop extends PlainCourse Leads where
  countLoop (context : Context) : Leads context { context with loops := context.loops + 1 }
  redirected (context : Context) (query : String) :
    Leads context { context with
      journal := .notice (.redirected context.depth query) :: context.journal }
  underCondition {context after : Context} : Leads { context with looping := false } after →
    Leads context { after with looping := context.looping }
  inCategory {context after : Context} (captures : Captures) :
    Leads { context with captures := captures, looping := false } after →
      Leads context { after with captures := context.captures, looping := context.looping }
  deeper {context after : Context} : Leads { context with depth := context.depth + 1 } after →
    Leads context { after with depth := context.depth }

/-- **A relation between a context and the one that a step of a turn leaves.** -/
structure Course (Leads : Context → Context → Prop) : Prop extends InnerCourse Leads where
  recordInput (context : Context) (sentence : String) :
    Leads context { context with
      agent := { context.agent with history := context.agent.history.recordInput sentence } }

/-- A step follows a course in every context; the other one is not looked at. -/
def Follows (Leads : Context → Context → Prop) (α : Type) (first _ : Evaluation α) : Prop :=
  ∀ context, Leads context (first.runIn context).2

namespace PlainCourse

variable {Leads : Context → Context → Prop} (course : PlainCourse Leads)

include course

theorem follows_bind {β : Type} {first second : Evaluation α}
    {firstNext secondNext : α → Evaluation β} (step : Follows Leads α first second)
    (next : ∀ value, Follows Leads β (firstNext value) (secondNext value)) :
    Follows Leads β (first >>= firstNext) (second >>= secondNext) := by
  intro context
  have led := step context
  rw [runIn_bind]
  generalize first.runIn context = outcome at led ⊢
  obtain ⟨result, after⟩ := outcome
  cases result with
  | error interruption => exact led
  | ok value => exact course.trans led (next value after)

theorem follows_record {event : Event}
    (aside : ∀ notice, event = .notice notice → notice.isAside) :
    Follows Leads Unit (Evaluation.record event) (Evaluation.record event) :=
  fun context => course.record context aside

theorem follows_note {notice : Notice} (aside : notice.isAside) :
    Follows Leads Unit (note notice) (note notice) := by
  refine course.follows_record fun other same => ?_
  rwa [← Event.notice.inj same]

theorem follows_recordAll {events : List Event}
    (aside : ∀ event ∈ events, ∀ notice, event = .notice notice → notice.isAside) :
    Follows Leads Unit (recordAll events) (recordAll events) := by
  induction events with
  | nil => exact course.refl
  | cons event events ih =>
    have first := course.follows_record (aside event List.mem_cons_self)
    have others := ih fun other member => aside other (List.mem_cons_of_mem _ member)
    rw [recordAll, List.forM_eq_forM, List.forM_cons]
    exact course.follows_bind first fun _ => others

theorem elementary : Elementary (Follows Leads) where
  pure _ := course.refl
  bind := course.follows_bind
  look _ := course.refl
  captures := course.refl
  askAgain := course.askAgain
  note aside := course.follows_note aside
  setPredicate name value := by
    refine course.follows_bind (fun context => course.refl context) fun agent => ?_
    refine course.follows_bind (fun context => course.setPredicate context name value) fun _ => ?_
    refine course.follows_recordAll fun event told notice same => ?_
    obtain ⟨notification, _, notified⟩ := List.mem_map.mp told
    rw [same] at notified
    cases notified
  draw choices := by
    refine course.follows_bind (fun context => course.refl context) fun index => ?_
    refine course.follows_bind (fun context => course.draw context _) fun _ => ?_
    exact fun context => course.refl context
  learn definition context := course.learn context definition
  unlearn := course.unlearn

theorem follows_exceedLoops : Follows Leads α exceedLoops exceedLoops := by
  refine course.follows_bind (fun context => course.refl context) fun limit => ?_
  refine course.follows_bind (course.follows_note rfl) fun _ => ?_
  exact fun context => course.refl context

end PlainCourse

namespace InnerCourse

variable {Leads : Context → Context → Prop} (course : InnerCourse Leads)

include course

theorem rerunning : Rerunning (Follows Leads) where
  toElementary := course.elementary
  underCondition body context := course.underCondition (body _)
  countLoop := by
    refine course.follows_bind (fun context => course.countLoop context) fun _ => ?_
    refine course.follows_bind (fun context => course.refl context) fun agent => ?_
    refine course.follows_bind (fun context => course.refl context) fun context => ?_
    split
    · exact course.follows_exceedLoops
    · exact course.refl
  exceedLoops := course.follows_exceedLoops
  loopsLeft := course.refl

/-- **Every reply follows a course.** -/
theorem redirecting : Redirecting (Follows Leads) where
  toCongruence := course.rerunning.congruence
  inCategory captures body _ := course.inCategory captures (body _)
  deeper body _ := course.deeper (body _)
  noteRedirected query context := course.redirected context query
  exceedRedirects query := by
    refine course.follows_bind (fun context => course.refl context) fun limit => ?_
    refine course.follows_bind (course.follows_note rfl) fun _ => ?_
    exact fun context => course.refl context

theorem redirect (query : String) : Follows Leads String (redirect query) (redirect query) :=
  course.follows_bind (fun context => course.refl context) fun left =>
    course.redirecting.redirectWithin left query

theorem run (template : Template) (context : Context) :
    Leads context (template.run.runIn context).2 :=
  course.redirecting.run course.refl template context

theorem respond (sentence : String) (context : Context) :
    Leads context ((respond sentence).runIn context).2 :=
  course.redirecting.respond course.refl sentence context

end InnerCourse

namespace Course

variable {Leads : Context → Context → Prop} (course : Course Leads)

include course

theorem answering : Answering (Follows Leads) where
  toElementary := course.elementary
  respond := course.redirecting.respond course.refl
  recordInput sentence context := course.recordInput context sentence
  classifier := course.refl
  consulted _ := course.follows_record fun _ same => by cases same

/-- **A turn follows a course.** -/
theorem answer (sentences : List String) (context : Context) :
    Leads context ((Evaluation.answer sentences).runIn context).2 :=
  course.answering.answer sentences context

theorem answerSentence (sentence : String) (context : Context) :
    Leads context ((Evaluation.answerSentence sentence).runIn context).2 :=
  course.answering.answerSentence sentence context

end Course

end Dialogue
