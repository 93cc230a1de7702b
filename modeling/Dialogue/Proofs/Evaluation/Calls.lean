/-
**Templates inside templates.**

Evaluating a template evaluates other templates: its parts in order, the item that is drawn, and the
parts of a lesson that are evaluated at once. The branches of a condition and the templates of
redirected queries are on levels of their own and do not count here.

* `Template.evals`, `Lesson.evals`: what is evaluated at once when a lesson is learned, in order;
  `effect_define`: nothing else is;
* `Template.parts`: what is evaluated in order before the template gives its own text;
* `Visits`, `Calls`, `Reaches`: which template is evaluated in which context. The way there is one
  that is actually taken.
-/

import Dialogue.Proofs.Evaluation.Steps
import Mathlib.Logic.Relation

namespace Dialogue

open Evaluation

variable {α β : Type} (redirect : String → Evaluation String)

/-! ### Parts -/

mutual

/-- The templates in the template of a lesson that are evaluated when it is learned. -/
def Template.evals : Template → List Template
  | .eval content => [content]
  | .sequence parts => evalsOfEach parts
  | .random items => evalsOfEach items
  | .condition guards => evalsOfGuards guards
  | .redirect content => content.evals
  | .think content => content.evals
  | .assign _ value => value.evals
  | .map _ content => content.evals
  | .date _ _ format => format.evals
  | .substitute _ content => content.evals
  | .styled _ content => content.evals
  | .text _ | .capture _ _ | .redirectCapture | .recall _ | .property _ | .loop | .that _ _
  | .input _ | .request _ | .response _ | .learn _ | .unlearn => []

def evalsOfEach : List Template → List Template
  | [] => []
  | template :: templates => template.evals ++ evalsOfEach templates

def evalsOfGuards : List Guard → List Template
  | [] => []
  | ⟨_, _, body⟩ :: guards => body.evals ++ evalsOfGuards guards

end

/-- The template in a part of a learned pattern. -/
def LessonPart.evals : LessonPart → List Template
  | .text _ => []
  | .eval content => [content]

/-- The templates in a learned context. -/
def evalsOfContext : Option (List LessonPart) → List Template
  | none => []
  | some parts => parts.flatMap LessonPart.evals

/-- The templates that are evaluated when a lesson is learned. -/
def Lesson.evals (lesson : Lesson) : List Template :=
  lesson.pattern.flatMap LessonPart.evals ++ evalsOfContext lesson.that ++
    evalsOfContext lesson.topic ++ lesson.template.evals

/-- The templates that are evaluated in order before a template gives its own text. -/
def Template.parts : Template → List Template
  | .sequence parts => parts
  | .redirect content | .think content | .assign _ content | .map _ content | .date _ _ content
  | .eval content | .substitute _ content | .styled _ content => [content]
  | .learn lesson => lesson.evals
  | .text _ | .capture _ _ | .redirectCapture | .recall _ | .property _ | .condition _ | .loop
  | .random _ | .that _ _ | .input _ | .request _ | .response _ | .unlearn => []

/-! ### Evaluating parts -/

namespace Evaluation

/-- A step without its value. -/
def effect (action : Evaluation α) : Evaluation Unit := do
  let _ ← action
  pure ()

/-- Some templates evaluated in order, without their texts. -/
def evaluateAll : List Template → Evaluation Unit
  | [] => pure ()
  | template :: templates => do
    let _ ← template.evaluate redirect
    evaluateAll templates

theorem effect_map (action : Evaluation α) (image : α → β) :
    effect (do return image (← action)) = effect action := by
  unfold effect
  simp only [bind_assoc, pure_bind]

/-- A step whose value makes no difference to what is done after it. -/
theorem effect_bind {action : Evaluation α} {next : α → Evaluation β} {rest : Evaluation Unit}
    (same : ∀ value, effect (next value) = rest) :
    effect (action >>= next) = effect action >>= fun _ => rest := by
  unfold effect at same ⊢
  simp only [bind_assoc, pure_bind, same]

theorem evaluateAll_append (first second : List Template) :
    evaluateAll redirect (first ++ second) =
      evaluateAll redirect first >>= fun _ => evaluateAll redirect second := by
  induction first with
  | nil => rfl
  | cons template templates ih =>
    rw [List.cons_append, evaluateAll, evaluateAll, ih, bind_assoc]

theorem evaluateAll_singleton (template : Template) :
    evaluateAll redirect [template] = effect (template.evaluate redirect) := rfl

end Evaluation

mutual

/-- **Closing a template evaluates its parts that are evaluated at once, in order.** -/
theorem effect_close : ∀ template : Template,
    effect (template.close redirect) = evaluateAll redirect template.evals
  | .eval content => effect_map (content.evaluate redirect) _
  | .sequence parts => (effect_map _ _).trans (effect_closeEach parts)
  | .random items => (effect_map _ _).trans (effect_closeEach items)
  | .condition guards => (effect_map _ _).trans (effect_closeGuards guards)
  | .redirect content => (effect_map _ _).trans (effect_close content)
  | .think content => (effect_map _ _).trans (effect_close content)
  | .assign _ value => (effect_map _ _).trans (effect_close value)
  | .map _ content => (effect_map _ _).trans (effect_close content)
  | .date _ _ format => (effect_map _ _).trans (effect_close format)
  | .substitute _ content => (effect_map _ _).trans (effect_close content)
  | .styled _ content => (effect_map _ _).trans (effect_close content)
  | .text _ => rfl
  | .capture _ _ => rfl
  | .redirectCapture => rfl
  | .recall _ => rfl
  | .property _ => rfl
  | .loop => rfl
  | .that _ _ => rfl
  | .input _ => rfl
  | .request _ => rfl
  | .response _ => rfl
  | .learn _ => rfl
  | .unlearn => rfl

theorem effect_closeEach : ∀ templates : List Template,
    effect (closeEach redirect templates) = evaluateAll redirect (evalsOfEach templates)
  | [] => rfl
  | template :: templates => by
    rw [closeEach, evalsOfEach, evaluateAll_append, ← effect_close template,
      ← effect_closeEach templates]
    exact effect_bind fun _ => effect_map _ _

theorem effect_closeGuards : ∀ guards : List Guard,
    effect (closeGuards redirect guards) = evaluateAll redirect (evalsOfGuards guards)
  | [] => rfl
  | ⟨predicate, value, body⟩ :: guards => by
    rw [closeGuards, evalsOfGuards, evaluateAll_append, ← effect_close body,
      ← effect_closeGuards guards, ← effect_map _ (Guard.mk predicate value)]
    exact effect_bind fun _ => effect_map _ _

end

theorem effect_evaluateParts (parts : List LessonPart) :
    effect (concatenate (evaluateParts redirect parts)) =
      evaluateAll redirect (parts.flatMap LessonPart.evals) := by
  induction parts with
  | nil => rfl
  | cons part parts ih =>
    have rest : effect (concatenate (evaluateParts redirect (part :: parts))) =
        effect (part.evaluate redirect) >>= fun _ =>
          evaluateAll redirect (parts.flatMap LessonPart.evals) := by
      rw [← ih]
      exact effect_bind fun _ => effect_map _ _
    rw [rest, List.flatMap_cons, evaluateAll_append]
    cases part with
    | text content => rfl
    | eval content => rfl

theorem effect_evaluateContext (context : Option (List LessonPart)) :
    effect (evaluateContext redirect context) = evaluateAll redirect (evalsOfContext context) := by
  cases context with
  | none => rfl
  | some parts => exact (effect_map _ _).trans (effect_evaluateParts redirect parts)

/-- **A lesson evaluates its parts that are evaluated at once, in order.** -/
theorem effect_define (lesson : Lesson) :
    effect (lesson.define redirect) = evaluateAll redirect lesson.evals := by
  obtain ⟨pattern, that, topic, template⟩ := lesson
  rw [Lesson.evals, evaluateAll_append, evaluateAll_append, evaluateAll_append, bind_assoc,
    bind_assoc, ← effect_evaluateParts, ← effect_evaluateContext, ← effect_evaluateContext,
    ← effect_close]
  exact effect_bind fun _ => effect_bind fun _ => effect_bind fun _ => effect_map _ _

/-! ### Sizes -/

mutual

/-- What is evaluated at once is smaller than what it stands in. -/
theorem sizeOf_of_mem_evals : ∀ (template : Template) {content : Template},
    content ∈ template.evals → sizeOf content < sizeOf template
  | .eval content, _, member => by
    rw [List.mem_singleton.mp member, Template.eval.sizeOf_spec]
    omega
  | .sequence parts, _, member => by
    have smaller := sizeOf_of_mem_evalsOfEach parts member
    rw [Template.sequence.sizeOf_spec]
    omega
  | .random items, _, member => by
    have smaller := sizeOf_of_mem_evalsOfEach items member
    rw [Template.random.sizeOf_spec]
    omega
  | .condition guards, _, member => by
    have smaller := sizeOf_of_mem_evalsOfGuards guards member
    rw [Template.condition.sizeOf_spec]
    omega
  | .redirect content, _, member => by
    have smaller := sizeOf_of_mem_evals content member
    rw [Template.redirect.sizeOf_spec]
    omega
  | .think content, _, member => by
    have smaller := sizeOf_of_mem_evals content member
    rw [Template.think.sizeOf_spec]
    omega
  | .assign _ value, _, member => by
    have smaller := sizeOf_of_mem_evals value member
    rw [Template.assign.sizeOf_spec]
    omega
  | .map _ content, _, member => by
    have smaller := sizeOf_of_mem_evals content member
    rw [Template.map.sizeOf_spec]
    omega
  | .date _ _ format, _, member => by
    have smaller := sizeOf_of_mem_evals format member
    rw [Template.date.sizeOf_spec]
    omega
  | .substitute _ content, _, member => by
    have smaller := sizeOf_of_mem_evals content member
    rw [Template.substitute.sizeOf_spec]
    omega
  | .styled _ content, _, member => by
    have smaller := sizeOf_of_mem_evals content member
    rw [Template.styled.sizeOf_spec]
    omega

theorem sizeOf_of_mem_evalsOfEach : ∀ (templates : List Template) {content : Template},
    content ∈ evalsOfEach templates → sizeOf content < sizeOf templates
  | template :: templates, _, member => by
    rw [List.cons.sizeOf_spec]
    rcases List.mem_append.mp member with head | tail
    · have smaller := sizeOf_of_mem_evals template head
      omega
    · have smaller := sizeOf_of_mem_evalsOfEach templates tail
      omega

theorem sizeOf_of_mem_evalsOfGuards : ∀ (guards : List Guard) {content : Template},
    content ∈ evalsOfGuards guards → sizeOf content < sizeOf guards
  | ⟨_, _, body⟩ :: guards, _, member => by
    rw [List.cons.sizeOf_spec, Guard.mk.sizeOf_spec]
    rcases List.mem_append.mp member with head | tail
    · have smaller := sizeOf_of_mem_evals body head
      omega
    · have smaller := sizeOf_of_mem_evalsOfGuards guards tail
      omega

end

theorem sizeOf_of_mem_evalsOfParts {parts : List LessonPart} {content : Template}
    (member : content ∈ parts.flatMap LessonPart.evals) : sizeOf content < sizeOf parts := by
  obtain ⟨part, inParts, inPart⟩ := List.mem_flatMap.mp member
  have smaller := List.sizeOf_lt_of_mem inParts
  cases part with
  | text text => cases inPart
  | eval body =>
    rw [List.mem_singleton.mp inPart]
    rw [LessonPart.eval.sizeOf_spec] at smaller
    omega

theorem sizeOf_of_mem_evalsOfContext {context : Option (List LessonPart)} {content : Template}
    (member : content ∈ evalsOfContext context) : sizeOf content < sizeOf context := by
  cases context with
  | none => cases member
  | some parts =>
    have smaller := sizeOf_of_mem_evalsOfParts member
    rw [Option.some.sizeOf_spec]
    omega

theorem sizeOf_of_mem_evalsOfLesson {lesson : Lesson} {content : Template}
    (member : content ∈ lesson.evals) : sizeOf content < sizeOf lesson := by
  obtain ⟨pattern, that, topic, template⟩ := lesson
  rw [Lesson.mk.sizeOf_spec]
  rw [Lesson.evals, List.mem_append, List.mem_append, List.mem_append] at member
  rcases member with ((inPattern | inThat) | inTopic) | inTemplate
  · have smaller : sizeOf content < sizeOf pattern := sizeOf_of_mem_evalsOfParts inPattern
    omega
  · have smaller : sizeOf content < sizeOf that := sizeOf_of_mem_evalsOfContext inThat
    omega
  · have smaller : sizeOf content < sizeOf topic := sizeOf_of_mem_evalsOfContext inTopic
    omega
  · have smaller := sizeOf_of_mem_evals template inTemplate
    omega

/-- **Parts are smaller than the template.** -/
theorem sizeOf_of_mem_parts {template part : Template} (member : part ∈ template.parts) :
    sizeOf part < sizeOf template := by
  cases template with
  | sequence parts =>
    have smaller := List.sizeOf_lt_of_mem (show part ∈ parts from member)
    rw [Template.sequence.sizeOf_spec]
    omega
  | learn lesson =>
    have smaller := sizeOf_of_mem_evalsOfLesson (show part ∈ lesson.evals from member)
    rw [Template.learn.sizeOf_spec]
    omega
  | redirect content =>
    rw [List.mem_singleton.mp member, Template.redirect.sizeOf_spec]
    omega
  | think content =>
    rw [List.mem_singleton.mp member, Template.think.sizeOf_spec]
    omega
  | assign name value =>
    rw [List.mem_singleton.mp member, Template.assign.sizeOf_spec]
    omega
  | map name content =>
    rw [List.mem_singleton.mp member, Template.map.sizeOf_spec]
    omega
  | date locale timezone format =>
    rw [List.mem_singleton.mp member, Template.date.sizeOf_spec]
    omega
  | eval content =>
    rw [List.mem_singleton.mp member, Template.eval.sizeOf_spec]
    omega
  | substitute kind content =>
    rw [List.mem_singleton.mp member, Template.substitute.sizeOf_spec]
    omega
  | styled style content =>
    rw [List.mem_singleton.mp member, Template.styled.sizeOf_spec]
    omega
  | _ => cases member

/-! ### The way to a template -/

/-- Some templates are evaluated in order from a context, and one of them is evaluated in another
context: the ones before it succeeded. -/
inductive Visits : List Template → Context → Template → Context → Prop where
  | head (template : Template) (templates : List Template) (context : Context) :
    Visits (template :: templates) context template context
  | tail {template : Template} {templates : List Template} {context after : Context} {text : String}
      {part : Template} {place : Context} :
    (template.evaluate redirect).runIn context = (.ok text, after) →
      Visits templates after part place → Visits (template :: templates) context part place

/-- The context after a draw among a number of choices. -/
def Context.drawn (context : Context) (choices : Nat) : Context :=
  { context with agent := { context.agent with draws := context.agent.draws.tail choices } }

@[simp] theorem Context.looping_drawn (context : Context) (choices : Nat) :
    (context.drawn choices).looping = context.looping := rfl

/-- **Evaluating a template in a context evaluates another one on the same level.** -/
inductive Calls : Template × Context → Template × Context → Prop where
  | part {template part : Template} {context place : Context} :
    Visits redirect template.parts context part place →
      Calls (template, context) (part, place)
  | item {items : List Template} {item : Template} {context : Context} :
    items[context.agent.draws.head items.length]? = some item →
      Calls (.random items, context) (item, context.drawn items.length)

/-- Evaluating a template gets to another one on the same level, at some depth of nesting. -/
def Reaches : Template × Context → Template × Context → Prop :=
  Relation.ReflTransGen (Calls redirect)

end Dialogue
