/-
**Closing a template keeps its meaning.**

The template of a lesson is closed before it is learned: what is to be evaluated at once is replaced
by its text. Where that text depends only on what evaluations never change, it makes no difference
whether it is fixed now or found later, under whatever condition, redirection or draw.

* `Basis`, `basis_course`: the captures, the profile and the substitutions of a context, which every
  evaluation leaves alone;
* `Template.isSettled`, `Template.settledText`: templates that read nothing else, and their text;
* `Template.mapEvals`: a template with other templates in place of those that are evaluated at once;
  `evaluate_mapEvals`: it is evaluated like the template if these are;
* `Template.lessons`: the lessons in a template; `lessons_mapEvals`: they stay;
* `Template.closed`, `runIn_close`: what closing gives; `close_faithful`: and what holds of it.
-/

import Dialogue.Agent.Setup
import Dialogue.Proofs.Evaluation.Recursion

set_option linter.unusedSectionVars false

namespace Dialogue

open Evaluation

/-! ### What evaluations never change -/

/-- What evaluations read and leave alone. -/
structure Basis where
  captures : Captures
  profile : Profile
  substitutions : Substitutions

/-- What a context offers that evaluations leave alone. -/
def Context.basis (context : Context) : Basis :=
  ⟨context.captures, context.agent.profile, context.agent.substitutions⟩

/-- **Every evaluation leaves the basis alone.** -/
theorem basis_course : InnerCourse fun before after => after.basis = before.basis where
  refl _ := rfl
  trans earlier later := later.trans earlier
  askAgain _ := rfl
  countLoop _ := rfl
  record _ _ _ := rfl
  setPredicate _ _ _ := rfl
  draw _ _ := rfl
  learn context definition := by
    cases compiled : definition.compile context.agent.normalizer .learned with
    | ok category =>
      rw [runIn_learn_of_ok compiled]
      rfl
    | error fault =>
      rw [runIn_learn_of_error compiled]
      rfl
  unlearn context := by
    rw [runIn_unlearn]
    rfl
  redirected _ _ := rfl
  underCondition led := led
  inCategory {context after} captures led := by
    have profile := congrArg Basis.profile led
    have substitutions := congrArg Basis.substitutions led
    simp only [Context.basis] at profile substitutions ⊢
    rw [profile, substitutions]
  deeper led := led

/-- A context has a basis. -/
def OnBasis (basis : Basis) (context : Context) : Prop := context.basis = basis

theorem OnBasis.kept {basis : Basis} (before after : Context) (led : after.basis = before.basis)
    (onBasis : OnBasis basis before) : OnBasis basis after :=
  led.trans onBasis

/-- Templates are evaluated alike on a basis if their parts are. -/
theorem congruence_onBasis (basis : Basis) : Congruence (Alike (OnBasis basis)) :=
  (alike_rerunning OnBasis.kept basis_course fun _ _ onBasis => onBasis).congruence

/-- A redirection is like itself on a basis. -/
theorem alike_redirect_self (basis : Basis) (query : String) :
    Alike (OnBasis basis) String (redirect query) (redirect query) :=
  alike_self OnBasis.kept (basis_course.redirect query)

/-! ### Templates whose text is settled -/

mutual

/-- Whether a template reads only its basis. -/
def Template.isSettled : Template → Bool
  | .text _ | .capture _ _ | .property _ => true
  | .sequence parts => areSettled parts
  | .eval content | .substitute _ content | .styled _ content => content.isSettled
  | .redirectCapture | .redirect _ | .think _ | .assign _ _ | .recall _ | .map _ _ | .condition _
  | .loop | .random _ | .that _ _ | .input _ | .request _ | .response _ | .date _ _ _ | .learn _
  | .unlearn => false

def areSettled : List Template → Bool
  | [] => true
  | template :: templates => template.isSettled && areSettled templates

end

mutual

/-- The text of a template that reads only its basis. -/
def Template.settledText (basis : Basis) : Template → String
  | .text content => content
  | .sequence parts => settledTexts basis parts
  | .capture segment index => basis.captures.get segment index.toNat
  | .property name => (basis.profile.get? name).getD ""
  | .eval content => content.settledText basis
  | .substitute kind content => basis.substitutions.apply kind (content.settledText basis)
  | .styled style content => style.apply (content.settledText basis)
  | .redirectCapture | .redirect _ | .think _ | .assign _ _ | .recall _ | .map _ _ | .condition _
  | .loop | .random _ | .that _ _ | .input _ | .request _ | .response _ | .date _ _ _ | .learn _
  | .unlearn => ""

def settledTexts (basis : Basis) : List Template → String
  | [] => ""
  | template :: templates => template.settledText basis ++ settledTexts basis templates

end

section Settled

variable (redirect : String → Evaluation String) (context : Context)

mutual

/-- **A settled template is evaluated to its text, without any change.** -/
theorem runIn_evaluate_settled : ∀ template : Template, template.isSettled →
    (template.evaluate redirect).runIn context =
      (.ok (template.settledText context.basis), context)
  | .text _, _ => rfl
  | .capture _ _, _ => rfl
  | .property _, _ => rfl
  | .sequence parts, settled => runIn_concatenate_settled parts settled
  | .eval content, settled => runIn_evaluate_settled content settled
  | .substitute _ content, settled => by
    rw [Template.evaluate, runIn_bind, runIn_evaluate_settled content settled]
    rfl
  | .styled _ content, settled => by
    rw [Template.evaluate, runIn_bind, runIn_evaluate_settled content settled]
    rfl

theorem runIn_concatenate_settled : ∀ templates : List Template, areSettled templates →
    (concatenate (evaluateEach redirect templates)).runIn context =
      (.ok (settledTexts context.basis templates), context)
  | [], _ => rfl
  | template :: templates, settled => by
    obtain ⟨first, others⟩ := Bool.and_eq_true_iff.mp settled
    rw [evaluateEach, concatenate, runIn_bind, runIn_evaluate_settled template first]
    dsimp only
    rw [runIn_bind, runIn_concatenate_settled templates others]
    rfl

end

end Settled

/-! ### Replacing what is evaluated at once -/

mutual

/-- A template with other templates in place of those in it that are evaluated at once when it is
learned. -/
def Template.mapEvals (image : Template → Template) : Template → Template
  | .eval content => image content
  | .sequence parts => .sequence (mapEvalsOfEach image parts)
  | .random items => .random (mapEvalsOfEach image items)
  | .condition guards => .condition (mapEvalsOfGuards image guards)
  | .redirect content => .redirect (content.mapEvals image)
  | .think content => .think (content.mapEvals image)
  | .assign name value => .assign name (value.mapEvals image)
  | .map name content => .map name (content.mapEvals image)
  | .date locale timezone format => .date locale timezone (format.mapEvals image)
  | .substitute kind content => .substitute kind (content.mapEvals image)
  | .styled style content => .styled style (content.mapEvals image)
  | .text content => .text content
  | .capture segment index => .capture segment index
  | .redirectCapture => .redirectCapture
  | .recall name => .recall name
  | .property name => .property name
  | .loop => .loop
  | .that turn sentence => .that turn sentence
  | .input index => .input index
  | .request index => .request index
  | .response index => .response index
  | .learn lesson => .learn lesson
  | .unlearn => .unlearn

def mapEvalsOfEach (image : Template → Template) : List Template → List Template
  | [] => []
  | template :: templates => template.mapEvals image :: mapEvalsOfEach image templates

def mapEvalsOfGuards (image : Template → Template) : List Guard → List Guard
  | [] => []
  | ⟨predicate, value, body⟩ :: guards =>
    ⟨predicate, value, body.mapEvals image⟩ :: mapEvalsOfGuards image guards

end

section MapEvals

variable {image : Template → Template}

mutual

/-- Without anything to replace, a template stays as it is. -/
theorem mapEvals_eq_self : ∀ template : Template, template.evals = [] →
    template.mapEvals image = template
  | .eval _, nothing => nomatch nothing
  | .sequence parts, nothing => congrArg Template.sequence (mapEvalsOfEach_eq_self parts nothing)
  | .random items, nothing => congrArg Template.random (mapEvalsOfEach_eq_self items nothing)
  | .condition guards, nothing =>
    congrArg Template.condition (mapEvalsOfGuards_eq_self guards nothing)
  | .redirect content, nothing => congrArg Template.redirect (mapEvals_eq_self content nothing)
  | .think content, nothing => congrArg Template.think (mapEvals_eq_self content nothing)
  | .assign name value, nothing => congrArg (Template.assign name) (mapEvals_eq_self value nothing)
  | .map name content, nothing => congrArg (Template.map name) (mapEvals_eq_self content nothing)
  | .date locale timezone format, nothing =>
    congrArg (Template.date locale timezone) (mapEvals_eq_self format nothing)
  | .substitute kind content, nothing =>
    congrArg (Template.substitute kind) (mapEvals_eq_self content nothing)
  | .styled style content, nothing =>
    congrArg (Template.styled style) (mapEvals_eq_self content nothing)
  | .text _, _ | .capture _ _, _ | .redirectCapture, _ | .recall _, _ | .property _, _ | .loop, _
  | .that _ _, _ | .input _, _ | .request _, _ | .response _, _ | .learn _, _ | .unlearn, _ => rfl

theorem mapEvalsOfEach_eq_self : ∀ templates : List Template, evalsOfEach templates = [] →
    mapEvalsOfEach image templates = templates
  | [], _ => rfl
  | template :: templates, nothing => by
    obtain ⟨first, others⟩ := List.append_eq_nil_iff.mp nothing
    rw [mapEvalsOfEach, mapEvals_eq_self template first, mapEvalsOfEach_eq_self templates others]

theorem mapEvalsOfGuards_eq_self : ∀ guards : List Guard, evalsOfGuards guards = [] →
    mapEvalsOfGuards image guards = guards
  | [], _ => rfl
  | ⟨_, _, body⟩ :: guards, nothing => by
    obtain ⟨first, others⟩ := List.append_eq_nil_iff.mp nothing
    rw [mapEvalsOfGuards, mapEvals_eq_self body first, mapEvalsOfGuards_eq_self guards others]

end

section Bare

variable (bare : ∀ content, (image content).evals = [])

include bare

mutual

/-- Nothing is left to be evaluated at once, unless it comes with the other templates. -/
theorem evals_mapEvals : ∀ template : Template, (template.mapEvals image).evals = []
  | .eval content => bare content
  | .sequence parts => evals_mapEvalsOfEach parts
  | .random items => evals_mapEvalsOfEach items
  | .condition guards => evals_mapEvalsOfGuards guards
  | .redirect content | .think content | .assign _ content | .map _ content | .date _ _ content
  | .substitute _ content | .styled _ content => evals_mapEvals content
  | .text _ | .capture _ _ | .redirectCapture | .recall _ | .property _ | .loop | .that _ _
  | .input _ | .request _ | .response _ | .learn _ | .unlearn => rfl

theorem evals_mapEvalsOfEach : ∀ templates : List Template,
    evalsOfEach (mapEvalsOfEach image templates) = []
  | [] => rfl
  | template :: templates =>
    List.append_eq_nil_iff.mpr ⟨evals_mapEvals template, evals_mapEvalsOfEach templates⟩

theorem evals_mapEvalsOfGuards : ∀ guards : List Guard,
    evalsOfGuards (mapEvalsOfGuards image guards) = []
  | [] => rfl
  | ⟨_, _, body⟩ :: guards =>
    List.append_eq_nil_iff.mpr ⟨evals_mapEvals body, evals_mapEvalsOfGuards guards⟩

end

end Bare

section Relating

variable {Relates : ∀ α : Type, Evaluation α → Evaluation α → Prop}
  (congruence : Congruence Relates) {redirect other : String → Evaluation String}
  (answers : ∀ query, Relates String (redirect query) (other query))

include congruence answers

mutual

/-- **A template is evaluated like one with other templates in it**, if those are evaluated like the
ones that they take the place of. -/
theorem evaluate_mapEvals : ∀ template : Template,
    (∀ content ∈ template.evals,
      Relates String (content.evaluate redirect) ((image content).evaluate other)) →
    Relates String (template.evaluate redirect) ((template.mapEvals image).evaluate other)
  | .eval content, alike => alike content List.mem_cons_self
  | .sequence parts, alike =>
    congruence.concatenate (evaluateEach_mapEvals parts alike)
  | .random items, alike => congruence.takeOne (evaluateEach_mapEvals items alike)
  | .condition guards, alike =>
    congruence.condition (branches_mapEvals guards alike)
  | .redirect content, alike =>
    congruence.bind (evaluate_mapEvals content alike) answers
  | .think content, alike => congruence.map (evaluate_mapEvals content alike) _
  | .assign _ value, alike =>
    congruence.bind (evaluate_mapEvals value alike) fun _ =>
      congruence.map (congruence.setPredicate _ _) _
  | .map _ content, alike =>
    congruence.bind (evaluate_mapEvals content alike) fun _ => congruence.callMap _ _
  | .date _ _ format, alike =>
    congruence.bind (evaluate_mapEvals format alike) fun _ => congruence.showDate _ _ _
  | .substitute _ content, alike =>
    congruence.bind (evaluate_mapEvals content alike) fun _ =>
      congruence.look fun _ _ _ _ => rfl
  | .styled _ content, alike => congruence.map (evaluate_mapEvals content alike) _
  | .text content, _ => congruence.evaluate answers (.text content)
  | .capture segment index, _ => congruence.evaluate answers (.capture segment index)
  | .redirectCapture, _ => congruence.evaluate answers .redirectCapture
  | .recall name, _ => congruence.evaluate answers (.recall name)
  | .property name, _ => congruence.evaluate answers (.property name)
  | .loop, _ => congruence.evaluate answers .loop
  | .that turn sentence, _ => congruence.evaluate answers (.that turn sentence)
  | .input index, _ => congruence.evaluate answers (.input index)
  | .request index, _ => congruence.evaluate answers (.request index)
  | .response index, _ => congruence.evaluate answers (.response index)
  | .learn lesson, _ => congruence.evaluate answers (.learn lesson)
  | .unlearn, _ => congruence.evaluate answers .unlearn

theorem evaluateEach_mapEvals : ∀ templates : List Template,
    (∀ content ∈ evalsOfEach templates,
      Relates String (content.evaluate redirect) ((image content).evaluate other)) →
    List.Forall₂ (Relates String) (evaluateEach redirect templates)
      (evaluateEach other (mapEvalsOfEach image templates))
  | [], _ => .nil
  | template :: templates, alike =>
    .cons (evaluate_mapEvals template (List.forall_mem_append.mp alike).1)
      (evaluateEach_mapEvals templates (List.forall_mem_append.mp alike).2)

theorem branches_mapEvals : ∀ guards : List Guard,
    (∀ content ∈ evalsOfGuards guards,
      Relates String (content.evaluate redirect) ((image content).evaluate other)) →
    List.Forall₂ (BranchRelates Relates) (branches redirect guards)
      (branches other (mapEvalsOfGuards image guards))
  | [], _ => .nil
  | ⟨_, _, body⟩ :: guards, alike =>
    .cons ⟨rfl, rfl, evaluate_mapEvals body (List.forall_mem_append.mp alike).1⟩
      (branches_mapEvals guards (List.forall_mem_append.mp alike).2)

end

end Relating

end MapEvals

/-! ### Lessons in a template -/

mutual

/-- The lessons in a template, in order, without those in the templates of lessons. -/
def Template.lessons : Template → List Lesson
  | .learn lesson => [lesson]
  | .sequence parts => lessonsOfEach parts
  | .random items => lessonsOfEach items
  | .condition guards => lessonsOfGuards guards
  | .redirect content | .think content | .assign _ content | .map _ content | .date _ _ content
  | .eval content | .substitute _ content | .styled _ content => content.lessons
  | .text _ | .capture _ _ | .redirectCapture | .recall _ | .property _ | .loop | .that _ _
  | .input _ | .request _ | .response _ | .unlearn => []

def lessonsOfEach : List Template → List Lesson
  | [] => []
  | template :: templates => template.lessons ++ lessonsOfEach templates

def lessonsOfGuards : List Guard → List Lesson
  | [] => []
  | ⟨_, _, body⟩ :: guards => body.lessons ++ lessonsOfGuards guards

end

mutual

/-- A settled template teaches nothing. -/
theorem lessons_settled : ∀ template : Template, template.isSettled → template.lessons = []
  | .text _, _ | .capture _ _, _ | .property _, _ => rfl
  | .sequence parts, settled => lessonsOfEach_settled parts settled
  | .eval content, settled | .substitute _ content, settled | .styled _ content, settled =>
    lessons_settled content settled

theorem lessonsOfEach_settled : ∀ templates : List Template, areSettled templates →
    lessonsOfEach templates = []
  | [], _ => rfl
  | template :: templates, settled => by
    obtain ⟨first, others⟩ := Bool.and_eq_true_iff.mp settled
    rw [lessonsOfEach, lessons_settled template first, lessonsOfEach_settled templates others]
    rfl

end

section Lessons

variable {image : Template → Template}

mutual

/-- **Lessons stay as they are**, if the other templates have the same ones. -/
theorem lessons_mapEvals : ∀ template : Template,
    (∀ content ∈ template.evals, (image content).lessons = content.lessons) →
    (template.mapEvals image).lessons = template.lessons
  | .eval content, same => same content List.mem_cons_self
  | .sequence parts, same => lessons_mapEvalsOfEach parts same
  | .random items, same => lessons_mapEvalsOfEach items same
  | .condition guards, same => lessons_mapEvalsOfGuards guards same
  | .redirect content, same | .think content, same | .assign _ content, same
  | .map _ content, same | .date _ _ content, same | .substitute _ content, same
  | .styled _ content, same => lessons_mapEvals content same
  | .text _, _ | .capture _ _, _ | .redirectCapture, _ | .recall _, _ | .property _, _ | .loop, _
  | .that _ _, _ | .input _, _ | .request _, _ | .response _, _ | .learn _, _ | .unlearn, _ => rfl

theorem lessons_mapEvalsOfEach : ∀ templates : List Template,
    (∀ content ∈ evalsOfEach templates, (image content).lessons = content.lessons) →
    lessonsOfEach (mapEvalsOfEach image templates) = lessonsOfEach templates
  | [], _ => rfl
  | template :: templates, same => by
    obtain ⟨first, others⟩ := List.forall_mem_append.mp same
    rw [mapEvalsOfEach, lessonsOfEach, lessonsOfEach, lessons_mapEvals template first,
      lessons_mapEvalsOfEach templates others]

theorem lessons_mapEvalsOfGuards : ∀ guards : List Guard,
    (∀ content ∈ evalsOfGuards guards, (image content).lessons = content.lessons) →
    lessonsOfGuards (mapEvalsOfGuards image guards) = lessonsOfGuards guards
  | [], _ => rfl
  | ⟨_, _, body⟩ :: guards, same => by
    obtain ⟨first, others⟩ := List.forall_mem_append.mp same
    rw [mapEvalsOfGuards, lessonsOfGuards, lessonsOfGuards, lessons_mapEvals body first,
      lessons_mapEvalsOfGuards guards others]

end

end Lessons

/-! ### Closing -/

/-- The text of a template, as a template. -/
def Template.settle (basis : Basis) (content : Template) : Template :=
  .text (content.settledText basis)

/-- A template with the text of every template in it that is evaluated at once. -/
def Template.closed (basis : Basis) (template : Template) : Template :=
  template.mapEvals (Template.settle basis)

section Close

variable (redirect : String → Evaluation String) (context : Context)

variable {context} in
theorem runIn_map_of_ok {α β : Type} {action : Evaluation α} {value : α} (image : α → β)
    (ran : action.runIn context = (.ok value, context)) :
    (do return image (← action) : Evaluation β).runIn context = (.ok (image value), context) := by
  rw [runIn_bind, ran]
  rfl

mutual

/-- **Closing a template changes nothing**, if what is evaluated at once is settled. -/
theorem runIn_close : ∀ template : Template, (∀ content ∈ template.evals, content.isSettled) →
    (template.close redirect).runIn context = (.ok (template.closed context.basis), context)
  | .eval content, settled => runIn_map_of_ok Template.text
    (runIn_evaluate_settled redirect context content (settled content List.mem_cons_self))
  | .sequence parts, settled => runIn_map_of_ok Template.sequence (runIn_closeEach parts settled)
  | .random items, settled => runIn_map_of_ok Template.random (runIn_closeEach items settled)
  | .condition guards, settled =>
    runIn_map_of_ok Template.condition (runIn_closeGuards guards settled)
  | .redirect content, settled => runIn_map_of_ok Template.redirect (runIn_close content settled)
  | .think content, settled => runIn_map_of_ok Template.think (runIn_close content settled)
  | .assign name value, settled =>
    runIn_map_of_ok (Template.assign name) (runIn_close value settled)
  | .map name content, settled => runIn_map_of_ok (Template.map name) (runIn_close content settled)
  | .date locale timezone format, settled =>
    runIn_map_of_ok (Template.date locale timezone) (runIn_close format settled)
  | .substitute kind content, settled =>
    runIn_map_of_ok (Template.substitute kind) (runIn_close content settled)
  | .styled style content, settled =>
    runIn_map_of_ok (Template.styled style) (runIn_close content settled)
  | .text _, _ | .capture _ _, _ | .redirectCapture, _ | .recall _, _ | .property _, _ | .loop, _
  | .that _ _, _ | .input _, _ | .request _, _ | .response _, _ | .learn _, _ | .unlearn, _ => rfl

theorem runIn_closeEach : ∀ templates : List Template,
    (∀ content ∈ evalsOfEach templates, content.isSettled) →
    (closeEach redirect templates).runIn context =
      (.ok (mapEvalsOfEach (Template.settle context.basis) templates), context)
  | [], _ => rfl
  | template :: templates, settled => by
    obtain ⟨first, others⟩ := List.forall_mem_append.mp settled
    rw [closeEach, runIn_bind, runIn_close template first]
    exact runIn_map_of_ok _ (runIn_closeEach templates others)

theorem runIn_closeGuards : ∀ guards : List Guard,
    (∀ content ∈ evalsOfGuards guards, content.isSettled) →
    (closeGuards redirect guards).runIn context =
      (.ok (mapEvalsOfGuards (Template.settle context.basis) guards), context)
  | [], _ => rfl
  | ⟨predicate, value, body⟩ :: guards, settled => by
    obtain ⟨first, others⟩ := List.forall_mem_append.mp settled
    have closed := runIn_map_of_ok (Guard.mk predicate value) (runIn_close body first)
    rw [closeGuards, runIn_bind, Guard.close, closed]
    exact runIn_map_of_ok _ (runIn_closeGuards guards others)

end

end Close

/-- What is settled is evaluated like its text. -/
theorem alike_settle {basis : Basis} {content : Template} (settled : content.isSettled) :
    Alike (OnBasis basis) String (content.evaluate redirect)
      ((content.settle basis).evaluate redirect) := by
  rintro context rfl
  rw [runIn_evaluate_settled redirect context content settled]
  exact ⟨rfl, rfl⟩

/-- **Closing a template keeps its meaning.** If all that is evaluated at once in a template is text
that captures, the profile and the substitutions determine, then in every context closing it
succeeds without any change, whatever redirected queries would answer; nothing is left to be
evaluated at once, and the lessons are what they were; closing the result again gives it back, in
any context; and the result has the same run as the template: the same text or interruption, and
the same context after it. -/
theorem close_faithful (template : Template) (context : Context)
    (settled : ∀ content ∈ template.evals, content.isSettled) :
    let closed := template.closed context.basis
    (∀ redirect, (template.close redirect).runIn context = (.ok closed, context)) ∧
    closed.evals = [] ∧ closed.lessons = template.lessons ∧
    (∀ redirect other, (closed.close redirect).runIn other = (.ok closed, other)) ∧
    closed.run.runIn context = template.run.runIn context := by
  intro closed
  have bare : closed.evals = [] := evals_mapEvals (fun content => rfl) template
  refine ⟨fun redirect => runIn_close redirect context template settled, bare, ?_, ?_, ?_⟩
  · refine lessons_mapEvals template fun content member => ?_
    rw [lessons_settled content (settled content member)]
    rfl
  · intro redirect other
    have unsettled : ∀ content ∈ closed.evals, content.isSettled := by
      intro content member
      rw [bare] at member
      cases member
    rw [runIn_close redirect other closed unsettled, Template.closed, mapEvals_eq_self closed bare]
  · have alike := evaluate_mapEvals (congruence_onBasis context.basis)
      (alike_redirect_self context.basis) template
      fun content member => alike_settle (settled content member)
    rw [Template.run_eq, Template.run_eq]
    exact (alike context rfl).1.symm

/-- A name is fixed under a condition that loops, in a query and in a draw, but not in a lesson. For
the seed seven, the first draw of two is the first. -/
theorem close_faithful_name :
    let name : Template := .eval (.sequence [.text "Dr ", .capture .pattern 1])
    let lesson : Lesson := ⟨[.text "who"], none, none, .eval (.capture .pattern 1)⟩
    let build := fun name : Template => Template.sequence
      [.condition [⟨some "mood", some "", .sequence [name, .assign "mood" name, .loop]⟩,
        ⟨none, none, .redirect name⟩], .random [name, .text "nobody"], .learn lesson]
    let setup : Setup := { generator := fun _ => .first, settings := { seed := some 7 } }
    let context : Context := { agent := setup.build.1, captures := ⟨["Ada"], [], []⟩ }
    ((build name).close redirect).runIn context = (.ok (build (.text "Dr Ada")), context) ∧
    (build (.text "Dr Ada")).lessons = [lesson] ∧
    (build (.text "Dr Ada")).run.runIn context = (build name).run.runIn context := by
  intro name lesson build setup context
  have settled : ∀ content ∈ (build name).evals, content.isSettled := by decide
  obtain ⟨closes, _, lessons, _, runs⟩ := close_faithful (build name) context settled
  exact ⟨closes redirect, lessons, runs⟩

end Dialogue
