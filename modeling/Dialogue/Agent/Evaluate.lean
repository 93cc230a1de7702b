/-
**Evaluating templates.**

`Template.evaluate` gives the text of a template, over a step that answers redirected queries; it is
recursive on the template alone. `Template.close` prepares the template of a lesson: every part that
is to be evaluated at once is replaced by its text, except inside further lessons.
-/

import Dialogue.Agent.Evaluation

namespace Dialogue

open Evaluation

mutual

/-- The text of a template, where redirected queries are answered by a given step. -/
def Template.evaluate (redirect : String → Evaluation String) : Template → Evaluation String
  | .text content => pure content
  | .sequence parts => concatenate (evaluateEach redirect parts)
  | .capture segment index => do return (← captures).get segment index.toNat
  | .redirectCapture => do redirect ((← captures).get .pattern 1)
  | .redirect content => do redirect (← content.evaluate redirect)
  | .think content => do
    let _ ← content.evaluate redirect
    pure ""
  | .assign name value => do
    let value ← value.evaluate redirect
    setPredicate name value
    pure value
  | .recall name => look fun agent => agent.predicates.get name
  | .property name => look fun agent => (agent.profile.get? name).getD ""
  | .map name content => do callMap name (← content.evaluate redirect)
  | .condition guards => condition (branches redirect guards)
  | .loop => do
    askAgain
    pure ""
  | .random items => takeOne (evaluateEach redirect items)
  | .that turn sentence => look fun agent => agent.history.that turn.toNat sentence.toNat
  | .input index => look fun agent => agent.history.input index.toNat
  | .request index => look fun agent => agent.history.request index.toNat
  | .response index => look fun agent => agent.history.response index.toNat
  | .date locale timezone format => do
    showDate locale timezone (← format.evaluate redirect)
  | .learn lesson => do
    learn (← lesson.define redirect)
    pure ""
  | .unlearn => do
    unlearn
    pure ""
  | .eval content => content.evaluate redirect
  | .substitute kind content => do
    let text ← content.evaluate redirect
    look fun agent => agent.substitutions.apply kind text
  | .styled style content => do return style.apply (← content.evaluate redirect)

def evaluateEach (redirect : String → Evaluation String) :
    List Template → List (Evaluation String)
  | [] => []
  | template :: templates => template.evaluate redirect :: evaluateEach redirect templates

def branches (redirect : String → Evaluation String) : List Guard → List Branch
  | [] => []
  | guard :: guards => guard.branch redirect :: branches redirect guards

/-- A guard with the step that evaluates its body. -/
def Guard.branch (redirect : String → Evaluation String) : Guard → Branch
  | ⟨predicate, value, body⟩ => ⟨predicate, value, body.evaluate redirect⟩

/-- The text of a part of a learned pattern. -/
def LessonPart.evaluate (redirect : String → Evaluation String) : LessonPart → Evaluation String
  | .text content => pure content
  | .eval content => content.evaluate redirect

/-- The steps that evaluate the parts of a learned pattern. -/
def evaluateParts (redirect : String → Evaluation String) :
    List LessonPart → List (Evaluation String)
  | [] => []
  | part :: parts => part.evaluate redirect :: evaluateParts redirect parts

/-- The text of a learned context, if there is one. -/
def evaluateContext (redirect : String → Evaluation String) :
    Option (List LessonPart) → Evaluation (Option String)
  | none => pure none
  | some parts => do return some (← concatenate (evaluateParts redirect parts))

/-- The definition that a lesson gives now. -/
def Lesson.define (redirect : String → Evaluation String) : Lesson → Evaluation Definition
  | ⟨pattern, that, topic, template⟩ => do
    let pattern ← concatenate (evaluateParts redirect pattern)
    let that ← evaluateContext redirect that
    let topic ← evaluateContext redirect topic
    let template ← template.close redirect
    pure ⟨pattern, that, topic, template⟩

/-- A template with every part that is to be evaluated at once replaced by its text; further lessons
stay as they are. -/
def Template.close (redirect : String → Evaluation String) : Template → Evaluation Template
  | .eval content => do return .text (← content.evaluate redirect)
  | .sequence parts => do return .sequence (← closeEach redirect parts)
  | .random items => do return .random (← closeEach redirect items)
  | .condition guards => do return .condition (← closeGuards redirect guards)
  | .redirect content => do return .redirect (← content.close redirect)
  | .think content => do return .think (← content.close redirect)
  | .assign name value => do return .assign name (← value.close redirect)
  | .map name content => do return .map name (← content.close redirect)
  | .date locale timezone format => do return .date locale timezone (← format.close redirect)
  | .substitute kind content => do return .substitute kind (← content.close redirect)
  | .styled style content => do return .styled style (← content.close redirect)
  | .text content => pure (.text content)
  | .capture segment index => pure (.capture segment index)
  | .redirectCapture => pure .redirectCapture
  | .recall name => pure (.recall name)
  | .property name => pure (.property name)
  | .loop => pure .loop
  | .that turn sentence => pure (.that turn sentence)
  | .input index => pure (.input index)
  | .request index => pure (.request index)
  | .response index => pure (.response index)
  | .learn lesson => pure (.learn lesson)
  | .unlearn => pure .unlearn

def closeEach (redirect : String → Evaluation String) :
    List Template → Evaluation (List Template)
  | [] => pure []
  | template :: templates => do
    let template ← template.close redirect
    let templates ← closeEach redirect templates
    pure (template :: templates)

def Guard.close (redirect : String → Evaluation String) : Guard → Evaluation Guard
  | ⟨predicate, value, body⟩ => do return ⟨predicate, value, ← body.close redirect⟩

def closeGuards (redirect : String → Evaluation String) : List Guard → Evaluation (List Guard)
  | [] => pure []
  | guard :: guards => do
    let guard ← guard.close redirect
    let guards ← closeGuards redirect guards
    pure (guard :: guards)

end

end Dialogue
