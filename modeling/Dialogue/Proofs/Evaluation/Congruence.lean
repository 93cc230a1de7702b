/-
**Relations that every evaluation respects.**

An evaluation is built from elementary steps in few ways. A relation between steps that holds of the
elementary ones, each with itself, and that those ways keep, holds of every template with itself,
also when redirected queries are answered in two related ways.

* `Elementary`: the steps without a body, and steps one after the other;
* `Congruence`: also conditions of related branches. `Repeating.evaluateOnce` and
  `Rerunning.congruence` derive them from the steps around a body;
* `Congruence.evaluate`: then every template. The induction is on the template, together with its
  guards and lessons;
* `Replying`: also the steps around a category; `Replying.respondOver`: then every reply;
* `Redirecting`: also the steps around a redirection; `Redirecting.redirectWithin`: then every
  redirection;
* `Answering`: also the steps of a turn; `Answering.answer`: then the turn.
-/

import Dialogue.Agent.Turn
import Mathlib.Data.List.Forall2

set_option linter.unusedSectionVars false

namespace Dialogue

open Evaluation

variable {α β : Type}

/-- The agent with other limits and another classifier. -/
def Agent.retune (agent : Agent) (redirects loops : Nat) (classifier : Option Classifier) : Agent :=
  { agent with
    settings := { agent.settings with maxRedirects := redirects, maxLoops := loops }
    classifier := classifier }

/-- What is seen of an agent depends neither on its limits nor on its classifier. -/
def Blind (view : Agent → α) : Prop :=
  ∀ agent redirects loops classifier,
    view (agent.retune redirects loops classifier) = view agent

/-- Two branches apply alike, and their bodies are related. -/
structure BranchRelates (Relates : ∀ α : Type, Evaluation α → Evaluation α → Prop)
    (first second : Branch) : Prop where
  predicate : first.predicate = second.predicate
  value : first.value = second.value
  body : Relates String first.body second.body

/-- The first branch that applies is at the same place. -/
theorem BranchRelates.find? {Relates : ∀ α : Type, Evaluation α → Evaluation α → Prop}
    {first second : List Branch}
    (related : List.Forall₂ (BranchRelates Relates) first second) (predicates : Predicates) :
    Option.Rel (BranchRelates Relates) (first.find? (Branch.applies predicates))
      (second.find? (Branch.applies predicates)) := by
  induction related with
  | nil => exact .none
  | @cons branch other _ _ head _ ih =>
    have alike : branch.applies predicates = other.applies predicates := by
      rw [Branch.applies, Branch.applies, head.predicate, head.value]
    rw [List.find?_cons, List.find?_cons, alike]
    cases other.applies predicates with
    | true => exact .some head
    | false => exact ih

/-- A relation that the steps without a body respect, and that steps one after the other keep. -/
structure Elementary (Relates : ∀ α : Type, Evaluation α → Evaluation α → Prop) : Prop where
  pure {α : Type} (value : α) : Relates α (pure value) (pure value)
  bind {α β : Type} {first second : Evaluation α} {firstNext secondNext : α → Evaluation β} :
    Relates α first second → (∀ value, Relates β (firstNext value) (secondNext value)) →
      Relates β (first >>= firstNext) (second >>= secondNext)
  look {α : Type} {view : Agent → α} : Blind view → Relates α (look view) (look view)
  captures : Relates Captures captures captures
  askAgain : Relates Unit askAgain askAgain
  note {notice : Notice} : notice.isAside → Relates Unit (note notice) (note notice)
  setPredicate (name value : String) :
    Relates Unit (setPredicate name value) (setPredicate name value)
  draw (choices : Nat) : Relates Nat (draw choices) (draw choices)
  learn (definition : Definition) : Relates Unit (learn definition) (learn definition)
  unlearn : Relates Unit unlearn unlearn

/-- **A relation that the steps of a template respect.** -/
structure Congruence (Relates : ∀ α : Type, Evaluation α → Evaluation α → Prop) : Prop
    extends Elementary Relates where
  condition {first second : List Branch} :
    List.Forall₂ (BranchRelates Relates) first second →
      Relates String (condition first) (condition second)

namespace Elementary

variable {Relates : ∀ α : Type, Evaluation α → Evaluation α → Prop}
  (elementary : Elementary Relates)

include elementary

theorem map {first second : Evaluation α} (related : Relates α first second) (image : α → β) :
    Relates β (do return image (← first)) (do return image (← second)) :=
  elementary.bind related fun _ => elementary.pure _

end Elementary

/-- A relation that the steps around the body of a condition respect. -/
structure Repeating (Relates : ∀ α : Type, Evaluation α → Evaluation α → Prop) : Prop
    extends Elementary Relates where
  underCondition {α : Type} {first second : Evaluation α} :
    Relates α first second → Relates (α × Bool) (underCondition first) (underCondition second)
  countLoop : Relates Unit countLoop countLoop

/-- Conditions of related branches, evaluated once. -/
theorem Repeating.evaluateOnce {Relates : ∀ α : Type, Evaluation α → Evaluation α → Prop}
    (repeating : Repeating Relates) {first second : List Branch}
    (related : List.Forall₂ (BranchRelates Relates) first second) :
    Relates (Option (String × Bool)) (evaluateOnce first) (evaluateOnce second) := by
  unfold Evaluation.evaluateOnce
  refine repeating.bind (repeating.look fun _ _ _ _ => rfl) fun predicates => ?_
  have alike := BranchRelates.find? related predicates
  generalize first.find? (Branch.applies predicates) = chosen at alike ⊢
  generalize second.find? (Branch.applies predicates) = other at alike ⊢
  cases alike with
  | none => exact repeating.pure none
  | some alike =>
    refine repeating.bind (repeating.underCondition alike.body) fun (text, again) => ?_
    cases again with
    | false => exact repeating.pure (some (text, false))
    | true => exact repeating.map repeating.countLoop _

/-- A relation that also what limits the evaluations of a condition respects. -/
structure Rerunning (Relates : ∀ α : Type, Evaluation α → Evaluation α → Prop) : Prop
    extends Repeating Relates where
  exceedLoops {α : Type} : Relates α exceedLoops exceedLoops
  loopsLeft : Relates Nat loopsLeft loopsLeft

namespace Rerunning

variable {Relates : ∀ α : Type, Evaluation α → Evaluation α → Prop}
  (rerunning : Rerunning Relates) {first second : List Branch}
  (related : List.Forall₂ (BranchRelates Relates) first second)

include rerunning related

theorem evaluateAgain (left : Nat) :
    Relates (List String) (evaluateAgain first left) (evaluateAgain second left) := by
  induction left with
  | zero =>
    refine rerunning.bind (rerunning.evaluateOnce related) fun outcome => ?_
    match outcome with
    | none => exact rerunning.pure []
    | some (text, false) => exact rerunning.pure [text]
    | some (text, true) => exact rerunning.exceedLoops
  | succ left ih =>
    refine rerunning.bind (rerunning.evaluateOnce related) fun outcome => ?_
    match outcome with
    | none => exact rerunning.pure []
    | some (text, false) => exact rerunning.pure [text]
    | some (text, true) => exact rerunning.map ih _

omit related in
/-- **Conditions of related branches.** -/
theorem congruence : Congruence Relates where
  toElementary := rerunning.toElementary
  condition related := rerunning.bind rerunning.loopsLeft fun left =>
    rerunning.map (rerunning.evaluateAgain related left) _

end Rerunning

namespace Congruence

variable {Relates : ∀ α : Type, Evaluation α → Evaluation α → Prop}
  (congruence : Congruence Relates)

include congruence

theorem noteAll {notices : List Notice}
    (aside : ∀ notice ∈ notices, notice.isAside) :
    Relates Unit (Evaluation.noteAll notices) (Evaluation.noteAll notices) := by
  induction notices with
  | nil => exact congruence.pure ()
  | cons notice notices ih =>
    have noted := congruence.note (aside notice List.mem_cons_self)
    have others := ih fun other member => aside other (List.mem_cons_of_mem _ member)
    rw [Evaluation.noteAll, recordAll, List.forM_eq_forM, List.map_cons, List.forM_cons]
    exact congruence.bind noted fun _ => others

theorem callMap (name argument : String) :
    Relates String (callMap name argument) (callMap name argument) := by
  unfold Evaluation.callMap
  refine congruence.bind (congruence.look fun _ _ _ _ => rfl) fun image => ?_
  cases image with
  | some image => exact congruence.pure image
  | none => exact congruence.bind (congruence.note rfl) fun _ => congruence.pure ""

theorem showDate (locale timezone : Option String) (layout : String) :
    Relates String (showDate locale timezone layout) (showDate locale timezone layout) := by
  unfold Evaluation.showDate
  refine congruence.bind (congruence.look fun _ _ _ _ => rfl) fun dates => ?_
  have aside : ∀ notice ∈ (dates locale timezone layout).1, notice.isAside :=
    fun notice member => Notice.isAside_of_isAboutDate
      (dates.isAboutDate_of_mem locale timezone layout notice member)
  exact congruence.bind (congruence.noteAll aside) fun _ => congruence.pure _

theorem takeOne {first second : List (Evaluation String)}
    (related : List.Forall₂ (Relates String) first second) :
    Relates String (takeOne first) (takeOne second) := by
  have chosen : ∀ index : Nat, Relates String ((first[index]?).getD (Pure.pure ""))
      ((second[index]?).getD (Pure.pure "")) := by
    intro index
    induction related generalizing index with
    | nil => exact congruence.pure ""
    | cons head _ ih =>
      cases index with
      | zero => exact head
      | succ index => exact ih index
  have lengths := related.length_eq
  cases related with
  | nil => exact congruence.pure ""
  | cons head tail =>
    unfold Evaluation.takeOne
    rw [lengths]
    exact congruence.bind (congruence.draw _) chosen

theorem concatenate {first second : List (Evaluation String)}
    (related : List.Forall₂ (Relates String) first second) :
    Relates String (concatenate first) (concatenate second) := by
  induction related with
  | nil => exact congruence.pure ""
  | cons head _ ih =>
    exact congruence.bind head fun _ => congruence.map ih _

/-! ### Templates -/

variable {redirect other : String → Evaluation String}
  (answers : ∀ query, Relates String (redirect query) (other query))

include answers

mutual

/-- **A template, where redirected queries are answered in related ways.** -/
theorem evaluate : ∀ template : Template,
    Relates String (template.evaluate redirect) (template.evaluate other)
  | .text content => congruence.pure content
  | .sequence parts => congruence.concatenate (evaluateEach parts)
  | .capture _ _ => congruence.map congruence.captures _
  | .redirectCapture => congruence.bind congruence.captures fun _ => answers _
  | .redirect content => congruence.bind (evaluate content) answers
  | .think content => congruence.map (evaluate content) _
  | .assign _ value =>
    congruence.bind (evaluate value) fun _ => congruence.map (congruence.setPredicate _ _) _
  | .recall _ => congruence.look fun _ _ _ _ => rfl
  | .property _ => congruence.look fun _ _ _ _ => rfl
  | .map _ content => congruence.bind (evaluate content) fun _ => congruence.callMap _ _
  | .condition guards => congruence.condition (branches guards)
  | .loop => congruence.map congruence.askAgain _
  | .random items => congruence.takeOne (evaluateEach items)
  | .that _ _ => congruence.look fun _ _ _ _ => rfl
  | .input _ => congruence.look fun _ _ _ _ => rfl
  | .request _ => congruence.look fun _ _ _ _ => rfl
  | .response _ => congruence.look fun _ _ _ _ => rfl
  | .date _ _ format => congruence.bind (evaluate format) fun _ => congruence.showDate _ _ _
  | .learn lesson =>
    congruence.bind (define lesson) fun _ => congruence.map (congruence.learn _) _
  | .unlearn => congruence.map congruence.unlearn _
  | .eval content => evaluate content
  | .substitute _ content =>
    congruence.bind (evaluate content) fun _ => congruence.look fun _ _ _ _ => rfl
  | .styled _ content => congruence.map (evaluate content) _

theorem evaluateEach : ∀ templates : List Template,
    List.Forall₂ (Relates String) (evaluateEach redirect templates)
      (evaluateEach other templates)
  | [] => .nil
  | template :: templates => .cons (evaluate template) (evaluateEach templates)

theorem branches : ∀ guards : List Guard,
    List.Forall₂ (BranchRelates Relates) (branches redirect guards) (branches other guards)
  | [] => .nil
  | ⟨_, _, body⟩ :: guards => .cons ⟨rfl, rfl, evaluate body⟩ (branches guards)

theorem evaluateParts : ∀ parts : List LessonPart,
    List.Forall₂ (Relates String) (evaluateParts redirect parts) (evaluateParts other parts)
  | [] => .nil
  | .text content :: parts => .cons (congruence.pure content) (evaluateParts parts)
  | .eval content :: parts => .cons (evaluate content) (evaluateParts parts)

theorem evaluateContext : ∀ context : Option (List LessonPart),
    Relates (Option String) (evaluateContext redirect context) (evaluateContext other context)
  | none => congruence.pure none
  | some parts => congruence.map (congruence.concatenate (evaluateParts parts)) _

theorem define : ∀ lesson : Lesson,
    Relates Definition (lesson.define redirect) (lesson.define other)
  | ⟨pattern, that, topic, template⟩ =>
    congruence.bind (congruence.concatenate (evaluateParts pattern)) fun _ =>
      congruence.bind (evaluateContext that) fun _ =>
        congruence.bind (evaluateContext topic) fun _ => congruence.map (close template) _

theorem close : ∀ template : Template,
    Relates Template (template.close redirect) (template.close other)
  | .eval content => congruence.map (evaluate content) _
  | .sequence parts => congruence.map (closeEach parts) _
  | .random items => congruence.map (closeEach items) _
  | .condition guards => congruence.map (closeGuards guards) _
  | .redirect content => congruence.map (close content) _
  | .think content => congruence.map (close content) _
  | .assign _ value => congruence.map (close value) _
  | .map _ content => congruence.map (close content) _
  | .date _ _ format => congruence.map (close format) _
  | .substitute _ content => congruence.map (close content) _
  | .styled _ content => congruence.map (close content) _
  | .text content => congruence.pure (Template.text content)
  | .capture segment index => congruence.pure (Template.capture segment index)
  | .redirectCapture => congruence.pure Template.redirectCapture
  | .recall name => congruence.pure (Template.recall name)
  | .property name => congruence.pure (Template.property name)
  | .loop => congruence.pure Template.loop
  | .that turn sentence => congruence.pure (Template.that turn sentence)
  | .input index => congruence.pure (Template.input index)
  | .request index => congruence.pure (Template.request index)
  | .response index => congruence.pure (Template.response index)
  | .learn lesson => congruence.pure (Template.learn lesson)
  | .unlearn => congruence.pure Template.unlearn

theorem closeEach : ∀ templates : List Template,
    Relates (List Template) (closeEach redirect templates) (closeEach other templates)
  | [] => congruence.pure []
  | template :: templates =>
    congruence.bind (close template) fun _ => congruence.map (closeEach templates) _

theorem closeGuards : ∀ guards : List Guard,
    Relates (List Guard) (closeGuards redirect guards) (closeGuards other guards)
  | [] => congruence.pure []
  | ⟨predicate, value, body⟩ :: guards =>
    congruence.bind (congruence.map (close body) (Guard.mk predicate value)) fun _ =>
      congruence.map (closeGuards guards) _

end

end Congruence

/-! ### Replies -/

/-- **A relation that also the steps around a category respect.** -/
structure Replying (Relates : ∀ α : Type, Evaluation α → Evaluation α → Prop) : Prop
    extends Congruence Relates where
  inCategory {α : Type} {first second : Evaluation α} (captures : Captures) :
    Relates α first second → Relates α (inCategory captures first) (inCategory captures second)

namespace Replying

variable {Relates : ∀ α : Type, Evaluation α → Evaluation α → Prop}
  (replying : Replying Relates)

include replying

theorem respondOver {redirect other : String → Evaluation String}
    (answers : ∀ query, Relates String (redirect query) (other query)) (sentence : String) :
    Relates (Option Reply) (respondOver redirect sentence) (respondOver other sentence) := by
  unfold Evaluation.respondOver
  refine replying.bind (replying.look fun _ _ _ _ => rfl) fun found => ?_
  cases found with
  | none => exact replying.bind (replying.note rfl) fun _ => replying.pure none
  | some found =>
    have evaluated := replying.evaluate answers found.category.template
    refine replying.bind (replying.note rfl) fun _ => ?_
    exact replying.map (replying.inCategory found.captures evaluated) _

theorem replies {respond other : String → Evaluation (Option Reply)}
    (answers : ∀ sentence, Relates (Option Reply) (respond sentence) (other sentence))
    (sentences : List String) :
    Relates (List String) (replies respond sentences) (replies other sentences) := by
  induction sentences with
  | nil => exact replying.pure []
  | cons sentence sentences ih =>
    unfold Evaluation.replies
    refine replying.bind (answers sentence) fun reply => replying.bind ih fun others => ?_
    cases reply with
    | none => exact replying.pure others
    | some reply => exact replying.pure _

end Replying

/-- **A relation that also the steps around a redirection respect.** -/
structure Redirecting (Relates : ∀ α : Type, Evaluation α → Evaluation α → Prop) : Prop
    extends Replying Relates where
  deeper {α : Type} {first second : Evaluation α} :
    Relates α first second → Relates α (deeper first) (deeper second)
  noteRedirected (query : String) : Relates Unit (noteRedirected query) (noteRedirected query)
  exceedRedirects (query : String) :
    Relates String (exceedRedirects query) (exceedRedirects query)

namespace Redirecting

variable {Relates : ∀ α : Type, Evaluation α → Evaluation α → Prop}
  (redirecting : Redirecting Relates)

include redirecting

/-- **The answer to a query**, with the same number of nested redirections left. -/
theorem redirectWithin (left : Nat) (query : String) :
    Relates String (redirectWithin left query) (redirectWithin left query) := by
  induction left generalizing query with
  | zero => exact redirecting.exceedRedirects query
  | succ left ih =>
    have answered := redirecting.replies (redirecting.respondOver ih) (Text.sentences query)
    refine redirecting.deeper (redirecting.bind (redirecting.noteRedirected query) fun _ => ?_)
    exact redirecting.map answered _

theorem run (left : Relates Nat redirectsLeft redirectsLeft) (template : Template) :
    Relates String template.run template.run :=
  redirecting.bind left fun left => redirecting.evaluate (redirecting.redirectWithin left) template

theorem respond (left : Relates Nat redirectsLeft redirectsLeft) (sentence : String) :
    Relates (Option Reply) (respond sentence) (respond sentence) :=
  redirecting.bind left fun left =>
    redirecting.respondOver (redirecting.redirectWithin left) sentence

end Redirecting

/-! ### Turns -/

/-- **A relation that replies and the other steps of a turn respect.** -/
structure Answering (Relates : ∀ α : Type, Evaluation α → Evaluation α → Prop) : Prop
    extends Elementary Relates where
  respond (sentence : String) : Relates (Option Reply) (respond sentence) (respond sentence)
  recordInput (sentence : String) : Relates Unit (recordInput sentence) (recordInput sentence)
  classifier : Relates (Option Classifier) (Evaluation.look Agent.classifier)
    (Evaluation.look Agent.classifier)
  consulted (sentence : String) :
    Relates Unit (record (.consulted sentence)) (record (.consulted sentence))

namespace Answering

variable {Relates : ∀ α : Type, Evaluation α → Evaluation α → Prop}
  (answering : Answering Relates)

include answering

theorem fallback (sentence : String) :
    Relates (Option Reply) (fallback sentence) (fallback sentence) := by
  unfold Evaluation.fallback
  refine answering.bind answering.classifier fun classifier => ?_
  cases classifier with
  | none => exact answering.pure none
  | some classifier =>
    refine answering.bind (answering.consulted sentence) fun _ => ?_
    cases classifier sentence with
    | none => exact answering.pure none
    | some replacement =>
      exact answering.bind (answering.note rfl) fun _ => answering.respond replacement

theorem answerSentence (sentence : String) :
    Relates (Option Reply) (answerSentence sentence) (answerSentence sentence) := by
  unfold Evaluation.answerSentence
  refine answering.bind (answering.recordInput sentence) fun _ => ?_
  refine answering.bind (answering.respond sentence) fun reply => ?_
  cases reply with
  | some reply => exact answering.pure (some reply)
  | none => exact answering.fallback sentence

/-- **The sentences of an input.** -/
theorem answer (sentences : List String) :
    Relates (List Reply) (answer sentences) (answer sentences) := by
  induction sentences with
  | nil => exact answering.pure []
  | cons sentence sentences ih =>
    exact answering.bind (answering.answerSentence sentence) fun _ => answering.map ih _

end Answering

end Dialogue
