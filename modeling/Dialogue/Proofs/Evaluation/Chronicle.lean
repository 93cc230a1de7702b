/-
**The chronicle of an evaluation.**

Evaluating a template evaluates other templates inside: its parts, the item that is drawn, the bodies
of guards, what is evaluated at once in a lesson, and the templates of the categories that answer a
query. The chronicle lists all of that in order, with the lookups, the assignments and the repeated
passes of conditions in between.

* `Mark`, `Template.marks`: what happens directly inside the evaluation of a template;
* `smaller_of_mem_marks`: what is evaluated inside is smaller, by the redirections left, then the
  loops left, then the size of the template;
* `chronicle`, `Agent.chronicle`: so everything that happens inside can be listed, for a template and
  for a turn.
-/

import Dialogue.Proofs.Evaluation.Recursion

namespace Dialogue

open Evaluation

variable {α : Type}

/-- **Something that happens inside an evaluation.** -/
inductive Mark where
  /-- A template is evaluated in a context. -/
  | evaluates (template : Template) (context : Context)
  /-- A category is looked up for a sentence in a context. -/
  | looksUp (sentence : String) (context : Context)
  /-- A predicate is given a value. -/
  | assigns (name value : String)
  /-- A condition is evaluated once more. -/
  | repeats
  /-- A condition asks to be evaluated once more than the turn allows. -/
  | stops
  /-- A sentence of the input is noted as being answered. -/
  | hears (sentence : String)

namespace Context

/-- The context in which the template of a category that answers a sentence is evaluated. -/
def entered (context : Context) (sentence : String) (found : Match) : Context :=
  { context with
    captures := found.captures
    looping := false
    journal := .notice (.matched sentence found.category.key) :: context.journal }

/-- The context after a sentence of the input is noted. -/
def heard (context : Context) (sentence : String) : Context :=
  { context with agent :=
    { context.agent with history := context.agent.history.recordInput sentence } }

/-- The context in which a replacement for a sentence is answered. -/
def classified (context : Context) (sentence replacement : String) : Context :=
  { context with
    journal := .notice (.classified sentence replacement) :: .consulted sentence ::
      context.journal }

end Context

/-! ### Marks -/

/-- The templates that are evaluated one after the other, up to an interruption. -/
def marksOfAll : List Template → Context → List Mark
  | [], _ => []
  | template :: templates, context =>
    .evaluates template context ::
      match template.run.runIn context with
      | (.ok _, after) => marksOfAll templates after
      | (.error _, _) => []

/-- A sentence is looked up, and the template of the category that answers is evaluated. -/
def marksOfReply (sentence : String) (context : Context) : List Mark :=
  .looksUp sentence context ::
    match context.agent.lookup (context.agent.normalizer.tokenize sentence) with
    | none => []
    | some found => [.evaluates found.category.template (context.entered sentence found)]

/-- Sentences are answered one after the other, up to an interruption. -/
def marksOfReplies : List String → Context → List Mark
  | [], _ => []
  | sentence :: sentences, context =>
    marksOfReply sentence context ++
      match (respond sentence).runIn context with
      | (.ok _, after) => marksOfReplies sentences after
      | (.error _, _) => []

/-- A query is answered, unless redirections are nested too deep. -/
def marksOfRedirect (query : String) (context : Context) : List Mark :=
  if context.agent.settings.maxRedirects ≤ context.depth then []
  else marksOfReplies (Text.sentences query) (context.descended query)

/-- At most a number of passes of a condition. -/
def marksOfPasses (guards : List Guard) : Nat → Context → List Mark
  | 0, _ => []
  | left + 1, context =>
    match context.chosen guards with
    | none => []
    | some guard =>
      .evaluates guard.body { context with looping := false } ::
        match guard.body.run.runIn { context with looping := false } with
        | (.ok _, after) =>
          if after.looping then
            if after.loops < after.agent.settings.maxLoops then
              .repeats :: marksOfPasses guards left
                { after with looping := context.looping, loops := after.loops + 1 }
            else [.stops]
          else []
        | (.error _, _) => []

/-- **What happens directly inside the evaluation of a template.** -/
def Template.marks : Template → Context → List Mark
  | .assign name value, context =>
    .evaluates value context ::
      match value.run.runIn context with
      | (.ok said, _) => [.assigns name said]
      | (.error _, _) => []
  | .redirect content, context =>
    .evaluates content context ::
      match content.run.runIn context with
      | (.ok query, after) => marksOfRedirect query after
      | (.error _, _) => []
  | .redirectCapture, context => marksOfRedirect (context.captures.get .pattern 1) context
  | .condition guards, context =>
    marksOfPasses guards (context.agent.settings.maxLoops - context.loops + 1) context
  | .random items, context =>
    (items[context.agent.draws.head items.length]?).toList.map fun item =>
      .evaluates item (context.drawn items.length)
  | template, context => marksOfAll template.parts context

/-- What the classifier makes of a sentence is answered. -/
def marksOfFallback (sentence : String) (context : Context) : List Mark :=
  match context.agent.classifier.bind fun classifier => classifier sentence with
  | none => []
  | some replacement => marksOfReply replacement (context.classified sentence replacement)

/-- A sentence of the input is answered. -/
def marksOfSentence (sentence : String) (context : Context) : List Mark :=
  .hears sentence :: (marksOfReply sentence (context.heard sentence) ++
    match (respond sentence).runIn (context.heard sentence) with
    | (.ok none, after) => marksOfFallback sentence after
    | _ => [])

/-- The sentences of an input are answered one after the other, up to an interruption. -/
def marksOfAnswer : List String → Context → List Mark
  | [], _ => []
  | sentence :: sentences, context =>
    marksOfSentence sentence context ++
      match (answerSentence sentence).runIn context with
      | (.ok _, after) => marksOfAnswer sentences after
      | (.error _, _) => []

theorem marks_of_isPlain {template : Template} (plain : template.isPlain) (context : Context) :
    template.marks context = marksOfAll template.parts context := by
  cases template <;> first | rfl | cases plain

theorem marks_random {items : List Template} {item : Template} {context : Context}
    (drawn : items[context.agent.draws.head items.length]? = some item) :
    (Template.random items).marks context = [.evaluates item (context.drawn items.length)] := by
  change (items[context.agent.draws.head items.length]?).toList.map _ = _
  rw [drawn]
  rfl

/-! ### What is evaluated inside is smaller -/

/-- **What gets smaller**: the redirections that can still be nested, the loops that are left, and
the size of the template. -/
noncomputable def measureOf (place : Template × Context) : Nat × Nat × Nat :=
  (place.2.agent.settings.maxRedirects - place.2.depth,
    place.2.agent.settings.maxLoops + 1 - place.2.loops, sizeOf place.1)

/-- One evaluation is smaller than another one. -/
def Smaller (inner outer : Template × Context) : Prop :=
  Prod.Lex (· < ·) (Prod.Lex (· < ·) (· < ·)) (measureOf inner) (measureOf outer)

section Smaller

variable {template part : Template} {context place : Context}

/-- A smaller template that is evaluated on the way is smaller. -/
theorem Smaller.of_size (settings : place.agent.settings = context.agent.settings)
    (depth : place.depth = context.depth) (loops_le : context.loops ≤ place.loops)
    (size : sizeOf part < sizeOf template) : Smaller (part, place) (template, context) := by
  unfold Smaller measureOf
  dsimp only
  rw [settings, depth]
  refine .right _ ?_
  rcases Nat.lt_or_ge (context.agent.settings.maxLoops + 1 - place.loops)
    (context.agent.settings.maxLoops + 1 - context.loops) with fewer | same
  · exact .left _ _ fewer
  · have equal : context.agent.settings.maxLoops + 1 - place.loops =
        context.agent.settings.maxLoops + 1 - context.loops := by omega
    rw [equal]
    exact .right _ size

/-- Whatever is evaluated deeper is smaller. -/
theorem Smaller.of_depth (settings : place.agent.settings = context.agent.settings)
    (depth : place.depth = context.depth + 1)
    (below : context.depth < context.agent.settings.maxRedirects) :
    Smaller (part, place) (template, context) := by
  unfold Smaller measureOf
  dsimp only
  rw [settings, depth]
  exact .left _ _ (by omega)

theorem smaller_wellFounded : WellFounded Smaller :=
  InvImage.wf measureOf (Prod.lex Nat.lt_wfRel (Prod.lex Nat.lt_wfRel Nat.lt_wfRel)).wf

end Smaller

theorem mem_marksOfAll {templates : List Template} {part : Template} {context place : Context}
    (member : .evaluates part place ∈ marksOfAll templates context) :
    part ∈ templates ∧ Advances context place := by
  induction templates generalizing context with
  | nil => cases member
  | cons template templates ih =>
    rcases List.mem_cons.mp member with same | later
    · cases same
      exact ⟨List.mem_cons_self, .refl _⟩
    · have advances := advances_course.run template context
      split at later
      · rename_i text after ran
        rw [ran] at advances
        exact ⟨List.mem_cons_of_mem _ (ih later).1, advances.trans (ih later).2⟩
      · cases later

theorem mem_marksOfReply {sentence : String} {part : Template} {context place : Context}
    (member : .evaluates part place ∈ marksOfReply sentence context) :
    place.agent.settings = context.agent.settings ∧ place.depth = context.depth := by
  rcases List.mem_cons.mp member with same | found
  · cases same
  · split at found
    · cases found
    · cases List.mem_singleton.mp found
      exact ⟨rfl, rfl⟩

theorem mem_marksOfReplies {sentences : List String} {part : Template} {context place : Context}
    (member : .evaluates part place ∈ marksOfReplies sentences context) :
    place.agent.settings = context.agent.settings ∧ place.depth = context.depth := by
  induction sentences generalizing context with
  | nil => cases member
  | cons sentence sentences ih =>
    rcases List.mem_append.mp member with first | later
    · exact mem_marksOfReply first
    · have advances := advances_course.respond sentence context
      split at later
      · rename_i reply after ran
        rw [ran] at advances
        exact ⟨(ih later).1.trans advances.settings, (ih later).2.trans advances.depth⟩
      · cases later

theorem mem_marksOfRedirect {query : String} {part : Template} {context place : Context}
    (member : .evaluates part place ∈ marksOfRedirect query context) :
    place.agent.settings = context.agent.settings ∧ place.depth = context.depth + 1 ∧
      context.depth < context.agent.settings.maxRedirects := by
  unfold marksOfRedirect at member
  split at member
  · cases member
  · rename_i below
    obtain ⟨settings, depth⟩ := mem_marksOfReplies member
    exact ⟨settings, depth, Nat.lt_of_not_le below⟩

theorem mem_of_chosen {context : Context} {guards : List Guard} {guard : Guard}
    (chosen : context.chosen guards = some guard) : guard ∈ guards :=
  List.mem_of_find?_eq_some chosen

theorem mem_marksOfPasses {guards : List Guard} {left : Nat} {part : Template}
    {context place : Context} (member : .evaluates part place ∈ marksOfPasses guards left context) :
    sizeOf part < sizeOf guards ∧ place.agent.settings = context.agent.settings ∧
      place.depth = context.depth ∧ context.loops ≤ place.loops := by
  induction left generalizing context with
  | zero => cases member
  | succ left ih =>
    unfold marksOfPasses at member
    split at member
    · cases member
    · rename_i guard chosen
      rcases List.mem_cons.mp member with same | later
      · cases same
        have inside := List.sizeOf_lt_of_mem (mem_of_chosen chosen)
        have smaller : sizeOf guard.body < sizeOf guard := by
          obtain ⟨predicate, value, body⟩ := guard
          rw [Guard.mk.sizeOf_spec]
          change sizeOf body < _
          omega
        exact ⟨Nat.lt_trans smaller inside, rfl, rfl, Nat.le_refl _⟩
      · have advances := advances_course.run guard.body { context with looping := false }
        split at later
        · rename_i text after ran
          rw [ran] at advances
          split at later
          · split at later
            · rcases List.mem_cons.mp later with same | later
              · cases same
              · obtain ⟨size, settings, depth, loops_le⟩ := ih later
                refine ⟨size, settings.trans advances.settings, depth.trans advances.depth, ?_⟩
                exact Nat.le_trans advances.loops_le (Nat.le_of_succ_le loops_le)
            · cases List.mem_singleton.mp later
          · cases later
        · cases later

/-- **What is evaluated directly inside the evaluation of a template is smaller.** -/
theorem smaller_of_mem_marks {template part : Template} {context place : Context}
    (member : .evaluates part place ∈ template.marks context) :
    Smaller (part, place) (template, context) := by
  by_cases plain : template.isPlain
  · rw [marks_of_isPlain plain] at member
    obtain ⟨inParts, advances⟩ := mem_marksOfAll member
    exact .of_size advances.settings advances.depth advances.loops_le (sizeOf_of_mem_parts inParts)
  cases template with
  | assign name value =>
    rcases List.mem_cons.mp member with same | later
    · cases same
      exact .of_size rfl rfl (Nat.le_refl _) (by rw [Template.assign.sizeOf_spec]; omega)
    · split at later
      · cases List.mem_singleton.mp later
      · cases later
  | redirect content =>
    rcases List.mem_cons.mp member with same | later
    · cases same
      exact .of_size rfl rfl (Nat.le_refl _) (by rw [Template.redirect.sizeOf_spec]; omega)
    · have advances := advances_course.run content context
      split at later
      · rename_i query after ran
        rw [ran] at advances
        obtain ⟨settings, depth, below⟩ := mem_marksOfRedirect later
        rw [advances.settings] at settings below
        rw [advances.depth] at depth below
        exact .of_depth settings depth below
      · cases later
  | redirectCapture =>
    obtain ⟨settings, depth, below⟩ := mem_marksOfRedirect member
    exact .of_depth settings depth below
  | condition guards =>
    obtain ⟨size, settings, depth, loops_le⟩ := mem_marksOfPasses member
    exact .of_size settings depth loops_le (by rw [Template.condition.sizeOf_spec]; omega)
  | random items =>
    obtain ⟨item, drawn, same⟩ := List.mem_map.mp member
    cases same
    have inside := List.sizeOf_lt_of_mem (List.mem_of_getElem? (Option.mem_toList.mp drawn))
    exact .of_size rfl rfl (Nat.le_refl _) (by rw [Template.random.sizeOf_spec]; omega)
  | loop => cases member
  | _ => exact absurd rfl plain

/-! ### Chronicles -/

/-- A mark, with what happens inside it. -/
def Mark.expand (inner : Template × Context → List Mark) : Mark → List Mark
  | .evaluates template context => .evaluates template context :: inner (template, context)
  | mark => [mark]

/-- What happens is among some marks, or inside a template that is evaluated among them. -/
theorem mem_flatMap_expand_iff {inner : Template × Context → List Mark} {marks : List Mark}
    {mark : Mark} : mark ∈ marks.flatMap (Mark.expand inner) ↔
      mark ∈ marks ∨ ∃ template context, .evaluates template context ∈ marks ∧
        mark ∈ inner (template, context) := by
  rw [List.mem_flatMap]
  constructor
  · rintro ⟨other, among, expanded⟩
    cases other with
    | evaluates template context =>
      rcases List.mem_cons.mp expanded with rfl | inside
      · exact .inl among
      · exact .inr ⟨template, context, among, inside⟩
    | looksUp | assigns | repeats | stops | hears =>
      exact .inl (List.mem_singleton.mp expanded ▸ among)
  · rintro (among | ⟨template, context, among, inside⟩)
    · refine ⟨mark, among, ?_⟩
      cases mark <;> exact List.mem_cons_self
    · exact ⟨_, among, List.mem_cons_of_mem _ inside⟩

/-- **Everything that happens inside the evaluation of a template, in order.** -/
def chronicle (place : Template × Context) : List Mark :=
  (place.1.marks place.2).attach.flatMap fun mark =>
    match _same : mark.1 with
    | .evaluates template context => .evaluates template context :: chronicle (template, context)
    | other => [other]
termination_by measureOf place
decreasing_by exact smaller_of_mem_marks (_same ▸ mark.2)

theorem chronicle_eq (place : Template × Context) :
    chronicle place = (place.1.marks place.2).flatMap (Mark.expand chronicle) := by
  have inside : chronicle place =
      (place.1.marks place.2).attach.flatMap fun mark => mark.1.expand chronicle := by
    rw [chronicle]
    congr 1
    funext mark
    cases mark.1 <;> rfl
  rw [inside, ← List.flatMap_map, List.attach_map_subtype_val]

/-- **Everything that happens inside a turn, in order.** -/
def Agent.chronicle (agent : Agent) (input : String) : List Mark :=
  (marksOfAnswer (agent.inputSentences input) { agent := agent }).flatMap
    (Mark.expand Dialogue.chronicle)

end Dialogue
