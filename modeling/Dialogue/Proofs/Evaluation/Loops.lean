/-
**Who asks a condition to be evaluated again.**

A loop asks for another evaluation of the condition around it. Conditions, redirections and all other
steps leave what was asked before as it was, so exactly the loops on the level of a template count.

* `Quiet`: a step that asks for nothing and takes nothing back; `quiet_condition`,
  `quiet_redirectWithin`;
* `looping_evaluate_iff`: after a template, another evaluation is asked for exactly if it was before
  or a loop is reached on its level;
* `again_iff`: a condition is evaluated again exactly if the branch that was taken reached one.
-/

import Dialogue.Proofs.Evaluation.Keeping

namespace Dialogue

open Evaluation

variable {α β : Type}

/-- **A step that leaves alone whether the condition around is to be evaluated again.** -/
def Quiet (action : Evaluation α) : Prop :=
  ∀ context, (action.runIn context).2.looping = context.looping

theorem quiet_pure (value : α) : Quiet (pure value) := keeps_pure value

theorem quiet_look (view : Agent → α) : Quiet (look view) := keeps_look view

theorem Quiet.bind {action : Evaluation α} {next : α → Evaluation β} (first : Quiet action)
    (quiet : ∀ value, Quiet (next value)) : Quiet (action >>= next) :=
  Keeps.bind first quiet

/-- What a condition is to do is neither in the journal nor in the repertoire. -/
theorem overlooks_looping : Overlooks Context.looping := ⟨fun _ _ => rfl, fun _ _ => rfl⟩

/-! ### Quiet steps -/

theorem quiet_setPredicate (name value : String) : Quiet (setPredicate name value) := by
  intro context
  rw [runIn_setPredicate]

theorem quiet_exceedLoops : Quiet (exceedLoops : Evaluation α) := by
  intro context
  rw [runIn_exceedLoops]

theorem quiet_countLoop : Quiet countLoop := by
  intro context
  rw [runIn_countLoop]
  split
  · exact quiet_exceedLoops _
  · rfl

/-! ### Conditions and redirections -/

/-- The body of a condition keeps what it asks for to itself. -/
theorem quiet_underCondition (body : Evaluation α) : Quiet (underCondition body) := fun _ => rfl

theorem quiet_evaluateOnce (branches : List Branch) : Quiet (evaluateOnce branches) := by
  refine (quiet_look _).bind fun predicates => ?_
  cases branches.find? (Branch.applies predicates) with
  | none => exact quiet_pure none
  | some branch =>
    refine (quiet_underCondition branch.body).bind fun (text, again) => ?_
    cases again with
    | false => exact quiet_pure (some (text, false))
    | true => exact quiet_countLoop.bind fun _ => quiet_pure (some (text, true))

theorem quiet_evaluateAgain (branches : List Branch) (left : Nat) :
    Quiet (evaluateAgain branches left) := by
  induction left with
  | zero =>
    refine (quiet_evaluateOnce branches).bind fun outcome => ?_
    match outcome with
    | none => exact quiet_pure []
    | some (text, false) => exact quiet_pure [text]
    | some (_, true) => exact quiet_exceedLoops
  | succ left ih =>
    refine (quiet_evaluateOnce branches).bind fun outcome => ?_
    match outcome with
    | none => exact quiet_pure []
    | some (text, false) => exact quiet_pure [text]
    | some (text, true) => exact ih.bind fun texts => quiet_pure (text :: texts)

/-- **A condition is quiet.** -/
theorem quiet_condition (branches : List Branch) : Quiet (condition branches) := by
  have seen : Quiet loopsLeft := fun _ => rfl
  exact seen.bind fun left => (quiet_evaluateAgain branches left).bind fun _ => quiet_pure _

/-- A reply is quiet: the category has no condition around it. -/
theorem quiet_respondOver (redirect : String → Evaluation String) (sentence : String) :
    Quiet (respondOver redirect sentence) := by
  refine (quiet_look _).bind fun found => ?_
  cases found with
  | none => exact fun _ => rfl
  | some found =>
    have evaluated : Quiet (inCategory found.captures
        (found.category.template.evaluate redirect)) := fun _ => rfl
    have noted : Quiet (note (.matched sentence found.category.key)) := fun _ => rfl
    exact noted.bind fun _ => evaluated.bind fun _ => quiet_pure _

theorem Quiet.deeper {action : Evaluation α} (quiet : Quiet action) : Quiet (deeper action) :=
  fun context => quiet { context with depth := context.depth + 1 }

theorem quiet_replies {respond : String → Evaluation (Option Reply)}
    (quiet : ∀ sentence, Quiet (respond sentence)) (sentences : List String) :
    Quiet (replies respond sentences) := by
  induction sentences with
  | nil => exact quiet_pure []
  | cons sentence sentences ih =>
    refine (quiet sentence).bind fun reply => ih.bind fun others => ?_
    cases reply with
    | none => exact quiet_pure others
    | some reply => exact quiet_pure _

/-- **A redirection is quiet.** -/
theorem quiet_redirectWithin (left : Nat) (query : String) :
    Quiet (redirectWithin left query) := by
  cases left with
  | zero =>
    intro context
    rw [redirectWithin, runIn_exceedRedirects]
  | succ left =>
    have noted : Quiet (noteRedirected query) := fun _ => rfl
    have answered : Quiet (replies (respondOver (redirectWithin left)) (Text.sentences query)) :=
      quiet_replies (quiet_respondOver _) _
    rw [redirectWithin]
    exact (noted.bind fun _ => answered.bind fun _ => quiet_pure _).deeper

/-! ### Loops on the level of a template -/

section Level

variable {redirect : String → Evaluation String}

/-- A template other than a loop and a choice asks for what its parts ask for. -/
theorem looping_evaluate_of_parts (quiet : ∀ query, Quiet (redirect query)) {template : Template}
    (noLoop : template ≠ .loop) (noChoice : ∀ items, template ≠ .random items)
    (context : Context) :
    ((template.evaluate redirect).runIn context).2.looping =
      ((evaluateAll redirect template.parts).runIn context).2.looping := by
  cases template with
  | redirectCapture =>
    have read : Quiet captures := fun _ => rfl
    exact read.bind (fun _ => quiet _) context
  | redirect inner => exact view_evaluate_of_content quiet context
  | assign name value =>
    have assigned : ∀ text, Quiet (do setPredicate name text; pure text : Evaluation String) :=
      fun text => (quiet_setPredicate name text).bind fun _ => quiet_pure text
    exact view_evaluate_of_content assigned context
  | condition guards => exact quiet_condition _ context
  | loop => exact absurd rfl noLoop
  | random items => exact absurd rfl (noChoice items)
  | _ => exact view_evaluate_of_parts overlooks_looping rfl context

/-- A loop is reached at the template itself, or at one that it calls. -/
theorem reaches_loop_iff {template : Template} {context : Context} :
    (∃ place, Reaches redirect (template, context) (.loop, place)) ↔
      template = .loop ∨ ∃ part start, Calls redirect (template, context) (part, start) ∧
        ∃ place, Reaches redirect (part, start) (.loop, place) := by
  constructor
  · rintro ⟨place, reaches⟩
    rcases Relation.ReflTransGen.cases_head reaches with same | ⟨⟨part, start⟩, calls, reaches⟩
    · exact .inl (congrArg Prod.fst same)
    · exact .inr ⟨part, start, calls, place, reaches⟩
  · rintro (rfl | ⟨part, start, calls, place, reaches⟩)
    · exact ⟨context, .refl⟩
    · exact ⟨place, .head calls reaches⟩

/-- Templates in order ask for another evaluation if one that is visited does. -/
theorem looping_evaluateAll_iff {asks : Template → Context → Prop} {templates : List Template}
    (each : ∀ template ∈ templates, ∀ context,
      ((template.evaluate redirect).runIn context).2.looping = true ↔
        context.looping = true ∨ asks template context) (context : Context) :
    ((evaluateAll redirect templates).runIn context).2.looping = true ↔
      context.looping = true ∨
        ∃ part start, Visits redirect templates context part start ∧ asks part start := by
  induction templates generalizing context with
  | nil =>
    refine ⟨.inl, ?_⟩
    rintro (before | ⟨part, start, visits, _⟩)
    · exact before
    · cases visits
  | cons template templates ih =>
    have first := each template List.mem_cons_self context
    have others := ih fun other member => each other (List.mem_cons_of_mem _ member)
    rw [evaluateAll, runIn_bind]
    cases ran : (template.evaluate redirect).runIn context with
    | mk result after =>
    rw [ran] at first
    cases result with
    | error interruption =>
      -- Nothing after the template is visited.
      change after.looping = true ↔ _
      rw [first]
      refine or_congr_right ⟨fun asked => ⟨_, _, .head .., asked⟩, ?_⟩
      rintro ⟨part, start, visits, asked⟩
      cases visits with
      | head => exact asked
      | tail succeeded _ =>
        rw [ran] at succeeded
        cases succeeded
    | ok text =>
      change ((evaluateAll redirect templates).runIn after).2.looping = true ↔ _
      rw [others after, first, or_assoc]
      refine or_congr_right ⟨?_, ?_⟩
      · rintro (asked | ⟨part, start, visits, asked⟩)
        · exact ⟨_, _, .head .., asked⟩
        · exact ⟨part, start, .tail ran visits, asked⟩
      · rintro ⟨part, start, visits, asked⟩
        cases visits with
        | head => exact .inl asked
        | tail succeeded later =>
          rw [ran] at succeeded
          cases succeeded
          exact .inr ⟨part, start, later, asked⟩

theorem length_evaluateEach (templates : List Template) :
    (evaluateEach redirect templates).length = templates.length := by
  induction templates with
  | nil => rfl
  | cons template templates ih => rw [evaluateEach, List.length_cons, List.length_cons, ih]

theorem getElem?_evaluateEach (templates : List Template) (index : Nat) :
    (evaluateEach redirect templates)[index]? =
      (templates[index]?).map (Template.evaluate redirect) := by
  induction templates generalizing index with
  | nil => rfl
  | cons template templates ih =>
    cases index with
    | zero => rfl
    | succ index => exact ih index

/-- A choice evaluates the item that is drawn. -/
theorem runIn_random {items : List Template} (some? : items ≠ []) (context : Context) :
    ∃ item, items[context.agent.draws.head items.length]? = some item ∧
      ((Template.random items).evaluate redirect).runIn context =
        (item.evaluate redirect).runIn (context.drawn items.length) := by
  have positive := List.length_pos_iff.mpr some?
  have inside := context.agent.draws.head_lt positive
  refine ⟨_, List.getElem?_eq_getElem inside, ?_⟩
  have notEmpty : (evaluateEach redirect items).isEmpty = false := by
    rw [List.isEmpty_eq_false_iff, ← List.length_pos_iff, length_evaluateEach]
    exact positive
  rw [Template.evaluate, takeOne, notEmpty, if_neg Bool.false_ne_true, runIn_bind, runIn_draw,
    length_evaluateEach]
  dsimp only
  rw [getElem?_evaluateEach, List.getElem?_eq_getElem inside]
  rfl

/-- A template other than a choice calls the parts that are visited. -/
theorem calls_iff_visits {template part : Template} {context start : Context}
    (noChoice : ∀ items, template ≠ .random items) :
    Calls redirect (template, context) (part, start) ↔
      Visits redirect template.parts context part start := by
  refine ⟨fun calls => ?_, .part⟩
  cases calls with
  | part visits => exact visits
  | item _ => exact absurd rfl (noChoice _)

/-- A choice calls the item that is drawn. -/
theorem calls_random_iff {items : List Template} {part : Template} {context start : Context} :
    Calls redirect (.random items, context) (part, start) ↔
      items[context.agent.draws.head items.length]? = some part ∧
        start = context.drawn items.length := by
  constructor
  · intro calls
    cases calls with
    | part visits => cases visits
    | item drawn => exact ⟨drawn, rfl⟩
  · rintro ⟨drawn, rfl⟩
    exact .item drawn

/-- **After a template, another evaluation of the condition around is asked for exactly if it was
before, or a loop is reached on the level of the template.** -/
theorem looping_evaluate_iff (quiet : ∀ query, Quiet (redirect query)) (template : Template)
    (context : Context) :
    ((template.evaluate redirect).runIn context).2.looping = true ↔
      context.looping = true ∨ ∃ place, Reaches redirect (template, context) (.loop, place) := by
  induction size : sizeOf template using Nat.strongRecOn generalizing template context with
  | ind bound ih =>
  subst size
  rw [reaches_loop_iff]
  by_cases loop : template = .loop
  · subst loop
    exact ⟨fun _ => .inr (.inl rfl), fun _ => rfl⟩
  rw [or_iff_right loop]
  by_cases choice : ∃ items, template = .random items
  · obtain ⟨items, rfl⟩ := choice
    simp only [calls_random_iff]
    by_cases nothing : items = []
    · subst nothing
      refine ⟨.inl, ?_⟩
      rintro (before | ⟨part, start, ⟨drawn, _⟩, _⟩)
      · exact before
      · cases drawn
    · obtain ⟨item, drawn, ran⟩ := @runIn_random redirect items nothing context
      have smaller : sizeOf item < sizeOf (Template.random items) := by
        have inside := List.sizeOf_lt_of_mem (List.mem_of_getElem? drawn)
        rw [Template.random.sizeOf_spec]
        omega
      rw [ran, ih _ smaller item (context.drawn items.length) rfl, Context.looping_drawn]
      refine or_congr_right
        ⟨fun asked => ⟨item, context.drawn items.length, ⟨drawn, rfl⟩, asked⟩, ?_⟩
      rintro ⟨part, start, ⟨same, rfl⟩, asked⟩
      rw [drawn] at same
      rwa [Option.some.inj same]
  · have noChoice : ∀ items, template ≠ .random items := fun items same => choice ⟨items, same⟩
    simp only [calls_iff_visits noChoice]
    rw [looping_evaluate_of_parts quiet loop noChoice]
    exact looping_evaluateAll_iff (fun part member context =>
      ih _ (sizeOf_of_mem_parts member) part context rfl) context

/-! ### Conditions -/

theorem branches_eq_map (guards : List Guard) :
    branches redirect guards = guards.map (Guard.branch redirect) := by
  induction guards with
  | nil => rfl
  | cons guard guards ih => rw [branches, ih, List.map_cons]

/-- The guard whose body is evaluated, if any. -/
def chosenGuard (redirect : String → Evaluation String) (guards : List Guard)
    (predicates : Predicates) : Option Guard :=
  guards.find? fun guard => (guard.branch redirect).applies predicates

theorem body_branch (guard : Guard) :
    (guard.branch redirect).body = guard.body.evaluate redirect := by
  cases guard
  rw [Guard.branch]

/-- The first branch that applies is that of the chosen guard. -/
theorem find?_branches (guards : List Guard) (predicates : Predicates) :
    (branches redirect guards).find? (Branch.applies predicates) =
      (chosenGuard redirect guards predicates).map (Guard.branch redirect) := by
  rw [branches_eq_map, List.find?_map]
  rfl

/-- **A condition is evaluated again exactly if the branch that was taken reached a loop on its own
level.** -/
theorem again_iff (quiet : ∀ query, Quiet (redirect query)) {guards : List Guard}
    {context after : Context} {text : String} {again : Bool}
    (ran : (evaluateOnce (branches redirect guards)).runIn context =
      (.ok (some (text, again)), after)) :
    again = true ↔ ∃ guard place,
      chosenGuard redirect guards context.agent.predicates = some guard ∧
        Reaches redirect (guard.body, { context with looping := false }) (.loop, place) := by
  unfold evaluateOnce at ran
  rw [runIn_look_bind, find?_branches] at ran
  cases chosen : chosenGuard redirect guards context.agent.predicates with
  | none =>
    rw [chosen] at ran
    cases ran
  | some guard =>
    have asked := looping_evaluate_iff quiet guard.body { context with looping := false }
    have again_eq : again =
        ((guard.body.evaluate redirect).runIn { context with looping := false }).2.looping := by
      rw [chosen, Option.map_some] at ran
      dsimp only at ran
      rw [runIn_bind, runIn_underCondition, body_branch] at ran
      generalize (guard.body.evaluate redirect).runIn { context with looping := false } = outcome
        at ran
      obtain ⟨result, left⟩ := outcome
      cases result with
      | error interruption => cases ran
      | ok text =>
        generalize left.looping = asks at ran
        cases asks with
        | false =>
          cases ran
          rfl
        | true =>
          change (countLoop >>= fun _ => pure (some (text, true))).runIn _ = _ at ran
          rw [runIn_bind] at ran
          split at ran
          · cases ran
            rfl
          · cases ran
    rw [again_eq, asked, or_iff_right Bool.false_ne_true]
    constructor
    · rintro ⟨place, reaches⟩
      exact ⟨guard, place, rfl, reaches⟩
    · rintro ⟨other, place, same, reaches⟩
      rw [Option.some.inj same]
      exact ⟨place, reaches⟩

end Level

end Dialogue
