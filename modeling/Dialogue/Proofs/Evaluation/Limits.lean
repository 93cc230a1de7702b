/-
**The limits of a turn.**

A turn stops when redirections are nested too deep or when conditions are evaluated again too often.
The limits do nothing else: a run that succeeds with some limits is the same with all others, up to
the first redirection or the first repeated pass that is beyond them.

* `nesting`: how deep the redirections among some events are nested;
* `Cut`: how the run of a step under other limits relates to a successful one. It is the same if what
  the successful one used is within them, and else it is interrupted by a limit that was exceeded;
* `cut_repeating`: the steps without a body, and the steps around the body of a condition, are cut so.
-/

import Dialogue.Proofs.Evaluation.Course
import Dialogue.Proofs.Evaluation.Transport

namespace Dialogue

open Evaluation

variable {α β : Type}

/-! ### Nesting -/

/-- How deep a redirection is nested that a notice is about. -/
def Notice.nesting : Notice → Nat
  | .redirected depth _ => depth
  | _ => 0

def Event.nesting : Event → Nat
  | .notice fact => fact.nesting
  | .notified _ | .consulted _ => 0

/-- **How deep the redirections among some events are nested.** -/
def nesting (events : List Event) : Nat := (events.map Event.nesting).foldr max 0

theorem nesting_cons (event : Event) (events : List Event) :
    nesting (event :: events) = max event.nesting (nesting events) := rfl

theorem nesting_le_iff {events : List Event} {bound : Nat} :
    nesting events ≤ bound ↔ ∀ event ∈ events, event.nesting ≤ bound := by
  induction events with
  | nil => exact ⟨fun _ _ member => (nomatch member), fun _ => Nat.zero_le bound⟩
  | cons event events ih => rw [nesting_cons, Nat.max_le, ih, List.forall_mem_cons]

theorem nesting_reverse (events : List Event) : nesting events.reverse = nesting events := by
  have same : ∀ bound, nesting events.reverse ≤ bound ↔ nesting events ≤ bound := by
    intro bound
    rw [nesting_le_iff, nesting_le_iff]
    simp only [List.mem_reverse]
  exact Nat.le_antisymm ((same _).mpr (Nat.le_refl _)) ((same _).mp (Nat.le_refl _))

/-- Events that are not about redirections add nothing. -/
theorem nesting_append_of_flat {events : List Event} (flat : ∀ event ∈ events, event.nesting = 0)
    (past : List Event) : nesting (events ++ past) = nesting past := by
  induction events with
  | nil => rfl
  | cons event events ih =>
    rw [List.cons_append, nesting_cons, flat event List.mem_cons_self, Nat.zero_max]
    exact ih fun other member => flat other (List.mem_cons_of_mem _ member)

theorem Notice.nesting_of_isAside {notice : Notice} (aside : notice.isAside) :
    notice.nesting = 0 := by
  cases notice <;> first | rfl | cases aside

theorem Notice.nesting_of_isAboutRepertoire {notice : Notice} (about : notice.isAboutRepertoire) :
    notice.nesting = 0 := by
  cases notice <;> first | rfl | cases about

theorem Event.nesting_of_aside {event : Event}
    (aside : ∀ notice, event = .notice notice → notice.isAside) : event.nesting = 0 := by
  cases event with
  | notice notice => exact Notice.nesting_of_isAside (aside notice rfl)
  | notified | consulted => rfl

theorem nesting_noted {notices : List Notice} (flat : ∀ notice ∈ notices, notice.nesting = 0)
    (past : List Event) :
    nesting ((notices.map Event.notice).reverse ++ past) = nesting past := by
  refine nesting_append_of_flat (fun event member => ?_) past
  obtain ⟨notice, inside, rfl⟩ := List.mem_map.mp (List.mem_reverse.mp member)
  exact flat notice inside

/-! ### Staying and rising -/

/-- A context that a step without a body can leave: as deep, as often repeated. -/
structure Stays (before after : Context) : Prop where
  depth : after.depth = before.depth
  loops : after.loops = before.loops
  nesting : nesting after.journal = nesting before.journal

theorem stays_learn (context : Context) (definition : Definition) :
    Stays context ((learn definition).runIn context).2 := by
  have remark : ∀ notice ∈ definition.remarks context.agent.normalizer, notice.nesting = 0 := by
    intro notice member
    obtain ⟨kind, text, rfl⟩ := Definition.eq_unnamedReference_of_mem_remarks member
    rfl
  cases compiled : definition.compile context.agent.normalizer .learned with
  | ok category =>
    rw [runIn_learn_of_ok compiled]
    refine ⟨rfl, rfl, nesting_noted (fun notice member => ?_) _⟩
    rcases List.mem_append.mp member with inRemarks | learned
    · exact remark notice inRemarks
    · exact Notice.nesting_of_isAboutRepertoire
        (Repertoire.isAboutRepertoire_of_mem_learningNotices learned)
  | error fault =>
    rw [runIn_learn_of_error compiled]
    refine ⟨rfl, rfl, nesting_noted (fun notice member => ?_) _⟩
    rcases List.mem_append.mp member with inRemarks | malformed
    · exact remark notice inRemarks
    · rw [List.mem_singleton.mp malformed]
      rfl

theorem stays_unlearn (context : Context) : Stays context (unlearn.runIn context).2 := by
  rw [runIn_unlearn]
  refine ⟨rfl, rfl, nesting_noted (fun notice member => ?_) _⟩
  exact Notice.nesting_of_isAboutRepertoire
    (Repertoire.isAboutRepertoire_of_mem_unlearningNotices member)

theorem stays_course : PlainCourse Stays where
  refl _ := ⟨rfl, rfl, rfl⟩
  trans earlier later := ⟨later.depth.trans earlier.depth, later.loops.trans earlier.loops,
    later.nesting.trans earlier.nesting⟩
  askAgain _ := ⟨rfl, rfl, rfl⟩
  record context event aside := by
    refine ⟨rfl, rfl, ?_⟩
    rw [nesting_cons, Event.nesting_of_aside aside, Nat.zero_max]
  setPredicate _ _ _ := ⟨rfl, rfl, rfl⟩
  draw _ _ := ⟨rfl, rfl, rfl⟩
  learn := stays_learn
  unlearn := stays_unlearn

/-- A context that any evaluation can leave: as deep, and no redirection or loop is forgotten. -/
structure Rises (before after : Context) : Prop where
  depth : after.depth = before.depth
  loops_le : before.loops ≤ after.loops
  nesting_le : nesting before.journal ≤ nesting after.journal

theorem Stays.rises {before after : Context} (stays : Stays before after) : Rises before after :=
  ⟨stays.depth, Nat.le_of_eq stays.loops.symm, Nat.le_of_eq stays.nesting.symm⟩

theorem rises_course : Course Rises where
  refl context := (stays_course.refl context).rises
  trans earlier later := ⟨later.depth.trans earlier.depth,
    Nat.le_trans earlier.loops_le later.loops_le, Nat.le_trans earlier.nesting_le later.nesting_le⟩
  askAgain context := (stays_course.askAgain context).rises
  record context _ aside := (stays_course.record context aside).rises
  setPredicate context name value := (stays_course.setPredicate context name value).rises
  draw context draws := (stays_course.draw context draws).rises
  learn context definition := (stays_course.learn context definition).rises
  unlearn context := (stays_course.unlearn context).rises
  countLoop _ := ⟨rfl, Nat.le_succ _, Nat.le_refl _⟩
  redirected _ _ := ⟨rfl, Nat.le_refl _, Nat.le_max_right _ _⟩
  underCondition led := ⟨led.depth, led.loops_le, led.nesting_le⟩
  inCategory _ led := ⟨led.depth, led.loops_le, led.nesting_le⟩
  deeper led := ⟨rfl, led.loops_le, led.nesting_le⟩
  recordInput _ _ := ⟨rfl, Nat.le_refl _, Nat.le_refl _⟩

/-! ### Other limits -/

/-- The agent with other limits. -/
def Agent.withLimits (agent : Agent) (redirects loops : Nat) : Agent :=
  agent.retune redirects loops agent.classifier

/-- The same context under other limits. -/
def Context.withLimits (redirects loops : Nat) (context : Context) : Context :=
  { context with agent := context.agent.withLimits redirects loops }

/-- What a context has used is within some limits. -/
def Context.Within (redirects loops : Nat) (context : Context) : Prop :=
  nesting context.journal ≤ redirects ∧ context.loops ≤ loops

/-- A limit was exceeded by what a context has used. -/
def Context.Exceeds (redirects loops : Nat) (context : Context) : Interruption → Prop
  | .redirectLimit limit => limit = redirects ∧ redirects < nesting context.journal
  | .loopLimit limit => limit = loops ∧ loops < context.loops

theorem transport_withLimits (redirects loops : Nat) :
    PlainTransport (Context.withLimits redirects loops) where
  view blind context := blind context.agent redirects loops context.agent.classifier
  captures _ := rfl
  depth _ := rfl
  loops _ := rfl
  looping _ := rfl
  withCaptures _ _ := rfl
  withDepth _ _ := rfl
  withLoops _ _ := rfl
  withLooping _ _ := rfl
  record _ _ := rfl
  withPredicates _ _ := rfl
  withDraws _ _ := rfl
  withRepertoire _ _ := rfl

section Cut

variable {redirects loops depth : Nat}

theorem Context.Exceeds.not_within {context : Context} {interruption : Interruption}
    (exceeds : context.Exceeds redirects loops interruption) :
    ¬ context.Within redirects loops := by
  intro within
  cases interruption with
  | redirectLimit limit => exact absurd within.1 (Nat.not_le_of_lt exceeds.2)
  | loopLimit limit => exact absurd within.2 (Nat.not_le_of_lt exceeds.2)

theorem Context.Exceeds.rises {context after : Context} {interruption : Interruption}
    (exceeds : context.Exceeds redirects loops interruption) (rises : Rises context after) :
    after.Exceeds redirects loops interruption := by
  cases interruption with
  | redirectLimit limit => exact ⟨exceeds.1, Nat.lt_of_lt_of_le exceeds.2 rises.nesting_le⟩
  | loopLimit limit => exact ⟨exceeds.1, Nat.lt_of_lt_of_le exceeds.2 rises.loops_le⟩

/-- **What a step comes to under other limits**, if it succeeds under some: the same, if what it used
is within the limits, and else an interruption by a limit that was exceeded. -/
def CutsTo (redirects loops : Nat) (second : Evaluation α) (context : Context) (value : α)
    (after : Context) : Prop :=
  (after.Within redirects loops ∧ second.runIn (context.withLimits redirects loops) =
    (.ok value, after.withLimits redirects loops)) ∨
  ∃ interruption, after.Exceeds redirects loops interruption ∧
    (second.runIn (context.withLimits redirects loops)).1 = .error interruption

/-- **One step is the other one under other limits**, at a depth. -/
structure Cut (redirects loops depth : Nat) (α : Type) (first second : Evaluation α) : Prop where
  rises : Follows Rises α first second
  cutsTo {context after : Context} {value : α} : context.depth = depth →
    context.Within redirects loops → first.runIn context = (.ok value, after) →
      CutsTo redirects loops second context value after

namespace CutsTo

variable {context middle after : Context} {value : α} {result : β}

theorem bind {second : Evaluation α} {next : α → Evaluation β}
    (step : CutsTo redirects loops second context value middle) (rises : Rises middle after)
    (rest : middle.Within redirects loops →
      CutsTo redirects loops (next value) middle result after) :
    CutsTo redirects loops (second >>= next) context result after := by
  rcases step with ⟨within, same⟩ | ⟨interruption, exceeds, interrupted⟩
  · have continued : (second >>= next).runIn (context.withLimits redirects loops) =
        (next value).runIn (middle.withLimits redirects loops) := by
      rw [runIn_bind, same]
    unfold CutsTo
    rw [continued]
    exact rest within
  · refine .inr ⟨interruption, exceeds.rises rises, ?_⟩
    rw [runIn_bind]
    generalize second.runIn (context.withLimits redirects loops) = outcome at interrupted
    obtain ⟨outcome, left⟩ := outcome
    cases interrupted
    rfl

theorem pure (value : α) (within : context.Within redirects loops) :
    CutsTo redirects loops (pure value) context value context := .inl ⟨within, rfl⟩

theorem of_eq {second other : Evaluation α}
    (same : second.runIn (context.withLimits redirects loops) =
      other.runIn (context.withLimits redirects loops))
    (cut : CutsTo redirects loops other context value after) :
    CutsTo redirects loops second context value after := by
  unfold CutsTo
  rw [same]
  exact cut

end CutsTo

/-! ### Steps without a body -/

/-- A step that stays and does not notice the limits. -/
theorem Cut.of_stays {action : Evaluation α} (stays : Follows Stays α action action)
    (commutes : CommutesWith (Context.withLimits redirects loops) α action action) :
    Cut redirects loops depth α action action where
  rises context := (stays context).rises
  cutsTo {context after value} _ within ran := by
    have level := stays context
    have same := commutes context
    rw [ran] at level same
    refine .inl ⟨⟨?_, ?_⟩, same⟩
    · rw [level.nesting]
      exact within.1
    · rw [level.loops]
      exact within.2

theorem Cut.bind {first second : Evaluation α} {firstNext secondNext : α → Evaluation β}
    (step : Cut redirects loops depth α first second)
    (next : ∀ value, Cut redirects loops depth β (firstNext value) (secondNext value)) :
    Cut redirects loops depth β (first >>= firstNext) (second >>= secondNext) where
  rises := rises_course.follows_bind step.rises fun value => (next value).rises
  cutsTo {context after value} here within ran := by
    obtain ⟨found, middle, stepped, continued⟩ := exists_of_runIn_bind ran
    have risen := step.rises context
    rw [stepped] at risen
    have later := (next found).rises middle
    rw [continued] at later
    refine (step.cutsTo here within stepped).bind later fun withinMiddle => ?_
    exact (next found).cutsTo (risen.depth.trans here) withinMiddle continued

theorem cut_elementary : Elementary (Cut redirects loops depth) where
  pure value := .of_stays (stays_course.elementary.pure value)
    ((transport_withLimits redirects loops).elementary.pure value)
  bind := .bind
  look blind := .of_stays (stays_course.elementary.look blind)
    ((transport_withLimits redirects loops).elementary.look blind)
  captures := .of_stays stays_course.elementary.captures
    (transport_withLimits redirects loops).elementary.captures
  askAgain := .of_stays stays_course.elementary.askAgain
    (transport_withLimits redirects loops).elementary.askAgain
  note aside := .of_stays (stays_course.elementary.note aside)
    ((transport_withLimits redirects loops).elementary.note aside)
  setPredicate name value := .of_stays (stays_course.elementary.setPredicate name value)
    ((transport_withLimits redirects loops).elementary.setPredicate name value)
  draw choices := .of_stays (stays_course.elementary.draw choices)
    ((transport_withLimits redirects loops).elementary.draw choices)
  learn definition := .of_stays (stays_course.elementary.learn definition)
    ((transport_withLimits redirects loops).elementary.learn definition)
  unlearn := .of_stays stays_course.elementary.unlearn
    (transport_withLimits redirects loops).elementary.unlearn

/-! ### Conditions -/

theorem cut_underCondition {first second : Evaluation α}
    (body : Cut redirects loops depth α first second) :
    Cut redirects loops depth (α × Bool) (underCondition first) (underCondition second) where
  rises := rises_course.rerunning.underCondition body.rises
  cutsTo {context after value} here within ran := by
    rw [runIn_underCondition] at ran
    cases inside : first.runIn { context with looping := false } with
    | mk result left =>
    rw [inside] at ran
    cases result with
    | error interruption => cases ran
    | ok found =>
    cases ran
    have cut : CutsTo redirects loops second { context with looping := false } found left :=
      body.cutsTo here within inside
    have entered : (underCondition second).runIn (context.withLimits redirects loops) =
        ((second.runIn ({ context with looping := false }.withLimits redirects loops)).1.map
            fun value => (value, (second.runIn
              ({ context with looping := false }.withLimits redirects loops)).2.looping),
          { (second.runIn ({ context with looping := false }.withLimits redirects loops)).2 with
            looping := context.looping }) := rfl
    unfold CutsTo
    rw [entered]
    rcases cut with ⟨withinLeft, alike⟩ | ⟨interruption, exceeds, interrupted⟩
    · rw [alike]
      exact .inl ⟨withinLeft, rfl⟩
    · rw [interrupted]
      exact .inr ⟨interruption, exceeds, rfl⟩

theorem cut_countLoop : Cut redirects loops depth Unit countLoop countLoop where
  rises := rises_course.rerunning.countLoop
  cutsTo {context after value} _ within ran := by
    rw [runIn_countLoop] at ran
    split at ran
    · rw [runIn_exceedLoops] at ran
      cases ran
    · cases ran
      have counted : countLoop.runIn (context.withLimits redirects loops) =
          if loops < context.loops + 1 then
            exceedLoops.runIn ({ context with loops := context.loops + 1 }.withLimits redirects loops)
          else (.ok (), { context with loops := context.loops + 1 }.withLimits redirects loops) :=
        runIn_countLoop _
      unfold CutsTo
      rw [counted]
      split
      · rename_i exceeded
        rw [runIn_exceedLoops]
        exact .inr ⟨.loopLimit loops, ⟨rfl, exceeded⟩, rfl⟩
      · rename_i allowed
        exact .inl ⟨⟨within.1, Nat.le_of_not_lt allowed⟩, rfl⟩

theorem cut_repeating : Repeating (Cut redirects loops depth) where
  toElementary := cut_elementary
  underCondition := cut_underCondition
  countLoop := cut_countLoop

end Cut

end Dialogue
