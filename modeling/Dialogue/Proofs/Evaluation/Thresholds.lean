/-
**The thresholds of a turn.**

* `cut_condition`: conditions that are evaluated again under other limits. The induction is on the
  evaluations that the successful run has left; the other run has enough left as long as it is within
  its limit, because every pass that is repeated is counted;
* `cut_redirectWithin`: redirections, by induction on how many the successful run has left;
* `cut_answer`: so turns;
* `Agent.takeTurn_thresholds`: a turn that succeeds under some limits succeeds exactly under those
  that allow the redirections it nests and the passes it repeats.
-/

import Dialogue.Proofs.Evaluation.Accounts
import Dialogue.Proofs.Evaluation.Limits

namespace Dialogue

open Evaluation

variable {α : Type} {redirects loops depth : Nat}

/-! ### Conditions -/

/-- What follows a pass of a condition. -/
def afterPass (branches : List Branch) (left : Nat) :
    Option (String × Bool) → Evaluation (List String)
  | none => pure []
  | some (text, false) => pure [text]
  | some (text, true) =>
    match left with
    | 0 => exceedLoops
    | fewer + 1 => do
      let texts ← evaluateAgain branches fewer
      pure (text :: texts)

theorem evaluateAgain_eq (branches : List Branch) (left : Nat) :
    evaluateAgain branches left = evaluateOnce branches >>= afterPass branches left := by
  cases left with
  | zero =>
    rw [evaluateAgain]
    refine congrArg _ (funext fun passed => ?_)
    rcases passed with _ | ⟨_, _ | _⟩ <;> rfl
  | succ left =>
    rw [evaluateAgain]
    refine congrArg _ (funext fun passed => ?_)
    rcases passed with _ | ⟨_, _ | _⟩ <;> rfl

section Condition

variable {first second : List Branch}
  (related : List.Forall₂ (BranchRelates (Cut redirects loops depth)) first second)

include related

theorem rises_branches :
    List.Forall₂ (BranchRelates (Follows Rises)) first second :=
  related.imp fun _ _ alike => ⟨alike.predicate, alike.value, alike.body.rises⟩

/-- A pass that asks for another one was counted. -/
theorem loops_lt_of_again {context after : Context} {text : String}
    (ran : (evaluateOnce first).runIn context = (.ok (some (text, true)), after)) :
    context.loops < after.loops := by
  rw [evaluateOnce, runIn_look_bind] at ran
  have alike := BranchRelates.find? (rises_branches related) context.agent.predicates
  generalize first.find? (Branch.applies context.agent.predicates) = chosen at alike ran
  generalize second.find? (Branch.applies context.agent.predicates) = other at alike
  cases alike with
  | none => cases ran
  | @some branch other alike =>
  obtain ⟨⟨found, asks⟩, left, evaluated, continued⟩ := exists_of_runIn_bind ran
  have risen := rises_course.rerunning.underCondition alike.body context
  rw [evaluated] at risen
  cases asks with
  | false => cases continued
  | true =>
  obtain ⟨_, counted, loops, done⟩ := exists_of_runIn_bind continued
  rw [runIn_countLoop] at loops
  split at loops
  · rw [runIn_exceedLoops] at loops
    cases loops
  · cases loops
    cases done
    exact Nat.lt_succ_of_le risen.loops_le

/-- **Conditions under other limits**, as long as the evaluations that are left cover what the limit
allows. -/
theorem cutsTo_evaluateAgain {allowed left : Nat} {context after : Context} {texts : List String}
    (here : context.depth = depth) (within : context.Within redirects loops)
    (enough : loops ≤ context.loops + left)
    (ran : (evaluateAgain first allowed).runIn context = (.ok texts, after)) :
    CutsTo redirects loops (evaluateAgain second left) context texts after := by
  induction allowed generalizing left context texts with
  | zero =>
    rw [evaluateAgain_eq] at ran ⊢
    obtain ⟨passed, middle, once, rest⟩ := exists_of_runIn_bind ran
    have cut := (cut_repeating.evaluateOnce related).cutsTo here within once
    match passed with
    | none | some (_, false) =>
      cases rest
      exact cut.bind (rises_course.refl _) fun withinMiddle => .pure _ withinMiddle
    | some (text, true) =>
      rw [afterPass, runIn_exceedLoops] at rest
      cases rest
  | succ allowed ih =>
    rw [evaluateAgain_eq] at ran ⊢
    obtain ⟨passed, middle, once, rest⟩ := exists_of_runIn_bind ran
    have cut := (cut_repeating.evaluateOnce related).cutsTo here within once
    match passed with
    | none | some (_, false) =>
      cases rest
      exact cut.bind (rises_course.refl _) fun withinMiddle => .pure _ withinMiddle
    | some (text, true) =>
      have counted := loops_lt_of_again related once
      obtain ⟨others, _, again, done⟩ := exists_of_runIn_bind rest
      cases done
      have risen := rises_course.rerunning.evaluateAgain (rises_branches related) allowed middle
      rw [again] at risen
      refine cut.bind risen fun withinMiddle => ?_
      -- The pass is within the limit, so that there is one more evaluation left.
      obtain ⟨fewer, rfl⟩ : ∃ fewer, left = fewer + 1 := by
        have := withinMiddle.2
        exact ⟨left - 1, by omega⟩
      have depth : middle.depth = depth := by
        have risen := (cut_repeating.evaluateOnce related).rises context
        rw [once] at risen
        exact risen.depth.trans here
      exact (ih depth withinMiddle (by omega) again).bind (rises_course.refl _)
        fun withinAfter => .pure _ withinAfter

theorem cut_condition : Cut redirects loops depth String (condition first) (condition second) where
  rises := rises_course.rerunning.congruence.condition (rises_branches related)
  cutsTo {context after value} here within ran := by
    rw [condition, runIn_loopsLeft_bind] at ran
    obtain ⟨texts, _, repeated, done⟩ := exists_of_runIn_bind ran
    cases done
    have enough : loops ≤ context.loops + (loops - context.loops) := by omega
    have cut := cutsTo_evaluateAgain related here within enough repeated
    refine .of_eq (runIn_loopsLeft_bind _ _) ?_
    exact cut.bind (rises_course.refl _) fun withinAfter => .pure _ withinAfter

end Condition

theorem cut_congruence : Congruence (Cut redirects loops depth) where
  toElementary := cut_elementary
  condition := cut_condition

/-! ### Replies and redirections -/

theorem cut_inCategory {first second : Evaluation α} (captures : Captures)
    (body : Cut redirects loops depth α first second) :
    Cut redirects loops depth α (inCategory captures first) (inCategory captures second) where
  rises := rises_course.redirecting.inCategory captures body.rises
  cutsTo {context after value} here within ran := by
    rw [runIn_inCategory] at ran
    cases inside : first.runIn { context with captures := captures, looping := false } with
    | mk result left =>
    rw [inside] at ran
    cases ran
    have cut : CutsTo redirects loops second
        { context with captures := captures, looping := false } value left :=
      body.cutsTo here within inside
    have entered : (inCategory captures second).runIn (context.withLimits redirects loops) =
        ((second.runIn ({ context with captures := captures, looping := false }.withLimits
            redirects loops)).1,
          { (second.runIn ({ context with captures := captures, looping := false }.withLimits
              redirects loops)).2 with
            captures := context.captures, looping := context.looping }) := rfl
    unfold CutsTo
    rw [entered]
    rcases cut with ⟨withinLeft, alike⟩ | ⟨interruption, exceeds, interrupted⟩
    · rw [alike]
      exact .inl ⟨withinLeft, rfl⟩
    · exact .inr ⟨interruption, exceeds, interrupted⟩

theorem cut_replying : Replying (Cut redirects loops depth) where
  toCongruence := cut_congruence
  inCategory := cut_inCategory

theorem cut_deeper {first second : Evaluation α}
    (body : Cut redirects loops (depth + 1) α first second) :
    Cut redirects loops depth α (deeper first) (deeper second) where
  rises := rises_course.redirecting.deeper body.rises
  cutsTo {context after value} here within ran := by
    rw [runIn_deeper] at ran
    cases inside : first.runIn { context with depth := context.depth + 1 } with
    | mk result left =>
    rw [inside] at ran
    cases ran
    have cut : CutsTo redirects loops second { context with depth := context.depth + 1 } value
        left := body.cutsTo (congrArg Nat.succ here) within inside
    have entered : (deeper second).runIn (context.withLimits redirects loops) =
        ((second.runIn ({ context with depth := context.depth + 1 }.withLimits
            redirects loops)).1,
          { (second.runIn ({ context with depth := context.depth + 1 }.withLimits
              redirects loops)).2 with depth := context.depth }) := rfl
    unfold CutsTo
    rw [entered]
    rcases cut with ⟨withinLeft, alike⟩ | ⟨interruption, exceeds, interrupted⟩
    · rw [alike]
      exact .inl ⟨withinLeft, rfl⟩
    · exact .inr ⟨interruption, exceeds, interrupted⟩

/-- A redirection that is within the limit is noted under both. -/
theorem cut_noteRedirected (query : String) (allowed : depth ≤ redirects) :
    Cut redirects loops depth Unit (noteRedirected query) (noteRedirected query) where
  rises := rises_course.redirecting.noteRedirected query
  cutsTo {context after value} here within ran := by
    rw [runIn_noteRedirected] at ran
    cases ran
    refine .inl ⟨⟨?_, within.2⟩, rfl⟩
    rw [nesting_cons]
    refine Nat.max_le.mpr ⟨?_, within.1⟩
    change context.depth ≤ redirects
    rw [here]
    exact allowed

/-- A redirection that is followed is noted, and stays noted. -/
theorem lt_nesting_redirected (left : Nat) (query : String) (context : Context) :
    context.depth < nesting ((redirectWithin (left + 1) query).runIn context).2.journal := by
  have answered := rises_course.redirecting.replies
    (rises_course.redirecting.respondOver (rises_course.redirecting.redirectWithin left))
    (Text.sentences query)
  have risen := rises_course.redirecting.map answered Text.unwords (context.descended query)
  have noted : context.depth + 1 ≤ nesting (context.descended query).journal :=
    Nat.le_max_left _ _
  have followed : ((redirectWithin (left + 1) query).runIn context).2.journal =
      (Evaluation.runIn (do
        let texts ← replies (respondOver (redirectWithin left)) (Text.sentences query)
        pure (Text.unwords texts)) (context.descended query)).2.journal := by
    rw [redirectWithin, runIn_deeper, runIn_bind, runIn_noteRedirected, Context.descended]
  rw [followed]
  exact Nat.le_trans noted risen.nesting_le

/-- A redirection that is beyond the limit. -/
theorem cut_redirectWithin_zero (left : Nat) (query : String) (reached : redirects ≤ depth) :
    Cut redirects loops depth String (redirectWithin (left + 1) query)
      (redirectWithin 0 query) where
  rises context := rises_course.redirecting.redirectWithin (left + 1) query context
  cutsTo {context after value} here _ ran := by
    have noted := lt_nesting_redirected left query context
    rw [ran, here] at noted
    have exceeds : redirects < nesting after.journal := Nat.lt_of_le_of_lt reached noted
    refine .inr ⟨.redirectLimit redirects, ⟨rfl, exceeds⟩, ?_⟩
    rw [redirectWithin, runIn_exceedRedirects]
    rfl

/-- **Redirections under other limits.** Both have as many left as their limits say. -/
theorem cut_redirectWithin (left : Nat) (query : String) :
    Cut redirects loops depth String (redirectWithin left query)
      (redirectWithin (redirects - depth) query) := by
  induction left generalizing depth query with
  | zero =>
    refine ⟨rises_course.redirecting.exceedRedirects query, fun _ _ ran => ?_⟩
    rw [redirectWithin, runIn_exceedRedirects] at ran
    cases ran
  | succ left ih =>
    rcases Nat.lt_or_ge depth redirects with below | reached
    · have fewer : redirects - depth = redirects - (depth + 1) + 1 := by omega
      have answers : ∀ query, Cut redirects loops (depth + 1) String (redirectWithin left query)
          (redirectWithin (redirects - (depth + 1)) query) := ih
      have answered := cut_replying.replies (cut_replying.respondOver answers)
        (Text.sentences query)
      rw [fewer]
      refine cut_deeper (.bind (cut_noteRedirected query below) fun _ => ?_)
      exact cut_elementary.map answered Text.unwords
    · rw [Nat.sub_eq_zero_of_le reached]
      exact cut_redirectWithin_zero left query reached

theorem cut_respond (sentence : String) :
    Cut redirects loops depth (Option Reply) (respond sentence) (respond sentence) where
  rises := rises_course.redirecting.respond rises_course.refl sentence
  cutsTo {context after value} here within ran := by
    rw [respond, runIn_redirectsLeft_bind] at ran
    refine .of_eq (runIn_redirectsLeft_bind _ _) ?_
    change CutsTo redirects loops
      (respondOver (redirectWithin (redirects - context.depth)) sentence) context value after
    rw [here]
    exact (cut_replying.respondOver (cut_redirectWithin _) sentence).cutsTo here within ran

/-! ### Turns -/

theorem cut_answering : Answering (Cut redirects loops depth) where
  toElementary := cut_elementary
  respond := cut_respond
  recordInput _ := .of_stays (fun _ => ⟨rfl, rfl, rfl⟩) fun _ => rfl
  classifier := .of_stays (fun _ => ⟨rfl, rfl, rfl⟩) fun _ => rfl
  consulted _ := .of_stays (fun _ => ⟨rfl, rfl, Nat.zero_max _⟩) fun _ => rfl

/-- The agent with one more turn in its history. -/
def Agent.keep (turn : Turn) (agent : Agent) : Agent :=
  { agent with history := agent.history.append turn }

section Turn

variable {agent : Agent} {input : String} {first second : Nat} {replies : List Reply}
  {after : Context}
  (answered : (answer (agent.inputSentences input)).runIn
    { agent := agent.withLimits first second } = (.ok replies, after))

include answered

/-- A turn that is completed under some limits, under others. -/
theorem cutsTo_answer (redirects loops : Nat) :
    CutsTo redirects loops (answer (agent.inputSentences input))
      { agent := agent.withLimits first second } replies after := by
  have within : ({ agent := agent.withLimits first second } : Context).Within redirects loops :=
    ⟨Nat.zero_le redirects, Nat.zero_le loops⟩
  exact (cut_answering.answer (agent.inputSentences input)).cutsTo rfl within answered

theorem takeTurn_of_within (within : after.Within redirects loops) :
    (agent.withLimits redirects loops).takeTurn input =
        (.ok (Turn.ofReplies input (agent.inputSentences input) replies),
          (after.agent.keep (Turn.ofReplies input (agent.inputSentences input) replies)).withLimits
            redirects loops,
          after.journal.reverse) ∧
      reruns ((agent.withLimits redirects loops).chronicle input) = after.loops := by
  rcases cutsTo_answer answered redirects loops with ⟨_, same⟩ | ⟨interruption, exceeds, _⟩
  · refine ⟨@Agent.takeTurn_of_ok (agent.withLimits redirects loops) _ _ _ same, ?_⟩
    have accounts := (agent.withLimits redirects loops).accounts_chronicle input
    have finish : ((answer ((agent.withLimits redirects loops).inputSentences input)).runIn
        { agent := agent.withLimits redirects loops }).2 = after.withLimits redirects loops :=
      congrArg Prod.snd same
    rw [finish] at accounts
    have counted := accounts.loops_eq within.2
    exact (counted.trans (Nat.zero_add _)).symm
  · exact absurd within exceeds.not_within

theorem takeTurn_of_not_within (beyond : ¬ after.Within redirects loops) :
    ∃ interruption, after.Exceeds redirects loops interruption ∧
      ((agent.withLimits redirects loops).takeTurn input).1 = .error interruption := by
  rcases cutsTo_answer answered redirects loops with ⟨within, _⟩ | ⟨interruption, exceeds, cut⟩
  · exact absurd within beyond
  · refine ⟨interruption, exceeds, ?_⟩
    exact congrArg Prod.fst (Agent.takeTurn_of_error (Prod.ext cut rfl))

end Turn

/-- **A turn has two thresholds.**

Either a turn is interrupted whatever the limits are. Or it nests redirections so deep and repeats
passes of conditions so often that it is completed exactly if the limits allow both. Whenever it is
completed, the turn, the agent but for its limits, and what happens are the same. If only the limit
of redirections is too low, the turn is interrupted by that limit, and if only the limit of loops is,
by that one. -/
theorem Agent.takeTurn_thresholds (agent : Agent) (input : String) :
    (∀ redirects loops, ∃ interruption,
      ((agent.withLimits redirects loops).takeTurn input).1 = .error interruption) ∨
    ∃ (turn : Turn) (after : Agent) (events : List Event) (passes : Nat),
      (∀ redirects loops,
        (∃ completed, ((agent.withLimits redirects loops).takeTurn input).1 = .ok completed) ↔
          nesting events ≤ redirects ∧ passes ≤ loops) ∧
      (∀ redirects loops, nesting events ≤ redirects → passes ≤ loops →
        (agent.withLimits redirects loops).takeTurn input =
            (.ok turn, after.withLimits redirects loops, events) ∧
          reruns ((agent.withLimits redirects loops).chronicle input) = passes) ∧
      (∀ redirects loops, redirects < nesting events → passes ≤ loops →
        ((agent.withLimits redirects loops).takeTurn input).1 =
          .error (.redirectLimit redirects)) ∧
      ∀ redirects loops, nesting events ≤ redirects → loops < passes →
        ((agent.withLimits redirects loops).takeTurn input).1 = .error (.loopLimit loops) := by
  by_cases completed : ∃ first second replies after,
      (answer (agent.inputSentences input)).runIn { agent := agent.withLimits first second } =
        (.ok replies, after)
  · obtain ⟨first, second, replies, after, answered⟩ := completed
    refine .inr ⟨Turn.ofReplies input (agent.inputSentences input) replies,
      after.agent.keep (Turn.ofReplies input (agent.inputSentences input) replies),
      after.journal.reverse, after.loops, ?_⟩
    rw [nesting_reverse]
    refine ⟨fun redirects loops => ⟨fun ⟨turn, done⟩ => ?_, fun within => ?_⟩, ?_, ?_, ?_⟩
    · by_contra beyond
      obtain ⟨interruption, _, interrupted⟩ := takeTurn_of_not_within answered beyond
      rw [interrupted] at done
      cases done
    · exact ⟨_, congrArg Prod.fst (takeTurn_of_within answered within).1⟩
    · intro redirects loops deep often
      exact takeTurn_of_within answered ⟨deep, often⟩
    · intro redirects loops shallow often
      have beyond : ¬ after.Within redirects loops := fun within =>
        absurd within.1 (Nat.not_le_of_lt shallow)
      obtain ⟨interruption, exceeds, interrupted⟩ := takeTurn_of_not_within answered beyond
      cases interruption with
      | redirectLimit limit => rw [interrupted, exceeds.1]
      | loopLimit limit => exact absurd often (Nat.not_le_of_lt exceeds.2)
    · intro redirects loops deep seldom
      have beyond : ¬ after.Within redirects loops := fun within =>
        absurd within.2 (Nat.not_le_of_lt seldom)
      obtain ⟨interruption, exceeds, interrupted⟩ := takeTurn_of_not_within answered beyond
      cases interruption with
      | redirectLimit limit => exact absurd deep (Nat.not_le_of_lt exceeds.2)
      | loopLimit limit => rw [interrupted, exceeds.1]
  · refine .inl fun redirects loops => ?_
    cases answered : (answer (agent.inputSentences input)).runIn
        { agent := agent.withLimits redirects loops } with
    | mk result after =>
    cases result with
    | ok replies => exact absurd ⟨redirects, loops, replies, after, answered⟩ completed
    | error interruption =>
      exact ⟨interruption, congrArg Prod.fst (Agent.takeTurn_of_error answered)⟩

end Dialogue
