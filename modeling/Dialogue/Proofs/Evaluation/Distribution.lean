/-
**Redirections distribute over sentences.**

A query is answered sentence by sentence, one redirection deeper. To redirect to each of its
sentences instead, one after the other, gives the same answer or is interrupted at the same place,
and changes the same things; what is noted differs in the redirections themselves.

* `redirectEach`, `redirectSentences`: the sentences of a query, redirected to by themselves;
* `replyText`, `runIn_redirect_sentence`: what a single sentence answers;
* `Context.withoutRedirections`, `SameApart`: what is compared;
* `InStep.respond`, `InStep.replies`: the replies inside one redirection and the redirections to
  each sentence, kept in step by the isolation of replies; `sameApart_redirect`: so both come out
  the same;
* `exists_of_redirectEach_error`, `runIn_redirect_of_none`: the sentence at which they are
  interrupted, and a sentence that matches nothing;
* `redirect_distributes`: a query has the outcome of its sentences, whatever becomes of each.
-/

import Dialogue.Proofs.Evaluation.Accounts
import Dialogue.Proofs.Evaluation.Isolation
import Dialogue.Proofs.Text.Sentences

namespace Dialogue

open Evaluation Text

/-! ### One redirection for each sentence -/

/-- The answers to some queries, one redirection after the other, without the empty ones. -/
def redirectEach : List String → Evaluation (List String)
  | [] => pure []
  | query :: queries => do
    let answer ← redirect query
    let others ← redirectEach queries
    pure (if answer.isEmpty then others else answer :: others)

/-- **The answer to a query, with one redirection for each of its sentences.** -/
def redirectSentences (query : String) : Evaluation String := do
  return unwords (← redirectEach (sentences query))

/-- What a reply adds to an answer; nothing if there is none. -/
def replyText (reply : Option Reply) : String := (reply.map fun reply => trim reply.text).getD ""

theorem replies_cons (sentence : String) (sentences : List String) :
    replies respond (sentence :: sentences) = (do
      let reply ← respond sentence
      let others ← replies respond sentences
      pure (if (replyText reply).isEmpty then others else replyText reply :: others)
      : Evaluation (List String)) := by
  rw [replies]
  congr 1
  funext reply
  cases reply <;> rfl

/-- The answer to a query that is one sentence is the text of its reply. -/
theorem answerQuery_sentence {sentence : String} (itself : sentences sentence = [sentence]) :
    answerQuery sentence = (do return replyText (← respond sentence) : Evaluation String) := by
  rw [answerQuery, itself, replies_cons, replies, bind_assoc]
  congr 1
  funext reply
  rw [pure_bind, pure_bind]
  split
  · rename_i empty
    rw [String.isEmpty_iff.mp empty]
    rfl
  · rfl

/-- **A redirection to one sentence is its reply, one redirection deeper.** -/
theorem runIn_redirect_sentence {sentence : String} (itself : sentences sentence = [sentence])
    {context : Context} (below : context.depth < context.agent.settings.maxRedirects) :
    (redirect sentence).runIn context =
      (((respond sentence).runIn (context.descended sentence)).1.map replyText,
        { ((respond sentence).runIn (context.descended sentence)).2 with
          depth := context.depth }) := by
  rw [runIn_redirect, if_neg (Nat.not_le.mpr below), runIn_followQuery,
    answerQuery_sentence itself, runIn_bind]
  generalize (respond sentence).runIn (context.descended sentence) = outcome
  obtain ⟨result, after⟩ := outcome
  cases result <;> rfl

/-! ### The same apart from redirections -/

/-- Whether an event is the notice of a redirection to a depth. -/
def Event.isRedirectionTo (depth : Nat) : Event → Bool
  | .notice (.redirected noted _) => noted == depth
  | _ => false

/-- A context in which no redirection to a depth was noted. -/
def Context.withoutRedirections (context : Context) (depth : Nat) : Context :=
  { context with journal := context.journal.filter fun event => !event.isRedirectionTo depth }

/-- **Two outcomes are the same**, apart from the notices of redirections to a depth. -/
structure SameApart {α : Type} (depth : Nat) (first second : Except Interruption α × Context) :
    Prop where
  result : first.1 = second.1
  context : first.2.withoutRedirections depth = second.2.withoutRedirections depth

/-- **A context inside a redirection keeps in step with one outside**, at a depth. -/
structure InStep (depth : Nat) (inside outside : Context) : Prop where
  deeper : inside.depth = depth + 1
  same : ({ inside with depth := depth } : Context).withoutRedirections (depth + 1) =
    outside.withoutRedirections (depth + 1)

theorem isRedirectionTo_redirected (depth : Nat) (query : String) :
    (Event.notice (.redirected depth query)).isRedirectionTo depth := beq_self_eq_true depth

/-- A redirection that is followed keeps in step with where it came from. -/
theorem inStep_descended (query : String) (context : Context) :
    InStep context.depth (context.descended query) context where
  deeper := rfl
  same := by simp [Context.withoutRedirections, Context.descended, isRedirectionTo_redirected]

section InStep

variable {depth : Nat} {inside outside : Context} (inStep : InStep depth inside outside)
  (below : depth < outside.agent.settings.maxRedirects)

include inStep below

/-- **A reply inside one redirection keeps in step with a redirection to the sentence.** -/
theorem InStep.respond {sentence : String} (itself : sentences sentence = [sentence]) :
    ∃ result after left, (Evaluation.respond sentence).runIn inside = (result, after) ∧
      (redirect sentence).runIn outside = (result.map replyText, left) ∧
      InStep depth after left := by
  obtain ⟨result, agent, loops, events, replies⟩ := runIn_respond sentence inside
  have agents : outside.agent = inside.agent := (congrArg Context.agent inStep.same).symm
  have counts : outside.loops = inside.loops := (congrArg Context.loops inStep.same).symm
  obtain rfl : depth = outside.depth := congrArg Context.depth inStep.same
  have ranOutside : (redirect sentence).runIn outside = (result.map replyText, { outside with
      agent := agent
      loops := loops
      journal := events ++ .notice (.redirected (outside.depth + 1) sentence) ::
        outside.journal }) := by
    rw [runIn_redirect_sentence itself below,
      replies (outside.descended sentence) agents inStep.deeper.symm counts]
    rfl
  refine ⟨result, _, _, replies inside rfl rfl rfl, ranOutside, inStep.deeper, ?_⟩
  have same := inStep.same
  simp only [Context.withoutRedirections, Context.mk.injEq] at same ⊢
  simp [same, isRedirectionTo_redirected]

/-- **Replies inside one redirection keep in step with one redirection for each sentence.** -/
theorem InStep.replies {queries : List String}
    (final : ∀ query ∈ queries, sentences query = [query]) :
    ∃ result after left,
      (Evaluation.replies Evaluation.respond queries).runIn inside = (result, after) ∧
      (redirectEach queries).runIn outside = (result, left) ∧ InStep depth after left := by
  induction queries generalizing inside outside with
  | nil => exact ⟨.ok [], inside, outside, rfl, rfl, inStep⟩
  | cons query queries ih =>
    obtain ⟨itself, later⟩ := List.forall_mem_cons.mp final
    obtain ⟨result, after, left, ranInside, ranOutside, moved⟩ := inStep.respond below itself
    rw [replies_cons, redirectEach, runIn_bind, runIn_bind, ranInside, ranOutside]
    cases result with
    | error interruption => exact ⟨.error interruption, after, left, rfl, rfl, moved⟩
    | ok reply =>
      have advances := advances_course.redirect query outside
      rw [ranOutside] at advances
      have stillBelow : depth < left.agent.settings.maxRedirects := by
        rwa [advances.settings]
      obtain ⟨texts, last, lastLeft, ranLater, ranLaterOutside, kept⟩ := ih moved stillBelow later
      dsimp only [Except.map]
      rw [runIn_bind, runIn_bind, ranLater, ranLaterOutside]
      cases texts with
      | error interruption => exact ⟨.error interruption, last, lastLeft, rfl, rfl, kept⟩
      | ok others => exact ⟨.ok _, last, lastLeft, rfl, rfl, kept⟩

end InStep

/-- **A query has the outcome of its sentences.** -/
theorem sameApart_redirect (query : String) {context : Context}
    (below : context.depth < context.agent.settings.maxRedirects) :
    SameApart (context.depth + 1) ((redirect query).runIn context)
      ((redirectSentences query).runIn context) := by
  obtain ⟨result, after, left, ranInside, ranOutside, kept⟩ :=
    (inStep_descended query context).replies below fun sentence member => sentences_of_mem member
  rw [runIn_redirect, if_neg (Nat.not_le.mpr below), runIn_followQuery, answerQuery,
    redirectSentences, runIn_bind, runIn_bind, ranInside, ranOutside]
  cases result with
  | error interruption => exact ⟨rfl, kept.same⟩
  | ok texts => exact ⟨rfl, kept.same⟩

/-! ### Where one of the sentences is interrupted, or matches nothing -/

/-- What is interrupted is interrupted at one of the queries, and those before it were answered. -/
theorem exists_of_redirectEach_error {queries : List String} {context after : Context}
    {interruption : Interruption}
    (ran : (redirectEach queries).runIn context = (.error interruption, after)) :
    ∃ before query later texts place, queries = before ++ query :: later ∧
      (redirectEach before).runIn context = (.ok texts, place) ∧
      (redirect query).runIn place = (.error interruption, after) := by
  induction queries generalizing context with
  | nil => cases ran
  | cons query queries ih =>
    rw [redirectEach, runIn_bind] at ran
    cases first : (redirect query).runIn context with
    | mk result left =>
    rw [first] at ran
    cases result with
    | error interruption =>
      cases ran
      exact ⟨[], query, queries, [], context, rfl, rfl, first⟩
    | ok answer =>
      dsimp only at ran
      rw [runIn_bind] at ran
      cases others : (redirectEach queries).runIn left with
      | mk result last =>
      rw [others] at ran
      cases result with
      | ok texts => cases ran
      | error interruption =>
        cases ran
        obtain ⟨before, stopped, later, texts, place, rfl, ranBefore, ranStopped⟩ := ih others
        refine ⟨query :: before, stopped, later,
          if answer.isEmpty then texts else answer :: texts, place, rfl, ?_, ranStopped⟩
        rw [redirectEach, runIn_bind, first]
        dsimp only
        rw [runIn_bind, ranBefore]
        rfl

/-- A sentence that no category matches has an empty answer and changes nothing. -/
theorem runIn_redirect_of_none {sentence : String} (itself : sentences sentence = [sentence])
    {context : Context} (below : context.depth < context.agent.settings.maxRedirects)
    (missed : context.agent.lookup (context.agent.normalizer.tokenize sentence) = none) :
    (redirect sentence).runIn context = (.ok "", { context with
      journal := .notice (.unmatched sentence) ::
        .notice (.redirected (context.depth + 1) sentence) :: context.journal }) := by
  have missedInside : (context.descended sentence).agent.lookup
      ((context.descended sentence).agent.normalizer.tokenize sentence) = none := missed
  rw [runIn_redirect_sentence itself below, runIn_respond_of_none missedInside]
  rfl

/-- A redirection with an empty answer is followed by those after it, as if it was not there. -/
theorem runIn_redirectEach_of_empty {query : String} {queries : List String}
    {context after : Context} (answered : (redirect query).runIn context = (.ok "", after)) :
    (redirectEach (query :: queries)).runIn context = (redirectEach queries).runIn after := by
  rw [redirectEach, runIn_bind, answered]
  dsimp only
  rw [runIn_bind]
  generalize (redirectEach queries).runIn after = outcome
  obtain ⟨result, _⟩ := outcome
  cases result <;> rfl

/-- Redirections one after the other leave the settings and the depth as they are. -/
theorem advances_redirectEach (queries : List String) (context : Context) :
    Advances context ((redirectEach queries).runIn context).2 := by
  have follows : Follows Advances (List String) (redirectEach queries) (redirectEach queries) := by
    induction queries with
    | nil => exact advances_course.refl
    | cons query queries ih =>
      exact advances_course.follows_bind (advances_course.redirect query) fun _ =>
        advances_course.follows_bind ih fun _ => advances_course.refl
  exact follows context

/-- **Redirections distribute over sentences.** Unless redirections are nested too deep already, a
query has the outcome of its sentences, redirected to one after the other, with the non-empty
answers joined by spaces: the same answer or interruption, in the same context apart from the
notices of those redirections.

* If the query is interrupted, then at one of its sentences, after those before it were answered,
  and with the outcome of a redirection to that sentence there.
* A sentence that nothing matches, in whatever context those before it have left, has the empty
  answer, changes nothing but what is noted, and makes no difference to those after it. -/
theorem redirect_distributes (query : String) (context : Context)
    (below : context.depth < context.agent.settings.maxRedirects) :
    SameApart (context.depth + 1) ((redirect query).runIn context)
      ((redirectSentences query).runIn context) ∧
    (∀ interruption after, (redirect query).runIn context = (.error interruption, after) →
      ∃ before sentence later texts place,
        sentences query = before ++ sentence :: later ∧
        (redirectEach before).runIn context = (.ok texts, place) ∧
        SameApart (context.depth + 1) ((redirect query).runIn context)
          ((redirect sentence).runIn place)) ∧
    ∀ before sentence later texts place, sentences query = before ++ sentence :: later →
      (redirectEach before).runIn context = (.ok texts, place) →
      place.agent.lookup (place.agent.normalizer.tokenize sentence) = none →
        let missed : Context := { place with
          journal := .notice (.unmatched sentence) ::
            .notice (.redirected (place.depth + 1) sentence) :: place.journal }
        (redirect sentence).runIn place = (.ok "", missed) ∧
          (redirectEach (sentence :: later)).runIn place = (redirectEach later).runIn missed := by
  have whole := sameApart_redirect query below
  refine ⟨whole, fun interruption after ran => ?_,
    fun before sentence later texts place cut ran => ?_⟩
  · rw [ran] at whole ⊢
    cases ranEach : (redirectEach (sentences query)).runIn context with
    | mk result left =>
    rw [redirectSentences, runIn_bind, ranEach] at whole
    cases result with
    | ok texts => cases whole.result
    | error other =>
      cases whole.result
      obtain ⟨before, sentence, later, texts, place, cut, ranBefore, ranStopped⟩ :=
        exists_of_redirectEach_error ranEach
      refine ⟨before, sentence, later, texts, place, cut, ranBefore, ?_⟩
      rw [ranStopped]
      exact whole
  · intro nothing missed
    have itself : sentences sentence = [sentence] := by
      have member : sentence ∈ sentences query := by
        rw [cut]
        exact List.mem_append_right before List.mem_cons_self
      exact sentences_of_mem member
    have advances := advances_redirectEach before context
    rw [ran] at advances
    have stillBelow : place.depth < place.agent.settings.maxRedirects := by
      rwa [advances.depth, advances.settings]
    have answered := runIn_redirect_of_none itself stillBelow nothing
    exact ⟨answered, runIn_redirectEach_of_empty answered⟩

/-- After an answer and a sentence without one, a sentence that redirects to itself interrupts both
the query and the sentences. -/
theorem redirect_distributes_again :
    let hello : Category := ⟨⟨[.word "hello"], [.star], [.star]⟩, .text " Hi. ", .loaded⟩
    let again : Category :=
      ⟨⟨[.word "again"], [.star], [.star]⟩, .redirect (.text "again"), .loaded⟩
    let setup : Setup := { generator := fun _ => .first, settings := { maxRedirects := 2 } }
    let context : Context := { agent := (setup.build.1.addCategory hello).addCategory again }
    let query := "Hello. Unknown words! Again. Hello"
    context.depth < context.agent.settings.maxRedirects ∧
    sentences query = ["Hello", "Unknown words", "Again", "Hello"] ∧
    ((redirectSentences query).runIn context).1 = .error (.redirectLimit 2) ∧
    (∃ before sentence later texts place, sentences query = before ++ sentence :: later ∧
      (redirectEach before).runIn context = (.ok texts, place) ∧
      ((redirect sentence).runIn place).1 = .error (.redirectLimit 2)) ∧
    ∃ place, (redirectEach ["Hello"]).runIn context = (.ok ["Hi."], place) ∧
      ((redirect "Unknown words").runIn place).1 = .ok "" := by
  intro hello again setup context query
  have below : context.depth < context.agent.settings.maxRedirects := by decide
  have cut : sentences query = ["Hello", "Unknown words", "Again", "Hello"] := by decide +kernel
  obtain ⟨whole, stopped, skipped⟩ := redirect_distributes query context below
  have interrupted : ((redirect query).runIn context).1 = .error (.redirectLimit 2) := by
    decide +kernel
  have ran : (redirect query).runIn context =
      (.error (.redirectLimit 2), ((redirect query).runIn context).2) := by
    rw [← interrupted, Prod.eta]
  refine ⟨below, cut, whole.result.symm.trans interrupted, ?_, ?_⟩
  · obtain ⟨before, sentence, later, texts, place, found, ran, same⟩ :=
      stopped (.redirectLimit 2) _ ran
    exact ⟨before, sentence, later, texts, place, found, ran, same.result.symm.trans interrupted⟩
  · let place := ((redirectEach ["Hello"]).runIn context).2
    have answered : ((redirectEach ["Hello"]).runIn context).1 = .ok ["Hi."] := by decide +kernel
    have ran : (redirectEach ["Hello"]).runIn context = (.ok ["Hi."], place) := by
      rw [← answered, Prod.eta]
    have missed : place.agent.lookup (place.agent.normalizer.tokenize "Unknown words") = none :=
      Option.isNone_iff_eq_none.mp (by decide +kernel)
    refine ⟨place, ran, ?_⟩
    rw [(skipped ["Hello"] "Unknown words" ["Again", "Hello"] ["Hi."] place cut ran missed).1]

end Dialogue
