/-
**What single steps do to a context.**

The context after a step is the one before it with a few parts replaced. These equations say which;
the proofs about evaluations use them and do not open the steps.
-/

import Dialogue.Agent.Redirect

namespace Dialogue

namespace Evaluation

variable {α : Type}

/-- Steps that succeed one after the other. -/
theorem exists_of_runIn_bind {β : Type} {action : Evaluation α} {next : α → Evaluation β}
    {context after : Context} {result : β}
    (ran : (action >>= next).runIn context = (.ok result, after)) :
    ∃ value middle, action.runIn context = (.ok value, middle) ∧
      (next value).runIn middle = (.ok result, after) := by
  rw [runIn_bind] at ran
  generalize action.runIn context = outcome at ran
  obtain ⟨outcome, middle⟩ := outcome
  cases outcome with
  | error interruption => cases ran
  | ok value => exact ⟨value, middle, rfl, ran⟩

theorem runIn_agent_bind (next : Agent → Evaluation α) (context : Context) :
    (agent >>= next).runIn context = (next context.agent).runIn context := rfl

theorem runIn_look_bind {β : Type} (view : Agent → β) (next : β → Evaluation α)
    (context : Context) :
    (look view >>= next).runIn context = (next (view context.agent)).runIn context := rfl

theorem runIn_redirectsLeft_bind (next : Nat → Evaluation α) (context : Context) :
    (redirectsLeft >>= next).runIn context =
      (next (context.agent.settings.maxRedirects - context.depth)).runIn context := rfl

theorem runIn_loopsLeft_bind (next : Nat → Evaluation α) (context : Context) :
    (loopsLeft >>= next).runIn context =
      (next (context.agent.settings.maxLoops - context.loops)).runIn context := rfl

theorem runIn_change_bind (image : Agent → Agent) (next : Unit → Evaluation α)
    (context : Context) :
    (change image >>= next).runIn context =
      (next ()).runIn { context with agent := image context.agent } := rfl

theorem runIn_record_bind (event : Event) (next : Unit → Evaluation α) (context : Context) :
    (record event >>= next).runIn context =
      (next ()).runIn { context with journal := event :: context.journal } := rfl

theorem runIn_recordAll (events : List Event) (context : Context) :
    (recordAll events).runIn context =
      (.ok (), { context with journal := events.reverse ++ context.journal }) := by
  induction events generalizing context with
  | nil => rfl
  | cons event events ih =>
    have others := ih { context with journal := event :: context.journal }
    rw [recordAll, List.forM_eq_forM] at others ⊢
    rw [List.forM_cons, runIn_record_bind, others, List.reverse_cons, List.append_assoc]
    rfl

theorem runIn_noteAll (notices : List Notice) (context : Context) :
    (noteAll notices).runIn context =
      (.ok (), { context with
        journal := (notices.map Event.notice).reverse ++ context.journal }) :=
  runIn_recordAll (notices.map Event.notice) context

theorem runIn_noteAll_bind (notices : List Notice) (next : Unit → Evaluation α)
    (context : Context) :
    (noteAll notices >>= next).runIn context =
      (next ()).runIn { context with
        journal := (notices.map Event.notice).reverse ++ context.journal } := by
  rw [runIn_bind, runIn_noteAll]

/-- A predicate has its value, and those who watch it are told. -/
theorem runIn_setPredicate (name value : String) (context : Context) :
    (setPredicate name value).runIn context = (.ok (), { context with
      agent := { context.agent with predicates := context.agent.predicates.set name value }
      journal := ((context.agent.predicates.notifications name value).map
        Event.notified).reverse ++ context.journal }) := by
  unfold setPredicate
  rw [runIn_agent_bind, runIn_change_bind, runIn_recordAll]

theorem runIn_draw (choices : Nat) (context : Context) :
    (draw choices).runIn context = (.ok (context.agent.draws.head choices), { context with
      agent := { context.agent with draws := context.agent.draws.tail choices } }) := by
  unfold draw
  rw [runIn_look_bind, runIn_change_bind, runIn_pure]

theorem runIn_exceedLoops (context : Context) :
    (exceedLoops : Evaluation α).runIn context =
      (.error (.loopLimit context.agent.settings.maxLoops), { context with
        journal := .notice (.loopLimitReached context.agent.settings.maxLoops) ::
          context.journal }) := by
  unfold exceedLoops note
  rw [runIn_look_bind, runIn_record_bind, runIn_throw]

theorem runIn_exceedRedirects (query : String) (context : Context) :
    (exceedRedirects query : Evaluation α).runIn context =
      (.error (.redirectLimit context.agent.settings.maxRedirects), { context with
        journal := .notice (.redirectLimitReached context.agent.settings.maxRedirects query) ::
          context.journal }) := by
  unfold exceedRedirects note
  rw [runIn_look_bind, runIn_record_bind, runIn_throw]

theorem runIn_noteRedirected (query : String) (context : Context) :
    (noteRedirected query).runIn context = (.ok (), { context with
      journal := .notice (.redirected context.depth query) :: context.journal }) := rfl

/-- One more evaluation of a condition is counted, and then compared with the limit. -/
theorem runIn_countLoop (context : Context) :
    countLoop.runIn context =
      if context.agent.settings.maxLoops < context.loops + 1 then
        exceedLoops.runIn { context with loops := context.loops + 1 }
      else (.ok (), { context with loops := context.loops + 1 }) := by
  split
  · rename_i exceeded
    exact congrFun (if_pos exceeded) { context with loops := context.loops + 1 }
  · rename_i allowed
    exact congrFun (if_neg allowed) { context with loops := context.loops + 1 }

/-! ### Steps inside something -/

/-- The body of a condition starts without asking for another evaluation. -/
theorem runIn_underCondition (body : Evaluation α) (context : Context) :
    (underCondition body).runIn context =
      ((body.runIn { context with looping := false }).1.map fun value =>
          (value, (body.runIn { context with looping := false }).2.looping),
        { (body.runIn { context with looping := false }).2 with
          looping := context.looping }) := rfl

/-- A category has captures of its own, and no condition around it. -/
theorem runIn_inCategory (captures : Captures) (body : Evaluation α) (context : Context) :
    (inCategory captures body).runIn context =
      ((body.runIn { context with captures := captures, looping := false }).1,
        { (body.runIn { context with captures := captures, looping := false }).2 with
          captures := context.captures, looping := context.looping }) := rfl

/-- A redirection is one deeper, and comes back. -/
theorem runIn_deeper (body : Evaluation α) (context : Context) :
    (deeper body).runIn context =
      ((body.runIn { context with depth := context.depth + 1 }).1,
        { (body.runIn { context with depth := context.depth + 1 }).2 with
          depth := context.depth }) := rfl

/-! ### Replies -/

/-- No category answers, and that is noted. -/
theorem runIn_respondOver_of_none {redirect : String → Evaluation String} {sentence : String}
    {context : Context}
    (missed : context.agent.lookup (context.agent.normalizer.tokenize sentence) = none) :
    (respondOver redirect sentence).runIn context = (.ok none, { context with
      journal := .notice (.unmatched sentence) :: context.journal }) := by
  unfold respondOver
  rw [runIn_look_bind, missed]
  rfl

/-- A category answers: its template is evaluated with its captures. -/
theorem runIn_respondOver_of_some {redirect : String → Evaluation String} {sentence : String}
    {context : Context} {found : Match}
    (matched : context.agent.lookup (context.agent.normalizer.tokenize sentence) = some found) :
    (respondOver redirect sentence).runIn context =
      (((found.category.template.evaluate redirect).runIn { context with
          captures := found.captures
          looping := false
          journal := .notice (.matched sentence found.category.key) ::
            context.journal }).1.map fun text => some ⟨text, found.category.key⟩,
        { ((found.category.template.evaluate redirect).runIn { context with
            captures := found.captures
            looping := false
            journal := .notice (.matched sentence found.category.key) ::
              context.journal }).2 with
          captures := context.captures
          looping := context.looping }) := by
  unfold respondOver note
  rw [runIn_look_bind, matched]
  dsimp only
  rw [runIn_record_bind, runIn_bind, runIn_inCategory]
  generalize (found.category.template.evaluate redirect).runIn _ = outcome
  obtain ⟨result, after⟩ := outcome
  cases result <;> rfl

/-! ### Learning and forgetting -/

/-- A lesson that compiles is learned. -/
theorem runIn_learn_of_ok {definition : Definition} {context : Context} {category : Category}
    (compiled : definition.compile context.agent.normalizer .learned = .ok category) :
    (learn definition).runIn context = (.ok (), { context with
      agent := context.agent.learn category
      journal := ((definition.remarks context.agent.normalizer ++
        context.agent.repertoire.learningNotices category).map Event.notice).reverse ++
          context.journal }) := by
  unfold learn
  rw [runIn_agent_bind, runIn_noteAll_bind, compiled]
  change (change _ >>= fun _ => noteAll _).runIn _ = _
  rw [runIn_change_bind, runIn_noteAll, List.map_append, List.reverse_append, List.append_assoc]

/-- A lesson that does not compile changes nothing, and is noted. -/
theorem runIn_learn_of_error {definition : Definition} {context : Context} {fault : CategoryFault}
    (failed : definition.compile context.agent.normalizer .learned = .error fault) :
    (learn definition).runIn context = (.ok (), { context with
      journal := ((definition.remarks context.agent.normalizer ++
        [Notice.malformedLesson fault]).map Event.notice).reverse ++ context.journal }) := by
  unfold learn
  rw [runIn_agent_bind, runIn_noteAll_bind, failed, List.map_append, List.reverse_append,
    List.append_assoc]
  rfl

theorem runIn_unlearn (context : Context) :
    unlearn.runIn context = (.ok (), { context with
      agent := context.agent.unlearn
      journal := ((context.agent.repertoire.unlearningNotices
        context.agent.settings.unlearnPolicy).map Event.notice).reverse ++ context.journal }) := by
  unfold unlearn
  rw [runIn_agent_bind, runIn_change_bind, runIn_noteAll]

end Evaluation

end Dialogue
