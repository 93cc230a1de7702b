/-
**What a chronicle accounts for.**

* `Standing`: the settings, the history, the predicates and the count of loops of a context;
* `Accounts`: marks that lead from one standing to another, each made where the ones before it lead;
* `accounts_chronicle`, `Agent.accounts_chronicle`: the chronicle of a template, and of a turn,
  leads from the standing before it to the standing after it, also when it is interrupted;
* `Accounts.loops_eq`, `Accounts.reruns_le`: the loops are counted by the marks, and no more are
  counted than the settings allow.
-/

import Dialogue.Proofs.Evaluation.Chronicle

namespace Dialogue

open Evaluation

variable {α : Type}

/-! ### Accounts -/

/-- **What a chronicle keeps account of.** -/
structure Standing where
  settings : Settings
  history : History
  predicates : Predicates
  loops : Nat

def Context.standing (context : Context) : Standing :=
  ⟨context.agent.settings, context.agent.history, context.agent.predicates, context.loops⟩

/-- What a mark makes of the standing. -/
def Standing.follow (standing : Standing) : Mark → Standing
  | .assigns name value =>
    { standing with predicates := standing.predicates.set name value }
  | .repeats | .stops => { standing with loops := standing.loops + 1 }
  | .hears sentence => { standing with history := standing.history.recordInput sentence }
  | .evaluates .. | .looksUp .. => standing

/-- A mark can be made where things stand. -/
def Mark.Fits (standing : Standing) : Mark → Prop
  | .evaluates _ context | .looksUp _ context => context.standing = standing
  | .repeats => standing.loops < standing.settings.maxLoops
  | .stops => standing.settings.maxLoops ≤ standing.loops
  | .assigns .. | .hears _ => True

theorem Standing.follow_settings (standing : Standing) (mark : Mark) :
    (standing.follow mark).settings = standing.settings := by
  cases mark <;> rfl

theorem Standing.settings_foldl (standing : Standing) (marks : List Mark) :
    (marks.foldl Standing.follow standing).settings = standing.settings := by
  induction marks generalizing standing with
  | nil => rfl
  | cons mark marks ih => rw [List.foldl_cons, ih, follow_settings]

theorem Standing.loops_le_follow (standing : Standing) (mark : Mark) :
    standing.loops ≤ (standing.follow mark).loops := by
  cases mark with
  | repeats | stops => exact Nat.le_succ _
  | evaluates | looksUp | assigns | hears => exact Nat.le_refl _

def Mark.isRepeat : Mark → Bool
  | .repeats => true
  | _ => false

/-- How many passes are repeated. -/
def reruns (marks : List Mark) : Nat := marks.countP Mark.isRepeat

theorem reruns_repeats (marks : List Mark) : reruns (.repeats :: marks) = reruns marks + 1 :=
  List.countP_cons_of_pos rfl

/-- **Marks that account for a change of the standing.** Each fits what the ones before it make. -/
def Accounts : Standing → List Mark → Standing → Prop
  | start, [], finish => finish = start
  | start, mark :: marks, finish => mark.Fits start ∧ Accounts (start.follow mark) marks finish

namespace Accounts

variable {start middle finish : Standing} {marks others before later : List Mark} {mark : Mark}

theorem nil (standing : Standing) : Accounts standing [] standing := rfl

theorem of_eq {other : Standing} (accounts : Accounts start marks finish) (same : other = finish) :
    Accounts start marks other := same ▸ accounts

theorem append (first : Accounts start marks middle) (second : Accounts middle others finish) :
    Accounts start (marks ++ others) finish := by
  induction marks generalizing start with
  | nil =>
    rw [show middle = start from first] at second
    exact second
  | cons mark marks ih => exact ⟨first.1, ih first.2⟩

/-- A mark that changes nothing may be put first. -/
theorem cons (fits : mark.Fits start) (unchanged : start.follow mark = start)
    (rest : Accounts start marks finish) : Accounts start (mark :: marks) finish := by
  refine ⟨fits, ?_⟩
  rw [unchanged]
  exact rest

theorem eq_foldl (accounts : Accounts start marks finish) :
    finish = marks.foldl Standing.follow start := by
  induction marks generalizing start with
  | nil => exact accounts
  | cons mark marks ih => exact ih accounts.2

/-- **A mark fits what the ones before it make.** -/
theorem fits (accounts : Accounts start (before ++ mark :: later) finish) :
    mark.Fits (before.foldl Standing.follow start) := by
  induction before generalizing start with
  | nil => exact accounts.1
  | cons first before ih => exact ih accounts.2

/-- The settings stay, and no loop is forgotten. -/
theorem settings_eq (accounts : Accounts start marks finish) :
    finish.settings = start.settings := by
  rw [accounts.eq_foldl]
  exact start.settings_foldl marks

theorem loops_le (accounts : Accounts start marks finish) : start.loops ≤ finish.loops := by
  induction marks generalizing start with
  | nil => exact Nat.le_of_eq (congrArg Standing.loops accounts).symm
  | cons mark marks ih => exact Nat.le_trans (start.loops_le_follow mark) (ih accounts.2)

/-- **No more passes are repeated than the settings allow.** -/
theorem reruns_le (accounts : Accounts start marks finish) :
    reruns marks ≤ start.settings.maxLoops - start.loops := by
  induction marks generalizing start with
  | nil => exact Nat.zero_le _
  | cons mark marks ih =>
    have later := ih accounts.2
    rw [start.follow_settings] at later
    cases mark with
    | repeats =>
      have allowed : start.loops < start.settings.maxLoops := accounts.1
      have counted : (start.follow .repeats).loops = start.loops + 1 := rfl
      rw [reruns_repeats]
      omega
    | stops =>
      have counted : (start.follow .stops).loops = start.loops + 1 := rfl
      exact Nat.le_trans later (by omega)
    | evaluates | looksUp | assigns | hears => exact later

/-- Unless the limit was exceeded, the loops are the repeated passes. -/
theorem loops_eq (accounts : Accounts start marks finish)
    (within : finish.loops ≤ finish.settings.maxLoops) :
    finish.loops = start.loops + reruns marks := by
  induction marks generalizing start with
  | nil => exact congrArg Standing.loops accounts
  | cons mark marks ih =>
    have later := ih accounts.2
    cases mark with
    | repeats =>
      have counted : (start.follow .repeats).loops = start.loops + 1 := rfl
      rw [reruns_repeats]
      omega
    | stops =>
      have refused : start.settings.maxLoops ≤ start.loops := accounts.1
      have counted : start.loops + 1 ≤ finish.loops := Accounts.loops_le accounts.2
      rw [accounts.settings_eq] at within
      omega
    | evaluates | looksUp | assigns | hears => exact later

end Accounts

/-- What the templates that are evaluated in some marks change is accounted for inside them. -/
def AccountsInside (inner : Template × Context → List Mark) (marks : List Mark) : Prop :=
  ∀ part place, .evaluates part place ∈ marks →
    Accounts place.standing (inner (part, place)) (part.run.runIn place).2.standing

section Accounts

variable {inner : Template × Context → List Mark}

theorem AccountsInside.sublist {marks others : List Mark} (inside : AccountsInside inner others)
    (subset : marks ⊆ others) : AccountsInside inner marks :=
  fun part place member => inside part place (subset member)

/-- A template that is evaluated first, and what follows. -/
theorem accounts_evaluates {template : Template} {context : Context} {rest : List Mark}
    {finish : Standing} (inside : AccountsInside inner (.evaluates template context :: rest))
    (later : Accounts (template.run.runIn context).2.standing (rest.flatMap (Mark.expand inner))
      finish) :
    Accounts context.standing ((Mark.evaluates template context :: rest).flatMap
      (Mark.expand inner)) finish := by
  have first := inside template context List.mem_cons_self
  exact .cons rfl rfl (first.append later)

theorem overlooks_standing : Overlooks Context.standing := ⟨fun _ _ => rfl, fun _ _ => rfl⟩

/-- A sentence of the input that is noted first, and what follows. -/
theorem Accounts.hears {sentence : String} {context : Context} {rest : List Mark}
    {finish : Standing}
    (later : Accounts (context.heard sentence).standing (rest.flatMap (Mark.expand inner)) finish) :
    Accounts context.standing ((Mark.hears sentence :: rest).flatMap (Mark.expand inner)) finish :=
  ⟨trivial, later⟩

theorem accounts_marksOfAll {templates : List Template} {context : Context}
    (inside : AccountsInside inner (marksOfAll templates context)) :
    Accounts context.standing ((marksOfAll templates context).flatMap (Mark.expand inner))
      ((evaluateAll redirect templates).runIn context).2.standing := by
  induction templates generalizing context with
  | nil => exact .nil _
  | cons template templates ih =>
    refine accounts_evaluates inside ?_
    rw [evaluateAll, runIn_bind, ← Template.run_eq]
    have later := inside.sublist (List.subset_cons_self _ _)
    generalize template.run.runIn context = outcome at later ⊢
    obtain ⟨result, after⟩ := outcome
    cases result with
    | ok text => exact ih later
    | error interruption => exact .nil _

/-! #### Replies -/

theorem runIn_respond_of_none {sentence : String} {context : Context}
    (missed : context.agent.lookup (context.agent.normalizer.tokenize sentence) = none) :
    (respond sentence).runIn context = (.ok none, { context with
      journal := .notice (.unmatched sentence) :: context.journal }) := by
  rw [respond_eq]
  exact runIn_respondOver_of_none missed

theorem runIn_respond_of_some {sentence : String} {context : Context} {found : Match}
    (matched : context.agent.lookup (context.agent.normalizer.tokenize sentence) = some found) :
    (respond sentence).runIn context =
      ((found.category.template.run.runIn (context.entered sentence found)).1.map
          fun text => some ⟨text, found.category.key⟩,
        { (found.category.template.run.runIn (context.entered sentence found)).2 with
          captures := context.captures
          looping := context.looping }) := by
  rw [respond_eq, Template.run_eq]
  exact runIn_respondOver_of_some matched

theorem accounts_marksOfReply {sentence : String} {context : Context}
    (inside : AccountsInside inner (marksOfReply sentence context)) :
    Accounts context.standing ((marksOfReply sentence context).flatMap (Mark.expand inner))
      ((respond sentence).runIn context).2.standing := by
  refine .cons rfl rfl ?_
  have later := inside.sublist (List.subset_cons_self _ _)
  cases found : context.agent.lookup (context.agent.normalizer.tokenize sentence) with
  | none =>
    rw [runIn_respond_of_none found]
    exact .nil _
  | some answer =>
    rw [found] at later
    rw [runIn_respond_of_some found]
    exact accounts_evaluates later (.nil _)

theorem accounts_marksOfReplies {sentences : List String} {context : Context}
    (inside : AccountsInside inner (marksOfReplies sentences context)) :
    Accounts context.standing ((marksOfReplies sentences context).flatMap (Mark.expand inner))
      ((replies respond sentences).runIn context).2.standing := by
  induction sentences generalizing context with
  | nil => exact .nil _
  | cons sentence sentences ih =>
    rw [marksOfReplies, List.flatMap_append]
    refine (accounts_marksOfReply (inside.sublist (List.subset_append_left _ _))).append ?_
    rw [replies, runIn_bind]
    have later := inside.sublist (List.subset_append_right _ _)
    generalize (respond sentence).runIn context = outcome at later ⊢
    obtain ⟨result, after⟩ := outcome
    cases result with
    | error interruption => exact .nil _
    | ok reply =>
      refine (ih later).of_eq (view_bind Context.standing (fun others => ?_) after)
      cases reply with
      | none => exact keeps_pure others
      | some reply => exact keeps_pure _

theorem standing_followQuery (query : String) (context : Context) :
    ((followQuery query).runIn context).2.standing =
      ((replies respond (Text.sentences query)).runIn (context.descended query)).2.standing := by
  rw [runIn_followQuery]
  generalize answered : (answerQuery query).runIn (context.descended query) = outcome
  dsimp only [Context.standing]
  rw [← answered, answerQuery]
  exact view_bind Context.standing (fun _ => keeps_pure _) _

theorem accounts_marksOfRedirect {query : String} {context : Context}
    (inside : AccountsInside inner (marksOfRedirect query context)) :
    Accounts context.standing ((marksOfRedirect query context).flatMap (Mark.expand inner))
      ((redirect query).runIn context).2.standing := by
  unfold marksOfRedirect at inside ⊢
  by_cases reached : context.agent.settings.maxRedirects ≤ context.depth
  · rw [runIn_redirect, if_pos reached, if_pos reached, runIn_exceedRedirects]
    exact .nil _
  · rw [if_neg reached] at inside
    rw [runIn_redirect, if_neg reached, if_neg reached, standing_followQuery]
    generalize Text.sentences query = sentences at inside ⊢
    exact accounts_marksOfReplies inside

/-! #### Conditions -/

/-- The passes of a condition are accounted for, if they cover what the turn allows. -/
theorem accounts_marksOfPasses {guards : List Guard} {left : Nat} {context : Context}
    (enough : context.agent.settings.maxLoops ≤ context.loops + left)
    (inside : AccountsInside inner (marksOfPasses guards (left + 1) context)) :
    Accounts context.standing
      ((marksOfPasses guards (left + 1) context).flatMap (Mark.expand inner))
      ((passes guards).runIn context).2.standing := by
  induction left using Nat.strongRecOn generalizing context with
  | ind left ih =>
  rw [passes_eq, runIn_bind]
  unfold marksOfPasses at inside ⊢
  cases chosen : context.chosen guards with
  | none =>
    rw [runIn_evaluateOnce_of_none chosen]
    exact .nil _
  | some guard =>
  rw [chosen] at inside
  have advances := advances_course.run guard.body { context with looping := false }
  refine accounts_evaluates inside ?_
  have later := inside.sublist (List.subset_cons_self _ _)
  cases ran : guard.body.run.runIn { context with looping := false } with
  | mk result after =>
  rw [ran] at advances later
  cases result with
  | error interruption =>
    rw [pass_interrupted chosen ran]
    exact .nil _
  | ok text =>
  cases asks : after.looping with
  | false =>
    rw [pass_last chosen ran asks]
    dsimp only
    rw [asks]
    exact .nil _
  | true =>
  dsimp only at later ⊢
  rw [asks, if_pos rfl] at later ⊢
  split
  · rename_i allowed
    rw [if_pos allowed] at later
    rw [pass_counted chosen ran asks allowed]
    refine ⟨allowed, ?_⟩
    have settings : after.agent.settings = context.agent.settings := advances.settings
    have loops_le : context.loops ≤ after.loops := advances.loops_le
    rw [settings] at allowed
    obtain ⟨fewer, rfl⟩ : ∃ fewer, left = fewer + 1 := ⟨left - 1, by omega⟩
    refine (ih fewer (Nat.lt_succ_self fewer) ?_
      (later.sublist (List.subset_cons_self _ _))).of_eq ?_
    · change after.agent.settings.maxLoops ≤ after.loops + 1 + fewer
      rw [settings]
      omega
    · exact view_bind Context.standing (fun _ => keeps_pure _) _
  · rename_i refused
    rw [pass_stopped chosen ran asks (Nat.not_lt.mp refused)]
    exact ⟨Nat.not_lt.mp refused, rfl⟩

/-! #### Templates -/

/-- **What happens directly inside the evaluation of a template accounts for what it changes**, if
what happens further inside does. -/
theorem accounts_marks {template : Template} {context : Context}
    (inside : AccountsInside inner (template.marks context)) :
    Accounts context.standing ((template.marks context).flatMap (Mark.expand inner))
      (template.run.runIn context).2.standing := by
  by_cases plain : template.isPlain
  · rw [marks_of_isPlain plain] at inside ⊢
    rw [Template.run_eq, view_evaluate_of_parts overlooks_standing plain]
    exact accounts_marksOfAll inside
  cases template with
  | assign name value =>
    have later := inside.sublist (List.subset_cons_self _ _)
    refine accounts_evaluates inside ?_
    rw [run_assign, runIn_bind]
    generalize value.run.runIn context = outcome at later ⊢
    obtain ⟨result, after⟩ := outcome
    cases result with
    | error interruption => exact .nil _
    | ok text =>
      refine ⟨trivial, ?_⟩
      dsimp only
      rw [runIn_bind, runIn_setPredicate]
      rfl
  | redirect content =>
    have later := inside.sublist (List.subset_cons_self _ _)
    refine accounts_evaluates inside ?_
    rw [run_redirect, runIn_bind]
    generalize content.run.runIn context = outcome at later ⊢
    obtain ⟨result, after⟩ := outcome
    cases result with
    | error interruption => exact .nil _
    | ok query => exact accounts_marksOfRedirect later
  | redirectCapture =>
    rw [run_redirectCapture]
    exact accounts_marksOfRedirect inside
  | condition guards =>
    rw [run_condition, view_bind Context.standing fun _ => keeps_pure _]
    exact accounts_marksOfPasses (by omega) inside
  | random items =>
    by_cases nothing : items = []
    · subst nothing
      rw [Template.run_eq]
      exact .nil _
    · obtain ⟨item, drawn, ran⟩ := @runIn_random redirect items nothing context
      rw [marks_random drawn] at inside ⊢
      rw [← Template.run_eq, ← Template.run_eq] at ran
      rw [ran]
      exact accounts_evaluates inside (.nil _)
  | loop =>
    rw [Template.run_eq]
    exact .nil _
  | _ => exact absurd rfl plain

end Accounts

/-- **The chronicle of a template accounts for what it changes.** -/
theorem accounts_chronicle (template : Template) (context : Context) :
    Accounts context.standing (chronicle (template, context))
      (template.run.runIn context).2.standing := by
  rw [chronicle_eq]
  exact accounts_marks fun part place _member => accounts_chronicle part place
termination_by measureOf (template, context)
decreasing_by exact smaller_of_mem_marks _member

theorem accountsInside_chronicle (marks : List Mark) : AccountsInside chronicle marks :=
  fun part place _ => accounts_chronicle part place

/-! ### Turns -/

theorem accounts_marksOfFallback (sentence : String) (context : Context) :
    Accounts context.standing
      ((marksOfFallback sentence context).flatMap (Mark.expand chronicle))
      ((fallback sentence).runIn context).2.standing := by
  unfold marksOfFallback fallback
  rw [runIn_look_bind]
  cases context.agent.classifier with
  | none => exact .nil _
  | some classifier =>
  dsimp only [Option.bind_some]
  rw [runIn_record_bind]
  cases classifier sentence with
  | none => exact .nil _
  | some replacement =>
    exact @accounts_marksOfReply chronicle replacement (context.classified sentence replacement)
      (accountsInside_chronicle _)

theorem runIn_recordInput_bind {sentence : String} {next : Unit → Evaluation α}
    {context : Context} :
    (recordInput sentence >>= next).runIn context = (next ()).runIn (context.heard sentence) :=
  rfl

theorem accounts_marksOfSentence (sentence : String) (context : Context) :
    Accounts context.standing
      ((marksOfSentence sentence context).flatMap (Mark.expand chronicle))
      ((answerSentence sentence).runIn context).2.standing := by
  have replied := @accounts_marksOfReply chronicle sentence (context.heard sentence)
    (accountsInside_chronicle _)
  rw [answerSentence, runIn_recordInput_bind, runIn_bind]
  refine Accounts.hears ?_
  rw [List.flatMap_append]
  refine replied.append ?_
  generalize (respond sentence).runIn (context.heard sentence) = outcome
  obtain ⟨result, after⟩ := outcome
  match result with
  | .ok (some reply) => exact .nil _
  | .ok none => exact accounts_marksOfFallback sentence after
  | .error interruption => exact .nil _

theorem accounts_marksOfAnswer (sentences : List String) (context : Context) :
    Accounts context.standing
      ((marksOfAnswer sentences context).flatMap (Mark.expand chronicle))
      ((answer sentences).runIn context).2.standing := by
  induction sentences generalizing context with
  | nil => exact .nil _
  | cons sentence sentences ih =>
    rw [marksOfAnswer, List.flatMap_append]
    refine (accounts_marksOfSentence sentence context).append ?_
    rw [answer, runIn_bind]
    generalize (answerSentence sentence).runIn context = outcome
    obtain ⟨result, after⟩ := outcome
    cases result with
    | error interruption => exact .nil _
    | ok reply => exact (ih after).of_eq (view_bind Context.standing (fun _ => keeps_pure _) after)

/-- **The chronicle of a turn accounts for what it changes.** -/
theorem Agent.accounts_chronicle (agent : Agent) (input : String) :
    Accounts ({ agent := agent } : Context).standing (agent.chronicle input)
      ((answer (agent.inputSentences input)).runIn { agent := agent }).2.standing :=
  accounts_marksOfAnswer (agent.inputSentences input) { agent := agent }

end Dialogue
