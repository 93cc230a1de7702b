/-
**A style around a text that has it already.**

A template may give a style to what a redirection answers, and the categories that answer may give
it as well, or redirect to others that do.

* `Template.redirection?`: the query to which a template redirects, and where;
* `of_mem_replies`: every text of an answer is the trimmed text of a template that was evaluated;
* `Restyled`: a template, and where it is evaluated, that gives a style already, at any nesting;
* `Restyled.apply_eq`: its text is left as it is by that style;
* `restyle`: so giving the style around it once more makes no difference.
-/

import Dialogue.Proofs.Evaluation.Distribution
import Dialogue.Proofs.Text.Restyling

namespace Dialogue

open Evaluation Text

/-! ### Redirections -/

/-- The query to which a template redirects, and the context from which it does. -/
def Template.redirection? : Template → Context → Option (String × Context)
  | .redirect content, context =>
    match content.run.runIn context with
    | (.ok query, after) => some (query, after)
    | (.error _, _) => none
  | .redirectCapture, context => some (context.captures.get .pattern 1, context)
  | _, _ => none

/-- A template that redirects says what its redirection does. -/
theorem runIn_of_redirection? {template : Template} {context after : Context} {query : String}
    (redirects : template.redirection? context = some (query, after)) :
    template.run.runIn context = (redirect query).runIn after := by
  cases template with
  | redirect content =>
    rw [run_redirect, runIn_bind]
    cases ran : content.run.runIn context with
    | mk result middle =>
    simp only [Template.redirection?, ran] at redirects
    cases result with
    | error interruption => cases redirects
    | ok said => cases redirects; rfl
  | redirectCapture =>
    cases redirects
    rw [run_redirectCapture]
    rfl
  | _ => cases redirects

/-- An answer is what the sentences of its query were replied, joined. -/
theorem exists_replies_of_redirect {query text : String} {context after : Context}
    (ran : (redirect query).runIn context = (.ok text, after)) :
    ∃ texts last, context.depth < context.agent.settings.maxRedirects ∧
      (replies respond (sentences query)).runIn (context.descended query) = (.ok texts, last) ∧
      unwords texts = text := by
  rw [runIn_redirect] at ran
  split at ran
  · rw [runIn_exceedRedirects] at ran
    cases ran
  · rename_i below
    rw [runIn_followQuery] at ran
    cases answered : (answerQuery query).runIn (context.descended query) with
    | mk result left =>
    rw [answered] at ran
    cases ran
    obtain ⟨texts, last, replied, joined⟩ := exists_of_runIn_bind answered
    cases joined
    exact ⟨texts, _, Nat.lt_of_not_le below, replied, rfl⟩

/-- A reply that is not empty is the trimmed text of a template that was evaluated for it. -/
theorem exists_of_replyText_ne_empty {sentence : String} {context after : Context}
    {reply : Option Reply} (ran : (respond sentence).runIn context = (.ok reply, after))
    (filled : replyText reply ≠ "") :
    ∃ part place text last, .evaluates part place ∈ marksOfReply sentence context ∧
      part.run.runIn place = (.ok text, last) ∧ replyText reply = trim text := by
  cases matched : context.agent.lookup (context.agent.normalizer.tokenize sentence) with
  | none =>
    rw [runIn_respond_of_none matched] at ran
    cases ran
    exact absurd rfl filled
  | some found =>
    rw [runIn_respond_of_some matched] at ran
    have mark : .evaluates found.category.template (context.entered sentence found) ∈
        marksOfReply sentence context := by
      rw [marksOfReply, matched]
      exact List.mem_cons_of_mem _ List.mem_cons_self
    cases entered : found.category.template.run.runIn (context.entered sentence found) with
    | mk result last =>
    rw [entered] at ran
    cases result with
    | error interruption => cases ran
    | ok text =>
      cases ran
      exact ⟨_, _, text, last, mark, entered, rfl⟩

/-- **Every text of an answer is the trimmed text of a template that was evaluated for it**, and is
not empty. -/
theorem of_mem_replies {sentences : List String} {context after : Context} {texts : List String}
    (ran : (replies respond sentences).runIn context = (.ok texts, after)) {text : String}
    (member : text ∈ texts) :
    text ≠ "" ∧ ∃ part place said last, .evaluates part place ∈ marksOfReplies sentences context ∧
      part.run.runIn place = (.ok said, last) ∧ text = trim said := by
  induction sentences generalizing context texts with
  | nil =>
    cases ran
    cases member
  | cons sentence sentences ih =>
    rw [replies_cons] at ran
    obtain ⟨reply, middle, replied, continued⟩ := exists_of_runIn_bind ran
    obtain ⟨others, last, ranLater, made⟩ := exists_of_runIn_bind continued
    cases made
    rw [marksOfReplies, replied]
    have later : text ∈ others → _ := fun inOthers => ih ranLater inOthers
    split at member
    · obtain ⟨filled, part, place, said, last, mark, same⟩ := later member
      exact ⟨filled, part, place, said, last, List.mem_append_right _ mark, same⟩
    · rename_i filled
      rcases List.mem_cons.mp member with rfl | inOthers
      · have filled : replyText reply ≠ "" := fun empty => filled (String.isEmpty_iff.mpr empty)
        obtain ⟨part, place, said, last, mark, same⟩ := exists_of_replyText_ne_empty replied filled
        exact ⟨filled, part, place, said, last, List.mem_append_left _ mark, same⟩
      · obtain ⟨filled, part, place, said, last, mark, same⟩ := later inOthers
        exact ⟨filled, part, place, said, last, List.mem_append_right _ mark, same⟩

theorem length_le_of_replies {sentences : List String} {context after : Context}
    {texts : List String} (ran : (replies respond sentences).runIn context = (.ok texts, after)) :
    texts.length ≤ sentences.length := by
  induction sentences generalizing context texts with
  | nil =>
    cases ran
    exact Nat.le_refl _
  | cons sentence sentences ih =>
    rw [replies_cons] at ran
    obtain ⟨reply, middle, _, continued⟩ := exists_of_runIn_bind ran
    obtain ⟨others, last, ranLater, made⟩ := exists_of_runIn_bind continued
    cases made
    have fewer := ih ranLater
    split
    · exact Nat.le_succ_of_le fewer
    · exact Nat.succ_le_succ fewer

/-! ### Templates that give a style already -/

/-- **A template that gives a style already, where it is evaluated.** It does so itself, to a text to
which the style can be given twice, or it redirects and every category that answers does. In
sentence style, only the first of several answers has a capital: the others do not start a text. -/
inductive Restyled (style : Style) : Template → Context → Prop where
  | styled {content : Template} {context : Context}
      (steady : ∀ text after, content.run.runIn context = (.ok text, after) → style.Steady text) :
      Restyled style (.styled style content) context
  | redirected {template : Template} {context after : Context} {query : String}
      (redirects : template.redirection? context = some (query, after))
      (inside : ∀ part place, .evaluates part place ∈ marksOfRedirect query after →
        Restyled style part place)
      (small : style = .sentence → ∀ texts last,
        (replies respond (sentences query)).runIn (after.descended query) = (.ok texts, last) →
          ∀ text ∈ texts.tail, lower text = text) :
      Restyled style template context

theorem runIn_text (text : String) (context : Context) :
    (Template.text text).run.runIn context = (.ok text, context) := by
  rw [Template.run_eq]
  rfl

/-- **A redirection to one sentence**, that a category answers which gives the style already. -/
theorem Restyled.of_sentence {style : Style} {sentence : String} {context : Context} {found : Match}
    (itself : sentences sentence = [sentence])
    (matched : context.agent.lookup (context.agent.normalizer.tokenize sentence) = some found)
    (inside : Restyled style found.category.template
      ((context.descended sentence).entered sentence found)) :
    Restyled style (.redirect (.text sentence)) context := by
  have redirects : (Template.redirect (.text sentence)).redirection? context =
      some (sentence, context) := by
    simp only [Template.redirection?, runIn_text]
  refine .redirected redirects (fun part place member => ?_) fun _ texts last replied => ?_
  · unfold marksOfRedirect at member
    split at member
    · cases member
    · have lookup : (context.descended sentence).agent.lookup
          ((context.descended sentence).agent.normalizer.tokenize sentence) = some found := matched
      rw [itself, marksOfReplies, marksOfReply, lookup] at member
      rcases List.mem_append.mp member with first | later
      · rcases List.mem_cons.mp first with same | same
        · cases same
        · cases List.mem_singleton.mp same
          exact inside
      · split at later <;> cases later
  · rw [itself] at replied
    have fewer : texts.length ≤ 1 := length_le_of_replies replied
    have nothing : texts.tail = [] := by
      refine List.eq_nil_of_length_eq_zero ?_
      rw [List.length_tail]
      omega
    rw [nothing]
    exact fun text absent => absurd absent List.not_mem_nil

theorem run_styled (style : Style) (content : Template) :
    (Template.styled style content).run =
      (do return style.apply (← content.run) : Evaluation String) := by
  rw [Template.run_eq, Template.run_eq, Template.evaluate]

/-- **What gives a style already has a text that the style leaves as it is.** -/
theorem Restyled.apply_eq {style : Style} {template : Template} {context after : Context}
    {text : String} (restyled : Restyled style template context)
    (ran : template.run.runIn context = (.ok text, after)) : style.apply text = text := by
  -- By induction on the nesting: what the categories inside answer is left as it is, and so is what
  -- the redirection makes of their answers, which it trims and joins.
  induction restyled generalizing text after with
  | styled steady =>
    rw [run_styled] at ran
    obtain ⟨said, middle, ranContent, applied⟩ := exists_of_runIn_bind ran
    cases applied
    exact (style.apply_apply_iff said).mpr (steady said _ ranContent)
  | redirected redirects inside small ih =>
    rw [runIn_of_redirection? redirects] at ran
    obtain ⟨texts, last, below, replied, rfl⟩ := exists_replies_of_redirect ran
    refine Style.apply_unwords (fun text member => ?_)
      (fun text member => (of_mem_replies replied member).1)
      fun isSentence => small isSentence texts last replied
    obtain ⟨_, part, place, said, left, mark, ranPart, rfl⟩ := of_mem_replies replied member
    refine Style.apply_trim (ih part place ?_ ranPart)
    rw [marksOfRedirect, if_neg (Nat.not_le.mpr below)]
    exact mark

/-- **Giving a style twice.** A text to which a style was given stays as it is when the style is
given to it again, exactly if the text is steady for the style: always in upper case, in lower case
and exploded; and in formal and sentence style unless what they raise has a capital of several
characters of which lowering moves a later one. So a style around a template that gives it already,
by itself or in the categories to which it redirects at any nesting, makes no difference to the
text, nor to anything else. -/
theorem restyle (style : Style) :
    (∀ text, style.apply (style.apply text) = style.apply text ↔ style.Steady text) ∧
    ∀ template context, Restyled style template context →
      (Template.styled style template).run.runIn context = template.run.runIn context := by
  refine ⟨style.apply_apply_iff, fun template context restyled => ?_⟩
  rw [run_styled, runIn_bind]
  cases ran : template.run.runIn context with
  | mk result after =>
  cases result with
  | error interruption => rfl
  | ok text =>
    dsimp only
    rw [restyled.apply_eq ran]
    rfl

/-- A category that redirects to one in formal style. -/
theorem restyle_greeting :
    let hail : Category := ⟨⟨[.word "hail", .word "me"], [.star], [.star]⟩,
      .styled .formal (.text "hello  big world"), .loaded⟩
    let greet : Category :=
      ⟨⟨[.word "greet", .word "me"], [.star], [.star]⟩, .redirect (.text "hail me"), .loaded⟩
    let setup : Setup := { generator := fun _ => .first }
    let context : Context := { agent := (setup.build.1.addCategory hail).addCategory greet }
    let template : Template := .redirect (.text "greet me")
    Restyled .formal template context ∧
      (Template.styled .formal template).run.runIn context = template.run.runIn context ∧
      (template.run.runIn context).1 = .ok "Hello Big World" := by
  intro hail greet setup context template
  have answers : ∀ category sentence words,
      context.agent.normalizer.tokenize sentence = words →
      context.agent.repertoire.store.lookup context.agent.scope words
        [⟨"unknown", "unknown"⟩] [⟨"unknown", "unknown"⟩] =
          some ⟨category, ⟨[], ["unknown"], ["unknown"]⟩⟩ →
      context.agent.lookup (context.agent.normalizer.tokenize sentence) =
        some ⟨category, ⟨[], ["unknown"], ["unknown"]⟩⟩ := by
    intro category sentence words read found
    have that : context.agent.thatWords = [⟨"unknown", "unknown"⟩] := by decide +kernel
    have topic : context.agent.topicWords = [⟨"unknown", "unknown"⟩] := by decide +kernel
    rw [Agent.lookup, read, that, topic, found]
  have greeted := answers greet "greet me" [⟨"greet", "greet"⟩, ⟨"me", "me"⟩] (by decide +kernel) rfl
  have hailed := answers hail "hail me" [⟨"hail", "hail"⟩, ⟨"me", "me"⟩] (by decide +kernel) rfl
  have restyled : Restyled .formal template context := by
    refine .of_sentence (by decide +kernel) greeted (.of_sentence (by decide +kernel) hailed ?_)
    refine .styled fun text after ran => ?_
    rw [runIn_text] at ran
    cases ran
    decide +kernel
  exact ⟨restyled, (restyle .formal).2 template context restyled, by decide +kernel⟩

/-- A sharp s becomes two capitals, of which the second is lowered the next time; and sentence style
around a redirection to two sentences lowers what starts the second one. -/
theorem not_restyle :
    (Style.formal.apply "ß" = "SS" ∧ Style.formal.apply (Style.formal.apply "ß") = "Ss") ∧
    (let hello : Category :=
        ⟨⟨[.word "hello"], [.star], [.star]⟩, .styled .sentence (.text "good day"), .loaded⟩
      let bye : Category :=
        ⟨⟨[.word "bye"], [.star], [.star]⟩, .styled .sentence (.text "see you"), .loaded⟩
      let setup : Setup := { generator := fun _ => .first }
      let context : Context := { agent := (setup.build.1.addCategory hello).addCategory bye }
      let template : Template := .redirect (.text "Hello. Bye.")
      (template.run.runIn context).1 = .ok "Good day See you" ∧
        ((Template.styled .sentence template).run.runIn context).1 = .ok "Good day see you") ∧
    ¬ ∀ (style : Style) (text : String), style.apply (style.apply text) = style.apply text := by
  have once : Style.formal.apply "ß" = "SS" := by decide +kernel
  have twice : Style.formal.apply (Style.formal.apply "ß") = "Ss" := by decide +kernel
  refine ⟨⟨once, twice⟩, ⟨by decide +kernel, by decide +kernel⟩, fun always => ?_⟩
  have same := always .formal "ß"
  rw [twice, once] at same
  exact absurd same (by decide)

end Dialogue
