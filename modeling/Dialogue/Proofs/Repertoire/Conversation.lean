/-
**What a conversation does to the repertoire.**

* `Revised`: how the repertoire of a context changes. It is revised by what the bot learns and
  forgets, in order, and the notices about it say exactly that;
* `revised_course`: every evaluation does no more, however deep it redirects and however it ends;
* `Call.Makes`, `Makes`: the revisions that a call and a sequence of calls make;
* `receiveAll_inLayers`: at every moment of every sequence of calls, the repertoire is its two layers.
-/

import Dialogue.Agent.Call
import Dialogue.Proofs.Evaluation.Course
import Dialogue.Proofs.Evaluation.Steps
import Dialogue.Proofs.Repertoire.Layers

namespace Dialogue

open Evaluation

namespace Repertoire

/-- What is noted about a revision made in conversation. -/
def noticesOf (repertoire : Repertoire) : Revision → List Notice
  | .add _ | .remove _ => []
  | .learn category => repertoire.learningNotices category
  | .unlearn policy => repertoire.unlearningNotices policy

/-- What is noted about some revisions, in order. -/
def noticesOfAll (repertoire : Repertoire) : List Revision → List Notice
  | [] => []
  | revision :: revisions =>
    repertoire.noticesOf revision ++ (repertoire.revise revision).noticesOfAll revisions

theorem reviseAll_append (repertoire : Repertoire) (first second : List Revision) :
    repertoire.reviseAll (first ++ second) = (repertoire.reviseAll first).reviseAll second :=
  List.foldl_append

theorem noticesOfAll_append (repertoire : Repertoire) (first second : List Revision) :
    repertoire.noticesOfAll (first ++ second) =
      repertoire.noticesOfAll first ++ (repertoire.reviseAll first).noticesOfAll second := by
  induction first generalizing repertoire with
  | nil => rfl
  | cons revision revisions ih =>
    rw [List.cons_append, noticesOfAll, noticesOfAll, ih, List.append_assoc]
    rfl

/-- All that is noted about a revision is about the repertoire. -/
theorem isAboutRepertoire_of_mem_noticesOf (repertoire : Repertoire) (revision : Revision) :
    ∀ notice ∈ repertoire.noticesOf revision, notice.isAboutRepertoire := by
  intro notice member
  cases revision with
  | add category => cases member
  | remove key => cases member
  | learn category => exact isAboutRepertoire_of_mem_learningNotices member
  | unlearn policy => exact isAboutRepertoire_of_mem_unlearningNotices member

end Repertoire

/-- Whether an event is about what the bot learns and forgets. -/
def Event.isAboutRepertoire : Event → Bool
  | .notice fact => fact.isAboutRepertoire
  | .notified _ | .consulted _ => false

/-- Notices that are not about the repertoire leave what is said about it as it was. -/
theorem filter_noted_of_aside {notices : List Notice}
    (aside : ∀ notice ∈ notices, notice.isAboutRepertoire = false) (journal : List Event) :
    ((notices.map Event.notice).reverse ++ journal).filter Event.isAboutRepertoire =
      journal.filter Event.isAboutRepertoire := by
  have nothing : (notices.map Event.notice).reverse.filter Event.isAboutRepertoire = [] := by
    refine List.filter_eq_nil_iff.mpr fun event member => ?_
    obtain ⟨notice, noticed, rfl⟩ := List.mem_map.mp (List.mem_reverse.mp member)
    rw [Event.isAboutRepertoire, aside notice noticed]
    exact Bool.false_ne_true
  rw [List.filter_append, nothing, List.nil_append]

/-- Notices about the repertoire are all said. -/
theorem filter_noted_of_about {notices : List Notice}
    (about : ∀ notice ∈ notices, notice.isAboutRepertoire) (journal : List Event) :
    ((notices.map Event.notice).reverse ++ journal).filter Event.isAboutRepertoire =
      (notices.map Event.notice).reverse ++ journal.filter Event.isAboutRepertoire := by
  have all : (notices.map Event.notice).reverse.filter Event.isAboutRepertoire =
      (notices.map Event.notice).reverse := by
    refine List.filter_eq_self.mpr fun event member => ?_
    obtain ⟨notice, noticed, rfl⟩ := List.mem_map.mp (List.mem_reverse.mp member)
    exact about notice noticed
  rw [List.filter_append, all]

/-- Whether a revision can be made in conversation by a bot with some settings. -/
def Revision.IsMadeUnder (settings : Settings) : Revision → Prop
  | .learn category => ∃ definition : Definition,
      definition.compile settings.normalizer .learned = .ok category
  | .unlearn policy => policy = settings.unlearnPolicy
  | .add _ | .remove _ => False

/-- **The repertoire is revised in conversation**, and the notices about it are those of the
revisions. -/
structure Revised (before after : Context) : Prop where
  settings : after.agent.settings = before.agent.settings
  made : ∃ revisions : List Revision,
    (∀ revision ∈ revisions, revision.IsMadeUnder before.agent.settings) ∧
      after.agent.repertoire = before.agent.repertoire.reviseAll revisions ∧
      after.journal.filter Event.isAboutRepertoire =
        ((before.agent.repertoire.noticesOfAll revisions).map Event.notice).reverse ++
          before.journal.filter Event.isAboutRepertoire

namespace Revised

variable {first second third : Context}

/-- Nothing is revised. -/
theorem of_same (settings : second.agent.settings = first.agent.settings)
    (repertoire : second.agent.repertoire = first.agent.repertoire)
    (journal : second.journal.filter Event.isAboutRepertoire =
      first.journal.filter Event.isAboutRepertoire) : Revised first second where
  settings := settings
  made := by
    refine ⟨[], ?_, repertoire, journal⟩
    intro revision member
    cases member

theorem trans (earlier : Revised first second) (later : Revised second third) :
    Revised first third where
  settings := later.settings.trans earlier.settings
  made := by
    obtain ⟨revisions, under, revised, noted⟩ := earlier.made
    obtain ⟨others, othersUnder, othersRevised, othersNoted⟩ := later.made
    refine ⟨revisions ++ others, fun revision member => ?_, ?_, ?_⟩
    · rcases List.mem_append.mp member with member | member
      · exact under revision member
      · have made := othersUnder revision member
        rwa [earlier.settings] at made
    · rw [othersRevised, revised, Repertoire.reviseAll_append]
    · rw [othersNoted, noted, revised, Repertoire.noticesOfAll_append, List.map_append,
        List.reverse_append, List.append_assoc]

/-- One revision, with some notices before its own. -/
theorem of_revision {revision : Revision} {remarks : List Notice}
    (made : revision.IsMadeUnder first.agent.settings)
    (settings : second.agent.settings = first.agent.settings)
    (revised : second.agent.repertoire = first.agent.repertoire.revise revision)
    (aside : ∀ notice ∈ remarks, notice.isAboutRepertoire = false)
    (noted : second.journal = ((remarks ++ first.agent.repertoire.noticesOf revision).map
      Event.notice).reverse ++ first.journal) : Revised first second where
  settings := settings
  made := by
    have about := Repertoire.isAboutRepertoire_of_mem_noticesOf first.agent.repertoire revision
    refine ⟨[revision], ?_, revised, ?_⟩
    · intro other member
      rw [List.mem_singleton.mp member]
      exact made
    · rw [noted, List.map_append, List.reverse_append, List.append_assoc,
        filter_noted_of_about about, filter_noted_of_aside aside, Repertoire.noticesOfAll,
        Repertoire.noticesOfAll, List.append_nil]

end Revised

/-! ### Learning and forgetting -/

/-- References without a name are not about the repertoire. -/
theorem isAboutRepertoire_of_mem_remarks {normalizer : Normalizer} {definition : Definition} :
    ∀ notice ∈ definition.remarks normalizer, notice.isAboutRepertoire = false := by
  intro notice member
  obtain ⟨kind, text, rfl⟩ := Definition.eq_unnamedReference_of_mem_remarks member
  rfl

/-- **Every evaluation only revises the repertoire**, by lessons and by forgetting. -/
theorem revised_course : Course Revised where
  refl context := .of_same rfl rfl rfl
  trans := Revised.trans
  askAgain context := .of_same rfl rfl rfl
  countLoop context := .of_same rfl rfl rfl
  record context event aside := by
    refine .of_same rfl rfl (List.filter_cons_of_neg ?_)
    cases event with
    | notice fact =>
      rw [Event.isAboutRepertoire, Notice.isAboutRepertoire_of_isAside (aside fact rfl)]
      exact Bool.false_ne_true
    | notified notification => exact Bool.false_ne_true
    | consulted sentence => exact Bool.false_ne_true
  setPredicate context name value := .of_same rfl rfl rfl
  draw context draws := .of_same rfl rfl rfl
  recordInput context sentence := .of_same rfl rfl rfl
  learn context definition := by
    cases compiled : definition.compile context.agent.normalizer .learned with
    | ok category =>
      rw [runIn_learn_of_ok compiled]
      have made : (Revision.learn category).IsMadeUnder context.agent.settings :=
        ⟨definition, compiled⟩
      exact .of_revision made rfl rfl isAboutRepertoire_of_mem_remarks rfl
    | error fault =>
      rw [runIn_learn_of_error compiled]
      refine .of_same rfl rfl (filter_noted_of_aside (fun notice member => ?_) context.journal)
      rcases List.mem_append.mp member with remark | malformed
      · exact isAboutRepertoire_of_mem_remarks notice remark
      · rw [List.mem_singleton.mp malformed]
        rfl
  unlearn context := by
    rw [runIn_unlearn]
    have made : (Revision.unlearn context.agent.settings.unlearnPolicy).IsMadeUnder
        context.agent.settings := rfl
    have aside : ∀ notice ∈ ([] : List Notice), notice.isAboutRepertoire = false :=
      fun _ member => by cases member
    exact .of_revision made rfl rfl aside rfl
  redirected context query := .of_same rfl rfl (List.filter_cons_of_neg Bool.false_ne_true)
  underCondition led := ⟨led.settings, led.made⟩
  inCategory _ led := ⟨led.settings, led.made⟩
  deeper led := ⟨led.settings, led.made⟩

/-! ### Calls -/

namespace Definition

/-- What adding the category of a definition revises: nothing if it has none. -/
def additions (normalizer : Normalizer) (definition : Definition) : List Revision :=
  match definition.compile normalizer .loaded with
  | .ok category => [.add category]
  | .error _ => []

/-- What learning a definition revises: nothing if it has no category. -/
def lessons (normalizer : Normalizer) (definition : Definition) : List Revision :=
  match definition.compile normalizer .learned with
  | .ok category => [.learn category]
  | .error _ => []

/-- A category comes from where it is said to. -/
theorem origin_of_compile {normalizer : Normalizer} {origin : Origin} {definition : Definition}
    {category : Category} (compiled : definition.compile normalizer origin = .ok category) :
    category.origin = origin := by
  unfold compile at compiled
  split at compiled
  · cases compiled
  · rw [← Except.ok.inj compiled]

theorem fits_additions (normalizer : Normalizer) (definition : Definition) :
    ∀ revision ∈ definition.additions normalizer, revision.Fits := by
  intro revision member
  unfold additions at member
  split at member
  · rename_i category compiled
    rw [List.mem_singleton.mp member]
    exact origin_of_compile compiled
  · cases member

end Definition

theorem Revision.IsMadeUnder.fits {settings : Settings} {revision : Revision}
    (made : revision.IsMadeUnder settings) : revision.Fits := by
  cases revision with
  | add category => cases made
  | remove key => cases made
  | learn category =>
    obtain ⟨definition, compiled⟩ := made
    exact Definition.origin_of_compile compiled
  | unlearn policy => trivial

/-- What the definitions of a setup add. -/
def Setup.additions (setup : Setup) : List Revision :=
  setup.definitions.flatMap (Definition.additions setup.settings.normalizer)

/-- Definitions are added one after the other. -/
theorem addDefinitions_fst (normalizer : Normalizer) (repertoire : Repertoire)
    (definitions : List Definition) :
    (Setup.addDefinitions normalizer repertoire definitions).1 =
      repertoire.reviseAll (definitions.flatMap (Definition.additions normalizer)) := by
  induction definitions generalizing repertoire with
  | nil => rfl
  | cons definition definitions ih =>
    rw [List.flatMap_cons, Repertoire.reviseAll_append, ← ih, Setup.addDefinitions,
      Definition.additions]
    cases definition.compile normalizer .loaded with
    | ok category => rfl
    | error fault => rfl

/-- **The revisions that a call makes.** -/
def Call.Makes (agent : Agent) : Call → List Revision → Prop
  | .turn input, revisions =>
    (∀ revision ∈ revisions, revision.IsMadeUnder agent.settings) ∧
      (agent.takeTurn input).2.2.filter Event.isAboutRepertoire =
        (agent.repertoire.noticesOfAll revisions).map Event.notice
  | .define definition, revisions => revisions = definition.additions agent.normalizer
  | .remove key, revisions => revisions = [.remove key]
  | .setPredicate .., revisions | .subscribe _, revisions | .unsubscribe _, revisions =>
    revisions = []

/-- The revisions that some calls make, in order. -/
inductive MakesAll : Agent → List Call → List Revision → Prop where
  | nil (agent : Agent) : MakesAll agent [] []
  | cons {agent : Agent} {call : Call} {calls : List Call} {first others : List Revision} :
    call.Makes agent first → MakesAll (agent.receive call) calls others →
      MakesAll agent (call :: calls) (first ++ others)

namespace Agent

/-- A turn revises the repertoire, whether it is completed or interrupted. -/
theorem exists_makes_turn (agent : Agent) (input : String) :
    ∃ revisions, (Call.turn input).Makes agent revisions ∧
      (agent.takeTurn input).2.1.settings = agent.settings ∧
      (agent.takeTurn input).2.1.repertoire = agent.repertoire.reviseAll revisions := by
  have led := revised_course.answer (agent.inputSentences input) { agent := agent }
  cases answered : (answer (agent.inputSentences input)).runIn { agent := agent } with
  | mk result after =>
  rw [answered] at led
  obtain ⟨revisions, under, revised, noted⟩ := led.made
  have said : after.journal.reverse.filter Event.isAboutRepertoire =
      (agent.repertoire.noticesOfAll revisions).map Event.notice := by
    rw [List.filter_reverse, noted, List.filter_nil, List.append_nil, List.reverse_reverse]
  refine ⟨revisions, ?_⟩
  cases result with
  | ok replies =>
    have taken := takeTurn_of_ok answered
    refine ⟨⟨under, ?_⟩, ?_, ?_⟩
    · rw [taken]
      exact said
    · rw [taken]
      exact led.settings
    · rw [taken]
      exact revised
  | error interruption =>
    have taken := takeTurn_of_error answered
    refine ⟨⟨under, ?_⟩, ?_, ?_⟩
    · rw [taken, List.reverse_cons, List.filter_append, said]
      exact List.append_nil _
    · rw [taken]
      exact led.settings
    · rw [taken]
      exact revised

/-- **What a call does to the repertoire.** -/
theorem exists_makes (agent : Agent) (call : Call) :
    ∃ revisions, call.Makes agent revisions ∧
      (agent.receive call).settings = agent.settings ∧
      (agent.receive call).repertoire = agent.repertoire.reviseAll revisions := by
  cases call with
  | turn input => exact agent.exists_makes_turn input
  | define definition =>
    refine ⟨definition.additions agent.normalizer, rfl, ?_⟩
    unfold Definition.additions
    cases compiled : definition.compile agent.normalizer .loaded with
    | ok category =>
      have defined : agent.receive (.define definition) = agent.addCategory category := by
        unfold receive define
        dsimp only
        rw [compiled]
      rw [defined]
      exact ⟨rfl, rfl⟩
    | error fault =>
      have defined : agent.receive (.define definition) = agent := by
        unfold receive define
        dsimp only
        rw [compiled]
      rw [defined]
      exact ⟨rfl, rfl⟩
  | remove key => exact ⟨[.remove key], rfl, rfl, rfl⟩
  | setPredicate name value => exact ⟨[], rfl, rfl, rfl⟩
  | subscribe name => exact ⟨[], rfl, rfl, rfl⟩
  | unsubscribe subscription => exact ⟨[], rfl, rfl, rfl⟩

/-- **What some calls do to it.** -/
theorem exists_makesAll (agent : Agent) (calls : List Call) :
    ∃ revisions, MakesAll agent calls revisions ∧
      (agent.receiveAll calls).repertoire = agent.repertoire.reviseAll revisions := by
  induction calls generalizing agent with
  | nil => exact ⟨[], .nil agent, rfl⟩
  | cons call calls ih =>
    obtain ⟨first, makes, _, revised⟩ := agent.exists_makes call
    obtain ⟨others, makesAll, othersRevised⟩ := ih (agent.receive call)
    refine ⟨first ++ others, .cons makes makesAll, ?_⟩
    rw [Repertoire.reviseAll_append, ← revised]
    exact othersRevised

/-- The settings stay as they are. -/
theorem settings_receive (agent : Agent) (call : Call) :
    (agent.receive call).settings = agent.settings := by
  obtain ⟨_, _, kept, _⟩ := agent.exists_makes call
  exact kept

theorem settings_receiveAll (agent : Agent) (calls : List Call) :
    (agent.receiveAll calls).settings = agent.settings := by
  induction calls generalizing agent with
  | nil => rfl
  | cons call calls ih => exact (ih (agent.receive call)).trans (agent.settings_receive call)

end Agent

/-- A revision that a call makes is the owner's, or made in conversation under the settings. -/
theorem Call.Makes.fits {agent : Agent} {call : Call} {revisions : List Revision}
    (makes : call.Makes agent revisions) :
    ∀ revision ∈ revisions, revision.Fits ∧
      ∀ policy, revision = .unlearn policy → policy = agent.settings.unlearnPolicy := by
  intro revision member
  cases call with
  | turn input =>
    have under := makes.1 revision member
    refine ⟨under.fits, fun policy same => ?_⟩
    rw [same] at under
    exact under
  | define definition =>
    cases makes
    refine ⟨definition.fits_additions agent.normalizer revision member, fun policy same => ?_⟩
    unfold Definition.additions at member
    split at member
    · rw [List.mem_singleton.mp member] at same
      cases same
    · cases member
  | remove key =>
    cases makes
    rw [List.mem_singleton.mp member]
    exact ⟨trivial, fun policy same => by cases same⟩
  | setPredicate name value =>
    cases makes
    cases member
  | subscribe name =>
    cases makes
    cases member
  | unsubscribe subscription =>
    cases makes
    cases member

theorem MakesAll.fits {agent : Agent} {calls : List Call} {revisions : List Revision}
    (makes : MakesAll agent calls revisions) :
    ∀ revision ∈ revisions, revision.Fits ∧
      ∀ policy, revision = .unlearn policy → policy = agent.settings.unlearnPolicy := by
  induction makes with
  | nil agent =>
    intro revision member
    cases member
  | @cons agent call calls first others makes _ ih =>
    rw [agent.settings_receive] at ih
    intro revision member
    rcases List.mem_append.mp member with inFirst | inOthers
    · exact makes.fits revision inFirst
    · exact ih revision inOthers

/-! ### The two layers -/

/-- **After some revisions, a repertoire is its two layers**, and a policy forgets what it says. -/
structure InLayers (policy : UnlearnPolicy) (revisions : List Revision) : Prop where
  /-- Under each key is what was learned, or else what was given. -/
  find?_eq (key : Key) :
    (Repertoire.empty.reviseAll revisions).find? key =
      (Layers.empty.reviseAll revisions).find? key
  /-- As many categories are forgotten as there are keys in the layers that are cleared. -/
  unlearnedCount_eq :
    (Repertoire.empty.reviseAll revisions).unlearnedCount policy =
      {key | (Layers.empty.reviseAll revisions).clears policy key}.ncard
  /-- Once what was learned is forgotten, there is what the owner alone would have left. -/
  store_eq : policy = .learnedOnly →
    ((Repertoire.empty.reviseAll revisions).unlearn policy).store =
      (Repertoire.empty.reviseAll (revisions.filter Revision.isByOwner)).store
  /-- Categories come back in any order with the same outcome. -/
  restore_eq {order : Table Key Category} :
    order.Perm (Repertoire.empty.reviseAll revisions).setAside →
      Repertoire.restore ((Repertoire.empty.reviseAll revisions).keptStore .learnedOnly) order =
        ((Repertoire.empty.reviseAll revisions).unlearn .learnedOnly).store

theorem inLayers {policy : UnlearnPolicy} {revisions : List Revision}
    (fits : ∀ revision ∈ revisions, revision.Fits ∧
      ∀ other, revision = .unlearn other → other = policy) : InLayers policy revisions := by
  have fit : ∀ revision ∈ revisions, revision.Fits :=
    fun revision member => (fits revision member).1
  have layered := layered_empty.reviseAll fit
  refine ⟨layered.find?_eq, layered.unlearnedCount_eq policy, fun only => ?_, layered.restore_perm⟩
  have keeps : ∀ revision ∈ revisions, revision ≠ .unlearn .all := by
    intro revision member all
    have same := (fits revision member).2 .all all
    rw [only] at same
    cases same
  rw [only]
  exact unlearn_store_eq fit keeps

/-- What the definitions of a setup add is the owner's. -/
theorem Setup.fits_additions (setup : Setup) :
    ∀ revision ∈ setup.additions, revision.Fits ∧
      ∀ policy, revision = .unlearn policy → policy = setup.settings.unlearnPolicy := by
  intro revision member
  obtain ⟨definition, _, added⟩ := List.mem_flatMap.mp member
  have makes : (Call.define definition).Makes setup.build.1
      (definition.additions setup.settings.normalizer) := rfl
  exact makes.fits revision added

/-- Whatever a bot that was set up went through, its repertoire represents two layers. -/
theorem exists_layered_receiveAll (setup : Setup) (calls : List Call) :
    ∃ layers, Layered (setup.build.1.receiveAll calls).repertoire layers := by
  obtain ⟨made, makes, revised⟩ := setup.build.1.exists_makesAll calls
  have built : setup.build.1.repertoire = Repertoire.empty.reviseAll setup.additions :=
    addDefinitions_fst setup.settings.normalizer .empty setup.definitions
  have given := layered_empty.reviseAll fun revision member =>
    (setup.fits_additions revision member).1
  refine ⟨(Layers.empty.reviseAll setup.additions).reviseAll made, ?_⟩
  rw [revised, built]
  exact given.reviseAll fun revision member => (makes.fits revision member).1

/-- **At every moment of a conversation, the repertoire is its two layers.** The moments are those
after some of the revisions that the setup and the calls make; a lesson that has a category makes
one, wherever it is reached, and so does forgetting. -/
theorem receiveAll_inLayers (setup : Setup) (calls : List Call) :
    (∃ made, MakesAll setup.build.1 calls made ∧
      (setup.build.1.receiveAll calls).repertoire =
        Repertoire.empty.reviseAll (setup.additions ++ made) ∧
      ∀ earlier, earlier <+: setup.additions ++ made →
        InLayers setup.settings.unlearnPolicy earlier) ∧
    (∀ (context : Context) (definition : Definition),
      ((learn definition).runIn context).2.agent.repertoire =
        context.agent.repertoire.reviseAll (definition.lessons context.agent.normalizer)) ∧
    ∀ context : Context, (unlearn.runIn context).2.agent.repertoire =
      context.agent.repertoire.revise (.unlearn context.agent.settings.unlearnPolicy) := by
  refine ⟨?_, fun context definition => ?_, fun context => ?_⟩
  · obtain ⟨made, makes, revised⟩ := setup.build.1.exists_makesAll calls
    refine ⟨made, makes, ?_, fun earlier before => inLayers fun revision member => ?_⟩
    · have built : setup.build.1.repertoire = Repertoire.empty.reviseAll setup.additions :=
        addDefinitions_fst setup.settings.normalizer .empty setup.definitions
      rw [revised, built, Repertoire.reviseAll_append]
    · rcases List.mem_append.mp (before.subset member) with added | later
      · exact setup.fits_additions revision added
      · exact makes.fits revision later
  · unfold Definition.lessons
    cases compiled : definition.compile context.agent.normalizer .learned with
    | ok category =>
      rw [runIn_learn_of_ok compiled]
      rfl
    | error fault =>
      rw [runIn_learn_of_error compiled]
      rfl
  · rw [runIn_unlearn]
    rfl

end Dialogue
