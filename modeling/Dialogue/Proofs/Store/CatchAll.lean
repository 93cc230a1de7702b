/-
**Missing contexts mean any, as long as there is a word for them.**

A context that a category leaves out is the star, which takes one word or more. So it accepts
whatever was said and whatever the topic is only if a lookup never goes without words for either.

* `Forest.isSome_search`, `Store.isSome_lookup`: a search succeeds if one stored key has a
  derivation, also in a forest that is not in order;
* `exists_derives_ofTokens_iff`: which sentences a key without contexts has derivations of;
* `contextWords_eq_nil_iff`: when a lookup goes without words for a context;
* `lookup_any`: a catch-all answers every sentence if the default context has a word;
  `Agent.lookup_of_wordless`: if it has none, a category without contexts answers nothing where a
  response is missing.
-/

import Dialogue.Proofs.Repertoire.Conversation
import Dialogue.Proofs.Store.FirstMatch

namespace Dialogue

/-! ### Searches that succeed -/

section Searches

variable {scope : Scope} {category : Category}

theorem isSome_orElse_iff {first second : Option Match} :
    (first <|> second).isSome ↔ first.isSome ∨ second.isSome := by
  cases first <;> simp

/-- A search at a place succeeds where the place ends the path, or where a search of the places
below it does. -/
theorem Forest.isSome_answer {entry : Option Category} {below : Forest Category} {query : Query}
    (succeeds : entry.isSome ∧ query.isDone = true ∨
      ∃ phase, (below.search scope phase query).isSome) :
    (Forest.answer scope entry below query).isSome := by
  unfold Forest.answer
  rcases succeeds with ⟨stored, done⟩ | ⟨phase, found⟩
  · have ended : (endMatch entry query).isSome := by
      rw [endMatch, if_pos done, Option.isSome_map]
      exact stored
    simp [ended]
  · cases phase <;> simp [found]

/-- **A search succeeds along the path of anything stored.** -/
theorem Forest.isSome_search {forest : Forest Category} {query : Query} {step : Step}
    {steps : List Step} (stored : forest.find? (step.1 :: steps.map Prod.fst) = some category)
    (passes : Passes scope query (step :: steps)) :
    (forest.search scope step.1.phase query).isSome := by
  induction forest generalizing query step steps with
  | nil => cases stored
  | cons edge entry below next lower later =>
    rw [Forest.search_cons, isSome_orElse_iff]
    obtain ⟨edge', span⟩ := step
    by_cases same : edge' = edge
    · subst same
      obtain ⟨left, takes, passes⟩ := passes_cons_iff.mp passes
      refine .inl ?_
      rw [if_pos rfl, List.findSome?_isSome_iff]
      refine ⟨(edge'.captured span, left), mem_ways_iff.mpr ⟨span, takes, rfl⟩, ?_⟩
      rw [Option.isSome_map]
      cases steps with
      | nil =>
        have entered : entry = some category := by simpa [Forest.find?] using stored
        cases passes with
        | done done => exact isSome_answer (.inl ⟨by rw [entered]; rfl, done⟩)
      | cons step steps =>
        have under : below.find? (step.1 :: steps.map Prod.fst) = some category := by
          simpa [Forest.find?] using stored
        exact isSome_answer (.inr ⟨step.1.phase, lower under passes⟩)
    · have beside : next.find? (edge' :: steps.map Prod.fst) = some category := by
        simpa [Forest.find?, same] using stored
      exact .inr (@later query (edge', span) steps beside passes)

/-- **A lookup succeeds if a stored key has a derivation.** -/
theorem Store.isSome_lookup {store : Store} {key : Key} {input that topic : List InputWord}
    {pieces : Pieces} (stored : store.find? key = some category) (filled : input ≠ [])
    (derives : Derives scope key input that topic pieces) :
    (store.lookup scope input that topic).isSome := by
  obtain ⟨path, passes⟩ := passes_iff_derives.mpr ⟨pieces, derives, rfl⟩
  have someInput : ¬ input.isEmpty = true := by simpa using filled
  rw [lookup, if_neg someInput]
  rw [find?, ← path] at stored
  cases steps : key.steps pieces with
  | nil =>
    rw [steps] at path
    exact absurd path.symm key.path_ne_nil
  | cons step others =>
    rw [steps] at stored passes
    exact Forest.isSome_answer (.inr ⟨step.1.phase, Forest.isSome_search stored passes⟩)

end Searches

/-! ### Keys without contexts -/

/-- The star accepts any words at all. -/
theorem exists_cutBy_star_iff {scope : Scope} {words : List InputWord} :
    (∃ pieces, CutBy scope [.star] pieces words) ↔ words ≠ [] := by
  constructor
  · rintro ⟨pieces, accepted, rfl⟩
    obtain ⟨span, others, accepts, nothing, rfl⟩ := List.forall₂_cons_left_iff.mp accepted
    have filled : span ≠ [] := accepts
    rw [List.forall₂_nil_left_iff.mp nothing]
    simpa using filled
  · intro filled
    exact ⟨[words], .cons filled .nil, List.append_nil words⟩

/-- **A key without contexts is derived as its pattern is**, where there are words for both
contexts. -/
theorem exists_derives_ofTokens_iff {scope : Scope} {pattern : List Token}
    {input that topic : List InputWord} :
    (∃ pieces, Derives scope (Key.ofTokens pattern none none) input that topic pieces) ↔
      (∃ pieces, CutBy scope pattern pieces input) ∧ that ≠ [] ∧ topic ≠ [] := by
  constructor
  · rintro ⟨pieces, derives⟩
    exact ⟨⟨_, derives.pattern⟩, exists_cutBy_star_iff.mp ⟨_, derives.that⟩,
      exists_cutBy_star_iff.mp ⟨_, derives.topic⟩⟩
  · rintro ⟨⟨first, pattern⟩, that, topic⟩
    obtain ⟨second, response⟩ := exists_cutBy_star_iff.mpr that
    obtain ⟨third, subject⟩ := exists_cutBy_star_iff.mpr topic
    exact ⟨⟨first, second, third⟩, pattern, response, subject⟩

/-- The key that leaves everything open. -/
def Key.any : Key := Key.ofTokens [.star] none none

/-! ### Lookups of an agent -/

namespace Agent

/-- A lookup goes without words for a context if neither that nor the default context has any. -/
theorem contextWords_eq_nil_iff (agent : Agent) (text : String) :
    agent.contextWords text = [] ↔ agent.normalizer.tokenize text = [] ∧
      agent.normalizer.tokenize agent.settings.defaultContext = [] := by
  unfold contextWords
  cases words : agent.normalizer.tokenize text with
  | nil => simp
  | cons word words => simp

/-- Whatever an agent went through, its store is valid. -/
theorem valid_store_receiveAll (setup : Setup) (calls : List Call) :
    (setup.build.1.receiveAll calls).repertoire.store.Valid :=
  let ⟨_, layered⟩ := exists_layered_receiveAll setup calls
  layered.valid

/-- **Without a word for a missing response, what answers has a context for it.** -/
theorem lookup_of_wordless {setup : Setup} {calls : List Call} {agent : Agent}
    (reached : agent = setup.build.1.receiveAll calls)
    (wordless : agent.normalizer.tokenize agent.settings.defaultContext = [])
    (missing : agent.normalizer.tokenize (agent.history.that 1 1) = []) {words : List InputWord}
    {found : Match} (outcome : agent.lookup words = some found) :
    found.category.key.that ≠ [.star] := by
  have valid : agent.repertoire.store.Valid := reached ▸ valid_store_receiveAll setup calls
  intro star
  have filled : words ≠ [] := by
    rintro rfl
    cases outcome
  have nothing : agent.thatWords = [] :=
    (agent.contextWords_eq_nil_iff _).mpr ⟨missing, wordless⟩
  obtain ⟨pieces, first, _⟩ := Store.isFirst_of_lookup valid filled outcome
  have response := first.derives.that
  rw [star] at response
  exact exists_cutBy_star_iff.mp ⟨_, response⟩ nothing

end Agent

/-- **A catch-all answers every sentence**, whatever was said before and whatever the topic is, if
the default context has a word: then no lookup goes without words for a context, so that a category
without contexts is derived as its pattern is. -/
theorem lookup_any (agent : Agent)
    (worded : agent.normalizer.tokenize agent.settings.defaultContext ≠ []) :
    agent.thatWords ≠ [] ∧ agent.topicWords ≠ [] ∧
    (∀ pattern words, (∃ pieces, Derives agent.scope (Key.ofTokens pattern none none) words
      agent.thatWords agent.topicWords pieces) ↔ ∃ pieces, CutBy agent.scope pattern pieces words) ∧
    ∀ category, agent.repertoire.store.find? Key.any = some category →
      ∀ sentence, agent.normalizer.tokenize sentence ≠ [] →
        (agent.lookup (agent.normalizer.tokenize sentence)).isSome := by
  have contextWords : ∀ text, agent.contextWords text ≠ [] := by
    intro text nothing
    exact worded ((agent.contextWords_eq_nil_iff text).mp nothing).2
  have that : agent.thatWords ≠ [] := contextWords _
  have topic : agent.topicWords ≠ [] := contextWords _
  refine ⟨that, topic, fun pattern words => ?_, fun category stored sentence filled => ?_⟩
  · rw [exists_derives_ofTokens_iff, and_iff_left ⟨that, topic⟩]
  · obtain ⟨pieces, derives⟩ := exists_derives_ofTokens_iff.mpr
      ⟨exists_cutBy_star_iff.mpr filled, that, topic⟩
    exact Store.isSome_lookup stored filled derives

/-- The usual word for a missing context is one. -/
theorem lookup_any_unknown :
    let setup : Setup :=
      { generator := fun _ => .first, definitions := [⟨"*", none, none, .text "any"⟩] }
    let agent := setup.build.1
    agent.normalizer.tokenize agent.settings.defaultContext ≠ [] ∧
      (agent.repertoire.store.find? Key.any).isSome ∧ agent.thatWords ≠ [] ∧
        (agent.lookup (agent.normalizer.tokenize "hello")).isSome := by
  intro setup agent
  have worded : agent.normalizer.tokenize agent.settings.defaultContext ≠ [] := by decide +kernel
  have stored : (agent.repertoire.store.find? Key.any).isSome := by decide +kernel
  have spoken : agent.normalizer.tokenize "hello" ≠ [] := by decide +kernel
  obtain ⟨category, found⟩ := Option.isSome_iff_exists.mp stored
  obtain ⟨that, _, _, answers⟩ := lookup_any agent worded
  exact ⟨worded, stored, that, answers category found "hello" spoken⟩

/-- **Without a word for a missing context, a catch-all does not answer the first sentence.** -/
theorem not_lookup_any : ¬ ∀ (setup : Setup) (calls : List Call) (sentence : String),
    let agent := setup.build.1.receiveAll calls
    (agent.repertoire.store.find? Key.any).isSome →
      agent.normalizer.tokenize sentence ≠ [] →
        (agent.lookup (agent.normalizer.tokenize sentence)).isSome := by
  intro answers
  have answered := answers
    { generator := fun _ => .first, settings := { defaultContext := "" }
      definitions := [⟨"*", none, none, .text "any"⟩] } []
    "hello" (by decide +kernel) (by decide +kernel)
  exact absurd answered (by decide +kernel)

end Dialogue
