/-
**The search finds the first derivation.**

* `AtPlace`, `Through`: the passages that a search at a place, or of a forest, looks through;
* `finds_answer`, `finds_search`: it finds the first of them. The induction is on the forest;
* `Store.IsFirst`: the first derivation of a stored category. There is at most one;
* `lookup_first`: in every store that changes lead to, the category that answers is the one with the
  first derivation.
-/

import Dialogue.Proofs.Store.FiniteMap
import Dialogue.Proofs.Store.Passages

namespace Dialogue

namespace Passage

/-- The passages from a place: to its entry, or on through the places below it. -/
def AtPlace (scope : Scope) (entry : Option Category) (below : Forest Category) (query : Query)
    (passage : Passage) : Prop :=
  (passage.path = [] ∧ entry = some passage.category ∨
    (passage.path, passage.category) ∈ below.entries) ∧ Passes scope query passage.steps

/-- The passages through a forest whose first step is tried in a phase. -/
def Through (scope : Scope) (phase : Phase) (forest : Forest Category) (query : Query)
    (passage : Passage) : Prop :=
  (passage.path, passage.category) ∈ forest.entries ∧ Passes scope query passage.steps ∧
    passage.path.head?.map Edge.phase = some phase

/-- A passage through a place takes the step to it in some way. -/
def Over (scope : Scope) (edge : Edge) (entry : Option Category) (below : Forest Category)
    (query : Query) (way : Way) (passage : Passage) : Prop :=
  ∃ span, ∃ later : Passage, Takes scope query edge span way.2 ∧
    later.AtPlace scope entry below way.2 ∧ passage = later.behind (edge, span)

section Places

variable {scope : Scope} {query : Query}

theorem mem_entries_cons_iff {edge : Edge} {entry : Option Category}
    {below next : Forest Category} {passage : Passage} :
    (passage.path, passage.category) ∈ (Forest.cons edge entry below next).entries ↔
      (∃ span later, passage = Passage.behind (edge, span) later ∧
        (later.path = [] ∧ entry = some later.category ∨
          (later.path, later.category) ∈ below.entries)) ∨
      (passage.path, passage.category) ∈ next.entries := by
  obtain ⟨steps, stored⟩ := passage
  simp only [Forest.entries, List.mem_append, List.mem_map, Option.mem_toList, Prod.mk.injEq]
  rw [← or_assoc]
  refine or_congr_left ?_
  constructor
  · rintro (⟨value, entered, path, rfl⟩ | ⟨⟨rest, value⟩, member, path, rfl⟩)
    · obtain ⟨⟨_, span⟩, later, rfl, rfl, nothing⟩ := List.map_eq_cons_iff.mp path.symm
      exact ⟨span, ⟨later, value⟩, rfl, .inl ⟨nothing, entered⟩⟩
    · obtain ⟨⟨_, span⟩, later, rfl, rfl, others⟩ := List.map_eq_cons_iff.mp path.symm
      refine ⟨span, ⟨later, value⟩, rfl, .inr ?_⟩
      show (later.map Prod.fst, value) ∈ below.entries
      rwa [others]
  · rintro ⟨span, later, same, ⟨nothing, entered⟩ | member⟩
    · cases same
      refine .inl ⟨later.category, entered, ?_, rfl⟩
      show [edge] = edge :: later.path
      rw [nothing]
    · cases same
      exact .inr ⟨_, member, rfl, rfl⟩

/-- **The passages through a forest begin at its first place or at one next to it.** -/
theorem through_cons_iff {phase : Phase} {edge : Edge} {entry : Option Category}
    {below next : Forest Category} {passage : Passage} :
    passage.Through scope phase (.cons edge entry below next) query ↔
      (edge.phase = phase ∧ ∃ way ∈ edge.ways scope query,
        passage.Over scope edge entry below query way) ∨
      passage.Through scope phase next query := by
  unfold Through
  rw [mem_entries_cons_iff, or_and_right]
  refine or_congr_left ?_
  constructor
  · rintro ⟨⟨span, later, rfl, place⟩, passes, first⟩
    obtain ⟨left, takes, passes⟩ := passes_cons_iff.mp passes
    refine ⟨Option.some.inj first, (edge.captured span, left), ?_, ?_⟩
    · exact mem_ways_iff.mpr ⟨span, takes, rfl⟩
    · exact ⟨span, later, takes, ⟨place, passes⟩, rfl⟩
  · rintro ⟨phase_eq, way, _, span, later, takes, ⟨place, passes⟩, rfl⟩
    refine ⟨⟨span, later, rfl, place⟩, passes_cons_iff.mpr ⟨way.2, takes, passes⟩, ?_⟩
    exact congrArg some phase_eq

/-- The passages from a place, in the order in which they are looked through. -/
theorem atPlace_iff {entry : Option Category} {below : Forest Category} {passage : Passage} :
    passage.AtPlace scope entry below query ↔
      passage.Through scope .before below query ∨
        (passage.steps = [] ∧ entry = some passage.category ∧ query.isDone = true) ∨
          passage.Through scope .boundary below query ∨
            passage.Through scope .after below query := by
  have ended : passage.path = [] ↔ passage.steps = [] := List.map_eq_nil_iff
  have done : Passes scope query [] ↔ query.isDone = true := by
    constructor
    · rintro (_ | _)
      assumption
    · exact Passes.done
  unfold AtPlace Through
  constructor
  · rintro ⟨⟨nothing, stored⟩ | member, passes⟩
    · rw [ended.mp nothing, done] at passes
      exact .inr (.inl ⟨ended.mp nothing, stored, passes⟩)
    · cases path : passage.path with
      | nil => exact absurd path (Forest.ne_nil_of_mem_entries member)
      | cons edge rest =>
        rw [path] at member
        cases phase : edge.phase with
        | before => simp [member, passes, phase]
        | boundary => simp [member, passes, phase]
        | after => simp [member, passes, phase]
  · rintro (⟨member, passes, _⟩ | ⟨nothing, stored, complete⟩ | ⟨member, passes, _⟩ |
      ⟨member, passes, _⟩)
    · exact ⟨.inr member, passes⟩
    · refine ⟨.inl ⟨ended.mpr nothing, stored⟩, ?_⟩
      rwa [nothing, done]
    · exact ⟨.inr member, passes⟩
    · exact ⟨.inr member, passes⟩

/-! ### The order in which passages are looked through -/

/-- Of two steps that can be taken in one phase, the one that is kept first is the better choice. -/
theorem before_of_takes {edge other : Edge} {span span' : List InputWord} {left left' : Query}
    (takes : Takes scope query edge span left) (takesOther : Takes scope query other span' left')
    (before : edge.compare other = .lt) (phase : edge.phase = other.phase) :
    (Step.choice (edge, span)).Before (Step.choice (other, span')) := by
  by_cases inside : other.phase = .boundary
  · -- no query has two next parts
    have next := (takes.of_boundary (phase.trans inside)).2
    have nextOther := (takesOther.of_boundary inside).2
    cases next.symm.trans nextOther
    exact absurd rfl (Edge.ne_of_compare_lt before)
  · exact before_of_compare before phase inside

/-- The kind of the first choice of a passage. -/
def rank (passage : Passage) : Nat :=
  match passage.steps with
  | [] => Choice.boundary.rank
  | step :: _ => step.choice.rank

theorem before_of_rank_lt {first second : Passage} (lower : first.rank < second.rank) :
    first.Before second := by
  have starts : ∀ passage : Passage, ∃ choice choices,
      choicesOfSteps passage.steps = choice :: choices ∧ choice.rank = passage.rank := by
    rintro ⟨steps, category⟩
    cases steps with
    | nil => exact ⟨.boundary, [], rfl, rfl⟩
    | cons step steps => exact ⟨step.choice, choicesOfSteps steps, rfl, rfl⟩
  obtain ⟨choice, choices, first_eq, rank_eq⟩ := starts first
  obtain ⟨choice', choices', second_eq, rank_eq'⟩ := starts second
  unfold Before
  rw [first_eq, second_eq]
  refine List.Lex.rel (.inl ?_)
  rwa [rank_eq, rank_eq']

theorem rank_of_ended {passage : Passage} (ended : passage.steps = []) : passage.rank = 7 := by
  unfold rank
  rw [ended]
  rfl

/-- The first choice of a passage shows the phase of its first step. -/
theorem Through.rank {phase : Phase} {forest : Forest Category} {passage : Passage}
    (through : passage.Through scope phase forest query) :
    (phase = .before → passage.rank < 7) ∧ (phase = .boundary → passage.rank = 7) ∧
      (phase = .after → 7 < passage.rank) := by
  obtain ⟨steps, category⟩ := passage
  obtain ⟨_, _, first⟩ := through
  cases steps with
  | nil => cases first
  | cons step steps =>
    have phase_eq : step.1.phase = phase := Option.some.inj first
    obtain ⟨before, boundary, after⟩ := rank_choice step
    rw [phase_eq] at before boundary after
    exact ⟨fun inside => (before inside).2, boundary, fun inside => (after inside).2⟩

/-- Where a passage goes on to another part, not everything is consumed. -/
theorem Through.isDone_eq_false {forest : Forest Category} {passage : Passage}
    (through : passage.Through scope .boundary forest query) : query.isDone = false := by
  obtain ⟨steps, category⟩ := passage
  obtain ⟨_, passes, first⟩ := through
  cases steps with
  | nil => cases first
  | cons step steps =>
    obtain ⟨left, takes, _⟩ := passes_cons_iff.mp passes
    have next := (takes.of_boundary (Option.some.inj first)).2
    cases query with
    | pattern words response subject => rfl
    | that words subject => rfl
    | topic words => cases next

end Places

end Passage

/-! ### The searches -/

section Searches

variable {scope : Scope} {query : Query}

/-- The end of a key is found where everything is consumed. -/
theorem finds_endMatch (entry : Option Category) : Finds query.segment
    (fun passage => passage.steps = [] ∧ entry = some passage.category ∧ query.isDone = true)
    (endMatch entry query) := by
  unfold endMatch
  by_cases done : query.isDone = true
  · rw [if_pos done]
    cases entry with
    | none =>
      rintro passage ⟨_, stored, _⟩
      cases stored
    | some category =>
      refine ⟨⟨[], category⟩, ⟨rfl, rfl, done⟩, rfl, ?_⟩
      rintro ⟨steps, other⟩ ⟨rfl, stored, _⟩
      cases stored
      exact .inl rfl
  · rw [if_neg done]
    rintro passage ⟨_, _, complete⟩
    exact done complete

/-- **A search at a place finds the first passage from it**, if the searches of the places below it
do. -/
theorem finds_answer (entry : Option Category) {below : Forest Category}
    (finds : ∀ phase, Finds query.segment (Passage.Through scope phase below query)
      (below.search scope phase query)) :
    Finds query.segment (Passage.AtPlace scope entry below query)
      (Forest.answer scope entry below query) := by
  have later := (finds .boundary).orElse (finds .after) fun passage other through throughOther => by
    have here := through.rank.2.1 rfl
    have there := throughOther.rank.2.2 rfl
    exact Passage.before_of_rank_lt (by omega)
  have fromEnd := (finds_endMatch entry).orElse later fun passage other ends through => by
    have here := Passage.rank_of_ended ends.1
    rcases through with boundary | after
    · have unfinished := boundary.isDone_eq_false
      rw [ends.2.2] at unfinished
      cases unfinished
    · have there := after.rank.2.2 rfl
      exact Passage.before_of_rank_lt (by omega)
  have whole := (finds .before).orElse fromEnd fun passage other through place => by
    have here := through.rank.1 rfl
    rcases place with ⟨ended, _⟩ | boundary | after
    · have there := Passage.rank_of_ended ended
      exact Passage.before_of_rank_lt (by omega)
    · have there := boundary.rank.2.1 rfl
      exact Passage.before_of_rank_lt (by omega)
    · have there := after.rank.2.2 rfl
      exact Passage.before_of_rank_lt (by omega)
  exact whole.congr fun passage => Passage.atPlace_iff.symm

/-- The ways of one step are tried in the order of their passages. -/
theorem finds_ways (query : Query) (edge : Edge) (entry : Option Category)
    {below : Forest Category}
    (finds : ∀ left : Query, Finds left.segment (Passage.AtPlace scope entry below left)
      (Forest.answer scope entry below left)) :
    Finds query.segment
      (fun passage => ∃ way ∈ edge.ways scope query, passage.Over scope edge entry below query way)
      ((edge.ways scope query).findSome? fun way =>
        (Forest.answer scope entry below way.2).map (Match.after query way)) := by
  refine @Finds.findSome _ _ _ (Passage.Over scope edge entry below query) ?_ ?_
  · intro way member
    obtain ⟨span, takes, captured⟩ := mem_ways_iff.mp member
    refine ((finds way.2).after takes captured).congr fun passage => ?_
    constructor
    · rintro ⟨later, place, rfl⟩
      exact ⟨span, later, takes, place, rfl⟩
    · rintro ⟨span', later, takes', place, rfl⟩
      rw [takes'.span_eq takes]
      exact ⟨later, place, rfl⟩
  · refine (pairwise_ways edge).imp ?_
    rintro first second before _ _ ⟨span, passage, takes, _, rfl⟩ ⟨span', later, takes', _, rfl⟩
    exact Passage.before_of_choice (before span span' takes takes') passage later

/-- **The search of a forest finds the first passage through it.** -/
theorem finds_search {forest : Forest Category} (ordered : forest.Ordered) (phase : Phase)
    (query : Query) : Finds query.segment (Passage.Through scope phase forest query)
      (forest.search scope phase query) := by
  induction forest generalizing phase query with
  | nil =>
    rintro passage ⟨member, _, _⟩
    cases member
  | cons edge entry below next lower later =>
    have first : Finds query.segment
        (fun passage => edge.phase = phase ∧ ∃ way ∈ edge.ways scope query,
          passage.Over scope edge entry below query way)
        (if edge.phase = phase then
          (edge.ways scope query).findSome? fun way =>
            (Forest.answer scope entry below way.2).map (Match.after query way)
        else none) := by
      by_cases tried : edge.phase = phase
      · rw [if_pos tried]
        have ways := finds_ways query edge entry fun left =>
          finds_answer entry fun phase => lower ordered.2.2.1 phase left
        refine ways.congr fun passage => ?_
        rw [and_iff_right tried]
      · rw [if_neg tried]
        rintro passage ⟨same, _⟩
        exact tried same
    have others := later ordered.2.2.2 phase query
    rw [Forest.search_cons]
    refine (first.orElse others ?_).congr fun passage => Passage.through_cons_iff.symm
    -- the other places are kept behind this one
    rintro _ ⟨steps, category⟩ ⟨tried, way, _, span, passage, takes, _, rfl⟩ ⟨member, passes, phase'⟩
    obtain ⟨other, rest, path, before⟩ :=
      Forest.exists_cons_of_mem_entries ordered.2.2.2 ordered.2.1 member
    obtain ⟨⟨_, span'⟩, others, rfl, rfl, _⟩ := List.map_eq_cons_iff.mp path
    obtain ⟨left, takes', _⟩ := passes_cons_iff.mp passes
    have same : edge.phase = _ := tried.trans (Option.some.inj phase').symm
    exact Passage.before_of_choice (Passage.before_of_takes takes takes' before same) passage
      ⟨others, category⟩

end Searches

/-! ### Derivations of stored categories -/

namespace Store

/-- **The first derivation of a stored category**: every other one comes later in the order of
choices. -/
structure IsFirst (store : Store) (scope : Scope) (input that topic : List InputWord)
    (category : Category) (pieces : Pieces) : Prop where
  stored : category ∈ store.categories
  derives : Derives scope category.key input that topic pieces
  first : ∀ other ∈ store.categories, ∀ others, Derives scope other.key input that topic others →
    (other = category ∧ others = pieces) ∨
      List.Lex Choice.Before (category.key.choices pieces) (other.key.choices others)

/-- Only one derivation is the first. -/
theorem IsFirst.unique {store : Store} {scope : Scope} {input that topic : List InputWord}
    {category other : Category} {pieces others : Pieces}
    (first : store.IsFirst scope input that topic category pieces)
    (second : store.IsFirst scope input that topic other others) :
    other = category ∧ others = pieces := by
  rcases first.first other second.stored others second.derives with same | before
  · exact same
  · rcases second.first category first.stored pieces first.derives with same | after
    · exact ⟨same.1.symm, same.2.symm⟩
    · exact absurd after (Std.Asymm.asymm _ _ before)

end Store

/-- The steps of two derivations of a key differ where their pieces do. -/
theorem Key.steps_injective {scope : Scope} {key : Key} {input that topic : List InputWord}
    {pieces others : Pieces} (derives : Derives scope key input that topic pieces)
    (derivesOther : Derives scope key input that topic others)
    (same : key.steps pieces = key.steps others) : pieces = others := by
  have spans : ∀ {tokens : List Token} {cut : List (List InputWord)}, cut.length = tokens.length →
      (stepsOf tokens cut).map Prod.snd = cut := by
    intro tokens cut lengths
    have covered : cut.length ≤ (tokens.map Edge.token).length := by simp [lengths]
    exact List.map_snd_zip covered
  have whole := congrArg (List.map Prod.snd) same
  simp only [Key.steps, List.map_append, List.map_cons, spans derives.pattern.length_eq,
    spans derives.that.length_eq, spans derives.topic.length_eq,
    spans derivesOther.pattern.length_eq, spans derivesOther.that.length_eq,
    spans derivesOther.topic.length_eq] at whole
  obtain ⟨pattern, rest⟩ := List.append_inj whole
    (derives.pattern.length_eq.trans derivesOther.pattern.length_eq.symm)
  obtain ⟨that, topic⟩ := List.append_inj (List.cons.inj rest).2
    (derives.that.length_eq.trans derivesOther.that.length_eq.symm)
  have topic := (List.cons.inj topic).2
  cases pieces
  cases others
  simp_all

namespace Store

/-- The passages of a query through a store are the derivations of its categories. -/
theorem atPlace_iff_derives {store : Store} (valid : store.Valid) {scope : Scope}
    {input that topic : List InputWord} {passage : Passage} :
    passage.AtPlace scope none store.forest (.pattern input that topic) ↔
      passage.category ∈ store.categories ∧ ∃ pieces,
        Derives scope passage.category.key input that topic pieces ∧
          passage.steps = passage.category.key.steps pieces := by
  have stored : (passage.path, passage.category) ∈ store.forest.entries ↔
      passage.category ∈ store.categories ∧ passage.path = passage.category.key.path := by
    rw [Forest.mem_entries_iff valid.ordered, mem_categories_iff valid, find?]
    constructor
    · intro found
      have path := valid.filed found
      exact ⟨by rwa [← path], path⟩
    · rintro ⟨found, path⟩
      rwa [path]
  unfold Passage.AtPlace
  rw [stored, ← passes_iff_derives, ← and_assoc]
  simp [Passage.path]

/-- A lookup finds the first passage through a store, unless there is no input. -/
theorem finds_lookup {store : Store} (valid : store.Valid) (scope : Scope)
    {input : List InputWord} (filled : input ≠ []) (that topic : List InputWord) :
    Finds .pattern (Passage.AtPlace scope none store.forest (.pattern input that topic))
      (store.lookup scope input that topic) := by
  have some_input : ¬ input.isEmpty = true := by simpa using filled
  rw [lookup, if_neg some_input]
  exact finds_answer none fun phase => finds_search valid.ordered phase _

/-- What a lookup finds has the first derivation. -/
theorem isFirst_of_lookup {store : Store} (valid : store.Valid) {scope : Scope}
    {input that topic : List InputWord} (filled : input ≠ []) {found : Match}
    (outcome : store.lookup scope input that topic = some found) :
    ∃ pieces, store.IsFirst scope input that topic found.category pieces ∧
      found.captures = found.category.key.captures pieces := by
  have finds := finds_lookup valid scope filled that topic
  rw [outcome] at finds
  obtain ⟨⟨steps, category⟩, place, rfl, least⟩ := finds
  obtain ⟨stored, pieces, derives, along⟩ := (atPlace_iff_derives valid).mp place
  have along : steps = category.key.steps pieces := along
  subst along
  refine ⟨pieces, ⟨stored, derives, ?_⟩, capturesOfSteps_steps category.key pieces⟩
  intro other storedOther others derivesOther
  have placeOther : Passage.AtPlace scope none store.forest (.pattern input that topic)
      ⟨other.key.steps others, other⟩ :=
    (atPlace_iff_derives valid).mpr ⟨storedOther, others, derivesOther, rfl⟩
  rcases least _ placeOther with same | before
  · obtain ⟨sameSteps, rfl⟩ := Passage.mk.inj same
    exact .inl ⟨rfl, Key.steps_injective derivesOther derives sameSteps⟩
  · refine .inr ?_
    rw [← choicesOfSteps_steps, ← choicesOfSteps_steps]
    exact before

/-- Where a lookup finds nothing, no category has a derivation. -/
theorem not_derives_of_lookup {store : Store} (valid : store.Valid) {scope : Scope}
    {input that topic : List InputWord} (filled : input ≠ [])
    (outcome : store.lookup scope input that topic = none) {category : Category}
    (stored : category ∈ store.categories) (pieces : Pieces) :
    ¬ Derives scope category.key input that topic pieces := by
  intro derives
  have finds := finds_lookup valid scope filled that topic
  rw [outcome] at finds
  exact finds ⟨category.key.steps pieces, category⟩
    ((atPlace_iff_derives valid).mpr ⟨stored, pieces, derives, rfl⟩)

end Store

/-- **The category that answers is the one with the first derivation.** In every store that changes
of the empty one lead to, a lookup finds nothing exactly if there is no input or no category has a
derivation, and otherwise exactly the category with the first derivation and what that captures. -/
theorem lookup_first {σ : Type} (changes : List (Change σ)) (start : σ) (scope : Scope)
    (input that topic : List InputWord) :
    let store := ((Store.empty.performAll changes).run start).1.2
    (store.lookup scope input that topic = none ↔ input = [] ∨
      ∀ category ∈ store.categories, ∀ pieces,
        ¬ Derives scope category.key input that topic pieces) ∧
    ∀ found, store.lookup scope input that topic = some found ↔ input ≠ [] ∧
      ∃ pieces, store.IsFirst scope input that topic found.category pieces ∧
        found.captures = found.category.key.captures pieces := by
  intro store
  have valid : store.Valid := Store.valid_performAll changes start
  by_cases filled : input = []
  · have nothing : store.lookup scope input that topic = none := by
      rw [filled]
      rfl
    rw [nothing]
    refine ⟨iff_of_true rfl (.inl filled), fun found => iff_of_false (fun same => nomatch same) ?_⟩
    rintro ⟨nonempty, _⟩
    exact nonempty filled
  · cases outcome : store.lookup scope input that topic with
    | none =>
      have underivable : ∀ category ∈ store.categories, ∀ pieces,
          ¬ Derives scope category.key input that topic pieces := by
        intro category stored pieces
        exact Store.not_derives_of_lookup valid filled outcome stored pieces
      refine ⟨iff_of_true rfl (.inr underivable), fun found =>
        iff_of_false (fun same => nomatch same) ?_⟩
      rintro ⟨_, pieces, first, _⟩
      exact underivable _ first.stored pieces first.derives
    | some found =>
      obtain ⟨pieces, first, captured⟩ := Store.isFirst_of_lookup valid filled outcome
      refine ⟨iff_of_false (fun same => nomatch same) ?_, fun other => ⟨?_, ?_⟩⟩
      · rintro (nothing | underivable)
        · exact filled nothing
        · exact underivable _ first.stored pieces first.derives
      · intro same
        cases same
        exact ⟨filled, pieces, first, captured⟩
      · rintro ⟨_, others, second, capturedOther⟩
        obtain ⟨same, rfl⟩ := first.unique second
        obtain ⟨category, captures⟩ := other
        obtain ⟨category', captures'⟩ := found
        cases same
        exact congrArg some (congrArg _ (captured.trans capturedOther.symm))

/-- A caret answers before a star. -/
theorem lookup_first_caret :
    let star : Category := ⟨⟨[.word "HELLO", .star], [.star], [.star]⟩, .text "A", .loaded⟩
    let caret : Category := ⟨⟨[.word "HELLO", .caret], [.star], [.star]⟩, .text "B", .loaded⟩
    let changes : List (Change Unit) := [.insert star, .insert caret]
    let scope : Scope := ⟨fun _ _ => false, fun _ _ => false, fun _ _ => false⟩
    let word : InputWord := ⟨"THERE", "there"⟩
    ∃ pieces, ((Store.empty.performAll changes).run ()).1.2.IsFirst scope
      [⟨"HELLO", "hello"⟩, word] [word] [word] caret pieces ∧
        (⟨["there"], ["there"], ["there"]⟩ : Captures) = caret.key.captures pieces := by
  intro star caret changes scope word
  exact (((lookup_first changes () scope [⟨"HELLO", "hello"⟩, word] [word] [word]).2
    ⟨caret, ⟨["there"], ["there"], ["there"]⟩⟩).mp rfl).2

end Dialogue
