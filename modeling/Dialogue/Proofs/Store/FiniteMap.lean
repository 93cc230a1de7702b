/-
**The store as a finite map.**

What a store holds is a finite map from keys to categories, and nothing else about a store can be
told apart.

* `Contents`: a map from keys to categories, with `set`, `erase` and `eraseAll`;
* `Change`, `Answer`: what can be asked of a store, and what is answered. A test has a state of its
  own, so that it can tell how often and in which order it is asked;
* `Contents.Step`, `Contents.Run`: what the changes do to a map, and what they answer;
* `Store.perform`, `Store.performAll`: what they do to a store.

The main statement is `performAll_canonical`: every sequence of changes, from the empty store on,
gives the answers of the map, and ends in the one store that represents the map that the same
changes lead to.
-/

import Dialogue.Proofs.Store.Validity

namespace Dialogue

/-- A map from keys to categories. -/
abbrev Contents := Key → Option Category

namespace Contents

/-- The map without categories. -/
def empty : Contents := fun _ => none

/-- The map with a category under its key. -/
def set (contents : Contents) (category : Category) : Contents :=
  Function.update contents category.key (some category)

/-- The map without a key. -/
def erase (contents : Contents) (key : Key) : Contents := Function.update contents key none

/-- The map without some keys. -/
def eraseAll (contents : Contents) (keys : List Key) : Contents :=
  fun key => if key ∈ keys then none else contents key

theorem set_apply (contents : Contents) (category : Category) (key : Key) :
    contents.set category key = if key = category.key then some category else contents key :=
  Function.update_apply contents category.key (some category) key

theorem erase_apply (contents : Contents) (removed key : Key) :
    contents.erase removed key = if key = removed then none else contents key :=
  Function.update_apply contents removed none key

/-- **A list shows a map**: it holds every category of the map once, in the order of the paths of
their keys. -/
structure Lists (contents : Contents) (listing : List Category) : Prop where
  mem_iff : ∀ category, category ∈ listing ↔ contents category.key = some category
  ascending : listing.Pairwise fun first second => PathBefore first.key.path second.key.path

end Contents

/-! ### Changes -/

section Changes

variable {σ : Type}

/-- A change of what is stored. -/
inductive Change (σ : Type) where
  | insert (category : Category)
  | remove (key : Key)
  /-- Remove every category that a test accepts. -/
  | removeWhere (test : Category → StateM σ Bool)

/-- The answer to a change. -/
inductive Answer where
  | replaced (previous : Option Category)
  | removed (previous : Option Category)
  | count (number : Nat)

namespace Contents

/-- What a change does to a map and to the state of the tests. A test is asked about each category
of the map once. -/
inductive Step : Contents → σ → Change σ → Answer → Contents → σ → Prop
  | insert (contents : Contents) (state : σ) (category : Category) :
    Step contents state (.insert category) (.replaced (contents category.key))
      (contents.set category) state
  | remove (contents : Contents) (state : σ) (key : Key) :
    Step contents state (.remove key) (.removed (contents key)) (contents.erase key) state
  | removeWhere {contents : Contents} {listing : List Category} (lists : contents.Lists listing)
    {state after : σ} {test : Category → StateM σ Bool} {verdicts : List Bool}
    (tested : (listing.mapM test).run state = (verdicts, after)) :
    Step contents state (.removeWhere test) (.count (withVerdict true listing verdicts).length)
      (contents.eraseAll ((withVerdict true listing verdicts).map Category.key)) after

/-- What some changes do to a map, one after the other. -/
inductive Run : Contents → σ → List (Change σ) → List Answer → Contents → σ → Prop
  | nil (contents : Contents) (state : σ) : Run contents state [] [] contents state
  | cons {contents middle ended : Contents} {state between after : σ} {change : Change σ}
    {changes : List (Change σ)} {answer : Answer} {answers : List Answer}
    (step : Step contents state change answer middle between)
    (run : Run middle between changes answers ended after) :
    Run contents state (change :: changes) (answer :: answers) ended after

end Contents

namespace Store

/-- The store after a change, and the answer. -/
def perform (store : Store) : Change σ → StateM σ (Answer × Store)
  | .insert category =>
    let placed := store.put category
    pure (.replaced placed.1, placed.2)
  | .remove key =>
    let taken := store.take key
    pure (.removed taken.1, taken.2)
  | .removeWhere test => do
    let pruned ← store.prune test
    pure (.count pruned.1, pruned.2)

/-- The store after some changes, and the answers. -/
def performAll (store : Store) : List (Change σ) → StateM σ (List Answer × Store)
  | [] => pure ([], store)
  | change :: changes => do
    let first ← store.perform change
    let others ← first.2.performAll changes
    pure (first.1 :: others.1, others.2)

/-- **A store represents a map.** -/
structure Represents (store : Store) (contents : Contents) : Prop where
  /-- What is found is what the map holds. -/
  find?_eq : ∀ key, store.find? key = contents key
  /-- The size is the number of keys. -/
  size_eq : store.size = {key | (contents key).isSome}.ncard
  /-- Every category is listed once, in the order of the paths. -/
  lists : contents.Lists store.categories
  /-- Places are in ascending order, and something is stored at or below each of them. -/
  ordered : store.forest.Ordered

/-- A valid store represents what is found in it. -/
theorem Valid.represents {store : Store} (valid : store.Valid) {contents : Contents}
    (found : ∀ key, store.find? key = contents key) : store.Represents contents where
  find?_eq := found
  size_eq := by
    rw [valid.size_eq, keys]
    simp only [found]
  lists := {
    mem_iff := fun category => by rw [mem_categories_iff valid, found]
    ascending := pairwise_categories valid }
  ordered := valid.ordered

/-- **One change.** A valid store stays valid, answers like the map that it represents, and then
represents the map after the change. -/
theorem perform_represents {store : Store} (valid : store.Valid) {contents : Contents}
    (found : ∀ key, store.find? key = contents key) (change : Change σ) (state : σ) :
    let performed := (store.perform change).run state
    performed.1.2.Valid ∧
      ∃ after : Contents, contents.Step state change performed.1.1 after performed.2 ∧
        ∀ key, performed.1.2.find? key = after key := by
  cases change with
  | insert category =>
    refine ⟨valid.insert category, contents.set category, ?_, fun key => ?_⟩
    · show contents.Step state _ (.replaced (store.put category).1) _ state
      rw [put_fst valid, found]
      exact .insert contents state category
    · rw [show ((store.perform (.insert category)).run state).1.2 = store.insert category from rfl,
        find?_insert valid, Contents.set_apply, found]
  | remove key =>
    refine ⟨valid.remove key, contents.erase key, ?_, fun other => ?_⟩
    · show contents.Step state _ (.removed (store.take key).1) _ state
      rw [take_fst, found]
      exact .remove contents state key
    · rw [show ((store.perform (.remove key)).run state).1.2 = store.remove key from rfl,
        find?_remove valid, Contents.erase_apply, found]
  | removeWhere test =>
    refine ⟨valid.prune test state,
      contents.eraseAll ((store.accepted test state).map Category.key), ?_, fun key => ?_⟩
    · show contents.Step state _ (.count ((store.prune test).run state).1.1) _
        ((store.prune test).run state).2
      rw [(store.run_prune test state).1, (store.run_prune test state).2]
      exact .removeWhere (valid.represents found).lists rfl
    · rw [show ((store.perform (.removeWhere test)).run state).1.2 =
        ((store.prune test).run state).1.2 from rfl, find?_prune valid, Contents.eraseAll, found]

/-- **A whole run.** -/
theorem performAll_represents {store : Store} (valid : store.Valid) {contents : Contents}
    (found : ∀ key, store.find? key = contents key) (changes : List (Change σ)) (state : σ) :
    let performed := (store.performAll changes).run state
    performed.1.2.Valid ∧
      ∃ after : Contents, contents.Run state changes performed.1.1 after performed.2 ∧
        ∀ key, performed.1.2.find? key = after key := by
  induction changes generalizing store contents state with
  | nil => exact ⟨valid, contents, .nil contents state, found⟩
  | cons change changes ih =>
    obtain ⟨valid, middle, step, found⟩ := perform_represents valid found change state
    obtain ⟨valid, after, run, found⟩ := ih valid found ((store.perform change).run state).2
    exact ⟨valid, after, .cons step run, found⟩

theorem find?_empty (key : Key) : Store.empty.find? key = Contents.empty key := by
  simp [find?, empty, Forest.find?, Contents.empty]

/-- Every store that changes lead to from the empty one is valid. -/
theorem valid_performAll (changes : List (Change σ)) (start : σ) :
    ((Store.empty.performAll changes).run start).1.2.Valid :=
  (performAll_represents valid_empty find?_empty changes start).1

/-- Storing a category under a new key and taking it away again changes nothing. -/
theorem remove_insert {store : Store} (valid : store.Valid) {category : Category}
    (fresh : store.find? category.key = none) :
    (store.insert category).remove category.key = store := by
  refine ((valid.insert category).remove category.key).ext valid fun key => ?_
  rw [find?_remove (valid.insert category), find?_insert valid]
  by_cases same : key = category.key
  · rw [if_pos same, same, fresh]
  · rw [if_neg same, if_neg same]

/-- No more categories are pruned than there are. -/
theorem count_prune_le {store : Store} (valid : store.Valid) {τ : Type}
    (test : Category → StateM τ Bool) (state : τ) :
    ((store.prune test).run state).1.1 ≤ store.size := by
  rw [(store.run_prune test state).2, valid.size_eq_length]
  exact (store.accepted_sublist test state).length_le

end Store

/-- Paths are equal exactly if the three token lists of their keys are. -/
theorem Key.path_eq_iff (first second : Key) : first.path = second.path ↔
    first.pattern = second.pattern ∧ first.that = second.that ∧ first.topic = second.topic := by
  constructor
  · intro same
    rw [Key.path_injective same]
    exact ⟨rfl, rfl, rfl⟩
  · rintro ⟨pattern, that, topic⟩
    rw [Key.path, Key.path, pattern, that, topic]

/-- **A store is the canonical form of a finite map.** Some changes of the empty store answer as the
same changes of the empty map do, and end in a store that represents the map they lead to. A test is
asked about every category of the map once, and the keys of the map are told apart by their token
lists. No subtraction from the size goes below zero. Other changes, however they got there, that
lead to a store in which the same is found lead to the same store; in particular a category stored
under a new key and taken away again leaves no trace. -/
theorem performAll_canonical (changes : List (Change σ)) (start : σ) :
    let performed := (Store.empty.performAll changes).run start
    let store := performed.1.2
    (∃ contents : Contents,
      Contents.empty.Run start changes performed.1.1 contents performed.2 ∧
        store.Represents contents) ∧
    (∀ first second : Key, first.path = second.path ↔
      first.pattern = second.pattern ∧ first.that = second.that ∧ first.topic = second.topic) ∧
    (∀ key, (store.find? key).isSome → 1 ≤ store.size) ∧
    (∀ (test : Category → StateM σ Bool) (state : σ),
      ((store.prune test).run state).1.1 ≤ store.size) ∧
    (∀ {τ : Type} (others : List (Change τ)) (start' : τ),
      let other := ((Store.empty.performAll others).run start').1.2
      (∀ key, other.find? key = store.find? key) → other = store) ∧
    (∀ category, store.find? category.key = none →
      (store.insert category).remove category.key = store) := by
  intro performed store
  obtain ⟨valid, contents, run, found⟩ :=
    Store.performAll_represents Store.valid_empty Store.find?_empty changes start
  refine ⟨⟨contents, run, valid.represents found⟩, Key.path_eq_iff, ?_, ?_, ?_, ?_⟩
  · exact fun key => valid.size_pos
  · exact fun test state => Store.count_prune_le valid test state
  · intro τ others start' other same
    exact (Store.valid_performAll others start').ext valid same
  · exact fun category fresh => Store.remove_insert valid fresh

/-- A category that was there for a while leaves no trace. -/
theorem performAll_canonical_detour :
    let hello : Category := ⟨⟨[.word "HELLO"], [.star], [.star]⟩, .text "A", .loaded⟩
    let other : Category := ⟨⟨[.star], [.star], [.star]⟩, .text "B", .loaded⟩
    let store := ((Store.empty.performAll [Change.insert hello]).run ()).1.2
    let detour : List (Change Unit) := [.insert other, .insert hello, .remove other.key]
    1 ≤ store.size ∧ ((Store.empty.performAll detour).run ()).1.2 = store ∧
      (store.insert other).remove other.key = store := by
  intro hello other store detour
  obtain ⟨_, _, size, _, same, traceless⟩ :=
    performAll_canonical [(Change.insert hello : Change Unit)] ()
  exact ⟨size hello.key rfl, same detour () fun key => rfl, traceless other rfl⟩

end Changes

end Dialogue
