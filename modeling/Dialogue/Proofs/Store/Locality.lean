/-
**Editing a store is local.**

A lookup goes to the first derivation among the stored categories, and which derivations there are
depends on the keys alone. So a category that comes or goes matters to a query only where it has the
first derivation itself.

* `Store.Covers`: the keys of one store are among those of another one;
* `lookup_eq_none_of_covers`, `lookup_eq_some_of_covers`: a store that is covered finds what the
  other one finds, as long as it has the key;
* `lookup_insert_of_fresh`, `lookup_insert_of_stored`, `lookup_remove_of_ne`,
  `lookup_prune_of_kept`: what one edit does to a lookup;
* `insertAll_perm`: categories with distinct keys can be stored in any order;
* `lookup_local`: all of that, in every store that changes lead to.
-/

import Dialogue.Proofs.Store.FirstMatch

namespace Dialogue

namespace Store

/-! ### What a store holds after an edit -/

/-- A category is stored after another one was if it is that one, or was stored under another
key. -/
theorem mem_categories_insert_iff {store : Store} (valid : store.Valid)
    {category other : Category} :
    other ∈ (store.insert category).categories ↔
      other = category ∨ other ∈ store.categories ∧ other.key ≠ category.key := by
  rw [mem_categories_iff (valid.insert category), find?_insert valid, mem_categories_iff valid]
  by_cases same : other.key = category.key
  · rw [if_pos same, Option.some.injEq]
    constructor
    · intro equal
      exact .inl equal.symm
    · rintro (equal | ⟨_, differ⟩)
      · exact equal.symm
      · exact absurd same differ
  · rw [if_neg same]
    constructor
    · intro found
      exact .inr ⟨found, same⟩
    · rintro (equal | ⟨found, _⟩)
      · exact absurd (congrArg Category.key equal) same
      · exact found

/-- A category is stored after a key was cleared if it was stored under another one. -/
theorem mem_categories_remove_iff {store : Store} (valid : store.Valid) {key : Key}
    {other : Category} :
    other ∈ (store.remove key).categories ↔ other ∈ store.categories ∧ other.key ≠ key := by
  rw [mem_categories_iff (valid.remove key), find?_remove valid, mem_categories_iff valid]
  by_cases same : other.key = key
  · simp [same]
  · simp [same]

/-- Pruning stores nothing new. -/
theorem mem_categories_of_mem_prune {store : Store} (valid : store.Valid) {σ : Type}
    {test : Category → StateM σ Bool} {state : σ} {category : Category}
    (kept : category ∈ ((store.prune test).run state).1.2.categories) :
    category ∈ store.categories := by
  rw [mem_categories_iff (valid.prune test state), find?_prune valid] at kept
  split at kept
  · cases kept
  · exact (mem_categories_iff valid).mpr kept

/-- A valid store has one category under a key. -/
theorem Valid.eq_of_key_eq {store : Store} (valid : store.Valid) {first second : Category}
    (storedFirst : first ∈ store.categories) (storedSecond : second ∈ store.categories)
    (same : first.key = second.key) : first = second := by
  have foundFirst := (mem_categories_iff valid).mp storedFirst
  have foundSecond := (mem_categories_iff valid).mp storedSecond
  rw [same, foundSecond] at foundFirst
  exact (Option.some.inj foundFirst).symm

/-! ### Lookups in stores with the same keys -/

/-- Every key of the second store is one of the first. -/
def Covers (store other : Store) : Prop :=
  ∀ category ∈ other.categories, ∃ twin ∈ store.categories, twin.key = category.key

theorem covers_of_subset {store other : Store}
    (subset : ∀ category ∈ other.categories, category ∈ store.categories) : store.Covers other :=
  fun category stored => ⟨category, subset category stored, rfl⟩

/-- The first derivation stays the first one where there are fewer keys. -/
theorem IsFirst.of_covers {store other : Store} {scope : Scope}
    {input that topic : List InputWord} {category twin : Category} {pieces : Pieces}
    (first : store.IsFirst scope input that topic category pieces) (valid : other.Valid)
    (covers : store.Covers other) (stored : twin ∈ other.categories)
    (same : twin.key = category.key) : other.IsFirst scope input that topic twin pieces where
  stored := stored
  derives := same ▸ first.derives
  first rival storedRival others derives := by
    obtain ⟨source, storedSource, sourceKey⟩ := covers rival storedRival
    rw [← sourceKey] at derives
    rcases first.first source storedSource others derives with ⟨rfl, rfl⟩ | before
    · exact .inl ⟨valid.eq_of_key_eq storedRival stored (sourceKey.symm.trans same.symm), rfl⟩
    · rw [sourceKey, ← same] at before
      exact .inr before

section Lookups

variable {store other : Store} {scope : Scope} {input that topic : List InputWord}

/-- **What a lookup finds has the first derivation, and that is what it finds.** -/
theorem lookup_eq_some_iff (valid : store.Valid) {found : Match} :
    store.lookup scope input that topic = some found ↔ input ≠ [] ∧
      ∃ pieces, store.IsFirst scope input that topic found.category pieces ∧
        found.captures = found.category.key.captures pieces := by
  constructor
  · intro outcome
    have filled : input ≠ [] := by
      rintro rfl
      cases outcome
    exact ⟨filled, isFirst_of_lookup valid filled outcome⟩
  · rintro ⟨filled, pieces, first, captured⟩
    cases outcome : store.lookup scope input that topic with
    | none =>
      exact absurd first.derives (not_derives_of_lookup valid filled outcome first.stored pieces)
    | some rival =>
      obtain ⟨others, second, capturedRival⟩ := isFirst_of_lookup valid filled outcome
      obtain ⟨same, rfl⟩ := first.unique second
      rw [same, ← captured] at capturedRival
      cases found
      cases rival
      cases same
      cases capturedRival
      rfl

variable (valid : store.Valid) (validOther : other.Valid) (covers : store.Covers other)

include valid validOther covers

/-- A store finds nothing where one that has all its keys finds nothing. -/
theorem lookup_eq_none_of_covers (nothing : store.lookup scope input that topic = none) :
    other.lookup scope input that topic = none := by
  refine Option.eq_none_iff_forall_ne_some.mpr fun found outcome => ?_
  obtain ⟨filled, pieces, first, _⟩ := (lookup_eq_some_iff validOther).mp outcome
  obtain ⟨twin, stored, same⟩ := covers found.category first.stored
  have derives := first.derives
  rw [← same] at derives
  exact not_derives_of_lookup valid filled nothing stored pieces derives

/-- A store finds under a key what one that has all its keys finds under it. -/
theorem lookup_eq_some_of_covers {found : Match}
    (outcome : store.lookup scope input that topic = some found) {twin : Category}
    (stored : twin ∈ other.categories) (same : twin.key = found.category.key) :
    other.lookup scope input that topic = some ⟨twin, found.captures⟩ := by
  obtain ⟨filled, pieces, first, captured⟩ := (lookup_eq_some_iff valid).mp outcome
  refine (lookup_eq_some_iff validOther).mpr
    ⟨filled, pieces, first.of_covers validOther covers stored same, ?_⟩
  rw [captured, ← same]

/-- **A part of a store that has what a query finds finds the same.** -/
theorem lookup_eq_of_kept (kept : ∀ found, store.lookup scope input that topic = some found →
      found.category ∈ other.categories) :
    other.lookup scope input that topic = store.lookup scope input that topic := by
  cases outcome : store.lookup scope input that topic with
  | none => exact lookup_eq_none_of_covers valid validOther covers outcome
  | some found =>
    exact lookup_eq_some_of_covers valid validOther covers outcome (kept found outcome) rfl

end Lookups

end Store

/-! ### One edit -/

/-- A match with a category in place of the one that has its key. -/
def Match.replacing (category : Category) (found : Match) : Match :=
  if found.category.key = category.key then { found with category := category } else found

namespace Store

section Edits

variable {store : Store} {scope : Scope} {input that topic : List InputWord}

/-- **A category under a new key is found, or makes no difference.** -/
theorem lookup_insert_of_fresh (valid : store.Valid) {category : Category}
    (fresh : store.find? category.key = none) :
    (store.insert category).lookup scope input that topic =
        store.lookup scope input that topic ∨
      ∃ found, (store.insert category).lookup scope input that topic = some found ∧
        found.category = category := by
  by_cases answers : ∃ found, (store.insert category).lookup scope input that topic = some found ∧
      found.category = category
  · exact .inr answers
  · refine .inl (lookup_eq_of_kept (valid.insert category) valid ?_ ?_).symm
    · refine covers_of_subset fun other stored => (mem_categories_insert_iff valid).mpr (.inr ?_)
      refine ⟨stored, fun same => ?_⟩
      rw [mem_categories_iff valid, same, fresh] at stored
      cases stored
    · intro found outcome
      obtain ⟨_, _, first, _⟩ := (lookup_eq_some_iff (valid.insert category)).mp outcome
      rcases (mem_categories_insert_iff valid).mp first.stored with same | ⟨stored, _⟩
      · exact absurd ⟨found, outcome, same⟩ answers
      · exact stored

/-- A category under a new key never hides every answer. -/
theorem isSome_lookup_insert (valid : store.Valid) {category : Category}
    (fresh : store.find? category.key = none)
    (answered : (store.lookup scope input that topic).isSome) :
    ((store.insert category).lookup scope input that topic).isSome := by
  rcases @lookup_insert_of_fresh store scope input that topic valid category fresh with
    same | ⟨found, outcome, _⟩
  · rwa [same]
  · rw [outcome]
    rfl

/-- **A category under a used key takes the place of the one there**, and of nothing else. -/
theorem lookup_insert_of_stored (valid : store.Valid) {category previous : Category}
    (used : store.find? category.key = some previous) :
    (store.insert category).lookup scope input that topic =
      (store.lookup scope input that topic).map (Match.replacing category) := by
  have covers : store.Covers (store.insert category) := by
    intro other stored
    rcases (mem_categories_insert_iff valid).mp stored with rfl | ⟨stored, _⟩
    · have key := valid.key_eq used
      refine ⟨previous, (mem_categories_iff valid).mpr ?_, key⟩
      rwa [key]
    · exact ⟨other, stored, rfl⟩
  cases outcome : store.lookup scope input that topic with
  | none => exact lookup_eq_none_of_covers valid (valid.insert category) covers outcome
  | some found =>
    obtain ⟨_, _, first, _⟩ := (lookup_eq_some_iff valid).mp outcome
    have replaced := @lookup_eq_some_of_covers _ _ scope input that topic valid
      (valid.insert category) covers found outcome
    rw [Option.map_some, Match.replacing]
    by_cases same : found.category.key = category.key
    · rw [if_pos same]
      exact replaced ((mem_categories_insert_iff valid).mpr (.inl rfl)) same.symm
    · rw [if_neg same]
      exact replaced ((mem_categories_insert_iff valid).mpr (.inr ⟨first.stored, same⟩)) rfl

/-- **Taking away what a query does not find makes no difference to it.** -/
theorem lookup_remove_of_ne (valid : store.Valid) {key : Key}
    (other : ∀ found, store.lookup scope input that topic = some found →
      found.category.key ≠ key) :
    (store.remove key).lookup scope input that topic =
      store.lookup scope input that topic := by
  refine lookup_eq_of_kept valid (valid.remove key) ?_ fun found outcome => ?_
  · exact covers_of_subset fun category stored =>
      ((mem_categories_remove_iff valid).mp stored).1
  · obtain ⟨_, _, first, _⟩ := (lookup_eq_some_iff valid).mp outcome
    exact (mem_categories_remove_iff valid).mpr ⟨first.stored, other found outcome⟩

/-- **Pruning makes no difference to a query unless it takes away what that finds.** -/
theorem lookup_prune_of_kept (valid : store.Valid) {σ : Type} {test : Category → StateM σ Bool}
    {state : σ} (kept : ∀ found, store.lookup scope input that topic = some found →
      found.category ∈ ((store.prune test).run state).1.2.categories) :
    ((store.prune test).run state).1.2.lookup scope input that topic =
      store.lookup scope input that topic :=
  lookup_eq_of_kept valid (valid.prune test state)
    (covers_of_subset fun _ stored => mem_categories_of_mem_prune valid stored) kept

end Edits

/-! ### Many categories -/

/-- The store with some categories, stored one after the other. -/
def insertAll (store : Store) (categories : List Category) : Store :=
  categories.foldl insert store

/-- Two categories with distinct keys can be stored in either order. -/
theorem insert_insert_comm {store : Store} (valid : store.Valid) {first second : Category}
    (differ : first.key ≠ second.key) :
    (store.insert first).insert second = (store.insert second).insert first := by
  refine ((valid.insert first).insert second).ext ((valid.insert second).insert first) fun key => ?_
  rw [find?_insert (valid.insert first), find?_insert valid, find?_insert (valid.insert second),
    find?_insert valid]
  by_cases same : key = first.key
  · rw [if_pos same, if_pos same, if_neg (by rwa [same])]
  · rw [if_neg same, if_neg same]

/-- **Categories with distinct keys can be stored in any order.** -/
theorem insertAll_perm {store : Store} (valid : store.Valid) {first second : List Category}
    (perm : first.Perm second) (distinct : (first.map Category.key).Nodup) :
    store.insertAll first = store.insertAll second := by
  induction perm generalizing store with
  | nil => rfl
  | cons category _ ih => exact ih (valid.insert category) (List.nodup_cons.mp distinct).2
  | swap category other rest =>
    have differ : other.key ≠ category.key := by
      intro same
      exact (List.nodup_cons.mp distinct).1 (List.mem_cons.mpr (.inl same))
    rw [insertAll, insertAll, List.foldl_cons, List.foldl_cons, List.foldl_cons, List.foldl_cons,
      insert_insert_comm valid differ]
  | trans perm _ earlier later =>
    have distinctMiddle := (perm.map Category.key).nodup_iff.mp distinct
    exact (earlier valid distinct).trans (later valid distinctMiddle)

end Store

/-- **Editing a store is local.** In every store that changes of the empty one lead to, and for
every query: a category that is stored under a new key is what the query finds from then on, or
makes no difference to it, and no query loses its answer; one that is stored under a used key takes
the place of the category there, with the same captures, and changes nothing else; taking away a key
makes no difference unless the query finds it, and neither does pruning. So categories with distinct
keys can be stored in any order. -/
theorem lookup_local {σ : Type} (changes : List (Change σ)) (start : σ) (scope : Scope)
    (input that topic : List InputWord) :
    let store := ((Store.empty.performAll changes).run start).1.2
    let answer := fun edited : Store => edited.lookup scope input that topic
    (∀ category, store.find? category.key = none →
      (answer (store.insert category) = answer store ∨
        ∃ found, answer (store.insert category) = some found ∧ found.category = category) ∧
      ((answer store).isSome → (answer (store.insert category)).isSome)) ∧
    (∀ category previous, store.find? category.key = some previous →
      answer (store.insert category) = (answer store).map (Match.replacing category)) ∧
    (∀ key, (∀ found, answer store = some found → found.category.key ≠ key) →
      answer (store.remove key) = answer store) ∧
    (∀ (test : Category → StateM σ Bool) (state : σ),
      (∀ found, answer store = some found →
        found.category ∈ ((store.prune test).run state).1.2.categories) →
      answer ((store.prune test).run state).1.2 = answer store) ∧
    ∀ first second : List Category, first.Perm second → (first.map Category.key).Nodup →
      answer (store.insertAll first) = answer (store.insertAll second) := by
  intro store answer
  have valid : store.Valid := Store.valid_performAll changes start
  refine ⟨fun category fresh => ⟨?_, ?_⟩, ?_, ?_, ?_, ?_⟩
  · exact Store.lookup_insert_of_fresh valid fresh
  · exact Store.isSome_lookup_insert valid fresh
  · exact fun category previous used => Store.lookup_insert_of_stored valid used
  · exact fun key other => Store.lookup_remove_of_ne valid other
  · exact fun test state kept => Store.lookup_prune_of_kept valid kept
  · intro first second perm distinct
    exact congrArg answer (Store.insertAll_perm valid perm distinct)

/-- A star answers what nothing else does, also after edits elsewhere. -/
theorem lookup_local_star :
    let star : Category := ⟨⟨[.star], [.star], [.star]⟩, .text "A", .loaded⟩
    let hello : Category := ⟨⟨[.word "HELLO"], [.star], [.star]⟩, .text "B", .learned⟩
    let redefined : Category := ⟨star.key, .text "C", .learned⟩
    let changes : List (Change Unit) := [.insert star]
    let store := ((Store.empty.performAll changes).run ()).1.2
    let isLearned : Category → StateM Unit Bool := fun category => pure (category.origin = .learned)
    let word : InputWord := ⟨"THERE", "there"⟩
    let answer := fun edited : Store =>
      edited.lookup ⟨fun _ _ => false, fun _ _ => false, fun _ _ => false⟩ [word] [word] [word]
    (answer (store.insert hello) = answer store ∨
      ∃ found, answer (store.insert hello) = some found ∧ found.category = hello) ∧
    (answer (store.insert hello)).isSome ∧
    answer (store.insert redefined) = (answer store).map (Match.replacing redefined) ∧
    answer (store.remove hello.key) = answer store ∧
    answer ((store.prune isLearned).run ()).1.2 = answer store ∧
    answer (store.insertAll [star, hello]) = answer (store.insertAll [hello, star]) := by
  intro star hello redefined changes store isLearned word answer
  have found : answer store = some ⟨star, ⟨["there"], ["there"], ["there"]⟩⟩ := rfl
  obtain ⟨fresh, used, removed, pruned, ordered⟩ := lookup_local changes ()
    ⟨fun _ _ => false, fun _ _ => false, fun _ _ => false⟩ [word] [word] [word]
  have added := fresh hello rfl
  refine ⟨added.1, added.2 rfl, used redefined star rfl, removed hello.key ?_,
    pruned isLearned () ?_, ordered [star, hello] [hello, star] (.swap hello star []) ?_⟩
  · intro other outcome
    rw [← Option.some.inj (found.symm.trans outcome)]
    decide
  · intro other outcome
    rw [← Option.some.inj (found.symm.trans outcome)]
    exact List.mem_singleton.mpr rfl
  · decide

end Dialogue
