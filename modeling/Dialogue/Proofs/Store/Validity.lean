/-
**Valid stores.**

A store is valid if its forest is in order, every category lies under the path of its own key, and
its size is the number of keys in use.

* `Store.Valid`: the invariant; `valid_empty`, `Valid.put`, `Valid.take`, `Valid.prune`: every
  operation keeps it;
* `find?_put`, `find?_take`, `find?_prune`: what an operation does to the category under a key;
* `mem_categories_iff`, `pairwise_categories`: the categories are those that are found, each listed
  once, in the order of the paths;
* `Valid.ext`: valid stores in which the same is found are the same.
-/

import Dialogue.Proofs.Store.Listing
import Dialogue.Store.Basic
import Mathlib.Data.Set.Card

namespace Dialogue

namespace Store

/-- The keys under which a store holds a category. -/
def keys (store : Store) : Set Key := {key | (store.find? key).isSome}

/-- **A valid store.** -/
structure Valid (store : Store) : Prop where
  /-- Places are in ascending order, and something is stored at or below each of them. -/
  ordered : store.forest.Ordered
  /-- A category lies under the path of its key. -/
  filed : ∀ {path category}, store.forest.find? path = some category → path = category.key.path
  /-- The size counts the keys in use. -/
  size_eq : store.size = store.keys.ncard

/-- The category found under a key has that key. -/
theorem Valid.key_eq {store : Store} (valid : store.Valid) {key : Key} {category : Category}
    (found : store.find? key = some category) : category.key = key :=
  (Key.path_injective (valid.filed found)).symm

theorem valid_empty : Store.empty.Valid where
  ordered := trivial
  filed found := by cases ‹List Edge› <;> cases found
  size_eq := by
    have none_found : Store.empty.keys = ∅ := by
      ext key
      simp [keys, find?, empty, Forest.find?]
    rw [none_found, Set.ncard_empty]
    rfl

/-! ### What is listed -/

/-- A category is listed exactly if it is found under its key. -/
theorem mem_categories_iff {store : Store} (valid : store.Valid) {category : Category} :
    category ∈ store.categories ↔ store.find? category.key = some category := by
  rw [categories, Forest.values_eq, find?, ← Forest.mem_entries_iff valid.ordered, List.mem_map]
  constructor
  · rintro ⟨⟨path, _⟩, member, rfl⟩
    have found := (Forest.mem_entries_iff valid.ordered).mp member
    rwa [← valid.filed found]
  · intro member
    exact ⟨_, member, rfl⟩

/-- **Categories are listed in ascending order of the paths of their keys.** -/
theorem pairwise_categories {store : Store} (valid : store.Valid) :
    store.categories.Pairwise fun first second => PathBefore first.key.path second.key.path := by
  rw [categories, Forest.values_eq, List.pairwise_map]
  refine (Forest.pairwise_entries valid.ordered).imp_of_mem fun {first second} member member' before => ?_
  rw [← valid.filed ((Forest.mem_entries_iff valid.ordered).mp member),
    ← valid.filed ((Forest.mem_entries_iff valid.ordered).mp member')]
  exact before

/-- No two listed categories have one key. -/
theorem nodup_keys {store : Store} (valid : store.Valid) :
    (store.categories.map Category.key).Nodup := by
  rw [List.Nodup, List.pairwise_map]
  refine (pairwise_categories valid).imp fun {first second} before same => ?_
  rw [same] at before
  exact before.irrefl

/-- The keys in use are those of the listed categories. -/
theorem mem_keys_iff {store : Store} (valid : store.Valid) {key : Key} :
    key ∈ store.keys ↔ key ∈ store.categories.map Category.key := by
  rw [keys, Set.mem_ofPred_eq, Option.isSome_iff_exists, List.mem_map]
  constructor
  · rintro ⟨category, found⟩
    have same := valid.key_eq found
    exact ⟨category, (mem_categories_iff valid).mpr (by rwa [same]), same⟩
  · rintro ⟨category, member, rfl⟩
    exact ⟨category, (mem_categories_iff valid).mp member⟩

theorem keys_eq_toFinset {store : Store} (valid : store.Valid) :
    store.keys = ((store.categories.map Category.key).toFinset : Set Key) := by
  ext key
  rw [mem_keys_iff valid, List.coe_toFinset, Set.mem_ofPred_eq]

theorem finite_keys {store : Store} (valid : store.Valid) : store.keys.Finite := by
  rw [keys_eq_toFinset valid]
  exact Finset.finite_toSet _

/-- **The size is the number of categories.** -/
theorem Valid.size_eq_length {store : Store} (valid : store.Valid) :
    store.size = store.categories.length := by
  rw [valid.size_eq, keys_eq_toFinset valid, Set.ncard_coe_finset,
    List.toFinset_card_of_nodup (nodup_keys valid), List.length_map]

/-! ### Storing a category -/

/-- The category that a stored one takes the place of is the one that was found under its key. -/
theorem put_fst {store : Store} (valid : store.Valid) (category : Category) :
    (store.put category).1 = store.find? category.key :=
  Forest.put_fst category valid.ordered category.key.path

/-- A stored category is found under its key, and nothing else changes. -/
theorem find?_insert {store : Store} (valid : store.Valid) (category : Category) (key : Key) :
    (store.insert category).find? key =
      if key = category.key then some category else store.find? key := by
  split
  · rename_i same
    rw [same]
    exact Forest.find?_insert_self category store.forest category.key.path_ne_nil
  · rename_i differ
    exact Forest.find?_insert_of_ne category valid.ordered fun same =>
      differ (Key.path_injective same)

theorem keys_insert {store : Store} (valid : store.Valid) (category : Category) :
    (store.insert category).keys = Insert.insert category.key store.keys := by
  ext key
  rw [keys, Set.mem_ofPred_eq, find?_insert valid, Set.mem_insert_iff]
  by_cases same : key = category.key <;> simp [same, keys]

/-- **Storing a category keeps a store valid.** -/
theorem Valid.insert {store : Store} (valid : store.Valid) (category : Category) :
    (store.insert category).Valid where
  ordered := valid.ordered.insert category category.key.path
  filed {path found_category} found := by
    by_cases same : path = category.key.path
    · have stored : (store.insert category).forest.find? path = some category := by
        rw [same]
        exact Forest.find?_insert_self category store.forest category.key.path_ne_nil
      rw [stored] at found
      rw [← Option.some.inj found, same]
    · exact valid.filed ((Forest.find?_insert_of_ne category valid.ordered same).symm.trans found)
  size_eq := by
    rw [keys_insert valid]
    show (if (store.put category).1.isNone then store.size + 1 else store.size) = _
    rw [put_fst valid]
    split
    · rename_i fresh
      have unused : category.key ∉ store.keys := by simpa [keys] using fresh
      rw [Set.ncard_insert_of_notMem unused (finite_keys valid), valid.size_eq]
    · rename_i used
      have member : category.key ∈ store.keys := by
        simpa [keys, Option.isSome_iff_ne_none] using used
      rw [Set.insert_eq_of_mem member, valid.size_eq]

/-! ### Taking a category away -/

theorem take_fst (store : Store) (key : Key) : (store.take key).1 = store.find? key :=
  Forest.take_fst store.forest key.path

/-- Nothing is found where a category was taken away, and nothing else changes. -/
theorem find?_remove {store : Store} (valid : store.Valid) (removed key : Key) :
    (store.remove removed).find? key = if key = removed then none else store.find? key := by
  split
  · rename_i same
    rw [same]
    exact Forest.find?_remove_self valid.ordered removed.path
  · rename_i differ
    exact Forest.find?_remove_of_ne valid.ordered fun same => differ (Key.path_injective same)

theorem keys_remove {store : Store} (valid : store.Valid) (removed : Key) :
    (store.remove removed).keys = store.keys \ {removed} := by
  ext key
  rw [keys, Set.mem_ofPred_eq, find?_remove valid, Set.mem_sdiff, Set.mem_singleton_iff]
  by_cases same : key = removed <;> simp [same, keys]

/-- A store in which something is found is not empty. -/
theorem Valid.size_pos {store : Store} (valid : store.Valid) {key : Key}
    (found : (store.find? key).isSome) : 1 ≤ store.size := by
  rw [valid.size_eq]
  exact (Set.ncard_pos (finite_keys valid)).mpr ⟨key, found⟩

/-- **Taking a category away keeps a store valid.** -/
theorem Valid.remove {store : Store} (valid : store.Valid) (key : Key) :
    (store.remove key).Valid where
  ordered := valid.ordered.remove key.path
  filed {path category} found := by
    by_cases same : path = key.path
    · rw [same] at found
      rw [show (store.remove key).forest.find? key.path = none from
        Forest.find?_remove_self valid.ordered key.path] at found
      cases found
    · exact valid.filed ((Forest.find?_remove_of_ne valid.ordered same).symm.trans found)
  size_eq := by
    rw [keys_remove valid]
    show (if (store.take key).1.isSome then store.size - 1 else store.size) = _
    rw [take_fst]
    split
    · rename_i found
      have member : key ∈ store.keys := found
      have counted := Set.ncard_sdiff_singleton_add_one member (finite_keys valid)
      rw [valid.size_eq]
      omega
    · rename_i missing
      have unused : key ∉ store.keys := missing
      rw [Set.sdiff_singleton_eq_self unused, valid.size_eq]

/-! ### Pruning -/

section Prune

variable {σ : Type}

/-- The verdicts of a test on the categories of a store, in order, and the state it is left in. -/
def verdicts (store : Store) (test : Category → StateM σ Bool) (state : σ) : List Bool × σ :=
  (store.categories.mapM test).run state

/-- The categories that a test accepts. -/
def accepted (store : Store) (test : Category → StateM σ Bool) (state : σ) : List Category :=
  withVerdict true store.categories (store.verdicts test state).1

theorem length_verdicts (store : Store) (test : Category → StateM σ Bool) (state : σ) :
    store.categories.length = (store.verdicts test state).1.length :=
  (length_mapM_run test store.categories state).symm

/-- Pruning tests every category once and counts those that are accepted. -/
theorem run_prune (store : Store) (test : Category → StateM σ Bool) (state : σ) :
    ((store.prune test).run state).2 = (store.verdicts test state).2 ∧
      ((store.prune test).run state).1.1 = (store.accepted test state).length :=
  ⟨(Forest.run_prune test store.forest state).1, (Forest.run_prune test store.forest state).2.1⟩

/-- The accepted categories are some of those in the store, in their order. -/
theorem accepted_sublist (store : Store) (test : Category → StateM σ Bool) (state : σ) :
    (store.accepted test state).Sublist store.categories :=
  withVerdict_sublist true store.categories (store.verdicts test state).1

/-- The accepted categories have distinct keys. -/
theorem nodup_accepted {store : Store} (valid : store.Valid) (test : Category → StateM σ Bool)
    (state : σ) : ((store.accepted test state).map Category.key).Nodup :=
  (nodup_keys valid).sublist ((store.accepted_sublist test state).map Category.key)

/-- What pruning leaves. -/
theorem find?_forest_prune {store : Store} (valid : store.Valid) (test : Category → StateM σ Bool)
    (state : σ) {path : List Edge} {category : Category} :
    ((store.prune test).run state).1.2.forest.find? path = some category ↔
      store.forest.find? path = some category ∧
        category.key ∉ (store.accepted test state).map Category.key := by
  have distinct : (store.forest.entries.map fun item => item.2.key).Nodup := by
    have keys := nodup_keys valid
    rwa [categories, Forest.values_eq, List.map_map] at keys
  have lengths : store.forest.entries.length = (store.verdicts test state).1.length := by
    rw [← length_verdicts, categories, Forest.values_eq, List.length_map]
  have accepted_eq : (store.accepted test state).map Category.key =
      (withVerdict true store.forest.entries (store.verdicts test state).1).map
        fun item => item.2.key := by
    rw [accepted, categories, Forest.values_eq, withVerdict_map, List.map_map]
    rfl
  have entries_eq := (Forest.run_prune test store.forest state).2.2
  show ((store.forest.prune test).run state).1.2.find? path = some category ↔ _
  rw [← Forest.mem_entries_iff (valid.ordered.prune test state), entries_eq, accepted_eq,
    ← Forest.mem_entries_iff valid.ordered]
  exact mem_withVerdict_false_iff lengths distinct

/-- The category under a key is gone if the test accepts it, and nothing else changes. -/
theorem find?_prune {store : Store} (valid : store.Valid) (test : Category → StateM σ Bool)
    (state : σ) (key : Key) :
    ((store.prune test).run state).1.2.find? key =
      if key ∈ (store.accepted test state).map Category.key then none else store.find? key := by
  refine Option.ext fun category => ?_
  rw [find?, find?_forest_prune valid]
  constructor
  · rintro ⟨found, apart⟩
    rw [valid.key_eq found] at apart
    rwa [if_neg apart]
  · intro found
    split at found
    · cases found
    · rename_i apart
      exact ⟨found, by rwa [valid.key_eq found]⟩

/-- The keys in use after pruning. -/
theorem keys_prune {store : Store} (valid : store.Valid) (test : Category → StateM σ Bool)
    (state : σ) : ((store.prune test).run state).1.2.keys =
      store.keys \ ↑((store.accepted test state).map Category.key).toFinset := by
  ext key
  rw [keys, Set.mem_ofPred_eq, find?_prune valid, Set.mem_sdiff, List.coe_toFinset,
    Set.mem_ofPred_eq]
  split <;> simp [*, keys]

/-- **Pruning keeps a store valid.** -/
theorem Valid.prune {store : Store} (valid : store.Valid) (test : Category → StateM σ Bool)
    (state : σ) : ((store.prune test).run state).1.2.Valid where
  ordered := valid.ordered.prune test state
  filed found := valid.filed ((find?_forest_prune valid test state).mp found).1
  size_eq := by
    have subset : ↑((store.accepted test state).map Category.key).toFinset ⊆ store.keys := by
      intro key member
      rw [List.coe_toFinset, Set.mem_ofPred_eq] at member
      rw [mem_keys_iff valid]
      exact ((store.accepted_sublist test state).map Category.key).subset member
    rw [keys_prune valid, Set.ncard_sdiff subset, Set.ncard_coe_finset,
      List.toFinset_card_of_nodup (nodup_accepted valid test state), List.length_map,
      ← valid.size_eq, ← (store.run_prune test state).2]
    rfl

end Prune

/-! ### Removing the categories that satisfy a test -/

/-- A test without a state accepts the categories that satisfy it. -/
theorem accepted_pure (store : Store) (test : Category → Bool) :
    store.accepted (fun category => (pure (test category) : StateM Unit Bool)) () =
      store.categories.filter test := by
  rw [accepted, verdicts, List.mapM_pure]
  exact withVerdict_true_map test store.categories

/-- The category under a key is gone if it satisfies the test, and nothing else changes. -/
theorem find?_removeWhere {store : Store} (valid : store.Valid) (test : Category → Bool)
    (key : Key) :
    (store.removeWhere test).find? key = (store.find? key).filter fun category => !test category := by
  rw [removeWhere, find?_prune valid, accepted_pure]
  cases found : store.find? key with
  | none => simp
  | some category =>
    have same := valid.key_eq found
    have listed : category ∈ store.categories := (mem_categories_iff valid).mpr (by rwa [same])
    have member : key ∈ (store.categories.filter test).map Category.key ↔ test category := by
      rw [List.mem_map]
      constructor
      · rintro ⟨other, member, otherKey⟩
        obtain ⟨member, passes⟩ := List.mem_filter.mp member
        have other_found := (mem_categories_iff valid).mp member
        rw [otherKey, found] at other_found
        rwa [Option.some.inj other_found]
      · intro passes
        exact ⟨category, List.mem_filter.mpr ⟨listed, passes⟩, same⟩
    cases passes : test category <;> simp [member, passes, Option.filter]

/-- Removing the categories that satisfy a test keeps a store valid. -/
theorem Valid.removeWhere {store : Store} (valid : store.Valid) (test : Category → Bool) :
    (store.removeWhere test).Valid :=
  valid.prune _ ()

/-- The categories that satisfy a test are counted by their keys. -/
theorem count_eq_ncard {store : Store} (valid : store.Valid) (test : Category → Bool) :
    store.count test = {key | (store.find? key).any test}.ncard := by
  have keys_eq : {key | (store.find? key).any test} =
      (((store.categories.filter test).map Category.key).toFinset : Set Key) := by
    ext key
    rw [Set.mem_ofPred_eq, List.coe_toFinset, Set.mem_ofPred_eq, List.mem_map, Option.any_eq_true]
    constructor
    · rintro ⟨category, found, passes⟩
      have same := valid.key_eq found
      refine ⟨category, List.mem_filter.mpr ⟨(mem_categories_iff valid).mpr ?_, passes⟩, same⟩
      rwa [same]
    · rintro ⟨category, member, rfl⟩
      obtain ⟨member, passes⟩ := List.mem_filter.mp member
      exact ⟨category, (mem_categories_iff valid).mp member, passes⟩
  have distinct : ((store.categories.filter test).map Category.key).Nodup :=
    (nodup_keys valid).sublist (List.filter_sublist.map Category.key)
  rw [keys_eq, Set.ncard_coe_finset, List.toFinset_card_of_nodup distinct, List.length_map, count,
    List.countP_eq_length_filter]

/-! ### A store is determined by what is found in it -/

/-- **Valid stores in which the same is found are the same.** -/
theorem Valid.ext {first second : Store} (valid : first.Valid) (valid' : second.Valid)
    (same : ∀ key, first.find? key = second.find? key) : first = second := by
  have covered : ∀ {store other : Store}, store.Valid → (∀ key, store.find? key = other.find? key) →
      ∀ {path category}, store.forest.find? path = some category →
        other.forest.find? path = some category := by
    intro store other valid same path category found
    have path_eq := valid.filed found
    rw [path_eq] at found ⊢
    exact (same category.key).symm.trans found
  have forest_eq : first.forest = second.forest := by
    refine Forest.ext_of_find? valid.ordered valid'.ordered fun path => Option.ext fun category => ?_
    exact ⟨covered valid same, covered valid' fun key => (same key).symm⟩
  have size_eq : first.size = second.size := by
    rw [valid.size_eq_length, valid'.size_eq_length, categories, categories, forest_eq]
  cases first
  cases second
  simp_all

end Store

end Dialogue
