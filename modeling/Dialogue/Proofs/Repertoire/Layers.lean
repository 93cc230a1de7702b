/-
**The two layers of a repertoire.**

A repertoire is one store, and some categories that are set aside. It behaves like two maps, one
over the other: what the owner of the bot gave it, and what the bot learned.

* `Revision`: what can happen to a repertoire, and `Repertoire.revise`, what it does;
* `Layers`: the two maps, and `Layers.revise`, what a revision does to them. The learned map hides
  the given one;
* `Layered`: how a repertoire represents two layers. What is set aside under a key is the given
  category wherever a learned one hides it; under other keys it may be out of date, but then the
  key is taken;
* `Layered.revise`, `Layered.reviseAll`: one revision and a whole run keep the representation;
* `unlearn_store_eq`: forgetting what was learned leaves the store that the owner's revisions alone
  would have left; `Layered.restore_perm`: in whatever order categories are restored.
-/

import Dialogue.Proofs.Store.FiniteMap
import Dialogue.Store.Repertoire

namespace Dialogue

/-- What can happen to a repertoire. -/
inductive Revision where
  /-- The owner adds a category. -/
  | add (category : Category)
  /-- The owner removes what is under a key. -/
  | remove (key : Key)
  /-- The bot learns a category. -/
  | learn (category : Category)
  /-- The bot forgets. -/
  | unlearn (policy : UnlearnPolicy)

namespace Revision

/-- Whether a revision is made by the owner. -/
def isByOwner : Revision → Bool
  | .add _ | .remove _ => true
  | .learn _ | .unlearn _ => false

/-- A revision that is made by the owner adds a loaded category, and one that is made in
conversation a learned one. -/
def Fits : Revision → Prop
  | .add category => category.origin = .loaded
  | .learn category => category.origin = .learned
  | .remove _ | .unlearn _ => True

end Revision

/-- The repertoire after a revision. -/
def Repertoire.revise (repertoire : Repertoire) : Revision → Repertoire
  | .add category => repertoire.add category
  | .remove key => repertoire.remove key
  | .learn category => repertoire.learn category
  | .unlearn policy => repertoire.unlearn policy

/-- The repertoire after some revisions. -/
def Repertoire.reviseAll (repertoire : Repertoire) (revisions : List Revision) : Repertoire :=
  revisions.foldl Repertoire.revise repertoire

/-- **Two layers**: what the owner gave, and what was learned. -/
structure Layers where
  given : Contents
  learned : Contents

namespace Layers

/-- Nothing given and nothing learned. -/
def empty : Layers := ⟨.empty, .empty⟩

/-- The category under a key: the learned one, or else the given one. -/
def find? (layers : Layers) (key : Key) : Option Category :=
  (layers.learned key).or (layers.given key)

/-- The layers after a revision. What the owner adds or removes replaces what was learned. -/
def revise (layers : Layers) : Revision → Layers
  | .add category => ⟨layers.given.set category, layers.learned.erase category.key⟩
  | .remove key => ⟨layers.given.erase key, layers.learned.erase key⟩
  | .learn category => ⟨layers.given, layers.learned.set category⟩
  | .unlearn .learnedOnly => ⟨layers.given, .empty⟩
  | .unlearn .all => .empty

/-- The layers after some revisions. -/
def reviseAll (layers : Layers) (revisions : List Revision) : Layers :=
  revisions.foldl Layers.revise layers

@[simp] theorem given_add (layers : Layers) (category : Category) (key : Key) :
    (layers.revise (.add category)).given key =
      if key = category.key then some category else layers.given key :=
  Contents.set_apply layers.given category key

@[simp] theorem learned_add (layers : Layers) (category : Category) (key : Key) :
    (layers.revise (.add category)).learned key =
      if key = category.key then none else layers.learned key :=
  Contents.erase_apply layers.learned category.key key

@[simp] theorem given_remove (layers : Layers) (removed key : Key) :
    (layers.revise (.remove removed)).given key =
      if key = removed then none else layers.given key :=
  Contents.erase_apply layers.given removed key

@[simp] theorem learned_remove (layers : Layers) (removed key : Key) :
    (layers.revise (.remove removed)).learned key =
      if key = removed then none else layers.learned key :=
  Contents.erase_apply layers.learned removed key

@[simp] theorem given_learn (layers : Layers) (category : Category) (key : Key) :
    (layers.revise (.learn category)).given key = layers.given key := rfl

@[simp] theorem learned_learn (layers : Layers) (category : Category) (key : Key) :
    (layers.revise (.learn category)).learned key =
      if key = category.key then some category else layers.learned key :=
  Contents.set_apply layers.learned category key

/-- Whether a policy clears a key: one that was learned, or any that is in use. -/
def clears (layers : Layers) : UnlearnPolicy → Key → Bool
  | .learnedOnly, key => (layers.learned key).isSome
  | .all, key => (layers.learned key).isSome || (layers.given key).isSome

end Layers

/-! ### Restoring -/

namespace Repertoire

/-- Restoring keeps a store valid. -/
theorem valid_restore {store : Store} (valid : store.Valid) (entries : Table Key Category) :
    (restore store entries).Valid := by
  induction entries generalizing store with
  | nil => exact valid
  | cons entry entries ih =>
    rw [restore, List.foldl_cons]
    refine ih ?_
    split
    · exact valid.insert entry.2
    · exact valid

/-- A category is restored exactly where its key is free. -/
theorem find?_restore {store : Store} (valid : store.Valid) {entries : Table Key Category}
    (keyed : ∀ entry ∈ entries, entry.2.key = entry.1) (key : Key) :
    (restore store entries).find? key = (store.find? key).or (entries.get? key) := by
  induction entries generalizing store with
  | nil => simp [restore]
  | cons entry entries ih =>
    have entry_key := keyed entry List.mem_cons_self
    have keyed : ∀ entry ∈ entries, entry.2.key = entry.1 :=
      fun entry member => keyed entry (List.mem_cons_of_mem _ member)
    rw [restore, List.foldl_cons, ← restore, Table.get?]
    split
    · rename_i free
      rw [ih (valid.insert entry.2) keyed, Store.find?_insert valid, entry_key]
      by_cases same : entry.1 = key
      · have free : store.find? key = none := by rwa [same, Option.isNone_iff_eq_none] at free
        simp [same, free]
      · simp [same, Ne.symm same]
    · rename_i taken
      rw [ih valid keyed]
      split
      · rename_i same
        rw [same, Bool.not_eq_true, Option.isNone_eq_false_iff] at taken
        rw [Option.or_of_isSome taken, Option.or_of_isSome taken]
      · rfl

end Repertoire

/-! ### The representation -/

/-- **A repertoire represents two layers.** -/
structure Layered (repertoire : Repertoire) (layers : Layers) : Prop where
  valid : repertoire.store.Valid
  /-- The learned category hides the given one. -/
  find?_eq : ∀ key, repertoire.find? key = layers.find? key
  given : ∀ {key category}, layers.given key = some category →
    category.key = key ∧ category.origin = .loaded
  learned : ∀ {key category}, layers.learned key = some category →
    category.key = key ∧ category.origin = .learned
  distinct : (repertoire.setAside.map Prod.fst).Nodup
  keyed : ∀ entry ∈ repertoire.setAside, entry.2.key = entry.1
  /-- What is hidden is set aside. -/
  hidden : ∀ {key}, (layers.learned key).isSome →
    repertoire.setAside.get? key = layers.given key
  /-- Nothing is set aside for a key that is free. -/
  free : ∀ {key}, layers.find? key = none → repertoire.setAside.get? key = none

/-- The empty repertoire represents empty layers. -/
theorem layered_empty : Layered .empty .empty where
  valid := Store.valid_empty
  find?_eq key := Store.find?_empty key
  given found := by cases found
  learned found := by cases found
  distinct := List.nodup_nil
  keyed _ member := by cases member
  hidden found := by cases found
  free _ := rfl

namespace Layered

variable {repertoire : Repertoire} {layers : Layers}

/-- Adding a category. -/
theorem add (layered : Layered repertoire layers) {category : Category}
    (loaded : category.origin = .loaded) :
    Layered (repertoire.add category) (layers.revise (.add category)) where
  valid := layered.valid.insert category
  find?_eq key := by
    rw [Repertoire.add, Repertoire.find?, Store.find?_insert layered.valid, Layers.find?,
      Layers.learned_add, Layers.given_add]
    split
    · rfl
    · exact layered.find?_eq key
  given {key found} given := by
    rw [Layers.given_add] at given
    split at given
    · rename_i same
      rw [← Option.some.inj given]
      exact ⟨same.symm, loaded⟩
    · exact layered.given given
  learned {key found} learned := by
    rw [Layers.learned_add] at learned
    split at learned
    · cases learned
    · exact layered.learned learned
  distinct := layered.distinct
  keyed := layered.keyed
  hidden {key} learned := by
    rw [Layers.learned_add] at learned
    rw [Layers.given_add]
    split at learned
    · cases learned
    · rename_i differ
      rw [if_neg differ]
      exact layered.hidden learned
  free {key} missing := by
    rw [Layers.find?, Layers.learned_add, Layers.given_add] at missing
    split at missing
    · cases missing
    · exact layered.free missing

/-- Removing what is under a key. -/
theorem remove (layered : Layered repertoire layers) (removed : Key) :
    Layered (repertoire.remove removed) (layers.revise (.remove removed)) where
  valid := layered.valid.remove removed
  find?_eq key := by
    rw [Repertoire.remove, Repertoire.find?, Store.find?_remove layered.valid, Layers.find?,
      Layers.learned_remove, Layers.given_remove]
    split
    · rfl
    · exact layered.find?_eq key
  given {key category} given := by
    rw [Layers.given_remove] at given
    split at given
    · cases given
    · exact layered.given given
  learned {key category} learned := by
    rw [Layers.learned_remove] at learned
    split at learned
    · cases learned
    · exact layered.learned learned
  distinct := Table.nodup_erase layered.distinct removed
  keyed entry member := layered.keyed entry (List.mem_of_mem_filter member)
  hidden {key} learned := by
    rw [Layers.learned_remove] at learned
    rw [Layers.given_remove]
    split at learned
    · cases learned
    · rename_i differ
      rw [if_neg differ]
      exact (Table.get?_erase_of_ne differ _).trans (layered.hidden learned)
  free {key} missing := by
    rw [Layers.find?, Layers.learned_remove, Layers.given_remove] at missing
    by_cases same : key = removed
    · rw [same]
      exact Table.get?_erase_self removed _
    · rw [if_neg same, if_neg same] at missing
      exact (Table.get?_erase_of_ne same _).trans (layered.free missing)

/-- A given category is set aside when the first learned one comes to lie over it. -/
theorem setAside_learn (layered : Layered repertoire layers) (category : Category) :
    (repertoire.learn category).setAside =
      match layers.learned category.key, layers.given category.key with
      | none, some previous => repertoire.setAside.set category.key previous
      | _, _ => repertoire.setAside := by
  rw [Repertoire.learn, layered.find?_eq, Layers.find?]
  cases learned : layers.learned category.key with
  | some other =>
    obtain ⟨_, origin⟩ := layered.learned learned
    simp [origin]
  | none =>
    cases given : layers.given category.key with
    | none => rfl
    | some previous =>
      obtain ⟨previous_key, origin⟩ := layered.given given
      simp [origin, previous_key]

/-- Nothing changes aside under other keys when a category is learned. -/
theorem get?_setAside_learn_of_ne (layered : Layered repertoire layers) {category : Category}
    {key : Key} (differ : key ≠ category.key) :
    (repertoire.learn category).setAside.get? key = repertoire.setAside.get? key := by
  rw [layered.setAside_learn]
  split
  · exact Table.get?_set_of_ne differ _ _
  · rfl

/-- Once a category is learned, what it hides is set aside. -/
theorem get?_setAside_learn_self (layered : Layered repertoire layers) (category : Category) :
    (repertoire.learn category).setAside.get? category.key = layers.given category.key := by
  rw [layered.setAside_learn]
  cases learned : layers.learned category.key with
  | some other => exact layered.hidden (by rw [learned]; rfl)
  | none =>
    cases given : layers.given category.key with
    | none => exact layered.free (by rw [Layers.find?, learned, given]; rfl)
    | some previous => exact Table.get?_set_self category.key previous _

/-- Learning a category. -/
theorem learn (layered : Layered repertoire layers) {category : Category}
    (origin : category.origin = .learned) :
    Layered (repertoire.learn category) (layers.revise (.learn category)) where
  valid := layered.valid.insert category
  find?_eq key := by
    rw [Repertoire.learn, Repertoire.find?, Store.find?_insert layered.valid, Layers.find?,
      Layers.learned_learn, Layers.given_learn]
    split
    · rfl
    · exact layered.find?_eq key
  given := layered.given
  learned {key found} learned := by
    rw [Layers.learned_learn] at learned
    split at learned
    · rename_i same
      rw [← Option.some.inj learned]
      exact ⟨same.symm, origin⟩
    · exact layered.learned learned
  distinct := by
    rw [layered.setAside_learn]
    split
    · exact Table.nodup_set layered.distinct _ _
    · exact layered.distinct
  keyed entry member := by
    rw [layered.setAside_learn] at member
    split at member
    · rename_i given
      rcases Table.mem_of_mem_set member with rfl | member
      · exact (layered.given given).1
      · exact layered.keyed entry member
    · exact layered.keyed entry member
  hidden {key} learned := by
    by_cases same : key = category.key
    · rw [same, Layers.given_learn]
      exact layered.get?_setAside_learn_self category
    · rw [Layers.learned_learn, if_neg same] at learned
      rw [layered.get?_setAside_learn_of_ne same, Layers.given_learn]
      exact layered.hidden learned
  free {key} missing := by
    by_cases same : key = category.key
    · rw [Layers.find?, Layers.learned_learn, if_pos same] at missing
      cases missing
    · rw [Layers.find?, Layers.learned_learn, if_neg same, Layers.given_learn] at missing
      rw [layered.get?_setAside_learn_of_ne same]
      exact layered.free missing

/-! ### Forgetting -/

/-- The category under a key is removed exactly if the key is cleared. -/
theorem any_removes_eq (layered : Layered repertoire layers) (policy : UnlearnPolicy) (key : Key) :
    (layers.find? key).any (fun category => policy.removes category.origin) =
      layers.clears policy key := by
  rw [Layers.find?]
  cases policy with
  | all =>
    rw [Layers.clears]
    cases layers.learned key <;> cases layers.given key <;> rfl
  | learnedOnly =>
    rw [Layers.clears]
    cases learned : layers.learned key with
    | some category => simp [UnlearnPolicy.removes, (layered.learned learned).2]
    | none =>
      cases given : layers.given key with
      | none => rfl
      | some category => simp [UnlearnPolicy.removes, (layered.given given).2]

/-- What a policy keeps of the store. -/
theorem find?_keptStore (layered : Layered repertoire layers) (policy : UnlearnPolicy)
    (key : Key) : (repertoire.keptStore policy).find? key =
      if layers.clears policy key then none else layers.find? key := by
  rw [Repertoire.keptStore, Store.find?_removeWhere layered.valid, ← Repertoire.find?,
    layered.find?_eq, ← layered.any_removes_eq]
  cases layers.find? key with
  | none => rfl
  | some category =>
    cases removed : policy.removes category.origin <;> simp [removed, Option.filter]

/-- Restoring in any order brings back the given layer. -/
theorem find?_restore (layered : Layered repertoire layers) {order : Table Key Category}
    (perm : order.Perm repertoire.setAside) (key : Key) :
    (Repertoire.restore (repertoire.keptStore .learnedOnly) order).find? key =
      layers.given key := by
  have keyed : ∀ entry ∈ order, entry.2.key = entry.1 :=
    fun entry member => layered.keyed entry (perm.mem_iff.mp member)
  have kept : (repertoire.keptStore .learnedOnly).Valid := layered.valid.removeWhere _
  rw [Repertoire.find?_restore kept keyed, layered.find?_keptStore,
    Table.get?_perm layered.distinct perm, Layers.clears]
  split
  · rename_i hides
    rw [Option.none_or]
    exact layered.hidden hides
  · rename_i shows
    rw [Option.not_isSome_iff_eq_none] at shows
    rw [Layers.find?, shows, Option.none_or]
    cases given : layers.given key with
    | some category => rfl
    | none => exact layered.free (by rw [Layers.find?, shows, given]; rfl)

/-- Forgetting. -/
theorem unlearn (layered : Layered repertoire layers) (policy : UnlearnPolicy) :
    Layered (repertoire.unlearn policy) (layers.revise (.unlearn policy)) := by
  have kept : (repertoire.keptStore policy).Valid := layered.valid.removeWhere _
  cases policy with
  | learnedOnly =>
    exact {
      valid := Repertoire.valid_restore kept _
      find?_eq := fun key => layered.find?_restore (List.Perm.refl _) key
      given := layered.given
      learned := fun found => by cases found
      distinct := List.nodup_nil
      keyed := fun _ member => by cases member
      hidden := fun found => by cases found
      free := fun _ => rfl }
  | all =>
    exact {
      valid := kept
      find?_eq := fun key => by
        show (repertoire.keptStore .all).find? key = none
        rw [layered.find?_keptStore]
        split
        · rfl
        · rename_i uncleared
          rw [Layers.clears, Bool.or_eq_true, not_or, Option.not_isSome_iff_eq_none,
            Option.not_isSome_iff_eq_none] at uncleared
          rw [Layers.find?, uncleared.1, uncleared.2]
          rfl
      given := fun found => by cases found
      learned := fun found => by cases found
      distinct := List.nodup_nil
      keyed := fun _ member => by cases member
      hidden := fun found => by cases found
      free := fun _ => rfl }

/-- **One revision keeps the representation.** -/
theorem revise (layered : Layered repertoire layers) {revision : Revision}
    (fits : revision.Fits) : Layered (repertoire.revise revision) (layers.revise revision) := by
  cases revision with
  | add category => exact layered.add fits
  | remove key => exact layered.remove key
  | learn category => exact layered.learn fits
  | unlearn policy => exact layered.unlearn policy

/-- **A whole run keeps it.** -/
theorem reviseAll (layered : Layered repertoire layers) {revisions : List Revision}
    (fit : ∀ revision ∈ revisions, revision.Fits) :
    Layered (repertoire.reviseAll revisions) (layers.reviseAll revisions) := by
  induction revisions generalizing repertoire layers with
  | nil => exact layered
  | cons revision revisions ih =>
    exact ih (layered.revise (fit revision List.mem_cons_self)) fun other member =>
      fit other (List.mem_cons_of_mem _ member)

/-- **As many categories are forgotten as keys are cleared.** -/
theorem unlearnedCount_eq (layered : Layered repertoire layers) (policy : UnlearnPolicy) :
    repertoire.unlearnedCount policy = {key | layers.clears policy key}.ncard := by
  rw [Repertoire.unlearnedCount, Store.count_eq_ncard layered.valid]
  congr 1
  ext key
  rw [Set.mem_ofPred_eq, Set.mem_ofPred_eq, ← Repertoire.find?, layered.find?_eq,
    layered.any_removes_eq]

/-- Two repertoires that represent layers in which the same is found have the same store. -/
theorem store_eq {other : Repertoire} {otherLayers : Layers}
    (layered : Layered repertoire layers) (otherLayered : Layered other otherLayers)
    (same : ∀ key, layers.find? key = otherLayers.find? key) : repertoire.store = other.store := by
  refine layered.valid.ext otherLayered.valid fun key => ?_
  rw [← Repertoire.find?, ← Repertoire.find?, layered.find?_eq, otherLayered.find?_eq, same]

/-- **The order in which categories are restored makes no difference.** -/
theorem restore_perm (layered : Layered repertoire layers) {order : Table Key Category}
    (perm : order.Perm repertoire.setAside) :
    Repertoire.restore (repertoire.keptStore .learnedOnly) order =
      (repertoire.unlearn .learnedOnly).store := by
  have kept : (repertoire.keptStore .learnedOnly).Valid := layered.valid.removeWhere _
  refine (Repertoire.valid_restore kept order).ext (Repertoire.valid_restore kept _) fun key => ?_
  exact (layered.find?_restore perm key).trans (layered.find?_restore (List.Perm.refl _) key).symm

end Layered

/-! ### What the owner's revisions alone give -/

section Owner

/-- As long as nobody forgets everything, the given layer is the owner's. -/
theorem given_filter_isByOwner {first second : Layers} (same : first.given = second.given)
    {revisions : List Revision} (keeps : ∀ revision ∈ revisions, revision ≠ .unlearn .all) :
    (first.reviseAll revisions).given =
      (second.reviseAll (revisions.filter Revision.isByOwner)).given := by
  induction revisions generalizing first second with
  | nil => exact same
  | cons revision revisions ih =>
    have first_keeps := keeps revision List.mem_cons_self
    have rest_keep : ∀ other ∈ revisions, other ≠ .unlearn .all :=
      fun other member => keeps other (List.mem_cons_of_mem _ member)
    cases revision with
    | add category =>
      have added : (first.revise (.add category)).given = (second.revise (.add category)).given :=
        congrArg (Contents.set · category) same
      exact ih added rest_keep
    | remove key =>
      have removed : (first.revise (.remove key)).given = (second.revise (.remove key)).given :=
        congrArg (Contents.erase · key) same
      exact ih removed rest_keep
    | learn category => exact ih same rest_keep
    | unlearn policy =>
      cases policy with
      | learnedOnly => exact ih same rest_keep
      | all => exact absurd rfl first_keeps

/-- The owner alone teaches nothing. -/
theorem learned_filter_isByOwner {layers : Layers} (nothing : layers.learned = .empty)
    (revisions : List Revision) :
    (layers.reviseAll (revisions.filter Revision.isByOwner)).learned = .empty := by
  induction revisions generalizing layers with
  | nil => exact nothing
  | cons revision revisions ih =>
    have erased : ∀ key, layers.learned.erase key = .empty := by
      intro key
      funext other
      rw [Contents.erase_apply, nothing]
      split <;> rfl
    cases revision with
    | add category => exact ih (erased category.key)
    | remove key => exact ih (erased key)
    | learn category => exact ih nothing
    | unlearn policy => exact ih nothing

/-- **Forgetting what was learned leaves what the owner's revisions alone would have left.** -/
theorem unlearn_store_eq {revisions : List Revision} (fit : ∀ revision ∈ revisions, revision.Fits)
    (keeps : ∀ revision ∈ revisions, revision ≠ .unlearn .all) :
    ((Repertoire.empty.reviseAll revisions).unlearn .learnedOnly).store =
      (Repertoire.empty.reviseAll (revisions.filter Revision.isByOwner)).store := by
  have layered := (layered_empty.reviseAll fit).unlearn .learnedOnly
  have ownersFit : ∀ revision ∈ revisions.filter Revision.isByOwner, revision.Fits :=
    fun revision member => fit revision (List.mem_of_mem_filter member)
  refine layered.store_eq (layered_empty.reviseAll ownersFit) fun key => ?_
  have given := given_filter_isByOwner (Eq.refl Layers.empty.given) keeps
  have learned := learned_filter_isByOwner (Eq.refl Layers.empty.learned) revisions
  rw [Layers.find?, Layers.find?, learned, ← given]
  rfl

end Owner

end Dialogue
