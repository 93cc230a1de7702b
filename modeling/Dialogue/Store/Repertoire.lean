/-
**What a bot can answer.**

A repertoire is a store in which learned categories lie over loaded ones. A loaded category that a
learned one replaces is set aside. It comes back when what was learned is forgotten, unless its key
is taken by then.

* `add`, `remove`: changes made by the owner of the bot;
* `learn`, `unlearn`: changes made in conversation, with what is noted about them;
* `learned`: the categories that were learned.
-/

import Dialogue.Store.Basic
import Dialogue.Table

namespace Dialogue

/-- Which categories an instruction to unlearn removes. -/
inductive UnlearnPolicy where
  /-- Those that were learned. -/
  | learnedOnly
  | all
deriving DecidableEq, Repr

/-- Whether a policy removes the categories of an origin. -/
def UnlearnPolicy.removes : UnlearnPolicy → Origin → Bool
  | .learnedOnly, origin => origin = .learned
  | .all, _ => true

/-- The categories of a bot, and those that may come back. -/
structure Repertoire where
  store : Store := .empty
  /-- Loaded categories that a learned one has replaced. -/
  setAside : Table Key Category := []

namespace Repertoire

def empty : Repertoire := {}

def find? (repertoire : Repertoire) (key : Key) : Option Category := repertoire.store.find? key

def size (repertoire : Repertoire) : Nat := repertoire.store.size

/-- The learned categories, in the order of their paths. -/
def learned (repertoire : Repertoire) : List Category :=
  repertoire.store.categories.filter fun category => category.origin = .learned

/-! ### Changes by the owner -/

def add (repertoire : Repertoire) (category : Category) : Repertoire :=
  { repertoire with store := repertoire.store.insert category }

/-- The repertoire without any category under a key, set aside or not. -/
def remove (repertoire : Repertoire) (key : Key) : Repertoire where
  store := repertoire.store.remove key
  setAside := repertoire.setAside.erase key

/-! ### Changes in conversation -/

def learn (repertoire : Repertoire) (category : Category) : Repertoire where
  store := repertoire.store.insert category
  setAside :=
    match repertoire.find? category.key with
    | none => repertoire.setAside
    | some previous =>
      if previous.origin = .loaded then repertoire.setAside.set previous.key previous
      else repertoire.setAside

/-- What is noted when a category is learned. -/
def learningNotices (repertoire : Repertoire) (category : Category) : List Notice :=
  .categoryLearned category.key ::
    (repertoire.find? category.key).toList.map fun previous =>
      .categoryReplaced previous.origin previous.key

theorem isAboutRepertoire_of_mem_learningNotices {repertoire : Repertoire} {category : Category}
    {notice : Notice} (member : notice ∈ repertoire.learningNotices category) :
    notice.isAboutRepertoire := by
  rcases List.mem_cons.mp member with rfl | replaced
  · rfl
  · obtain ⟨previous, _, rfl⟩ := List.mem_map.mp replaced
    rfl

/-- The store with the categories that were set aside, where their keys are free. -/
def restore (store : Store) (setAside : Table Key Category) : Store :=
  setAside.foldl (fun store entry =>
    if (store.find? entry.1).isNone then store.insert entry.2 else store) store

/-- The store without the categories that a policy removes. -/
def keptStore (repertoire : Repertoire) (policy : UnlearnPolicy) : Store :=
  repertoire.store.removeWhere fun category => policy.removes category.origin

/-- The repertoire without the categories that a policy removes. Only what was learned makes room
for what was set aside. -/
def unlearn (repertoire : Repertoire) (policy : UnlearnPolicy) : Repertoire where
  store :=
    match policy with
    | .learnedOnly => restore (repertoire.keptStore policy) repertoire.setAside
    | .all => repertoire.keptStore policy

/-- How many categories a policy removes. -/
def unlearnedCount (repertoire : Repertoire) (policy : UnlearnPolicy) : Nat :=
  repertoire.store.count fun category => policy.removes category.origin

/-- The categories that come back when a policy removes others. -/
def restored (repertoire : Repertoire) : UnlearnPolicy → List Category
  | .learnedOnly => (repertoire.setAside.filter fun entry =>
      ((repertoire.keptStore .learnedOnly).find? entry.1).isNone).map Prod.snd
  | .all => []

/-- What is noted when a policy removes categories. -/
def unlearningNotices (repertoire : Repertoire) (policy : UnlearnPolicy) : List Notice :=
  (repertoire.restored policy).map (fun category => .categoryRestored category.key) ++
    [.categoriesUnlearned (repertoire.unlearnedCount policy)]

theorem isAboutRepertoire_of_mem_unlearningNotices {repertoire : Repertoire}
    {policy : UnlearnPolicy} {notice : Notice}
    (member : notice ∈ repertoire.unlearningNotices policy) : notice.isAboutRepertoire := by
  rcases List.mem_append.mp member with restored | counted
  · obtain ⟨category, _, rfl⟩ := List.mem_map.mp restored
    rfl
  · rw [List.mem_singleton.mp counted]
    rfl

end Repertoire

end Dialogue
