/-
**The store of categories.**

* `Store`: a forest of categories under the paths of their keys, with their number;
* `find?`, `put`, `take`, `prune`, `categories`: the operations of a finite map from keys, with what
  they replace or take away; `insert`, `remove` and `removeWhere` are what they leave;
* `lookup`: the category that answers an input in a context.
-/

import Dialogue.Store.Search

namespace Dialogue

/-- The categories of a bot. -/
structure Store where
  forest : Forest Category := .nil
  size : Nat := 0

namespace Store

def empty : Store := {}

/-- The category stored under a key. -/
def find? (store : Store) (key : Key) : Option Category := store.forest.find? key.path

/-- The store with a category under its key, and the category it takes the place of. -/
def put (store : Store) (category : Category) : Option Category × Store :=
  let placed := store.forest.put category category.key.path
  (placed.1, ⟨placed.2, if placed.1.isNone then store.size + 1 else store.size⟩)

/-- The store with a category under its key, in place of the one that was there. -/
def insert (store : Store) (category : Category) : Store := (store.put category).2

/-- The store without the category under a key, and that category. -/
def take (store : Store) (key : Key) : Option Category × Store :=
  let taken := store.forest.take key.path
  (taken.1, ⟨taken.2, if taken.1.isSome then store.size - 1 else store.size⟩)

/-- The store without the category under a key. -/
def remove (store : Store) (key : Key) : Store := (store.take key).2

/-- The store without the categories that a test accepts, and their number. The test may have a
state of its own. -/
def prune {σ : Type} (store : Store) (test : Category → StateM σ Bool) : StateM σ (Nat × Store) := do
  let pruned ← store.forest.prune test
  pure (pruned.1, ⟨pruned.2, store.size - pruned.1⟩)

/-- All categories, in the order of their paths. -/
def categories (store : Store) : List Category := store.forest.values

/-- How many categories satisfy a test. -/
def count (store : Store) (test : Category → Bool) : Nat := store.categories.countP test

/-- The store without the categories that satisfy a test. -/
def removeWhere (store : Store) (test : Category → Bool) : Store :=
  ((store.prune fun category => (pure (test category) : StateM Unit Bool)).run ()).1.2

/-- The category that answers an input after a response and under a topic; none for an empty
input. -/
def lookup (store : Store) (scope : Scope) (input that topic : List InputWord) : Option Match :=
  if input.isEmpty then none
  else store.forest.answer scope none (.pattern input that topic)

end Store

end Dialogue
