/-
**Forests of values under paths.**

A forest is a list of steps, each with the value that ends there, if any, and the forest of the
paths that go on. Steps are kept in ascending order, and a place that holds nothing has no step.

* `find?`, `put`, `take`, `prune`: the operations of a finite map from non-empty paths, each in one
  pass, with what it replaces or takes away; `insert` and `remove` are what they leave;
* `values`: everything stored, in the order of the paths, a path before its extensions;
* `Forest.Ordered`: the invariant that the operations keep.
-/

import Dialogue.Store.Edge

namespace Dialogue

/-- The places that lie side by side: the step to the first one, the value there, the places below
it, and the places next to it. -/
inductive Forest (α : Type) where
  | nil
  | cons (edge : Edge) (entry : Option α) (below : Forest α) (next : Forest α)

namespace Forest

variable {α : Type}

/-- Whether there is no place. -/
def isNil : Forest α → Bool
  | .nil => true
  | .cons .. => false

/-- A place in front of others, unless nothing is stored at it or below it. -/
def attach (edge : Edge) (entry : Option α) (below next : Forest α) : Forest α :=
  if entry.isNone && below.isNil then next else .cons edge entry below next

/-- The value stored under a path. -/
def find? : Forest α → List Edge → Option α
  | .nil, _ => none
  | .cons .., [] => none
  | .cons step entry below next, edge :: rest =>
    if edge = step then
      match rest with
      | [] => entry
      | _ :: _ => below.find? rest
    else next.find? (edge :: rest)

/-- The forest of one path. -/
def single (value : α) : List Edge → Forest α
  | [] => .nil
  | [edge] => .cons edge (some value) .nil .nil
  | edge :: next :: rest => .cons edge none (single value (next :: rest)) .nil

/-- A forest with a value stored under a path, and the value it takes the place of. -/
def put (value : α) : Forest α → List Edge → Option α × Forest α
  | .nil, path => (none, single value path)
  | .cons step entry below next, [] => (none, .cons step entry below next)
  | .cons step entry below next, edge :: rest =>
    match edge.compare step with
    | .lt =>
      match rest with
      | [] => (none, .cons edge (some value) .nil (.cons step entry below next))
      | _ :: _ => (none, .cons edge none (single value rest) (.cons step entry below next))
    | .eq =>
      match rest with
      | [] => (entry, .cons step (some value) below next)
      | _ :: _ => (below.put value rest).map id fun below => .cons step entry below next
    | .gt => (next.put value (edge :: rest)).map id fun next => .cons step entry below next

/-- A forest with a value stored under a path, in place of the one that was there. -/
def insert (value : α) (forest : Forest α) (path : List Edge) : Forest α :=
  (forest.put value path).2

/-- A forest without the value under a path, and that value. -/
def take : Forest α → List Edge → Option α × Forest α
  | .nil, _ => (none, .nil)
  | .cons step entry below next, [] => (none, .cons step entry below next)
  | .cons step entry below next, edge :: rest =>
    if edge = step then
      match rest with
      | [] => (entry, attach step none below next)
      | _ :: _ => (below.take rest).map id fun below => attach step entry below next
    else (next.take (edge :: rest)).map id fun next => .cons step entry below next

/-- A forest without the value under a path. -/
def remove (forest : Forest α) (path : List Edge) : Forest α := (forest.take path).2

/-- The value of a place unless a test accepts it, and how many values that takes away. The test may
have a state of its own. -/
def pruneEntry {σ : Type} (test : α → StateM σ Bool) : Option α → StateM σ (Nat × Option α)
  | none => pure (0, none)
  | some value => do
    if ← test value then pure (1, none) else pure (0, some value)

/-- A forest without the values that a test accepts, and their number. Values are tested in the
order of their paths. -/
def prune {σ : Type} (test : α → StateM σ Bool) : Forest α → StateM σ (Nat × Forest α)
  | .nil => pure (0, .nil)
  | .cons step entry below next => do
    let here ← pruneEntry test entry
    let lower ← below.prune test
    let later ← next.prune test
    pure (here.1 + lower.1 + later.1, attach step here.2 lower.2 later.2)

/-- The stored values in the order of their paths. -/
def values : Forest α → List α
  | .nil => []
  | .cons _ entry below next => entry.toList ++ below.values ++ next.values

/-! ### The invariant -/

/-- Whether a step comes before every place of a forest. -/
def Precedes (edge : Edge) : Forest α → Prop
  | .nil => True
  | .cons step _ _ _ => edge.compare step = .lt

/-- Places are in ascending order, and something is stored at or below each of them. -/
def Ordered : Forest α → Prop
  | .nil => True
  | .cons step entry below next =>
    (entry.isSome ∨ below.isNil = false) ∧ Precedes step next ∧ below.Ordered ∧ next.Ordered

end Forest

end Dialogue
