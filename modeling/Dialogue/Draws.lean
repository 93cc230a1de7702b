/-
**Draws.**

Choices are made by a generator of numbers that is not described here. It is known by the draws that
it gives for a seed, or without one, and of these no more than that a draw below a positive bound is
below it. How a generator goes on may depend on the bounds of all draws so far.

* `Draws`, `Draws.head`, `Draws.tail`: draws still to come, the next one and those after it;
* `Generator`: the draws for every seed.
-/

namespace Dialogue

/-- **The draws still to come.** -/
structure Draws where
  /-- The draw below a bound after draws below some others, the latest of which comes first. -/
  pick : List Nat → Nat → Nat
  pick_lt : ∀ past bound, 0 < bound → pick past bound < bound
  /-- The bounds of the draws that were taken already. -/
  past : List Nat := []

namespace Draws

/-- The next draw below a bound. -/
def head (draws : Draws) (bound : Nat) : Nat := draws.pick draws.past bound

/-- The draws after the next one, which is below a bound. -/
def tail (draws : Draws) (bound : Nat) : Draws := { draws with past := bound :: draws.past }

/-- A draw below a positive bound is below it. -/
theorem head_lt (draws : Draws) {bound : Nat} (positive : 0 < bound) : draws.head bound < bound :=
  draws.pick_lt draws.past bound positive

/-- Draws that come to the first of every choice. -/
def first : Draws where
  pick _ _ := 0
  pick_lt _ _ positive := positive

end Draws

/-- A generator, by the draws that it gives for a seed or without one. -/
abbrev Generator := Option Nat → Draws

end Dialogue
