/-
**Captures.**

The texts that the capturing tokens of a match consumed, for each part of the key, leftmost first.

* `Captures.get`: a capture counted from one, and the empty text beyond the last one;
* `Captures.prepend`: one more capture in front of those of its part.
-/

import Dialogue.Template.Basic

namespace Dialogue

/-- The captured texts of a match. -/
structure Captures where
  pattern : List String := []
  that : List String := []
  topic : List String := []
deriving DecidableEq, Repr, Inhabited

namespace Captures

def empty : Captures := {}

/-- The captures of a part. -/
def list (captures : Captures) : Segment → List String
  | .pattern => captures.pattern
  | .that => captures.that
  | .topic => captures.topic

/-- A capture of a part, counted from one; empty if there is none. -/
def get (captures : Captures) (segment : Segment) : Nat → String
  | 0 => ""
  | index + 1 => (captures.list segment)[index]?.getD ""

/-- One more capture in front of the others of its part. -/
def prepend (segment : Segment) (text : String) (captures : Captures) : Captures :=
  match segment with
  | .pattern => { captures with pattern := text :: captures.pattern }
  | .that => { captures with that := text :: captures.that }
  | .topic => { captures with topic := text :: captures.topic }

/-- Whether nothing was captured. -/
def isEmpty (captures : Captures) : Bool :=
  captures.pattern.isEmpty && captures.that.isEmpty && captures.topic.isEmpty

@[simp] theorem list_prepend_self (segment : Segment) (text : String) (captures : Captures) :
    (captures.prepend segment text).list segment = text :: captures.list segment := by
  cases segment <;> rfl

theorem list_prepend_of_ne {segment other : Segment} (differ : other ≠ segment) (text : String)
    (captures : Captures) : (captures.prepend segment text).list other = captures.list other := by
  cases segment <;> cases other <;> first | rfl | contradiction

end Captures

end Dialogue
