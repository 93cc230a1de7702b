/-
**Predicates.**

Predicates are named values that a conversation changes. Names count in their canonical form, and a
predicate that was never set has the default value. Whoever subscribed to a predicate is notified of
every value it is given, also of one that it had before.

* `Predicates.get`, `Predicates.set`: a map with a default;
* `Predicates.watching`, `Predicates.notifications`: who is told of a new value, in the order of
  subscription, and what;
* `Predicates.subscribe`, `Predicates.unsubscribe`: numbers are never given twice. A predicate has a
  list of subscriptions as long as there are any.
-/

import Dialogue.Numeral
import Dialogue.Table
import Dialogue.Text.Name
import Dialogue.Text.Quoted

namespace Dialogue

open Text

/-- A lasting interest in a predicate. -/
structure Subscription where
  number : Nat
  /-- The canonical name of the predicate. -/
  name : String
deriving DecidableEq, Repr

def Subscription.describe (subscription : Subscription) : String :=
  "SubscriptionId(" ++ Numeral.writeNat subscription.number ++ ":" ++ subscription.name ++ ")"

/-- The news that a predicate was given a value. -/
structure Notification where
  subscription : Subscription
  old : String
  new : String
deriving DecidableEq, Repr

/-- The predicates of a conversation and who watches them. -/
structure Predicates where
  values : Table String String := []
  default : String := ""
  /-- The subscriptions to the predicates that have any, in order, by canonical name. -/
  watchers : Table String (List Subscription) := []
  /-- The number of the next subscription. It has no greatest value here; the sixty-four bits that a
  machine has for it are more than any conversation uses up. -/
  nextNumber : Nat := 1
deriving DecidableEq, Repr

namespace Predicates

def get (predicates : Predicates) (name : String) : String :=
  (predicates.values.get? (canonical name)).getD predicates.default

/-- The value that a predicate has before it is given another one. -/
def previous (predicates : Predicates) (name : String) : String :=
  predicates.get (canonical name)

/-- Whether a predicate was ever set. -/
def isSet (predicates : Predicates) (name : String) : Bool :=
  predicates.values.has (canonical name)

/-- The predicates with a value set. -/
def set (name value : String) (predicates : Predicates) : Predicates :=
  { predicates with values := predicates.values.set (canonical name) value }

/-- The subscriptions to the predicate of a canonical name, in the order in which they were made. -/
def watching (predicates : Predicates) (key : String) : List Subscription :=
  (predicates.watchers.get? key).getD []

/-- The news of a predicate being given a value. -/
def notifications (name value : String) (predicates : Predicates) : List Notification :=
  (predicates.watching (canonical name)).map fun subscription =>
    ⟨subscription, predicates.previous name, value⟩

/-- A new subscription to a predicate, and the predicates with it. -/
def subscribe (name : String) (predicates : Predicates) : Subscription × Predicates :=
  let subscription : Subscription := ⟨predicates.nextNumber, canonical name⟩
  (subscription, { predicates with
    watchers := predicates.watchers.set subscription.name
      (predicates.watching subscription.name ++ [subscription])
    nextNumber := predicates.nextNumber + 1 })

/-- Whether a subscription is in force, and the predicates without it. -/
def unsubscribe (subscription : Subscription) (predicates : Predicates) : Bool × Predicates :=
  match predicates.watchers.get? subscription.name with
  | none => (false, predicates)
  | some watching =>
    let left := watching.filter fun other => other ≠ subscription
    (left.length ≠ watching.length, { predicates with
      watchers :=
        if left.isEmpty then predicates.watchers.erase subscription.name
        else predicates.watchers.set subscription.name left })

def describe (predicates : Predicates) : String :=
  "PredicateStore \x7b values: \x7b" ++
    ", ".intercalate (predicates.values.map fun entry => quote entry.1 ++ ": " ++ quote entry.2) ++
    "\x7d, default_value: " ++ quote predicates.default ++ ", subscribers: " ++
    Numeral.writeNat (predicates.watchers.flatMap fun entry => entry.2).length ++ " \x7d"

/-- A value that is set is read, and other predicates keep theirs. -/
theorem get_set (name other value : String) (predicates : Predicates) :
    (predicates.set name value).get other =
      if canonical other = canonical name then value else predicates.get other := by
  unfold get set
  split
  · next same => simp [same]
  · next differ => simp [Table.get?_set_of_ne differ]

/-! ### Who is told -/

@[simp] theorem watching_set (name value key : String) (predicates : Predicates) :
    (predicates.set name value).watching key = predicates.watching key := rfl

/-- A new subscription comes after those that there are. -/
theorem watching_subscribe (name key : String) (predicates : Predicates) :
    (predicates.subscribe name).2.watching key =
      if key = canonical name then
        predicates.watching key ++ [(predicates.subscribe name).1]
      else predicates.watching key := by
  unfold subscribe watching
  split
  · next same => simp [same]
  · next differ => simp [Table.get?_set_of_ne differ]

/-- A subscription is in force if it is among those to its predicate. -/
theorem unsubscribe_fst_iff (subscription : Subscription) (predicates : Predicates) :
    (predicates.unsubscribe subscription).1 = true ↔
      subscription ∈ predicates.watching subscription.name := by
  unfold unsubscribe watching
  cases predicates.watchers.get? subscription.name with
  | none => simp
  | some others => simp [List.length_filter_eq_length_iff]

/-- Nothing but who watches changes when a subscription ends. -/
theorem exists_unsubscribe_snd (subscription : Subscription) (predicates : Predicates) :
    ∃ watchers, (predicates.unsubscribe subscription).2 =
      { predicates with watchers := watchers } := by
  unfold unsubscribe
  split
  · exact ⟨predicates.watchers, rfl⟩
  · exact ⟨_, rfl⟩

/-- A subscription that ends is taken from those to its predicate, and no other one is. -/
theorem watching_unsubscribe (subscription : Subscription) (key : String)
    (predicates : Predicates) :
    (predicates.unsubscribe subscription).2.watching key =
      if key = subscription.name then
        (predicates.watching key).filter fun other => other ≠ subscription
      else predicates.watching key := by
  unfold unsubscribe watching
  by_cases same : key = subscription.name
  · subst same
    rw [if_pos rfl]
    cases found : predicates.watchers.get? subscription.name with
    | none => simp [found]
    | some others =>
      by_cases empty : (others.filter fun other => other ≠ subscription).isEmpty
      · simp only [if_pos empty, Table.get?_erase_self]
        exact (List.isEmpty_iff.mp empty).symm
      · simp only [if_neg empty, Table.get?_set_self]
        rfl
  · rw [if_neg same]
    cases predicates.watchers.get? subscription.name with
    | none => rfl
    | some others =>
      dsimp only
      split
      · rw [Table.get?_erase_of_ne same]
      · rw [Table.get?_set_of_ne same]

end Predicates

end Dialogue
