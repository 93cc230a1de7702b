/-
**Steps of a stored path.**

A category lies at the end of a path: the tokens of its pattern, the step into the previous
response, the tokens for that, the step into the topic, and the tokens for it.

* `Edge`: a step of a path;
* `Edge.compare`: the order in which steps out of one place are kept, by kind and then by name. It
  is a strict order: `eq_of_compare_eq`, `compare_lt_trans`, `compare_lt_of_gt`;
* `Key.path`: the path of a key. The two steps that are not tokens occur once each, so a path
  determines its key (`Key.path_injective`).
-/

import Dialogue.Pattern.Key

namespace Dialogue

/-- A step of a path: over a token, or into the next part of the key. -/
inductive Edge where
  | token (token : Token)
  | that
  | topic
deriving DecidableEq, Repr

namespace Edge

/-- The place of a kind of step among the others. -/
def rank : Edge → Nat
  | .token (.priority _) => 0
  | .token .hash => 1
  | .token .underscore => 2
  | .token (.bot _) => 3
  | .token (.predicate _) => 4
  | .token (.word _) => 5
  | .token (.set _) => 6
  | .token .caret => 7
  | .token .star => 8
  | .that => 9
  | .topic => 10

/-- What tells steps of one kind apart. -/
def name : Edge → String
  | .token (.priority name) | .token (.bot name) | .token (.predicate name)
  | .token (.word name) | .token (.set name) => name
  | _ => ""

/-- The order of steps: by kind, then by name. -/
def compare (first second : Edge) : Ordering :=
  (Ord.compare first.rank second.rank).then (Ord.compare first.name second.name)

/-- Kind and name determine a step. -/
theorem eq_of_rank_name {first second : Edge} (sameRank : first.rank = second.rank)
    (sameName : first.name = second.name) : first = second := by
  rcases first with ⟨token⟩ | _ | _ <;> rcases second with ⟨other⟩ | _ | _ <;>
    (try cases token) <;> (try cases other) <;> simp_all [rank, name]

/-- Steps that compare equal are equal. -/
theorem eq_of_compare_eq {first second : Edge} (same : first.compare second = .eq) :
    first = second := by
  rw [compare, Ordering.then_eq_eq] at same
  exact eq_of_rank_name (Nat.compare_eq_eq.mp same.1) (Std.LawfulEqOrd.eq_of_compare same.2)

/-- A step compares equal to itself. -/
@[simp] theorem compare_self (edge : Edge) : edge.compare edge = .eq := by
  rw [compare, Ordering.then_eq_eq]
  exact ⟨Nat.compare_eq_eq.mpr rfl, Std.ReflOrd.compare_self⟩

/-- A step that comes before another comes before everything that comes after that one. -/
theorem compare_lt_trans {first second third : Edge} (before : first.compare second = .lt)
    (after : second.compare third = .lt) : first.compare third = .lt := by
  simp only [compare, Ordering.then_eq_lt, Nat.compare_eq_lt, Nat.compare_eq_eq] at *
  rcases before with rank | ⟨rank, name⟩ <;> rcases after with rank' | ⟨rank', name'⟩
  · exact .inl (by omega)
  · exact .inl (by omega)
  · exact .inl (by omega)
  · exact .inr ⟨rank.trans rank', Std.TransCmp.lt_trans name name'⟩

/-- A step that comes before another is another step. -/
theorem ne_of_compare_lt {first second : Edge} (before : first.compare second = .lt) :
    first ≠ second := by
  rintro rfl
  simp at before

/-- A step that comes after another is another step. -/
theorem ne_of_compare_gt {first second : Edge} (after : first.compare second = .gt) :
    first ≠ second := by
  rintro rfl
  simp at after

/-- Of two steps that compare neither below nor equal, the second comes first. -/
theorem compare_lt_of_gt {first second : Edge} (after : first.compare second = .gt) :
    second.compare first = .lt := by
  simp only [compare, Ordering.then_eq_gt, Ordering.then_eq_lt] at *
  rcases after with rank | ⟨rank, name⟩
  · exact .inl (Nat.compare_eq_lt.mpr (Nat.compare_eq_gt.mp rank))
  · exact .inr ⟨Nat.compare_eq_eq.mpr (Nat.compare_eq_eq.mp rank).symm,
      Std.OrientedCmp.lt_of_gt name⟩

end Edge

/-- The path under which a key is stored. -/
def Key.path (key : Key) : List Edge :=
  key.pattern.map Edge.token ++ .that :: (key.that.map Edge.token ++ .topic ::
    key.topic.map Edge.token)

/-- The tokens in front of the first step of another kind are determined. -/
theorem tokens_eq_of_append_eq {step : Edge} (other : ∀ token, Edge.token token ≠ step)
    {tokens tokens' : List Token} {rest rest' : List Edge}
    (same : tokens.map Edge.token ++ step :: rest = tokens'.map Edge.token ++ step :: rest') :
    tokens = tokens' ∧ rest = rest' := by
  induction tokens generalizing tokens' with
  | nil => cases tokens' with
    | nil => simpa using same
    | cons token _ => exact absurd (List.cons.inj same).1.symm (other token)
  | cons token tokens ih => cases tokens' with
    | nil => exact absurd (List.cons.inj same).1 (other token)
    | cons =>
      obtain ⟨head, tail⟩ := List.cons.inj same
      obtain ⟨tokens, rest⟩ := ih tail
      exact ⟨by rw [Edge.token.inj head, tokens], rest⟩

/-- A path determines its key. -/
theorem Key.path_injective {key key' : Key} (same : key.path = key'.path) : key = key' := by
  obtain ⟨pattern, rest⟩ := tokens_eq_of_append_eq (by simp) same
  obtain ⟨that, topic⟩ := tokens_eq_of_append_eq (by simp) rest
  have topic := (List.map_inj_right fun _ _ => Edge.token.inj).mp topic
  cases key
  cases key'
  simp_all

/-- A path has at least the two steps between the parts. -/
theorem Key.path_ne_nil (key : Key) : key.path ≠ [] := by
  simp [Key.path]

end Dialogue
