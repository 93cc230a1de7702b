/-
**The laws of forests.**

A forest is a finite map from non-empty paths, as long as its places are in order:

* `find?_insert_self`, `find?_insert_of_ne`: a value that is inserted is found, and nothing else
  changes;
* `find?_remove_self`, `find?_remove_of_ne`: the same for removing;
* `put_fst`, `take_fst`: what is replaced or taken away is what was found;
* `Ordered.insert`, `Ordered.remove`: the operations keep the order.
-/

import Dialogue.Store.Forest

namespace Dialogue.Forest

variable {α : Type}

/-! ### Finding -/

/-- A step that comes before another comes before what follows that one. -/
theorem Precedes.trans {edge step : Edge} {forest : Forest α} (precedes : Precedes step forest)
    (before : edge.compare step = .lt) : Precedes edge forest := by
  cases forest with
  | nil => trivial
  | cons => exact Edge.compare_lt_trans before precedes

/-- What is stored under a path lies at or below the place of its first step. -/
theorem find?_cons (step edge : Edge) (entry : Option α) (below next : Forest α)
    (rest : List Edge) :
    (Forest.cons step entry below next).find? (edge :: rest) =
      if edge = step then (match rest with | [] => entry | _ :: _ => below.find? rest)
      else next.find? (edge :: rest) := by
  cases rest <;> rfl

/-- Nothing is stored under the empty path. -/
@[simp] theorem find?_nil (forest : Forest α) : forest.find? [] = none := by
  cases forest <;> rfl

/-- Nothing is stored under a path whose first step comes before every place. -/
theorem find?_of_precedes {edge : Edge} {forest : Forest α} (ordered : forest.Ordered)
    (precedes : Precedes edge forest) (rest : List Edge) : forest.find? (edge :: rest) = none := by
  induction forest with
  | nil => rfl
  | cons step entry below next _ ih =>
    rw [find?_cons, if_neg (Edge.ne_of_compare_lt precedes)]
    exact ih ordered.2.2.2 (ordered.2.1.trans precedes)

/-! ### Inserting -/

theorem find?_single_self (value : α) {path : List Edge} (filled : path ≠ []) :
    (single value path).find? path = some value := by
  fun_induction single value path <;> simp_all [find?_cons]

theorem find?_single_of_ne (value : α) {path other : List Edge} (differ : other ≠ path) :
    (single value path).find? other = none := by
  fun_induction single value path generalizing other with
  | case1 => rfl
  | case2 edge => cases other with
    | nil => rfl
    | cons step rest => cases rest <;> simp_all [find?]
  | case3 edge next rest ih => cases other with
    | nil => rfl
    | cons step others =>
      rw [find?_cons]
      by_cases same : step = edge
      · cases others with
        | nil => simp [same]
        | cons => simpa [same] using ih (by simpa [same] using differ)
      · simp [same, find?]

/-- A value that is inserted is found. -/
theorem find?_insert_self (value : α) (forest : Forest α) {path : List Edge}
    (filled : path ≠ []) :
    (forest.insert value path).find? path = some value := by
  unfold insert
  fun_induction put value forest path with
  | case1 path => exact find?_single_self value filled
  | case2 => contradiction
  | case3 => simp [find?_cons]
  | case4 => simp [find?_cons, find?_single_self]
  | case5 step entry below next edge same => simp [find?_cons, Edge.eq_of_compare_eq same]
  | case6 step entry below next edge same second rest ih =>
    simpa [find?_cons, Edge.eq_of_compare_eq same] using ih
  | case7 step entry below next edge rest after ih =>
    rw [Prod.map_snd, find?_cons, if_neg (Edge.ne_of_compare_gt after)]
    exact ih (by simp)

/-- Inserting a value changes nothing under other paths. -/
theorem find?_insert_of_ne (value : α) {forest : Forest α} (ordered : forest.Ordered)
    {path other : List Edge} (differ : other ≠ path) :
    (forest.insert value path).find? other = forest.find? other := by
  cases other with
  | nil => simp
  | cons first others =>
  unfold insert
  fun_induction put value forest path generalizing first others with
  | case1 path => rw [find?_single_of_ne value differ]; rfl
  | case2 => rfl
  | case3 step entry below next edge before =>
    rw [find?_cons]
    split
    · rename_i same
      rw [same, find?_of_precedes ordered before]
      cases others <;> simp_all [find?]
    · rfl
  | case4 step entry below next edge before second rest =>
    rw [find?_cons]
    split
    · rename_i same
      rw [same, find?_of_precedes ordered before]
      cases others with
      | nil => rfl
      | cons => exact find?_single_of_ne value (by simp_all)
    · rfl
  | case5 step entry below next edge same =>
    rw [find?_cons, find?_cons, ← Edge.eq_of_compare_eq same]
    cases others <;> simp_all
  | case6 step entry below next edge same second rest ih =>
    rw [Prod.map_snd, find?_cons, find?_cons, ← Edge.eq_of_compare_eq same]
    cases others with
    | nil => rfl
    | cons third others =>
      split
      · rename_i first_eq
        exact ih ordered.2.2.1 third others (by simp_all)
      · rfl
  | case7 step entry below next edge rest after ih =>
    rw [Prod.map_snd, find?_cons, find?_cons, ih ordered.2.2.2 first others differ]

/-- The value that an inserted one takes the place of is the one that was found there. -/
theorem put_fst (value : α) {forest : Forest α} (ordered : forest.Ordered) (path : List Edge) :
    (forest.put value path).1 = forest.find? path := by
  fun_induction put value forest path with
  | case1 path => rfl
  | case2 => rfl
  | case3 step entry below next edge before => exact (find?_of_precedes ordered before []).symm
  | case4 step entry below next edge before second rest =>
    exact (find?_of_precedes ordered before _).symm
  | case5 step entry below next edge same =>
    rw [find?_cons, if_pos (Edge.eq_of_compare_eq same)]
  | case6 step entry below next edge same second rest ih =>
    rw [Prod.map_fst, find?_cons, if_pos (Edge.eq_of_compare_eq same)]
    exact ih ordered.2.2.1
  | case7 step entry below next edge rest after ih =>
    rw [Prod.map_fst, find?_cons, if_neg (Edge.ne_of_compare_gt after)]
    exact ih ordered.2.2.2

/-! ### Removing -/

/-- The value that is taken away is the one that was found. -/
theorem take_fst (forest : Forest α) (path : List Edge) :
    (forest.take path).1 = forest.find? path := by
  fun_induction take forest path with
  | case1 path => rfl
  | case2 => rfl
  | case3 step entry below next => rw [find?_cons, if_pos rfl]
  | case4 step entry below next first rest ih =>
    rw [Prod.map_fst, find?_cons, if_pos rfl]
    exact ih
  | case5 step entry below next edge rest differ ih =>
    rw [Prod.map_fst, find?_cons, if_neg differ]
    exact ih

/-- A place in front of others leads where it would lead without the check for emptiness. -/
theorem find?_attach {step : Edge} {entry : Option α} {below next : Forest α}
    (apart : ∀ rest, next.find? (step :: rest) = none) (edge : Edge) (rest : List Edge) :
    (attach step entry below next).find? (edge :: rest) =
      (Forest.cons step entry below next).find? (edge :: rest) := by
  unfold attach
  split
  · rename_i unused
    simp only [Bool.and_eq_true, Option.isNone_iff_eq_none] at unused
    obtain ⟨rfl, empty⟩ := unused
    rw [find?_cons]
    split
    · rename_i same
      subst same
      cases below with
      | nil => cases rest <;> simp [apart, find?]
      | cons => simp [isNil] at empty
    · rfl
  · rfl

/-- Nothing is found where a value was removed. -/
theorem find?_remove_self {forest : Forest α} (ordered : forest.Ordered) (path : List Edge) :
    (forest.remove path).find? path = none := by
  unfold remove
  fun_induction take forest path with
  | case1 path => cases path <;> rfl
  | case2 => rfl
  | case3 step entry below next =>
    rw [find?_attach (find?_of_precedes ordered.2.2.2 ordered.2.1)]
    simp [find?_cons]
  | case4 step entry below next first rest ih =>
    rw [Prod.map_snd, find?_attach (find?_of_precedes ordered.2.2.2 ordered.2.1)]
    simpa [find?_cons] using ih ordered.2.2.1
  | case5 step entry below next edge rest differ ih =>
    rw [Prod.map_snd, find?_cons, if_neg differ]
    exact ih ordered.2.2.2

/-- Removing a value changes nothing under other paths. -/
theorem find?_remove_of_ne {forest : Forest α} (ordered : forest.Ordered) {path other : List Edge}
    (differ : other ≠ path) : (forest.remove path).find? other = forest.find? other := by
  cases other with
  | nil => simp
  | cons first others =>
  unfold remove
  fun_induction take forest path generalizing first others with
  | case1 => rfl
  | case2 => rfl
  | case3 step entry below next =>
    rw [find?_attach (find?_of_precedes ordered.2.2.2 ordered.2.1), find?_cons, find?_cons]
    cases others <;> simp_all
  | case4 step entry below next second rest ih =>
    rw [Prod.map_snd, find?_attach (find?_of_precedes ordered.2.2.2 ordered.2.1), find?_cons, find?_cons]
    cases others with
    | nil => rfl
    | cons third others =>
      split
      · rename_i same
        exact ih ordered.2.2.1 third others (by simp_all)
      · rfl
  | case5 step entry below next edge rest _ ih =>
    rw [Prod.map_snd, find?_cons, find?_cons, ih ordered.2.2.2 first others differ]

/-! ### The invariant is kept -/

@[simp] theorem isNil_single (value : α) {path : List Edge} (filled : path ≠ []) :
    (single value path).isNil = false := by
  fun_induction single value path <;> simp_all [isNil]

theorem isNil_insert (value : α) (forest : Forest α) {path : List Edge} (filled : path ≠ []) :
    (forest.insert value path).isNil = false := by
  unfold insert
  fun_induction put value forest path with
  | case1 => exact isNil_single value filled
  | case2 => rfl
  | _ => rfl

theorem Ordered.single (value : α) (path : List Edge) : (single value path).Ordered := by
  fun_induction Forest.single value path <;> simp_all [Ordered, Precedes]

theorem Precedes.single {edge first : Edge} (before : edge.compare first = .lt) (value : α)
    (rest : List Edge) : Precedes edge (Forest.single value (first :: rest)) := by
  cases rest <;> exact before

theorem Precedes.insert {edge first : Edge} {forest : Forest α} (before : edge.compare first = .lt)
    (precedes : Precedes edge forest) (value : α) (rest : List Edge) :
    Precedes edge (forest.insert value (first :: rest)) := by
  cases forest with
  | nil => exact Precedes.single before value rest
  | cons step entry below next =>
    unfold Forest.insert Forest.put
    split <;> (try split) <;> first | exact before | exact precedes

theorem Ordered.insert {forest : Forest α} (ordered : forest.Ordered) (value : α)
    (path : List Edge) : (forest.insert value path).Ordered := by
  unfold Forest.insert
  fun_induction Forest.put value forest path with
  | case1 path => exact Ordered.single value path
  | case2 => exact ordered
  | case3 step entry below next edge before => exact ⟨.inl rfl, before, trivial, ordered⟩
  | case4 step entry below next edge before second rest =>
    exact ⟨.inr (isNil_single value (by simp)), before, Ordered.single value _, ordered⟩
  | case5 step entry below next edge same => exact ⟨.inl rfl, ordered.2⟩
  | case6 step entry below next edge same second rest ih =>
    exact ⟨.inr (isNil_insert value below (by simp)), ordered.2.1, ih ordered.2.2.1,
      ordered.2.2.2⟩
  | case7 step entry below next edge rest after ih =>
    exact ⟨ordered.1, ordered.2.1.insert (Edge.compare_lt_of_gt after) value rest,
      ordered.2.2.1, ih ordered.2.2.2⟩

theorem Precedes.attach {edge step : Edge} {entry : Option α} {below next : Forest α}
    (before : edge.compare step = .lt) (precedes : Precedes step next) :
    Precedes edge (Forest.attach step entry below next) := by
  unfold Forest.attach
  split
  · exact precedes.trans before
  · exact before

theorem Ordered.attach {step : Edge} {entry : Option α} {below next : Forest α}
    (precedes : Precedes step next) (lower : below.Ordered) (later : next.Ordered) :
    (Forest.attach step entry below next).Ordered := by
  unfold Forest.attach
  split
  · exact later
  · rename_i used
    exact ⟨by cases entry <;> simp_all, precedes, lower, later⟩

theorem Precedes.remove {edge : Edge} {forest : Forest α} (ordered : forest.Ordered)
    (precedes : Precedes edge forest) (path : List Edge) :
    Precedes edge (forest.remove path) := by
  cases forest with
  | nil => exact trivial
  | cons step entry below next =>
    cases path with
    | nil => exact precedes
    | cons first rest =>
      unfold Forest.remove Forest.take
      split
      · split <;> exact Precedes.attach precedes ordered.2.1
      · exact precedes

theorem Ordered.remove {forest : Forest α} (ordered : forest.Ordered) (path : List Edge) :
    (forest.remove path).Ordered := by
  unfold Forest.remove
  fun_induction Forest.take forest path with
  | case1 => trivial
  | case2 => exact ordered
  | case3 => exact Ordered.attach ordered.2.1 ordered.2.2.1 ordered.2.2.2
  | case4 step entry below next first rest ih =>
    exact Ordered.attach ordered.2.1 (ih ordered.2.2.1) ordered.2.2.2
  | case5 step entry below next edge rest _ ih =>
    exact ⟨ordered.1, ordered.2.1.remove ordered.2.2.2 _, ordered.2.2.1, ih ordered.2.2.2⟩

end Dialogue.Forest
