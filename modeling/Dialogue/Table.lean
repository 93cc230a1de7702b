/-
**Tables.**

A table is a list of keys with values in the order in which the keys first came. `set` keeps the
keys distinct, so a table is a finite map:

* `get?_set_self`, `get?_set_of_ne`: a value that is set is found, and no other one changes;
* `get?_erase_self`, `get?_erase_of_ne`: the same for erasing;
* `nodup_set`, `nodup_erase`: the keys stay distinct, and then the order of the entries makes no
  difference (`get?_perm`).
-/

namespace Dialogue

/-- Values under keys. -/
abbrev Table (κ α : Type) := List (κ × α)

namespace Table

variable {κ α : Type} [DecidableEq κ]

/-- The value under a key. -/
def get? (key : κ) : Table κ α → Option α
  | [] => none
  | (other, value) :: rest => if other = key then some value else get? key rest

/-- The table with a value under a key, in place of the one that was there. -/
def set (key : κ) (value : α) : Table κ α → Table κ α
  | [] => [(key, value)]
  | (other, previous) :: rest =>
    if other = key then (key, value) :: rest else (other, previous) :: set key value rest

/-- The table without a key. -/
def erase (key : κ) (table : Table κ α) : Table κ α := table.filter fun entry => entry.1 ≠ key

/-- Whether there is a value under a key. -/
def has (key : κ) (table : Table κ α) : Bool := (get? key table).isSome

/-- The table of entries in which a later one takes the place of an earlier one of its key. -/
def ofEntries (entries : List (κ × α)) : Table κ α :=
  entries.foldl (fun table entry => set entry.1 entry.2 table) []

@[simp] theorem get?_nil (key : κ) : get? key ([] : Table κ α) = none := rfl

@[simp] theorem get?_set_self (key : κ) (value : α) (table : Table κ α) :
    get? key (set key value table) = some value := by
  induction table with
  | nil => simp [set, get?]
  | cons entry rest ih =>
    by_cases same : entry.1 = key
    · simp [set, same, get?]
    · simp [set, same, get?, ih]

theorem get?_set_of_ne {key other : κ} (differ : other ≠ key) (value : α) (table : Table κ α) :
    get? other (set key value table) = get? other table := by
  induction table with
  | nil => simp [set, get?, Ne.symm differ]
  | cons entry rest ih =>
    by_cases same : entry.1 = key
    · simp [set, get?, same, Ne.symm differ]
    · simp [set, same, get?, ih]

@[simp] theorem get?_erase_self (key : κ) (table : Table κ α) :
    get? key (erase key table) = none := by
  induction table with
  | nil => rfl
  | cons entry rest ih =>
    by_cases same : entry.1 = key
    · simpa [erase, same] using ih
    · simpa [erase, same, get?] using ih

theorem get?_erase_of_ne {key other : κ} (differ : other ≠ key) (table : Table κ α) :
    get? other (erase key table) = get? other table := by
  induction table with
  | nil => rfl
  | cons entry rest ih =>
    by_cases same : entry.1 = key
    · simpa [erase, same, get?, Ne.symm differ] using ih
    · simp only [erase, ne_eq, same, not_false_eq_true, decide_true, List.filter_cons_of_pos, get?]
      split
      · rfl
      · exact ih

/-! ### Distinct keys -/

/-- The keys of a table in which a value is set. -/
theorem map_fst_set (key : κ) (value : α) (table : Table κ α) :
    (set key value table).map Prod.fst =
      if key ∈ table.map Prod.fst then table.map Prod.fst else table.map Prod.fst ++ [key] := by
  induction table with
  | nil => rfl
  | cons entry rest ih =>
    rw [set]
    by_cases same : entry.1 = key
    · simp [same]
    · simp only [same, if_false, List.map_cons, ih, List.mem_cons, Ne.symm same, false_or]
      split <;> rfl

/-- Setting a value keeps the keys distinct. -/
theorem nodup_set {table : Table κ α} (distinct : (table.map Prod.fst).Nodup) (key : κ)
    (value : α) : ((set key value table).map Prod.fst).Nodup := by
  rw [map_fst_set]
  split
  · exact distinct
  · rename_i fresh
    rw [List.nodup_append]
    refine ⟨distinct, List.pairwise_singleton _ key, ?_⟩
    intro first member second last same
    rw [List.mem_singleton.mp last] at same
    exact fresh (same ▸ member)

/-- Erasing a key keeps the keys distinct. -/
theorem nodup_erase {table : Table κ α} (distinct : (table.map Prod.fst).Nodup) (key : κ) :
    ((erase key table).map Prod.fst).Nodup :=
  distinct.sublist (List.filter_sublist.map Prod.fst)

/-- An entry of a table in which a value is set is that value or was there before. -/
theorem mem_of_mem_set {key : κ} {value : α} {table : Table κ α} {entry : κ × α}
    (member : entry ∈ set key value table) : entry = (key, value) ∨ entry ∈ table := by
  induction table with
  | nil => exact .inl (List.mem_singleton.mp member)
  | cons first rest ih =>
    rw [set] at member
    split at member
    · rcases List.mem_cons.mp member with same | later
      · exact .inl same
      · exact .inr (List.mem_cons_of_mem _ later)
    · rcases List.mem_cons.mp member with same | later
      · exact .inr (same ▸ List.mem_cons_self)
      · exact (ih later).imp_right (List.mem_cons_of_mem _)

/-- With distinct keys, an entry of a table is what is found under its key. -/
theorem get?_eq_some_iff {table : Table κ α}
    (distinct : (table.map Prod.fst).Nodup) {key : κ} {value : α} :
    get? key table = some value ↔ (key, value) ∈ table := by
  induction table with
  | nil => simp
  | cons entry rest ih =>
    rcases entry with ⟨other, stored⟩
    obtain ⟨fresh, distinct⟩ := List.nodup_cons.mp distinct
    have rest := ih distinct
    rw [get?, List.mem_cons, Prod.mk.injEq]
    split
    · rename_i same
      subst same
      constructor
      · intro found
        exact .inl ⟨rfl, (Option.some.inj found).symm⟩
      · rintro (⟨-, rfl⟩ | member)
        · rfl
        · exact absurd (List.mem_map.mpr ⟨_, member, rfl⟩) fresh
    · rename_i differ
      rw [rest]
      constructor
      · exact .inr
      · rintro (⟨rfl, -⟩ | member)
        · exact absurd rfl differ
        · exact member

/-- With distinct keys, the order of the entries makes no difference. -/
theorem get?_perm {table other : Table κ α}
    (distinct : (table.map Prod.fst).Nodup) (perm : other.Perm table) (key : κ) :
    get? key other = get? key table := by
  have otherDistinct : (other.map Prod.fst).Nodup := (perm.map Prod.fst).nodup_iff.mpr distinct
  refine Option.ext fun value => ?_
  rw [get?_eq_some_iff otherDistinct, get?_eq_some_iff distinct, perm.mem_iff]

end Table

end Dialogue
