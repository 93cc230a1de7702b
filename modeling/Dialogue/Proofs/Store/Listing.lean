/-
**What a forest lists.**

An ordered forest is determined by what is stored in it, and that can be read off as a list:

* `entries`: the stored values with their paths. `mem_entries_iff`: a value is listed under a path
  exactly if it is found there;
* `pairwise_entries`: paths are listed in ascending order, a path before its extensions, so each of
  them once;
* `ext_of_find?`: two ordered forests in which the same is found are the same forest;
* `run_prune`: pruning tests the listed values in order, each of them once, and leaves the entries
  that were not accepted.
-/

import Dialogue.Store.ForestLaws

namespace Dialogue

/-- The order of paths: the first steps that differ decide, and a path comes before its
extensions. -/
def PathBefore : List Edge → List Edge → Prop :=
  List.Lex fun first second => first.compare second = .lt

theorem PathBefore.irrefl (path : List Edge) : ¬ PathBefore path path := by
  induction path with
  | nil => rintro ⟨⟩
  | cons edge rest ih =>
    rintro (_ | ⟨before⟩ | ⟨later⟩)
    · exact Edge.ne_of_compare_lt before rfl
    · exact ih later

namespace Forest

variable {α : Type}

/-- The stored values with their paths, in the order of the paths. -/
def entries : Forest α → List (List Edge × α)
  | .nil => []
  | .cons step entry below next =>
    entry.toList.map (fun value => ([step], value)) ++
      (below.entries.map (fun item => (step :: item.1, item.2)) ++ next.entries)

theorem values_eq (forest : Forest α) : forest.values = forest.entries.map Prod.snd := by
  induction forest with
  | nil => rfl
  | cons step entry below next lower later =>
    simp [values, entries, lower, later, Function.comp_def]

/-- An empty path leads nowhere. -/
theorem ne_nil_of_mem_entries {forest : Forest α} {item : List Edge × α}
    (member : item ∈ forest.entries) : item.1 ≠ [] := by
  induction forest with
  | nil => cases member
  | cons step entry below next _ later =>
    simp only [entries, List.mem_append, List.mem_map] at member
    obtain ⟨_, _, rfl⟩ | ⟨_, _, rfl⟩ | member := member
    · exact List.cons_ne_nil _ _
    · exact List.cons_ne_nil _ _
    · exact later member

/-- A value is listed under a path exactly if it is found there. -/
theorem mem_entries_iff {forest : Forest α} (ordered : forest.Ordered) {path : List Edge}
    {value : α} : (path, value) ∈ forest.entries ↔ forest.find? path = some value := by
  induction forest generalizing path with
  | nil => cases path <;> simp [entries, find?]
  | cons step entry below next lower later =>
    have lower := @lower ordered.2.2.1
    have later := @later ordered.2.2.2
    cases path with
    | nil => exact iff_of_false (fun member => ne_nil_of_mem_entries member rfl) (by simp)
    | cons edge rest =>
      rw [find?_cons]
      by_cases same : edge = step
      · subst same
        have apart : (edge :: rest, value) ∉ next.entries := by
          rw [later, find?_of_precedes ordered.2.2.2 ordered.2.1]
          simp
        cases rest with
        | nil =>
          have deeper : ∀ value, ([], value) ∉ below.entries :=
            fun _ member => ne_nil_of_mem_entries member rfl
          simp [entries, apart, deeper]
        | cons => simp [entries, apart, lower]
      · simp [entries, same, Ne.symm same, later]

/-! ### The order of the entries -/

/-- Behind a step that comes first, every path starts with a later one. -/
theorem exists_cons_of_mem_entries {forest : Forest α} (ordered : forest.Ordered) {step : Edge}
    (precedes : Precedes step forest) {item : List Edge × α} (member : item ∈ forest.entries) :
    ∃ edge rest, item.1 = edge :: rest ∧ step.compare edge = .lt := by
  induction forest with
  | nil => cases member
  | cons other entry below next _ later =>
    simp only [entries, List.mem_append, List.mem_map] at member
    obtain ⟨_, _, rfl⟩ | ⟨_, _, rfl⟩ | member := member
    · exact ⟨other, [], rfl, precedes⟩
    · exact ⟨other, _, rfl, precedes⟩
    · exact later ordered.2.2.2 (ordered.2.1.trans precedes) member

/-- **Entries are listed in ascending order of their paths.** -/
theorem pairwise_entries {forest : Forest α} (ordered : forest.Ordered) :
    forest.entries.Pairwise fun first second => PathBefore first.1 second.1 := by
  induction forest with
  | nil => exact List.Pairwise.nil
  | cons step entry below next lower later =>
    have below_next : ∀ (first : List Edge) (second : List Edge × α), second ∈ next.entries →
        PathBefore (step :: first) second.1 := by
      intro first second member
      obtain ⟨edge, rest, path, before⟩ :=
        exists_cons_of_mem_entries ordered.2.2.2 ordered.2.1 member
      rw [path]
      exact List.Lex.rel before
    refine List.pairwise_append.mpr ⟨?_, List.pairwise_append.mpr ⟨?_, later ordered.2.2.2, ?_⟩, ?_⟩
    · cases entry <;> simp
    · rw [List.pairwise_map]
      exact (lower ordered.2.2.1).imp fun before => List.Lex.cons before
    · intro first firstMember second secondMember
      obtain ⟨item, _, rfl⟩ := List.mem_map.mp firstMember
      exact below_next item.1 second secondMember
    · intro first firstMember second secondMember
      obtain ⟨value, _, rfl⟩ := List.mem_map.mp firstMember
      rcases List.mem_append.mp secondMember with inside | behind
      · obtain ⟨item, member, rfl⟩ := List.mem_map.mp inside
        refine List.Lex.cons ?_
        cases path : item.1 with
        | nil => exact absurd path (ne_nil_of_mem_entries member)
        | cons => exact List.Lex.nil
      · exact below_next [] second behind

/-! ### A forest is determined by what is found in it -/

/-- Something is found under the first step of a forest. -/
theorem exists_find?_of_ordered {step : Edge} {entry : Option α} {below next : Forest α}
    (ordered : (Forest.cons step entry below next).Ordered) :
    ∃ rest value, (Forest.cons step entry below next).find? (step :: rest) = some value := by
  induction below generalizing step entry next with
  | nil =>
    obtain filled | filled := ordered.1
    · obtain ⟨value, filled⟩ := Option.isSome_iff_exists.mp filled
      exact ⟨[], value, by rw [find?_cons, if_pos rfl, filled]⟩
    · cases filled
  | cons deeper entry' below' next' lower _ =>
    obtain ⟨rest, value, found⟩ := lower ordered.2.2.1
    exact ⟨deeper :: rest, value, by rw [find?_cons, if_pos rfl]; exact found⟩

/-- Forests with different first steps do not agree on the earlier one. -/
theorem not_compare_lt_of_find?_eq {step : Edge} {entry : Option α} {below next other : Forest α}
    (ordered : (Forest.cons step entry below next).Ordered) (otherOrdered : other.Ordered)
    (same : ∀ path, (Forest.cons step entry below next).find? path = other.find? path) :
    ¬ Precedes step other := by
  intro before
  obtain ⟨rest, value, found⟩ := exists_find?_of_ordered ordered
  rw [same, find?_of_precedes otherOrdered before] at found
  cases found

/-- **Ordered forests in which the same is found are the same.** -/
theorem ext_of_find? {first second : Forest α} (ordered : first.Ordered)
    (ordered' : second.Ordered) (same : ∀ path, first.find? path = second.find? path) :
    first = second := by
  induction first generalizing second with
  | nil =>
    cases second with
    | nil => rfl
    | cons =>
      exact absurd trivial (not_compare_lt_of_find?_eq ordered' ordered fun path => (same path).symm)
  | cons step entry below next lower later =>
    cases second with
    | nil => exact absurd trivial (not_compare_lt_of_find?_eq ordered ordered' same)
    | cons step' entry' below' next' =>
      obtain rfl : step = step' := by
        cases order : step.compare step' with
        | lt => exact absurd order (not_compare_lt_of_find?_eq ordered ordered' same)
        | eq => exact Edge.eq_of_compare_eq order
        | gt =>
          exact absurd (Edge.compare_lt_of_gt order)
            (not_compare_lt_of_find?_eq ordered' ordered fun path => (same path).symm)
      have entries_eq : entry = entry' := by simpa [find?_cons] using same [step]
      have below_eq : below = below' := by
        refine lower ordered.2.2.1 ordered'.2.2.1 fun path => ?_
        cases path with
        | nil => simp
        | cons edge rest => simpa [find?_cons] using same (step :: edge :: rest)
      have next_eq : next = next' := by
        refine later ordered.2.2.2 ordered'.2.2.2 fun path => ?_
        cases path with
        | nil => simp
        | cons edge rest =>
          by_cases first : edge = step
          · rw [first, find?_of_precedes ordered.2.2.2 ordered.2.1,
              find?_of_precedes ordered'.2.2.2 ordered'.2.1]
          · simpa [find?_cons, first] using same (edge :: rest)
      rw [entries_eq, below_eq, next_eq]

end Forest

/-! ### Pruning -/

section Verdicts

variable {β : Type}

/-- The items about which a list of verdicts says the same. -/
def withVerdict (verdict : Bool) (items : List β) (verdicts : List Bool) : List β :=
  ((items.zip verdicts).filter fun item => item.2 == verdict).map Prod.fst

theorem withVerdict_append (verdict : Bool) {items others : List β} {verdicts more : List Bool}
    (lengths : items.length = verdicts.length) :
    withVerdict verdict (items ++ others) (verdicts ++ more) =
      withVerdict verdict items verdicts ++ withVerdict verdict others more := by
  rw [withVerdict, List.zip_append lengths, List.filter_append, List.map_append]
  rfl

theorem withVerdict_map {γ : Type} (verdict : Bool) (image : β → γ) (items : List β)
    (verdicts : List Bool) :
    withVerdict verdict (items.map image) verdicts =
      (withVerdict verdict items verdicts).map image := by
  simp [withVerdict, List.zip_map_left, List.filter_map, Function.comp_def]

theorem withVerdict_cons (verdict : Bool) (item : β) (items : List β) (first : Bool)
    (verdicts : List Bool) :
    withVerdict verdict (item :: items) (first :: verdicts) =
      if first = verdict then item :: withVerdict verdict items verdicts
      else withVerdict verdict items verdicts := by
  cases first <;> cases verdict <;> rfl

/-- The items with a verdict stand in the order in which they were given. -/
theorem withVerdict_sublist (verdict : Bool) (items : List β) (verdicts : List Bool) :
    (withVerdict verdict items verdicts).Sublist items := by
  induction items generalizing verdicts with
  | nil => exact List.Sublist.slnil
  | cons item items ih =>
    cases verdicts with
    | nil => exact List.nil_sublist _
    | cons first verdicts =>
      rw [withVerdict_cons]
      split
      · exact (ih verdicts).cons_cons item
      · exact (ih verdicts).cons item

/-- Among items with distinct labels, those that are left are the ones whose label is not among
the labels of those that are accepted. -/
theorem mem_withVerdict_false_iff {γ : Type} {items : List β} {verdicts : List Bool}
    (lengths : items.length = verdicts.length) {label : β → γ} (distinct : (items.map label).Nodup)
    {item : β} :
    item ∈ withVerdict false items verdicts ↔
      item ∈ items ∧ label item ∉ (withVerdict true items verdicts).map label := by
  induction items generalizing verdicts with
  | nil => simp [withVerdict]
  | cons first items ih =>
    cases verdicts with
    | nil => cases lengths
    | cons verdict verdicts =>
      obtain ⟨fresh, distinct⟩ := List.nodup_cons.mp distinct
      have rest := ih (Nat.succ.inj lengths) distinct
      have other : ∀ {item}, item ∈ items → label item ≠ label first := by
        intro item member same
        exact fresh (List.mem_map.mpr ⟨item, member, same⟩)
      rw [withVerdict_cons, withVerdict_cons]
      cases verdict with
      | false =>
        have kept : label first ∉ (withVerdict true items verdicts).map label := by
          intro member
          obtain ⟨item, member, same⟩ := List.mem_map.mp member
          exact other ((withVerdict_sublist true items verdicts).subset member) same
        rw [if_pos rfl, if_neg (by decide), List.mem_cons, List.mem_cons, rest]
        constructor
        · rintro (rfl | ⟨member, apart⟩)
          · exact ⟨.inl rfl, kept⟩
          · exact ⟨.inr member, apart⟩
        · rintro ⟨rfl | member, apart⟩
          · exact .inl rfl
          · exact .inr ⟨member, apart⟩
      | true =>
        rw [if_neg (by decide), if_pos rfl, rest, List.map_cons, List.mem_cons, List.mem_cons,
          not_or]
        constructor
        · rintro ⟨member, apart⟩
          exact ⟨.inr member, other member, apart⟩
        · rintro ⟨rfl | member, differ, apart⟩
          · exact absurd rfl differ
          · exact ⟨member, apart⟩

theorem length_mapM_run {σ : Type} (test : β → StateM σ Bool) (items : List β) (state : σ) :
    ((items.mapM test).run state).1.length = items.length := by
  induction items generalizing state with
  | nil => rfl
  | cons item items ih =>
    rw [List.mapM_cons]
    exact congrArg (· + 1) (ih _)

/-- The items of a second list are tested where the first one left off. -/
theorem run_mapM_append {σ : Type} (test : β → StateM σ Bool) (items others : List β) (state : σ) :
    ((items ++ others).mapM test).run state =
      (((items.mapM test).run state).1 ++
          ((others.mapM test).run ((items.mapM test).run state).2).1,
        ((others.mapM test).run ((items.mapM test).run state).2).2) := by
  rw [List.mapM_append]
  rfl

/-- A test without a state accepts the items that satisfy it. -/
theorem withVerdict_true_map (test : β → Bool) (items : List β) :
    withVerdict true items (items.map test) = items.filter test := by
  induction items with
  | nil => rfl
  | cons item items ih =>
    rw [List.map_cons, withVerdict_cons, ih, List.filter_cons]

end Verdicts

namespace Forest

variable {α σ : Type}

/-- Checking for emptiness loses no entry. -/
theorem entries_attach (step : Edge) (entry : Option α) (below next : Forest α) :
    (attach step entry below next).entries = (Forest.cons step entry below next).entries := by
  unfold attach
  split
  · rename_i unused
    cases entry <;> cases below <;> simp_all [isNil, entries]
  · rfl

/-- The value of a place is tested once, and stays exactly if it is not accepted. -/
theorem run_pruneEntry (test : α → StateM σ Bool) (entry : Option α) (state : σ) :
    let tested := (entry.toList.mapM test).run state
    let pruned := (pruneEntry test entry).run state
    pruned.2 = tested.2 ∧ pruned.1.1 = (withVerdict true entry.toList tested.1).length ∧
      pruned.1.2.toList = withVerdict false entry.toList tested.1 := by
  cases entry with
  | none => exact ⟨rfl, rfl, rfl⟩
  | some value =>
    simp only [Option.toList_some, List.mapM_cons, List.mapM_nil, pruneEntry, StateT.run_bind]
    cases verdict : (test value).run state with
    | mk accepted after => cases accepted <;> exact ⟨rfl, rfl, rfl⟩

/-- The places next to each other are pruned in order, each after what lies below it. -/
theorem run_prune_cons (test : α → StateM σ Bool) (step : Edge) (entry : Option α)
    (below next : Forest α) (state : σ) :
    ((Forest.cons step entry below next).prune test).run state =
      let here := (pruneEntry test entry).run state
      let lower := (below.prune test).run here.2
      let later := (next.prune test).run lower.2
      ((here.1.1 + lower.1.1 + later.1.1, attach step here.1.2 lower.1.2 later.1.2), later.2) := rfl

/-- **Pruning tests the values in order, each once, and leaves the entries that are not
accepted.** -/
theorem run_prune (test : α → StateM σ Bool) (forest : Forest α) (state : σ) :
    let tested := (forest.values.mapM test).run state
    let pruned := (forest.prune test).run state
    pruned.2 = tested.2 ∧ pruned.1.1 = (withVerdict true forest.values tested.1).length ∧
      pruned.1.2.entries = withVerdict false forest.entries tested.1 := by
  induction forest generalizing state with
  | nil => exact ⟨rfl, rfl, rfl⟩
  | cons step entry below next lower later =>
    obtain ⟨state_here, count_here, entry_here⟩ := run_pruneEntry test entry state
    obtain ⟨state_lower, count_lower, entries_lower⟩ :=
      lower ((entry.toList.mapM test).run state).2
    obtain ⟨state_later, count_later, entries_later⟩ :=
      later ((below.values.mapM test).run ((entry.toList.mapM test).run state).2).2
    have entry_length := length_mapM_run test entry.toList state
    have below_length := length_mapM_run test below.values ((entry.toList.mapM test).run state).2
    rw [values, run_prune_cons, List.append_assoc, run_mapM_append, run_mapM_append]
    simp only [state_here, state_lower]
    refine ⟨state_later, ?_, ?_⟩
    · rw [withVerdict_append true entry_length.symm, withVerdict_append true below_length.symm,
        List.length_append, List.length_append, count_here, count_lower, count_later, Nat.add_assoc]
    · rw [entries_attach, entries, entries, entry_here, entries_lower, entries_later,
        withVerdict_append false (by rw [List.length_map, entry_length]),
        withVerdict_append false
          (by rw [List.length_map, below_length, values_eq, List.length_map]),
        withVerdict_map, withVerdict_map]

/-- Pruning takes no place in front of others. -/
theorem Precedes.prune {edge : Edge} {forest : Forest α} (ordered : forest.Ordered)
    (precedes : Precedes edge forest) (test : α → StateM σ Bool) (state : σ) :
    Precedes edge ((forest.prune test).run state).1.2 := by
  induction forest generalizing edge state with
  | nil => trivial
  | cons step entry below next _ ih =>
    rw [run_prune_cons]
    exact Precedes.attach precedes (ih ordered.2.2.2 ordered.2.1 _)

/-- Pruning keeps the order. -/
theorem Ordered.prune {forest : Forest α} (ordered : forest.Ordered) (test : α → StateM σ Bool)
    (state : σ) : ((forest.prune test).run state).1.2.Ordered := by
  induction forest generalizing state with
  | nil => trivial
  | cons step entry below next lower later =>
    rw [run_prune_cons]
    exact Ordered.attach (ordered.2.1.prune ordered.2.2.2 test _) (lower ordered.2.2.1 _)
      (later ordered.2.2.2 _)

end Forest

end Dialogue
