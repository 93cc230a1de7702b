/-
**Predicates and who watches them.**

What predicates answer depends on the record of what was asked of them before, and on nothing else.

* `Request`, `Outcome`, `Predicates.perform`, `Predicates.performAll`: what can be asked of
  predicates, and what comes of it;
* `Record.value`, `Record.made`, `Record.inForce`: the value that was set last, the subscriptions that
  were made, and whether one was made and not ended since;
* `Reflects`: predicates are as a record says. One request keeps that (`Reflects.perform`), so any
  number of them does (`reflects_performAll`);
* `inForce_of_ended`: a subscription that ended stays ended, as no number is given twice;
* `predicates_follow_record`: the outcome of every request, after any others.
-/

import Dialogue.Proofs.Knowledge.Arrangement

namespace Dialogue

open Text

namespace Predicates

/-! ### Requests and their outcomes -/

/-- What can be asked of predicates. -/
inductive Request where
  | set (name value : String)
  | get (name : String)
  | subscribe (name : String)
  | unsubscribe (subscription : Subscription)
deriving DecidableEq, Repr

/-- What comes of a request. -/
inductive Outcome where
  /-- The value before, and who is told what, in order. -/
  | replaced (old : String) (told : List Notification)
  | value (value : String)
  | subscribed (subscription : Subscription)
  /-- Whether the subscription was in force. -/
  | ended (found : Bool)
deriving DecidableEq, Repr

/-- The outcome of a request, and the predicates after it. -/
def perform (predicates : Predicates) : Request → Outcome × Predicates
  | .set name value =>
    (.replaced (predicates.previous name) (predicates.notifications name value),
      predicates.set name value)
  | .get name => (.value (predicates.get name), predicates)
  | .subscribe name =>
    let (subscription, after) := predicates.subscribe name
    (.subscribed subscription, after)
  | .unsubscribe subscription =>
    let (found, after) := predicates.unsubscribe subscription
    (.ended found, after)

/-- Requests with their outcomes, in order. -/
abbrev Record := List (Request × Outcome)

/-- The record of some requests, and the predicates after them. -/
def performAll (predicates : Predicates) : List Request → Record × Predicates
  | [] => ([], predicates)
  | request :: requests =>
    let (outcome, after) := predicates.perform request
    let (record, last) := after.performAll requests
    ((request, outcome) :: record, last)

/-! ### What a record says -/

namespace Record

/-- The names and values of a record that were set. -/
def assignments (record : Record) : List (String × String) :=
  record.filterMap fun entry =>
    match entry.1 with
    | .set name value => some (name, value)
    | _ => none

/-- **The value of a predicate**: the one that was set last under a name that ignores case, or else
the default. -/
def value (record : Record) (default name : String) : String :=
  (lastValue canonicalForm record.assignments (canonical name)).getD default

/-- The subscriptions that were made, in order. -/
def made (record : Record) : List Subscription :=
  record.filterMap fun entry =>
    match entry.2 with
    | .subscribed subscription => some subscription
    | _ => none

/-- Whether a subscription is made or ended in an entry. -/
def concerns (subscription : Subscription) (entry : Request × Outcome) : Bool :=
  entry.2 = .subscribed subscription || entry.1 = .unsubscribe subscription

/-- **Whether a subscription is in force**: the last entry about it is that it is made. -/
def inForce (record : Record) (subscription : Subscription) : Bool :=
  (record.reverse.find? (concerns subscription)).any fun entry =>
    entry.2 = .subscribed subscription

/-- **Who watches the predicate of a canonical name**, in the order of subscription. -/
def watching (record : Record) (key : String) : List Subscription :=
  record.made.filter fun subscription => subscription.name = key && record.inForce subscription

/-- A subscription that is in force was made. -/
theorem mem_made_of_inForce {record : Record} {subscription : Subscription}
    (inForce : record.inForce subscription) : subscription ∈ record.made := by
  obtain ⟨entry, found, same⟩ := (Option.any_eq_true _ _).mp inForce
  have member := List.mem_reverse.mp (List.mem_of_find?_eq_some found)
  refine List.mem_filterMap.mpr ⟨entry, member, ?_⟩
  rw [of_decide_eq_true same]

theorem mem_watching_iff {record : Record} {subscription : Subscription} :
    subscription ∈ record.watching subscription.name ↔ record.inForce subscription := by
  rw [watching, List.mem_filter]
  constructor
  · rintro ⟨_, watches⟩
    exact (Bool.and_eq_true_iff.mp watches).2
  · intro inForce
    exact ⟨mem_made_of_inForce inForce, by simp [inForce]⟩

/-! ### What one more entry says -/

section Concat

variable (record : Record) (entry : Request × Outcome)

theorem assignments_concat :
    assignments (record ++ [entry]) = record.assignments ++ assignments [entry] :=
  List.filterMap_append

theorem made_concat : made (record ++ [entry]) = record.made ++ made [entry] :=
  List.filterMap_append

theorem inForce_concat (subscription : Subscription) :
    inForce (record ++ [entry]) subscription =
      if concerns subscription entry then decide (entry.2 = .subscribed subscription)
      else record.inForce subscription := by
  unfold inForce
  rw [List.reverse_append, List.reverse_singleton, List.singleton_append, List.find?_cons]
  cases concerns subscription entry <;> rfl

/-- An entry that makes no subscription and is about none leaves those who watch as they are. -/
theorem watching_concat_of_aside {entry : Request × Outcome} (silent : made [entry] = [])
    (aside : ∀ subscription, concerns subscription entry = false) (key : String) :
    watching (record ++ [entry]) key = record.watching key := by
  rw [watching, watching, made_concat, silent, List.append_nil]
  refine List.filter_congr fun subscription _ => ?_
  rw [inForce_concat, aside]
  rfl

variable {record}

/-- A new subscription watches after those that there are. -/
theorem watching_concat_subscribed {subscription : Subscription}
    (fresh : subscription ∉ record.made) (name key : String) :
    watching (record ++ [(.subscribe name, .subscribed subscription)]) key =
      if key = subscription.name then record.watching key ++ [subscription]
      else record.watching key := by
  have others : record.made.filter (fun other => other.name = key &&
      inForce (record ++ [(.subscribe name, .subscribed subscription)]) other) =
        record.watching key := by
    refine List.filter_congr fun other member => ?_
    have differ : subscription ≠ other := by
      rintro rfl
      exact fresh member
    simp [inForce_concat, concerns, differ]
  have itself : inForce (record ++ [(.subscribe name, .subscribed subscription)])
      subscription := by
    simp [inForce_concat, concerns]
  have last : made [(.subscribe name, .subscribed subscription)] = [subscription] := rfl
  rw [watching, made_concat, last, List.filter_append, others]
  by_cases same : subscription.name = key
  · simp [same, itself]
  · simp [same, Ne.symm same]

/-- A subscription that ends is the only one that does. -/
theorem watching_concat_ended (subscription : Subscription) (found : Bool) (key : String) :
    watching (record ++ [(.unsubscribe subscription, .ended found)]) key =
      if key = subscription.name then
        (record.watching key).filter fun other => other ≠ subscription
      else record.watching key := by
  have last : made [(.unsubscribe subscription, .ended found)] = [] := rfl
  have left : ∀ other, inForce (record ++ [(.unsubscribe subscription, .ended found)]) other =
      (decide (other ≠ subscription) && record.inForce other) := by
    intro other
    by_cases same : subscription = other
    · simp [inForce_concat, concerns, same]
    · simp [inForce_concat, concerns, same, Ne.symm same]
  rw [watching, watching, made_concat, last, List.append_nil, List.filter_filter]
  split
  · refine List.filter_congr fun other _ => ?_
    rw [left, Bool.and_left_comm]
  · rename_i differ
    refine List.filter_congr fun other _ => ?_
    rw [left]
    by_cases named : other.name = key
    · have apart : other ≠ subscription := by
        rintro rfl
        exact differ named.symm
      simp [apart]
    · simp [named]

end Concat

/-- A subscription that ended and is not made again is not in force. -/
theorem inForce_of_ended {before after : Record} {subscription : Subscription} {outcome : Outcome}
    (other : outcome ≠ .subscribed subscription) (unmade : subscription ∉ after.made) :
    inForce (before ++ (.unsubscribe subscription, outcome) :: after) subscription = false := by
  induction after using List.reverseRecOn with
  | nil => simp [inForce_concat, concerns, other]
  | append_singleton after entry ih =>
    rw [made_concat, List.mem_append, not_or] at unmade
    have differ : entry.2 ≠ .subscribed subscription := by
      intro same
      exact unmade.2 (List.mem_filterMap.mpr ⟨entry, List.mem_singleton_self entry, by rw [same]⟩)
    rw [← List.cons_append, ← List.append_assoc, inForce_concat, ih unmade.1]
    simp [differ]

end Record

/-! ### Predicates as a record says -/

/-- **Predicates are as a record says.** -/
structure Reflects (default : String) (record : Record) (predicates : Predicates) : Prop where
  default_eq : predicates.default = default
  get?_eq (key : String) :
    predicates.values.get? key = lastValue canonicalForm record.assignments key
  watching_eq (key : String) : predicates.watching key = record.watching key
  number_lt : ∀ subscription ∈ record.made, subscription.number < predicates.nextNumber
  ascending : record.made.Pairwise fun first second => first.number < second.number

section Reflects

variable {default : String} {record : Record} {predicates : Predicates}

theorem reflects_empty (default : String) : Reflects default [] { default } where
  default_eq := rfl
  get?_eq _ := rfl
  watching_eq _ := rfl
  number_lt _ absent := absurd absent List.not_mem_nil
  ascending := .nil

variable (reflects : Reflects default record predicates)

include reflects

theorem Reflects.get_eq (name : String) : predicates.get name = record.value default name := by
  rw [get, reflects.get?_eq, reflects.default_eq, Record.value]

theorem Reflects.previous_eq (name : String) :
    predicates.previous name = record.value default name := by
  rw [previous, reflects.get_eq, Record.value, canonical_canonical]
  rfl

/-- Those who watch a predicate are told its last value and the new one. -/
theorem Reflects.notifications_eq (name value : String) :
    predicates.notifications name value = (record.watching (canonical name)).map
      fun subscription => ⟨subscription, record.value default name, value⟩ := by
  rw [notifications, reflects.watching_eq, reflects.previous_eq]

theorem Reflects.unsubscribe_fst (subscription : Subscription) :
    (predicates.unsubscribe subscription).1 = record.inForce subscription := by
  rw [Bool.eq_iff_iff, unsubscribe_fst_iff, reflects.watching_eq, Record.mem_watching_iff]

/-- The number of a new subscription was not given before. -/
theorem Reflects.subscribe_not_mem (name : String) :
    (predicates.subscribe name).1 ∉ record.made :=
  fun known => Nat.lt_irrefl _ (reflects.number_lt _ known)

/-! ### One request -/

/-- What is set last is found. -/
theorem Reflects.get?_perform (request : Request) (key : String) :
    (predicates.perform request).2.values.get? key = lastValue canonicalForm
      (Record.assignments (record ++ [(request, (predicates.perform request).1)])) key := by
  rw [Record.assignments_concat]
  cases request with
  | set name value =>
    have said : Record.assignments [(.set name value, (predicates.perform (.set name value)).1)] =
        [(name, value)] := rfl
    rw [said, lastValue_concat, perform, Predicates.set, canonicalForm]
    by_cases same : canonical name = key
    · simp [same]
    · simp [same, Table.get?_set_of_ne (Ne.symm same), reflects.get?_eq]
  | get name | subscribe name =>
    refine Eq.trans ?_ (congrArg (lastValue canonicalForm · key) (List.append_nil _).symm)
    exact reflects.get?_eq key
  | unsubscribe subscription =>
    refine Eq.trans ?_ (congrArg (lastValue canonicalForm · key) (List.append_nil _).symm)
    obtain ⟨watchers, frame⟩ := exists_unsubscribe_snd subscription predicates
    rw [perform, frame]
    exact reflects.get?_eq key

/-- Those who watch are those that the record says. -/
theorem Reflects.watching_perform (request : Request) (key : String) :
    (predicates.perform request).2.watching key =
      Record.watching (record ++ [(request, (predicates.perform request).1)]) key := by
  cases request with
  | set name value | get name =>
    rw [Record.watching_concat_of_aside record rfl (by simp [Record.concerns, perform])]
    exact reflects.watching_eq key
  | subscribe name =>
    rw [perform, Record.watching_concat_subscribed (reflects.subscribe_not_mem name),
      watching_subscribe, reflects.watching_eq]
    rfl
  | unsubscribe subscription =>
    rw [perform, Record.watching_concat_ended, watching_unsubscribe, reflects.watching_eq]

/-- A subscription that is made has a greater number than those before it. -/
theorem Reflects.made_perform (request : Request) :
    let made := Record.made (record ++ [(request, (predicates.perform request).1)])
    (∀ subscription ∈ made, subscription.number < (predicates.perform request).2.nextNumber) ∧
      made.Pairwise fun first second => first.number < second.number := by
  intro made
  cases request with
  | set name value | get name =>
    have same : made = record.made := (Record.made_concat _ _).trans (List.append_nil _)
    rw [same]
    exact ⟨reflects.number_lt, reflects.ascending⟩
  | subscribe name =>
    have one_more : made = record.made ++ [⟨predicates.nextNumber, canonical name⟩] :=
      Record.made_concat _ _
    rw [one_more, List.pairwise_append]
    refine ⟨fun other member => ?_, reflects.ascending, List.pairwise_singleton _ _, ?_⟩
    · rcases List.mem_append.mp member with before | last
      · exact Nat.lt_succ_of_lt (reflects.number_lt other before)
      · rw [List.mem_singleton.mp last]
        exact Nat.lt_succ_self _
    · intro other before last member
      rw [List.mem_singleton.mp member]
      exact reflects.number_lt other before
  | unsubscribe subscription =>
    have same : made = record.made := (Record.made_concat _ _).trans (List.append_nil _)
    obtain ⟨watchers, frame⟩ := exists_unsubscribe_snd subscription predicates
    rw [same, perform, frame]
    exact ⟨reflects.number_lt, reflects.ascending⟩

/-- **A request leaves predicates that are as the record with its outcome says.** -/
theorem Reflects.perform (request : Request) :
    Reflects default (record ++ [(request, (predicates.perform request).1)])
      (predicates.perform request).2 where
  default_eq := by
    cases request with
    | set | get | subscribe => exact reflects.default_eq
    | unsubscribe subscription =>
      obtain ⟨watchers, frame⟩ := exists_unsubscribe_snd subscription predicates
      rw [Predicates.perform, frame]
      exact reflects.default_eq
  get?_eq := reflects.get?_perform request
  watching_eq := reflects.watching_perform request
  number_lt := (reflects.made_perform request).1
  ascending := (reflects.made_perform request).2

/-- **So do any requests.** -/
theorem Reflects.performAll (requests : List Request) :
    Reflects default (record ++ (predicates.performAll requests).1)
      (predicates.performAll requests).2 := by
  induction requests generalizing record predicates with
  | nil => simpa [Predicates.performAll] using reflects
  | cons request requests ih =>
    have step := ih (reflects.perform request)
    rw [List.append_assoc] at step
    exact step

end Reflects

/-- The predicates after any requests are as their record says. -/
theorem reflects_performAll (default : String) (requests : List Request) :
    Reflects default (Predicates.performAll { default } requests).1
      (Predicates.performAll { default } requests).2 :=
  (reflects_empty default).performAll requests

/-- A record lists the requests. -/
theorem map_fst_performAll (predicates : Predicates) (requests : List Request) :
    (predicates.performAll requests).1.map Prod.fst = requests := by
  induction requests generalizing predicates with
  | nil => rfl
  | cons request requests ih => exact congrArg (request :: ·) (ih _)

/-- Names are one predicate if what is set under the one is found under the other. -/
theorem canonical_eq_iff (predicates : Predicates) (first second : String) :
    canonical first = canonical second ↔
      ∀ value, (predicates.set first value).get second = value := by
  constructor
  · intro same value
    rw [get_set, if_pos same.symm]
  · intro found
    by_contra differ
    -- A value that the other predicate does not have is not found there.
    have kept := found (predicates.get second ++ "!")
    rw [get_set, if_neg (Ne.symm differ)] at kept
    simpa using congrArg String.length kept

/-- **A subscription that was made and is ended is never in force again.** -/
theorem Reflects.ended_performAll {default : String} {record : Record} {predicates : Predicates}
    (reflects : Reflects default record predicates) {subscription : Subscription}
    (known : subscription ∈ record.made) (later : List Request) :
    let after := (predicates.perform (.unsubscribe subscription)).2
    ((after.performAll later).2.perform (.unsubscribe subscription)).1 = .ended false := by
  intro after
  have last := (reflects.perform (.unsubscribe subscription)).performAll later
  rw [List.append_assoc, List.singleton_append] at last
  have unmade : subscription ∉ Record.made (after.performAll later).1 := by
    intro again
    have split : Record.made (record ++ (.unsubscribe subscription,
        (predicates.perform (.unsubscribe subscription)).1) :: (after.performAll later).1) =
          record.made ++ Record.made (after.performAll later).1 := List.filterMap_append
    have ascending := last.ascending
    rw [split, List.pairwise_append] at ascending
    exact Nat.lt_irrefl _ (ascending.2.2 subscription known subscription again)
  have outcome := last.unsubscribe_fst subscription
  rw [Record.inForce_of_ended Outcome.noConfusion unmade] at outcome
  exact congrArg Outcome.ended outcome

/-- **Predicates follow the record of what was asked of them.** After any requests:

* two names are one predicate exactly if they agree when trimmed and lowered;
* the value of a predicate is the one that was set last, or else the default;
* setting it answers with the value before, and tells those whose subscription to it is in force, in
  the order of subscription, the value before and the new one;
* the numbers of the subscriptions that were made ascend, and the next one has a greater number;
* ending a subscription answers whether it is in force, and leaves all others as they are. One that
  was made and is ended is never in force again, whatever is asked later. -/
theorem predicates_follow_record (default : String) (requests : List Request) :
    let record := (Predicates.performAll { default } requests).1
    let predicates := (Predicates.performAll { default } requests).2
    record.map Prod.fst = requests ∧
    (∀ first second : String, lower (trim first) = lower (trim second) ↔
      ∀ value, (predicates.set first value).get second = value) ∧
    (∀ name, (predicates.perform (.get name)).1 = .value (record.value default name)) ∧
    (∀ name value, (predicates.perform (.set name value)).1 =
      .replaced (record.value default name) ((record.watching (lower (trim name))).map
        fun subscription => ⟨subscription, record.value default name, value⟩)) ∧
    record.made.Pairwise (fun first second => first.number < second.number) ∧
    (∀ name, ∃ subscription, (predicates.perform (.subscribe name)).1 = .subscribed subscription ∧
      subscription.name = lower (trim name) ∧
      ∀ other ∈ record.made, other.number < subscription.number) ∧
    ∀ subscription,
      let outcome := (predicates.perform (.unsubscribe subscription)).1
      let after := (predicates.perform (.unsubscribe subscription)).2
      outcome = .ended (record.inForce subscription) ∧
      (∀ other, other ≠ subscription →
        Record.inForce (record ++ [(.unsubscribe subscription, outcome)]) other =
          record.inForce other) ∧
      (subscription ∈ record.made → ∀ later,
        ((after.performAll later).2.perform (.unsubscribe subscription)).1 = .ended false) := by
  have reflects := reflects_performAll default requests
  refine ⟨map_fst_performAll _ requests, canonical_eq_iff _, fun name => ?_, fun name value => ?_,
    reflects.ascending, fun name => ?_, fun subscription => ⟨?_, fun other differ => ?_, ?_⟩⟩
  · exact congrArg Outcome.value (reflects.get_eq name)
  · exact congrArg₂ Outcome.replaced (reflects.previous_eq name)
      (reflects.notifications_eq name value)
  · exact ⟨_, rfl, rfl, reflects.number_lt⟩
  · exact congrArg Outcome.ended (reflects.unsubscribe_fst subscription)
  · simp [Record.inForce_concat, Record.concerns, Predicates.perform, Ne.symm differ]
  · exact reflects.ended_performAll

/-- Of two subscriptions to one predicate the first one ends; the second one is told of a value that
does not change, and ends for good. -/
theorem predicates_follow_record_mood :
    let requests : List Request :=
      [.subscribe " Mood", .subscribe "MOOD ", .set "mood" "glad", .unsubscribe ⟨1, "mood"⟩]
    let record := (Predicates.performAll { default := "unknown" } requests).1
    let predicates := (Predicates.performAll { default := "unknown" } requests).2
    let after := (predicates.perform (.unsubscribe ⟨2, "mood"⟩)).2
    (predicates.perform (.set "Mood" "glad")).1 =
        .replaced "glad" [⟨⟨2, "mood"⟩, "glad", "glad"⟩] ∧
      (⟨1, "mood"⟩ : Subscription) ≠ ⟨2, "mood"⟩ ∧ (⟨2, "mood"⟩ : Subscription) ∈ record.made ∧
      ∀ later, ((after.performAll later).2.perform (.unsubscribe ⟨2, "mood"⟩)).1 =
        .ended false := by
  intro requests record predicates after
  obtain ⟨_, _, _, tells, _, _, ends⟩ := predicates_follow_record "unknown" requests
  have known : (⟨2, "mood"⟩ : Subscription) ∈ record.made := by decide +kernel
  refine ⟨?_, by decide, known, (ends ⟨2, "mood"⟩).2.2 known⟩
  exact (tells "Mood" "glad").trans (by decide +kernel)

end Predicates

end Dialogue
