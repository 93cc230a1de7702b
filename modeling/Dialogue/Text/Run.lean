/-
**Sets and mappings of characters given by runs of code points.**

* `Run`: `count` code points from `first` on, `step` apart (`step` is two where small and capital
  letters alternate);
* `CaseRun`: a run together with the image of its first code point; the image of every other one
  lies at the same distance from it;
* `inSpans`, `inRuns`: membership in a list of closed intervals and in a list of runs;
* `imageIn?`: the image under a list of case runs.

The lists are in ascending order of first members, so that a search ends where the first members go
beyond the code point: `inSpans_eq_any`, `inRuns_eq_any` and `imageIn?_eq_findSome?` say that it
overlooks nothing.
-/

namespace Dialogue.Text

/-- `count` code points, `step` apart, the least of which is `first`. -/
structure Run where
  first : Nat
  count : Nat
  step : Nat
deriving DecidableEq, Repr

/-- Whether a code point belongs to a run. -/
def Run.holds (run : Run) (code : Nat) : Bool :=
  run.first ≤ code && code < run.first + run.count * run.step && (code - run.first) % run.step == 0

/-- A run whose members all lie at one distance from their images. -/
structure CaseRun where
  run : Run
  image : Nat
deriving DecidableEq, Repr

/-- The image of a code point under a case run, if the run holds it. -/
def CaseRun.imageOf? (entry : CaseRun) (code : Nat) : Option Nat :=
  if entry.run.holds code then some (entry.image + (code - entry.run.first)) else none

/-- Whether a code point lies in one of the closed intervals. -/
def inSpans : List (Nat × Nat) → Nat → Bool
  | [], _ => false
  | span :: spans, code => span.1 ≤ code && (code ≤ span.2 || inSpans spans code)

/-- Whether a code point lies in one of the runs. -/
def inRuns : List Run → Nat → Bool
  | [], _ => false
  | run :: runs, code => run.first ≤ code && (run.holds code || inRuns runs code)

/-- The image of a code point under the case run that holds it. -/
def imageIn? : List CaseRun → Nat → Option Nat
  | [], _ => none
  | entry :: entries, code =>
    if entry.run.first ≤ code then entry.imageOf? code <|> imageIn? entries code else none

/-! ### The search overlooks nothing -/

/-- Whether each number is at most the one after it. -/
def isAscending : List Nat → Bool
  | first :: second :: rest => first ≤ second && isAscending (second :: rest)
  | _ => true

/-- In an ascending list each number is at most every later one. -/
theorem pairwise_of_isAscending {numbers : List Nat} (ascending : isAscending numbers) :
    numbers.Pairwise (· ≤ ·) := by
  fun_induction isAscending numbers with
  | case1 first second rest ih =>
    simp only [Bool.and_eq_true, decide_eq_true_eq] at ascending
    have later := ih ascending.2
    refine List.pairwise_cons.mpr ⟨fun other member => ?_, later⟩
    rcases List.mem_cons.mp member with rfl | member
    · exact ascending.1
    · exact Nat.le_trans ascending.1 ((List.pairwise_cons.mp later).1 other member)
  | case2 numbers short =>
    match numbers, short with
    | [], _ => exact .nil
    | [_], _ => exact List.pairwise_singleton _ _
    | first :: second :: rest, short => exact absurd rfl (short first second rest)

/-- A code point before the first member of a run is not in the run. -/
theorem Run.holds_eq_false {run : Run} {code : Nat} (before : code < run.first) :
    run.holds code = false := by
  simp [Run.holds, Nat.not_le.mpr before]

theorem inSpans_eq_any {spans : List (Nat × Nat)} (ascending : isAscending (spans.map Prod.fst))
    (code : Nat) : inSpans spans code = spans.any fun span => span.1 ≤ code && code ≤ span.2 := by
  have sorted := List.pairwise_map.mp (pairwise_of_isAscending ascending)
  clear ascending
  induction sorted with
  | nil => rfl
  | @cons span spans later _ ih =>
    by_cases reached : span.1 ≤ code
    · simp [inSpans, reached, ih]
    · have beyond : ∀ other ∈ spans, ¬other.1 ≤ code := fun other member =>
        fun back => reached (Nat.le_trans (later other member) back)
      simp only [inSpans, reached, decide_false, Bool.false_and, List.any_cons, Bool.false_or]
      exact (List.any_eq_false.mpr fun other member => by simp [beyond other member]).symm

theorem inRuns_eq_any {runs : List Run} (ascending : isAscending (runs.map Run.first))
    (code : Nat) : inRuns runs code = runs.any fun run => run.holds code := by
  have sorted := List.pairwise_map.mp (pairwise_of_isAscending ascending)
  clear ascending
  induction sorted with
  | nil => rfl
  | @cons run runs later _ ih =>
    by_cases reached : run.first ≤ code
    · simp [inRuns, reached, ih]
    · have beyond : ∀ other ∈ runs, code < other.first := fun other member =>
        Nat.lt_of_lt_of_le (Nat.not_le.mp reached) (later other member)
      simp only [inRuns, reached, decide_false, Bool.false_and, List.any_cons,
        Run.holds_eq_false (Nat.not_le.mp reached), Bool.false_or]
      exact (List.any_eq_false.mpr fun other member => by
        simp [Run.holds_eq_false (beyond other member)]).symm

theorem imageIn?_eq_findSome? {entries : List CaseRun}
    (ascending : isAscending (entries.map fun entry => entry.run.first)) (code : Nat) :
    imageIn? entries code = entries.findSome? fun entry => entry.imageOf? code := by
  have sorted := List.pairwise_map.mp (pairwise_of_isAscending ascending)
  clear ascending
  induction sorted with
  | nil => rfl
  | @cons entry entries later _ ih =>
    by_cases reached : entry.run.first ≤ code
    · simp only [imageIn?, reached, if_true, List.findSome?_cons, ih]
      cases entry.imageOf? code <;> rfl
    · have beyond : ∀ other ∈ entry :: entries, other.imageOf? code = none := by
        intro other member
        have before : code < other.run.first := by
          rcases List.mem_cons.mp member with rfl | member
          · exact Nat.not_le.mp reached
          · exact Nat.lt_of_lt_of_le (Nat.not_le.mp reached) (later other member)
        simp [CaseRun.imageOf?, Run.holds_eq_false before]
      simp only [imageIn?, reached, if_false]
      exact (List.findSome?_eq_none_iff.mpr beyond).symm

end Dialogue.Text
