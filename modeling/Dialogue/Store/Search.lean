/-
**Finding the category that answers.**

A query is the words of the input, of the previous response and of the topic, consumed in this
order. Each step out of a place of the forest consumes the front of a query in certain ways:

* a word, priority word, bot property, predicate or set step consumes one word that it accepts;
* a star or underscore consumes one or more words, a hash or caret any number, the longest span
  first, and never beyond the words of the present part;
* a step into the next part consumes no word, and is possible where the present part is used up.

The search tries the steps of a place in the order priority, hash, underscore, bot, predicate, word,
set, then the step into the next part or the end, then caret, star, and takes the first success.

* `cuts`: the ways to cut a list in two, which `mem_cuts_iff` describes;
* `Edge.ways`: the ways of a step, in order;
* `Forest.search`: the first success among the steps of a place that belong to one phase;
* `Forest.answer`: the first success at a place.
-/

import Dialogue.Category
import Dialogue.Store.Captures
import Dialogue.Store.Forest

namespace Dialogue

/-- The tests of words that depend on what the bot knows and remembers. -/
structure Scope where
  inSet : String → String → Bool
  isBot : String → String → Bool
  isPredicate : String → String → Bool

/-- The words still to be consumed, by the part that the first of them belong to. -/
inductive Query where
  | pattern (words that topic : List InputWord)
  | that (words topic : List InputWord)
  | topic (words : List InputWord)
deriving DecidableEq, Repr

namespace Query

/-- The part that is being consumed. -/
def segment : Query → Segment
  | .pattern .. => .pattern
  | .that .. => .that
  | .topic _ => .topic

/-- The words left of the part that is being consumed. -/
def words : Query → List InputWord
  | .pattern words _ _ | .that words _ | .topic words => words

/-- The query with other words left in the present part. -/
def withWords (left : List InputWord) : Query → Query
  | .pattern _ response subject => .pattern left response subject
  | .that _ subject => .that left subject
  | .topic _ => .topic left

/-- The step into the next part, where the present one is used up. -/
def next? : Query → Option (Edge × Query)
  | .pattern [] response subject => some (.that, .that response subject)
  | .that [] subject => some (.topic, .topic subject)
  | _ => none

/-- Whether everything is consumed. -/
def isDone : Query → Bool
  | .topic [] => true
  | _ => false

end Query

/-- A way to take a step: the words captured, the last one first, if the step captures, and what is
left. -/
abbrev Way := Option (List InputWord) × Query

/-- The cuts behind some words that are taken already, from the longest first part on, and then
those that are given. -/
def cutsAfter (taken : List InputWord) (shorter : List (List InputWord × List InputWord)) :
    List InputWord → List (List InputWord × List InputWord)
  | [] => (taken, []) :: shorter
  | word :: words => cutsAfter (word :: taken) ((taken, word :: words) :: shorter) words

/-- The cuts of a list in two, the longest first part first. A first part lists its words from the
last to the first, so that it shares them with every longer one. -/
def cuts (words : List InputWord) : List (List InputWord × List InputWord) := cutsAfter [] [] words

/-- The cuts behind some words put these words in front of every cut. -/
theorem cutsAfter_eq (taken : List InputWord)
    (shorter : List (List InputWord × List InputWord)) (words : List InputWord) :
    cutsAfter taken shorter words =
      (cuts words).map (fun cut => (cut.1 ++ taken, cut.2)) ++ shorter := by
  induction words generalizing taken shorter with
  | nil => rfl
  | cons word words ih =>
    rw [cuts, cutsAfter, cutsAfter, ih, ih [word]]
    simp

@[simp] theorem cuts_nil : cuts [] = [([], [])] := rfl

/-- Every cut of the later words goes on behind the first word; the shortest span is empty. -/
theorem cuts_cons (word : InputWord) (words : List InputWord) : cuts (word :: words) =
    (cuts words).map (fun cut => (cut.1 ++ [word], cut.2)) ++ [([], word :: words)] := by
  rw [cuts, cutsAfter, cutsAfter_eq]

/-- The cuts of a list are the ways to write it as two lists, the first one read backwards. -/
theorem mem_cuts_iff {words : List InputWord} {cut : List InputWord × List InputWord} :
    cut ∈ cuts words ↔ cut.1.reverse ++ cut.2 = words := by
  induction words generalizing cut with
  | nil => rcases cut with ⟨taken, rest⟩; simp
  | cons word words ih =>
    rw [cuts_cons, List.mem_append, List.mem_map, List.mem_singleton]
    constructor
    · rintro (⟨other, member, rfl⟩ | rfl)
      · simp [ih.mp member]
      · rfl
    · intro whole
      rcases cut with ⟨taken, rest⟩
      rcases List.eq_nil_or_concat taken with rfl | ⟨others, last, rfl⟩
      · exact .inr (by simp at whole; simp [whole])
      · simp only [List.concat_eq_append, List.reverse_append, List.reverse_cons, List.reverse_nil,
          List.nil_append, List.cons_append, List.cons.injEq] at whole
        exact .inl ⟨(others, rest), ih.mpr whole.2, by simp [whole.1]⟩

/-- The ways to capture some words at the front of a query, the longest span first. -/
def spanWays (admits : List InputWord → Bool) (query : Query) : List Way :=
  ((cuts query.words).filter fun cut => admits cut.1).map fun cut =>
    (some cut.1, query.withWords cut.2)

/-- The way to consume one accepted word. -/
def wordWays (captures : Bool) (accepts : InputWord → Bool) (query : Query) : List Way :=
  match query.words with
  | [] => []
  | word :: words =>
    if accepts word then [(if captures then some [word] else none, query.withWords words)] else []

/-- The ways to take a step, in the order in which they are tried. -/
def Edge.ways (scope : Scope) (query : Query) : Edge → List Way
  | .token (.word key) | .token (.priority key) =>
    wordWays false (fun word => word.key == key) query
  | .token (.set name) => wordWays true (fun word => scope.inSet name word.key) query
  | .token (.bot name) => wordWays false (fun word => scope.isBot name word.key) query
  | .token (.predicate name) => wordWays false (fun word => scope.isPredicate name word.key) query
  | .token .star | .token .underscore => spanWays (fun span => !span.isEmpty) query
  | .token .hash | .token .caret => spanWays (fun _ => true) query
  | .that => next .that
  | .topic => next .topic
where
  /-- The way into the next part, if that is the next part. -/
  next (edge : Edge) : List Way :=
    match query.next? with
    | some (step, rest) => if step = edge then [(none, rest)] else []
    | none => []

/-- When a step is tried: before the end of a part, at it, or after it. -/
inductive Phase where
  | before
  | boundary
  | after
deriving DecidableEq, Repr

/-- When a step is tried. -/
def Edge.phase : Edge → Phase
  | .that | .topic => .boundary
  | .token .caret | .token .star => .after
  | .token _ => .before

/-- The texts of the words of a span, which lists the last one first, joined by spaces. -/
def joinTexts (span : List InputWord) : String :=
  Text.unwords (span.reverse.map InputWord.text)

/-- The captures with those of a step in front. -/
def captureWay (query : Query) (way : Way) (captures : Captures) : Captures :=
  match way.1 with
  | none => captures
  | some span => captures.prepend query.segment (joinTexts span)

/-- A category and what its capturing tokens consumed. -/
structure Match where
  category : Category
  captures : Captures

/-- A match whose first step was taken in a given way. -/
def Match.after (query : Query) (way : Way) (found : Match) : Match :=
  { found with captures := captureWay query way found.captures }

/-- The match at a place where everything is consumed. -/
def endMatch (entry : Option Category) (query : Query) : Option Match :=
  if query.isDone then entry.map fun category => ⟨category, .empty⟩ else none

namespace Forest

/-- The first success among the steps that are tried in a phase. -/
def search (scope : Scope) (phase : Phase) (query : Query) : Forest Category → Option Match
  | .nil => none
  | .cons edge entry below next =>
    (if edge.phase = phase then
      (edge.ways scope query).findSome? fun way =>
        (below.search scope .before way.2 <|> endMatch entry way.2 <|>
          below.search scope .boundary way.2 <|> below.search scope .after way.2).map
          (Match.after query way)
    else none) <|> next.search scope phase query

/-- The first success at a place with an entry and the places below it. -/
def answer (scope : Scope) (entry : Option Category) (below : Forest Category) (query : Query) :
    Option Match :=
  below.search scope .before query <|> endMatch entry query <|>
    below.search scope .boundary query <|> below.search scope .after query

/-- A step is followed by a search at the place it leads to. -/
theorem search_cons (scope : Scope) (phase : Phase) (query : Query) (edge : Edge)
    (entry : Option Category) (below next : Forest Category) :
    (Forest.cons edge entry below next).search scope phase query =
      ((if edge.phase = phase then
        (edge.ways scope query).findSome? fun way =>
          (answer scope entry below way.2).map (Match.after query way)
      else none) <|> next.search scope phase query) := rfl

end Forest

end Dialogue
