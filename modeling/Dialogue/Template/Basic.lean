/-
**Templates.**

A template says what a category answers. It is a tree of texts, reads of what the bot knows and
remembers, and instructions that change it.

* `Template`, `Guard`, `Lesson`, `LessonPart`: the tree;
* `Segment`: which part of the matched key a capture belongs to;
* `SubstitutionKind`: which table of phrases a text goes through;
* `inheritPredicate`: a condition on one predicate names it once for all its guards.
-/

import Dialogue.Text.Style

namespace Dialogue

/-- A part of a key, and so of a match. -/
inductive Segment where
  | pattern
  | that
  | topic
deriving DecidableEq, Repr

/-- The tables of phrases that a template can name. -/
inductive SubstitutionKind where
  /-- First and second person exchanged. -/
  | person
  /-- First and third person exchanged. -/
  | person2
  /-- The genders exchanged. -/
  | gender
  /-- Contractions written out. -/
  | normalize
  /-- Written-out phrases contracted. -/
  | denormalize
deriving DecidableEq, Repr

mutual

/-- A response as it is written. -/
inductive Template where
  /-- Literal text. -/
  | text (content : String)
  /-- The parts one after the other. -/
  | sequence (parts : List Template)
  /-- A capture of the present match, counted from one. -/
  | capture (segment : Segment) (index : UInt64)
  /-- The answer to the first capture of the pattern. -/
  | redirectCapture
  /-- The answer to the content. -/
  | redirect (content : Template)
  /-- Nothing; the content is evaluated for what it does. -/
  | think (content : Template)
  /-- The value, which the predicate then has. -/
  | assign (name : String) (value : Template)
  /-- The value of a predicate. -/
  | recall (name : String)
  /-- A property of the bot. -/
  | property (name : String)
  /-- The image of the content under a map. -/
  | map (name : String) (content : Template)
  /-- The body of the first guard that applies. -/
  | condition (guards : List Guard)
  /-- Nothing; the condition around it is evaluated once more. -/
  | loop
  /-- One of the items. -/
  | random (items : List Template)
  /-- A sentence of an earlier response, both counted back from one. -/
  | that (turn : UInt64) (sentence : UInt64)
  /-- An earlier input sentence; the first is the one being answered. -/
  | input (index : UInt64)
  /-- An earlier input. -/
  | request (index : UInt64)
  /-- An earlier response. -/
  | response (index : UInt64)
  /-- The date in a format. -/
  | date (locale : Option String) (timezone : Option String) (format : Template)
  /-- Nothing; a new category is learned. -/
  | learn (lesson : Lesson)
  /-- Nothing; what was learned is forgotten. -/
  | unlearn
  /-- The content; inside a lesson, its text at the time of learning. -/
  | eval (content : Template)
  /-- The content with its phrases replaced. -/
  | substitute (kind : SubstitutionKind) (content : Template)
  /-- The content in a style. -/
  | styled (style : Text.Style) (content : Template)

/-- A branch of a condition. Without a value it always applies; with one, the predicate has to have
that value. -/
structure Guard where
  predicate : Option String
  value : Option String
  body : Template

/-- A part of a pattern that is learned: literal text, or the text of a template. -/
inductive LessonPart where
  | text (content : String)
  | eval (content : Template)

/-- A category to be learned. -/
structure Lesson where
  pattern : List LessonPart
  that : Option (List LessonPart)
  topic : Option (List LessonPart)
  template : Template

end

namespace Guard

/-- Whether a guard applies whatever the predicates are. -/
def isDefault (guard : Guard) : Bool := guard.value.isNone

/-- A guard that names its own predicate, or else the given one. -/
def inheritPredicate (name : Option String) (guard : Guard) : Guard :=
  { guard with predicate := guard.predicate.or name }

/-- Inheriting a predicate does not make a default of a guard, nor the reverse. -/
@[simp] theorem isDefault_inheritPredicate (name : Option String) (guard : Guard) :
    (guard.inheritPredicate name).isDefault = guard.isDefault := rfl

end Guard

/-- The guards of a condition that may name a predicate for all of them. -/
def inheritPredicate (name : Option String) (guards : List Guard) : List Guard :=
  guards.map (Guard.inheritPredicate name)

end Dialogue
