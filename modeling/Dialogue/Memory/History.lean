/-
**The history of a conversation.**

* `Turn`: what was said in one completed turn;
* `History`: the completed turns and the sentences of the turn in progress; `turns` lists the turns
  in order;
* `recent?`, `response`, `request`, `that`, `input`: looking back, always counted from one and empty
  beyond the beginning. Input sentences are counted through all turns, the one in progress included
  (`inputSentences`).
-/

import Dialogue.Pattern.Key

namespace Dialogue

/-- A completed turn. -/
structure Turn where
  /-- The input as it was given. -/
  input : String
  /-- The sentences of the input, in the order in which they were answered. -/
  inputSentences : List String
  /-- The key of the last category that answered. -/
  matched : Option Key
  response : String
  /-- The sentences of the response. The last one is what the next turn answers to. -/
  sentences : List String
deriving DecidableEq, Repr

/-- An item counted back from the end of a list, from one; empty if there is none. -/
def nthBack (items : List String) : Nat → String
  | 0 => ""
  | index + 1 => (items.reverse[index]?).getD ""

/-- A sentence of the response, counted back from the last one. -/
def Turn.that (turn : Turn) (sentence : Nat) : String := nthBack turn.sentences sentence

/-- The turns of a conversation, and the sentences of the one in progress. -/
structure History where
  /-- The completed turns, the last one first. -/
  completed : List Turn := []
  /-- The input sentences of the turn in progress, the last one first. -/
  pending : List String := []
deriving DecidableEq, Repr

namespace History

def turns (history : History) : List Turn := history.completed.reverse

/-- The history with one more turn, which ends the turn in progress. -/
def append (turn : Turn) (history : History) : History := ⟨turn :: history.completed, []⟩

/-- The history with one more input sentence of the turn in progress. -/
def recordInput (sentence : String) (history : History) : History :=
  { history with pending := sentence :: history.pending }

/-- The history without the turn in progress. -/
def discardPending (history : History) : History := { history with pending := [] }

/-- A turn counted back from the last one. -/
def recent? (history : History) : Nat → Option Turn
  | 0 => none
  | index + 1 => history.completed[index]?

def response (history : History) (index : Nat) : String :=
  ((history.recent? index).map Turn.response).getD ""

def request (history : History) (index : Nat) : String :=
  ((history.recent? index).map Turn.input).getD ""

/-- A sentence of the response of a turn, both counted back. -/
def that (history : History) (turn sentence : Nat) : String :=
  ((history.recent? turn).map fun recent => recent.that sentence).getD ""

/-- The input sentences of all turns and of the turn in progress, in order. -/
def inputSentences (history : History) : List String :=
  history.turns.flatMap Turn.inputSentences ++ history.pending.reverse

/-- An input sentence counted back. -/
def input (history : History) (index : Nat) : String := nthBack history.inputSentences index

@[simp] theorem turns_append (turn : Turn) (history : History) :
    (history.append turn).turns = history.turns ++ [turn] := by
  simp [append, turns]

@[simp] theorem turns_recordInput (sentence : String) (history : History) :
    (history.recordInput sentence).turns = history.turns := rfl

@[simp] theorem turns_discardPending (history : History) :
    history.discardPending.turns = history.turns := rfl

@[simp] theorem inputSentences_recordInput (sentence : String) (history : History) :
    (history.recordInput sentence).inputSentences = history.inputSentences ++ [sentence] := by
  simp [recordInput, inputSentences, turns]

end History

end Dialogue
