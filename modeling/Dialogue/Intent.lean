/-
**Guessing what an input is about.**

The examples of some intents are documents. A word weighs, in a document, its share of the
document's words times the logarithm of the number of documents over the number of those that
contain it. An input is answered with the label of the document whose weights point most nearly the
same way.

* `IntentModel.ofIntents`: the model of some intents. The words of the examples get their indices as
  they come; an example without words is no document;
* `IntentModel.bestMatch`: the label of the nearest document, the earliest among equals. An input
  that shares no word with the documents gets the first label, and there is none only without
  intents.

Lists are read by index all the time. Where one is too short for that, the step that reads it has no
outcome at all; such steps have a name that ends in a question mark.
-/

import Dialogue.Json.Decoder
import Dialogue.Table
import Dialogue.Text.Blank
import Dialogue.Text.Casing

namespace Dialogue

open Json Text

/-- A label and examples of what is meant by it. -/
structure Intent where
  label : String
  examples : List String
deriving DecidableEq, Repr

def Intent.encode (intent : Intent) : Json :=
  ofMembers [("label", ofText intent.label), ("examples", ofList ofText intent.examples)]

def Intent.decode : Decoder Intent := fun room value => do
  let fields ← Decoder.record? ["label", "examples"] room value
  pure ⟨← fields.required "label" Decoder.string,
    ← fields.required "examples" (Decoder.list Decoder.string)⟩

/-- The words of a text without the punctuation around them, in lower case. -/
def contentWords (text : String) : List String :=
  ((splitWords text.toList).map fun word =>
    String.ofList (lowerChars (stripWhile isPunctuation word))).filter fun word => !word.isEmpty

/-- Weights by the index of the word. -/
abbrev Bag := Table Nat Float

/-- A bag with some weight added to a word. -/
def Bag.add (index : Nat) (weight : Float) (bag : Bag) : Bag :=
  bag.set index ((bag.get? index).getD 0 + weight)

/-! ### Similarity -/

def sumWeights (weights : List Float) : Float := weights.foldl (· + ·) 0

/-- The square of the cosine between two bags; zero if one of them has no length. -/
def similarity (first second : Bag) : Float :=
  let dot := sumWeights (first.map fun entry => entry.2 * (second.get? entry.1).getD 0)
  let square (bag : Bag) := sumWeights (bag.map fun entry => entry.2 * entry.2)
  let scale := square first * square second
  if scale == 0 then 0 else dot * dot / scale

/-- The better one of the best place so far, if any, and the next place. -/
def betterPlace (best : Option (Float × Nat)) (next : Float × Nat) : Option (Float × Nat) :=
  match best with
  | none => some next
  | some (top, place) => if next.1 > top then some next else some (top, place)

/-- The place of the first score that no other one exceeds. -/
def bestPlace (scores : List Float) : Option Nat :=
  (scores.zipIdx.foldl betterPlace none).map Prod.snd

/-! ### Models -/

/-- A model of some intents. -/
structure IntentModel where
  /-- The index of each word that is in a document. -/
  indices : Table String Nat := []
  labels : List String := []
  /-- The place of each document's label among the labels. -/
  documentLabels : List Nat := []
  /-- The weights of each document. -/
  bags : List Bag := []
  /-- How much each word tells, by its index. -/
  rarity : List Float := []

namespace IntentModel

/-- The index of a word, and the indices then: a word without one gets the next. -/
def enter (word : String) (indices : Table String Nat) : Nat × Table String Nat :=
  match indices.get? word with
  | some index => (index, indices)
  | none => (indices.length, indices.set word indices.length)

/-- The counts with one more at an index. -/
def countMore? (index : Nat) (counts : List Nat) : Option (List Nat) :=
  counts[index]?.map fun count => counts.set index (count + 1)

/-- How many documents contain each word, when one comes to a word. It counts once for each of its
words. -/
def countWord? (seen : List Nat) (index : Nat) (frequencies : List Nat) : Option (List Nat) :=
  let grown := if index = frequencies.length then frequencies ++ [0] else frequencies
  if seen.contains index then some grown else countMore? index grown

/-- What is known while a document is read. -/
structure Reading where
  indices : Table String Nat
  /-- How many documents contain each word, by its index. -/
  frequencies : List Nat
  /-- The words for which this document was counted. -/
  seen : List Nat := []
  /-- The shares of the words of this document so far. -/
  bag : Bag := []

/-- One word more of a document is read. -/
def Reading.readWord? (share : Float) (reading : Reading) (word : String) : Option Reading := do
  let (index, indices) := enter word reading.indices
  let frequencies ← countWord? reading.seen index reading.frequencies
  some {
    indices := indices
    frequencies := frequencies
    seen := reading.seen.insert index
    bag := reading.bag.add index share }

/-- A model whose bags hold shares and not yet weights, and how many documents contain each word. -/
structure Draft where
  model : IntentModel := {}
  frequencies : List Nat := []

/-- An example becomes a document with the label at a place, unless it has no words. -/
def Draft.addExample? (place : Nat) (draft : Draft) (text : String) : Option Draft :=
  let words := contentWords text
  if words.isEmpty then some draft
  else do
    let reading ← words.foldlM (Reading.readWord? (1 / words.length.toFloat))
      { indices := draft.model.indices, frequencies := draft.frequencies }
    some {
      model := { draft.model with
        indices := reading.indices
        documentLabels := draft.model.documentLabels ++ [place]
        bags := draft.model.bags ++ [reading.bag] }
      frequencies := reading.frequencies }

/-- The label and the examples of an intent are added. -/
def Draft.addIntent? (draft : Draft) (intent : Intent) : Option Draft :=
  intent.examples.foldlM (Draft.addExample? draft.model.labels.length)
    { draft with model := { draft.model with labels := draft.model.labels ++ [intent.label] } }

def draft? (intents : List Intent) : Option Draft := intents.foldlM Draft.addIntent? {}

/-- The shares of a document, each times how much the word tells. -/
def weighShares? (rarity : List Float) (shares : Bag) : Option Bag :=
  shares.mapM fun entry => rarity[entry.1]?.map fun factor => (entry.1, entry.2 * factor)

/-- The model of a draft. -/
def Draft.finish? (draft : Draft) : Option IntentModel := do
  let rarity := draft.frequencies.map fun frequency =>
    (draft.model.bags.length.toFloat / frequency.toFloat).log
  let bags ← draft.model.bags.mapM (weighShares? rarity)
  some { draft.model with bags := bags, rarity := rarity }

def ofIntents? (intents : List Intent) : Option IntentModel := do
  (← draft? intents).finish?

/-- **The model of some intents.** -/
def ofIntents (intents : List Intent) : IntentModel := (ofIntents? intents).getD {}

/-! ### Answers -/

/-- A bag with a share of a word, as it weighs in a model; an unknown word weighs nothing. -/
def weighWord? (model : IntentModel) (share : Float) (bag : Bag) (word : String) : Option Bag :=
  match model.indices.get? word with
  | none => some bag
  | some index => model.rarity[index]?.map fun factor => bag.add index (share * factor)

/-- The weights of an input. -/
def weigh? (model : IntentModel) (text : String) : Option Bag :=
  let words := contentWords text
  if words.isEmpty then some []
  else words.foldlM (model.weighWord? (1 / words.length.toFloat)) []

/-- The label of a document. -/
def labelOf? (model : IntentModel) (document : Nat) : Option String := do
  model.labels[← model.documentLabels[document]?]?

/-- The label of the document with the best score against a text, if there is any. -/
def bestMatch? (score : Bag → Bag → Float) (model : IntentModel) (text : String) :
    Option (Option String) := do
  let bag ← model.weigh? text
  if bag.isEmpty then some model.labels.head?
  else
    match bestPlace (model.bags.map (score bag)) with
    | none => some none
    | some document => (model.labelOf? document).map some

/-- **The label of the document nearest to a text.** -/
def bestMatch (model : IntentModel) (text : String) : Option String :=
  (model.bestMatch? similarity text).getD none

end IntentModel

end Dialogue
