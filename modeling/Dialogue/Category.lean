/-
**Categories and their definitions.**

* `Category`: a key, the template that answers, and the origin;
* `Definition`: a category as it is written, with pattern texts instead of tokens;
* `Definition.compile`: the category of a definition; it fails exactly if no token of the pattern is
  left (`compile_eq_error_iff`);
* `Definition.remarks`: what is noted while a definition is compiled.
-/

import Dialogue.Notice
import Dialogue.Pattern.Normalizer
import Dialogue.Template.Form

namespace Dialogue

open Json

/-- A template under its key. -/
structure Category where
  key : Key
  template : Template
  origin : Origin

/-- A category as it is written. -/
structure Definition where
  pattern : String
  that : Option String
  topic : Option String
  template : Template

namespace Definition

/-- The category of a definition. -/
def compile (normalizer : Normalizer) (origin : Origin) (definition : Definition) :
    Except CategoryFault Category :=
  match normalizer.parsePattern definition.pattern with
  | [] => .error (.emptyPattern definition.pattern)
  | token :: tokens =>
    .ok ⟨Key.ofTokens (token :: tokens) (definition.that.map normalizer.parsePattern)
      (definition.topic.map normalizer.parsePattern), definition.template, origin⟩

/-- What is noted about the references of a pattern's text. -/
def referenceRemarks (text : String) : List Notice :=
  (unnamedReferences text).map fun kind => .unnamedReference kind text

/-- What is noted while a definition is compiled; the contexts of one that fails are not read. -/
def remarks (normalizer : Normalizer) (definition : Definition) : List Notice :=
  referenceRemarks definition.pattern ++
    if (normalizer.parsePattern definition.pattern).isEmpty then []
    else (definition.that.toList ++ definition.topic.toList).flatMap referenceRemarks

/-- All that is noted is about references without a name. -/
theorem eq_unnamedReference_of_mem_remarks {normalizer : Normalizer} {definition : Definition}
    {notice : Notice} (member : notice ∈ definition.remarks normalizer) :
    ∃ kind text, notice = .unnamedReference kind text := by
  have reference : ∀ text, notice ∈ referenceRemarks text →
      ∃ kind text, notice = .unnamedReference kind text := by
    intro text inText
    obtain ⟨kind, _, rfl⟩ := List.mem_map.mp inText
    exact ⟨kind, text, rfl⟩
  rcases List.mem_append.mp member with inPattern | inContext
  · exact reference _ inPattern
  · split at inContext
    · cases inContext
    · obtain ⟨text, _, inText⟩ := List.mem_flatMap.mp inContext
      exact reference text inText

/-- Compiling fails exactly if no token of the pattern is left. -/
theorem compile_eq_error_iff (normalizer : Normalizer) (origin : Origin) (definition : Definition)
    (fault : CategoryFault) :
    definition.compile normalizer origin = .error fault ↔
      normalizer.parsePattern definition.pattern = [] ∧
        fault = .emptyPattern definition.pattern := by
  unfold compile
  cases normalizer.parsePattern definition.pattern <;> simp [eq_comm]

end Definition

/-! ### JSON forms -/

def Token.encode : Token → Json
  | .word key => tagged "word" (ofText key)
  | .priority key => tagged "priority" (ofText key)
  | .set name => tagged "set" (ofText name)
  | .bot name => tagged "bot" (ofText name)
  | .predicate name => tagged "predicate" (ofText name)
  | .star => ofText "star"
  | .underscore => ofText "underscore"
  | .hash => ofText "hash"
  | .caret => ofText "caret"

def Token.decode : Decoder Token :=
  Decoder.choice [("star", .star), ("underscore", .underscore), ("hash", .hash), ("caret", .caret)]
    [("word", Decoder.map .word Decoder.string), ("priority", Decoder.map .priority Decoder.string),
      ("set", Decoder.map .set Decoder.string), ("bot", Decoder.map .bot Decoder.string),
      ("predicate", Decoder.map .predicate Decoder.string)]

def Key.encode (key : Key) : Json :=
  ofMembers [("pattern", ofList Token.encode key.pattern), ("that", ofList Token.encode key.that),
    ("topic", ofList Token.encode key.topic)]

def Key.decode : Decoder Key := fun room value => do
  let fields ← Decoder.record? ["pattern", "that", "topic"] room value
  let tokens := Decoder.list Token.decode
  pure ⟨← fields.required "pattern" tokens, ← fields.required "that" tokens,
    ← fields.required "topic" tokens⟩

def Origin.encode : Origin → Json
  | .loaded => ofText "loaded"
  | .learned => ofText "learned"

def Origin.decode : Decoder Origin :=
  Decoder.choice [("loaded", .loaded), ("learned", .learned)] []

def Definition.encode (definition : Definition) : Json :=
  ofMembers [("pattern", ofText definition.pattern), ("that", ofOption ofText definition.that),
    ("topic", ofOption ofText definition.topic), ("template", definition.template.encode)]

def Definition.decode : Decoder Definition := fun room value => do
  let fields ← Decoder.record? ["pattern", "that", "topic", "template"] room value
  let context := Decoder.option Decoder.string
  pure ⟨← fields.required "pattern" Decoder.string, ← fields.optional "that" context none,
    ← fields.optional "topic" context none, ← fields.required "template" Template.decode⟩

end Dialogue
