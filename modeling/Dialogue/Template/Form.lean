/-
**The JSON form of templates.**

Each construct is an object with one member, named for the construct; those without content may be
written as the name alone. `Template.encode` and `Template.decode` are the two directions.
-/

import Dialogue.Json.Decoder
import Dialogue.Template.Basic

namespace Dialogue

open Json

/-! ### Writing -/

def Segment.encode : Segment → Json
  | .pattern => ofText "pattern"
  | .that => ofText "that"
  | .topic => ofText "topic"

/-- The name of a table of phrases. -/
def SubstitutionKind.name : SubstitutionKind → String
  | .person => "person"
  | .person2 => "person2"
  | .gender => "gender"
  | .normalize => "normalize"
  | .denormalize => "denormalize"

def SubstitutionKind.encode (kind : SubstitutionKind) : Json := ofText kind.name

def Text.Style.encode : Text.Style → Json
  | .uppercase => ofText "uppercase"
  | .lowercase => ofText "lowercase"
  | .formal => ofText "formal"
  | .sentence => ofText "sentence"
  | .explode => ofText "explode"

mutual

def Template.encode : Template → Json
  | .text content => tagged "text" (ofText content)
  | .sequence parts => tagged "sequence" (.array (encodeTemplates parts))
  | .capture segment index =>
    tagged "star" (ofMembers [("kind", segment.encode), ("index", ofWord index)])
  | .redirectCapture => ofText "sr"
  | .redirect content => tagged "srai" content.encode
  | .think content => tagged "think" content.encode
  | .assign name value => tagged "set" (ofMembers [("name", ofText name), ("value", value.encode)])
  | .recall name => tagged "get" (ofMembers [("name", ofText name)])
  | .property name => tagged "bot" (ofMembers [("name", ofText name)])
  | .map name content =>
    tagged "map" (ofMembers [("name", ofText name), ("content", content.encode)])
  | .condition guards => tagged "condition" (ofMembers [("guards", .array (encodeGuards guards))])
  | .loop => ofText "loop"
  | .random items => tagged "random" (.array (encodeTemplates items))
  | .that turn sentence =>
    tagged "that" (ofMembers [("index", ofWord turn), ("sentence", ofWord sentence)])
  | .input index => tagged "input" (ofMembers [("index", ofWord index)])
  | .request index => tagged "request" (ofMembers [("index", ofWord index)])
  | .response index => tagged "response" (ofMembers [("index", ofWord index)])
  | .date locale timezone format =>
    tagged "date" (ofMembers [("locale", ofOption ofText locale),
      ("timezone", ofOption ofText timezone), ("format", format.encode)])
  | .learn lesson => tagged "learn" lesson.encode
  | .unlearn => ofText "unlearn"
  | .eval content => tagged "eval" content.encode
  | .substitute kind content =>
    tagged "substitute" (ofMembers [("kind", kind.encode), ("content", content.encode)])
  | .styled style content =>
    tagged "transform" (ofMembers [("op", style.encode), ("content", content.encode)])

def encodeTemplates : List Template → List Json
  | [] => []
  | template :: templates => template.encode :: encodeTemplates templates

def Guard.encode : Guard → Json
  | ⟨predicate, value, body⟩ =>
    ofMembers [("predicate", ofOption ofText predicate), ("value", ofOption ofText value),
      ("body", body.encode)]

def encodeGuards : List Guard → List Json
  | [] => []
  | guard :: guards => guard.encode :: encodeGuards guards

def LessonPart.encode : LessonPart → Json
  | .text content => tagged "text" (ofText content)
  | .eval content => tagged "eval" content.encode

def encodeLessonParts : List LessonPart → List Json
  | [] => []
  | part :: parts => part.encode :: encodeLessonParts parts

def encodeLessonContext : Option (List LessonPart) → Json
  | none => .null
  | some parts => .array (encodeLessonParts parts)

def Lesson.encode : Lesson → Json
  | ⟨pattern, that, topic, template⟩ =>
    ofMembers [("pattern", .array (encodeLessonParts pattern)),
      ("that", encodeLessonContext that), ("topic", encodeLessonContext topic),
      ("template", template.encode)]

end

/-! ### Reading -/

def Segment.decode : Decoder Segment :=
  Decoder.choice [("pattern", .pattern), ("that", .that), ("topic", .topic)] []

def SubstitutionKind.decode : Decoder SubstitutionKind :=
  Decoder.choice
    ([SubstitutionKind.person, .person2, .gender, .normalize, .denormalize].map
      fun kind => (kind.name, kind)) []

def Text.Style.decode : Decoder Text.Style :=
  Decoder.choice [("uppercase", .uppercase), ("lowercase", .lowercase), ("formal", .formal),
    ("sentence", .sentence), ("explode", .explode)] []

/-- A guard from its JSON form, over a decoder of templates. -/
def Guard.decodeOver (template : Decoder Template) : Decoder Guard := fun room value => do
  let fields ← Decoder.record? ["predicate", "value", "body"] room value
  pure ⟨← fields.optional "predicate" (Decoder.option Decoder.string) none,
    ← fields.optional "value" (Decoder.option Decoder.string) none,
    ← fields.required "body" template⟩

/-- The guards of a condition from its JSON form, over a decoder of templates. -/
def Guard.decodeConditionOver (template : Decoder Template) : Decoder (List Guard) :=
  fun room value => do
    let fields ← Decoder.record? ["guards"] room value
    fields.required "guards" (Decoder.list (Guard.decodeOver template))

/-- A part of a learned pattern from its JSON form, over a decoder of templates. -/
def LessonPart.decodeOver (template : Decoder Template) : Decoder LessonPart :=
  Decoder.choice []
    [("text", Decoder.map .text Decoder.string), ("eval", Decoder.map .eval template)]

/-- A category to be learned from its JSON form, over a decoder of templates. -/
def Lesson.decodeOver (template : Decoder Template) : Decoder Lesson := fun room value => do
  let fields ← Decoder.record? ["pattern", "that", "topic", "template"] room value
  let parts := Decoder.list (LessonPart.decodeOver template)
  pure ⟨← fields.required "pattern" parts, ← fields.optional "that" (Decoder.option parts) none,
    ← fields.optional "topic" (Decoder.option parts) none, ← fields.required "template" template⟩

/-- A record of one counted position, which is the first by default. -/
def decodeIndex : Decoder UInt64 := fun room value => do
  let fields ← Decoder.record? ["index"] room value
  fields.optional "index" Decoder.word 1

/-- A record of one name. -/
def decodeName : Decoder String := fun room value => do
  let fields ← Decoder.record? ["name"] room value
  fields.required "name" Decoder.string

/-- A record of two members that have to be there. -/
def decodePair {α β : Type} (first : String) (firstDecoder : Decoder α) (second : String)
    (secondDecoder : Decoder β) : Decoder (α × β) := fun room value => do
  let fields ← Decoder.record? [first, second] room value
  pure (← fields.required first firstDecoder, ← fields.required second secondDecoder)

/-- A segment and a position in it, which is the first by default. -/
def decodeCapture : Decoder (Segment × UInt64) := fun room value => do
  let fields ← Decoder.record? ["kind", "index"] room value
  pure (← fields.required "kind" Segment.decode, ← fields.optional "index" Decoder.word 1)

/-- A turn and a sentence, each the first by default. -/
def decodeThat : Decoder (UInt64 × UInt64) := fun room value => do
  let fields ← Decoder.record? ["index", "sentence"] room value
  pure (← fields.optional "index" Decoder.word 1, ← fields.optional "sentence" Decoder.word 1)

/-- The members of a date, over a decoder of templates. -/
def decodeDateOver (template : Decoder Template) : Decoder Template := fun room value => do
  let fields ← Decoder.record? ["locale", "timezone", "format"] room value
  pure (.date (← fields.optional "locale" (Decoder.option Decoder.string) none)
    (← fields.optional "timezone" (Decoder.option Decoder.string) none)
    (← fields.required "format" template))

/-- A template from its JSON form, of at most the given number of levels. -/
def Template.decodeWithin : Nat → Decoder Template
  | 0 => fun _ _ => none
  | levels + 1 =>
    let inner := Template.decodeWithin levels
    Decoder.choice
      [("sr", .redirectCapture), ("loop", .loop), ("unlearn", .unlearn)]
      [("text", Decoder.map .text Decoder.string),
        ("sequence", Decoder.map .sequence (Decoder.list inner)),
        ("star", Decoder.map (fun read => .capture read.1 read.2) decodeCapture),
        ("srai", Decoder.map .redirect inner),
        ("think", Decoder.map .think inner),
        ("set", Decoder.map (fun read => .assign read.1 read.2)
          (decodePair "name" Decoder.string "value" inner)),
        ("get", Decoder.map .recall decodeName),
        ("bot", Decoder.map .property decodeName),
        ("map", Decoder.map (fun read => .map read.1 read.2)
          (decodePair "name" Decoder.string "content" inner)),
        ("condition", Decoder.map .condition (Guard.decodeConditionOver inner)),
        ("random", Decoder.map .random (Decoder.list inner)),
        ("that", Decoder.map (fun read => .that read.1 read.2) decodeThat),
        ("input", Decoder.map .input decodeIndex),
        ("request", Decoder.map .request decodeIndex),
        ("response", Decoder.map .response decodeIndex),
        ("date", decodeDateOver inner),
        ("learn", Decoder.map .learn (Lesson.decodeOver inner)),
        ("eval", Decoder.map .eval inner),
        ("substitute", Decoder.map (fun read => .substitute read.1 read.2)
          (decodePair "kind" SubstitutionKind.decode "content" inner)),
        ("transform", Decoder.map (fun read => .styled read.1 read.2)
          (decodePair "op" Text.Style.decode "content" inner))]

/-- A template from its JSON form. Every level of a template but the last enters a container, so the
bound on the levels never refuses what the bound on the containers admits. -/
def Template.decode : Decoder Template := fun room => Template.decodeWithin (room + 1) room

def decodeCondition : Decoder (List Guard) := Guard.decodeConditionOver Template.decode

def Guard.decode : Decoder Guard := Guard.decodeOver Template.decode

def LessonPart.decode : Decoder LessonPart := LessonPart.decodeOver Template.decode

def Lesson.decode : Decoder Lesson := Lesson.decodeOver Template.decode

def encodeCondition (guards : List Guard) : Json :=
  ofMembers [("guards", .array (encodeGuards guards))]

end Dialogue
