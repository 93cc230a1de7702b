/-
**The settings of a bot.**

Every setting has a default. `Settings.encode` and `Settings.decode` are the JSON form.
-/

import Dialogue.Store.Repertoire

namespace Dialogue

open Json

/-- The settings of a bot and the files of what it knows. -/
structure Settings where
  /-- How deep redirections may be nested. -/
  maxRedirects : Nat := 30
  /-- How often the conditions of a turn may be evaluated again. -/
  maxLoops : Nat := 100
  unlearnPolicy : UnlearnPolicy := .learnedOnly
  punctuation : Punctuation := .strip
  caseSensitive : Bool := false
  /-- The value of a predicate that was never set. -/
  defaultPredicate : String := ""
  /-- What stands for a missing response or topic. -/
  defaultContext : String := "unknown"
  /-- Whether the sentences of an input are answered one by one. -/
  splitSentences : Bool := true
  /-- What fixes the draws. -/
  seed : Option Nat := none
  categoryFiles : List String := []
  profileFile : Option String := none
  predicatesFile : Option String := none
  setFiles : List String := []
  mapFiles : List String := []
  substitutionFiles : Table SubstitutionKind String := []
  classifierFile : Option String := none
deriving DecidableEq, Repr

/-- The normalizer that the settings ask for. -/
def Settings.normalizer (settings : Settings) : Normalizer :=
  ⟨settings.punctuation, settings.caseSensitive⟩

/-! ### JSON forms -/

def Punctuation.encode : Punctuation → Json
  | .strip => ofText "strip"
  | .literal => ofText "literal"

def Punctuation.decode : Decoder Punctuation :=
  Decoder.choice [("strip", .strip), ("literal", .literal)] []

def UnlearnPolicy.encode : UnlearnPolicy → Json
  | .learnedOnly => ofText "learned_only"
  | .all => ofText "all"

def UnlearnPolicy.decode : Decoder UnlearnPolicy :=
  Decoder.choice [("learned_only", .learnedOnly), ("all", .all)] []

def decodeSubstitutionFiles : Decoder (Table SubstitutionKind String) := fun room value => do
  let entries ← Decoder.table Decoder.string room value
  let entries ← entries.mapM fun entry =>
    (SubstitutionKind.decode 0 (ofText entry.1)).map fun kind => (kind, entry.2)
  pure (Table.ofEntries entries)

namespace Settings

/-- The names of the settings in their order. -/
def fieldNames : List String :=
  ["max_srai_depth", "max_loop_iterations", "unlearn_policy", "punctuation", "case_sensitive",
    "default_predicate", "default_context", "split_sentences", "random_seed", "category_files",
    "bot_file", "predicates_file", "set_files", "map_files", "substitution_files",
    "classifier_file"]

def encode (settings : Settings) : Json :=
  ofMembers [("max_srai_depth", ofNat settings.maxRedirects),
    ("max_loop_iterations", ofNat settings.maxLoops),
    ("unlearn_policy", settings.unlearnPolicy.encode),
    ("punctuation", settings.punctuation.encode),
    ("case_sensitive", .bool settings.caseSensitive),
    ("default_predicate", ofText settings.defaultPredicate),
    ("default_context", ofText settings.defaultContext),
    ("split_sentences", .bool settings.splitSentences),
    ("random_seed", ofOption ofNat settings.seed),
    ("category_files", ofList ofText settings.categoryFiles),
    ("bot_file", ofOption ofText settings.profileFile),
    ("predicates_file", ofOption ofText settings.predicatesFile),
    ("set_files", ofList ofText settings.setFiles),
    ("map_files", ofList ofText settings.mapFiles),
    ("substitution_files", ofMembers (settings.substitutionFiles.map fun entry =>
      (entry.1.name, ofText entry.2))),
    ("classifier_file", ofOption ofText settings.classifierFile)]

/-- Settings from their JSON form. -/
def decode : Decoder Settings := fun room value => do
  let fields ← Decoder.record? fieldNames room value
  let file := Decoder.option Decoder.string
  let files := Decoder.list Decoder.string
  let usual : Settings := {}
  pure
    { maxRedirects := ← fields.optional "max_srai_depth" Decoder.nat usual.maxRedirects
      maxLoops := ← fields.optional "max_loop_iterations" Decoder.nat usual.maxLoops
      unlearnPolicy :=
        ← fields.optional "unlearn_policy" UnlearnPolicy.decode usual.unlearnPolicy
      punctuation := ← fields.optional "punctuation" Punctuation.decode usual.punctuation
      caseSensitive := ← fields.optional "case_sensitive" Decoder.bool usual.caseSensitive
      defaultPredicate :=
        ← fields.optional "default_predicate" Decoder.string usual.defaultPredicate
      defaultContext := ← fields.optional "default_context" Decoder.string usual.defaultContext
      splitSentences := ← fields.optional "split_sentences" Decoder.bool usual.splitSentences
      seed := ← fields.optional "random_seed" (Decoder.option Decoder.nat) usual.seed
      categoryFiles := ← fields.optional "category_files" files usual.categoryFiles
      profileFile := ← fields.optional "bot_file" file usual.profileFile
      predicatesFile := ← fields.optional "predicates_file" file usual.predicatesFile
      setFiles := ← fields.optional "set_files" files usual.setFiles
      mapFiles := ← fields.optional "map_files" files usual.mapFiles
      substitutionFiles :=
        ← fields.optional "substitution_files" decodeSubstitutionFiles usual.substitutionFiles
      classifierFile := ← fields.optional "classifier_file" file usual.classifierFile }

end Settings

end Dialogue
