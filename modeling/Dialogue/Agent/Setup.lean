/-
**Setting an agent up.**

* `Setup`: everything an agent is made of, as it is supplied;
* `Setup.build`: the agent, and what is noted. Definitions without a category are skipped, and a
  later one takes the place of an earlier one under its key.
-/

import Dialogue.Agent.Turn

namespace Dialogue

/-- What an agent is made of. -/
structure Setup where
  /-- What chooses; the settings say for which seed. -/
  generator : Generator
  settings : Settings := {}
  definitions : List Definition := []
  properties : List (String × String) := []
  predicates : List (String × String) := []
  sets : List (String × List String) := []
  maps : Maps := {}
  substitutions : Substitutions := {}
  dates : DateWriter := writeDateNotingLocale {}
  classifier : Option Classifier := none

namespace Setup

/-- The repertoire with the categories of some definitions, and what is noted. -/
def addDefinitions (normalizer : Normalizer) (repertoire : Repertoire) :
    List Definition → Repertoire × List Notice
  | [] => (repertoire, [])
  | definition :: definitions =>
    let remarks := definition.remarks normalizer
    match definition.compile normalizer .loaded with
    | .error fault =>
      let added := addDefinitions normalizer repertoire definitions
      (added.1, remarks ++ .skippedCategory fault :: added.2)
    | .ok category =>
      let redefined := (repertoire.find? category.key).toList.map fun previous =>
        Notice.categoryRedefined previous.key
      let added := addDefinitions normalizer (repertoire.add category) definitions
      (added.1, remarks ++ redefined ++ added.2)

/-- The word sets with the members that are supplied. -/
def wordSets (setup : Setup) : WordSets :=
  setup.sets.foldl (fun sets entry =>
    sets.extend setup.settings.normalizer.key entry.1 entry.2) {}

/-- The predicates with the values that are supplied. -/
def initialPredicates (setup : Setup) : Predicates :=
  setup.predicates.foldl (fun predicates entry => predicates.set entry.1 entry.2)
    { default := setup.settings.defaultPredicate }

/-- The agent of a setup, and what is noted while it is built. -/
def build (setup : Setup) : Agent × List Notice :=
  let added := addDefinitions setup.settings.normalizer .empty setup.definitions
  ({ settings := setup.settings
     repertoire := added.1
     predicates := setup.initialPredicates
     history := {}
     profile := Profile.ofEntries setup.properties
     sets := setup.wordSets
     maps := setup.maps
     substitutions := setup.substitutions
     dates := setup.dates
     classifier := setup.classifier
     draws := setup.generator setup.settings.seed },
    added.2 ++ [.built added.1.size setup.wordSets.size])

end Setup

end Dialogue
