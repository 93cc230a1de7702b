/-
**Loading an agent from files.**

The settings name the files of what an agent is made of. They are read in a fixed order: categories,
properties, predicates, sets, maps, substitutions, classifier. The first one that gives no value of
the wanted shape ends the loading.

A file of names and values is read into a table that hands its entries on in an order of its own, so
that order is a parameter.

* `Delivery`: an order for the entries of every file that is read;
* `Loading.json`: the value in a file, noted when it is read;
* `Loading.settings`: the settings in a file;
* `Loading.setup`: the setup that some settings name.
-/

import Dialogue.Agent.Setup
import Dialogue.Files
import Dialogue.Intent

namespace Dialogue

open Json

/-- The orders in which the entries of files are handed on, by how many files were read before. -/
structure Delivery where
  arrange : Nat → List (String × String) → List (String × String)
  perm : ∀ earlier entries, (arrange earlier entries).Perm entries

/-- Every entry is handed on where it is written. -/
def Delivery.asWritten : Delivery := ⟨fun _ entries => entries, fun _ _ => .refl _⟩

/-- What a loading reads from. -/
structure Source where
  files : Files
  delivery : Delivery

/-- A step that reads from a tree of files; what is noted survives a fault. -/
abbrev Loading (α : Type) := ReaderT Source (ExceptT LoadFault (StateM (List Notice))) α

namespace Loading

variable {α : Type}

/-- The outcome of some loading after what was noted before, and what is noted, in order. -/
def runAfter (source : Source) (notices : List Notice) (loading : Loading α) :
    Except LoadFault α × List Notice :=
  (loading source).run notices

/-- The outcome of some loading, and what is noted, in order. -/
def runFrom (source : Source) (loading : Loading α) : Except LoadFault α × List Notice :=
  loading.runAfter source []

/-- The outcome where every entry is handed on where it is written. -/
def runOn (files : Files) (loading : Loading α) : Except LoadFault α × List Notice :=
  loading.runFrom ⟨files, .asWritten⟩

/-- The value of a shape in a file. -/
def json (decoder : Decoder α) (path : String) : Loading α := do
  match (← read).files.read path with
  | .error fault => throw (.file fault)
  | .ok text =>
    match decode? decoder text with
    | none => throw .form
    | some value => do
      modify fun notices => notices ++ [.fileLoaded path]
      pure value

/-- The name of what a file holds: its own name in lower case, without the extension. -/
def resourceName (path : String) : Loading String :=
  match fileStem? path with
  | some stem => pure (Text.lower stem)
  | none => throw (.resource path "file name has no usable stem")

/-- The names and values in a file, as they are handed on. Of two values with one name the later one
counts. -/
def entries (path : String) : Loading (List (String × String)) := do
  let earlier := (← get).length
  let table ← json (Decoder.table Decoder.string) path
  return (← read).delivery.arrange earlier (Table.ofEntries table)

def settings (path : String) : Loading Settings := json Settings.decode path

/-- The model of the intents in a file. -/
def intentModel (path : String) : Loading IntentModel := do
  return IntentModel.ofIntents (← json (Decoder.list Intent.decode) path)

/-- The members and the name of the set in a file. -/
def wordSet (path : String) : Loading (String × List String) := do
  let members ← json (Decoder.list Decoder.string) path
  return (← resourceName path, members)

/-- The entries and the name of the map in a file. -/
def map (path : String) : Loading (String × List (String × String)) := do
  let entries ← entries path
  return (← resourceName path, entries)

/-- What an agent is made of according to its settings, beside what chooses. -/
def setup (generator : Generator) (settings : Settings) : Loading Setup := do
  let definitions ← settings.categoryFiles.mapM (json (Decoder.list Definition.decode))
  let properties ← settings.profileFile.toList.mapM entries
  let predicates ← settings.predicatesFile.toList.mapM entries
  let sets ← settings.setFiles.mapM wordSet
  let maps ← settings.mapFiles.mapM map
  let substitutions ← settings.substitutionFiles.mapM fun entry => do
    return (entry.1, ← entries entry.2)
  let models ← settings.classifierFile.toList.mapM intentModel
  return {
    generator := generator
    settings := settings
    definitions := definitions.flatten
    properties := properties.flatten
    predicates := predicates.flatten
    sets := sets
    maps := maps.foldl (fun maps entry => maps.registerTable entry.1 entry.2) {}
    substitutions := substitutions.foldl (fun substitutions entry =>
      substitutions.extend entry.1 entry.2) {}
    classifier := models.head?.map IntentModel.bestMatch }

end Loading

end Dialogue
