/-
**The state of an agent.**

* `Agent`: what a bot knows, remembers and is set to;
* `Agent.scope`, `Agent.lookup`: how its knowledge and memory decide which category answers;
* `Agent.addCategory`, `Agent.removeCategory`, `Agent.learn`, `Agent.unlearn`: how its repertoire
  changes.
-/

import Dialogue.Calendar.Layout
import Dialogue.Draws
import Dialogue.Knowledge.Maps
import Dialogue.Knowledge.Profile
import Dialogue.Knowledge.Substitutions
import Dialogue.Knowledge.WordSets
import Dialogue.Memory.History
import Dialogue.Memory.Predicates
import Dialogue.Settings

namespace Dialogue

/-- What is noted, and the text, when a date is written for a locale, a time zone and a layout. -/
structure DateWriter where
  write : Option String → Option String → String → List Notice × String
  /-- Nothing else is noted. -/
  isAboutDate_of_mem : ∀ locale timezone layout, ∀ notice ∈ (write locale timezone layout).1,
    notice.isAboutDate

instance : CoeFun DateWriter
    (fun _ => Option String → Option String → String → List Notice × String) where
  coe := DateWriter.write

/-- The notice of a date that has no text. -/
def Calendar.Fault.notice : Calendar.Fault → Notice
  | .layout written => .invalidDateFormat written
  | .timezone written => .invalidTimezone written

theorem isAboutDate_notice (fault : Calendar.Fault) : fault.notice.isAboutDate := by
  cases fault <;> rfl

/-- A date in a time zone and a layout; empty, and noted, if one of them means nothing. -/
def writeDate (instant : Calendar.Instant) : DateWriter where
  write _ timezone layout :=
    match Calendar.format instant timezone layout with
    | .ok text => ([], text)
    | .error fault => ([fault.notice], "")
  isAboutDate_of_mem _ timezone layout notice member := by
    split at member
    · cases member
    · rw [List.mem_singleton.mp member]
      exact isAboutDate_notice _

/-- The same, with a note that a locale makes no difference. -/
def writeDateNotingLocale (instant : Calendar.Instant) : DateWriter where
  write locale timezone layout :=
    let written := writeDate instant locale timezone layout
    ((locale.map Notice.localeIgnored).toList ++ written.1, written.2)
  isAboutDate_of_mem locale timezone layout notice member := by
    rcases List.mem_append.mp member with ignored | written
    · cases locale with
      | none => cases ignored
      | some locale =>
        rw [List.mem_singleton.mp ignored]
        rfl
    · exact (writeDate instant).isAboutDate_of_mem locale timezone layout notice written

/-- What an input that no category answers is to be replaced by. -/
abbrev Classifier := String → Option String

/-- A bot in conversation. -/
structure Agent where
  settings : Settings
  repertoire : Repertoire
  predicates : Predicates
  history : History
  profile : Profile
  sets : WordSets
  maps : Maps
  substitutions : Substitutions
  dates : DateWriter
  classifier : Option Classifier
  draws : Draws

namespace Agent

/-- How the agent brings words to the form that is compared. -/
def normalizer (agent : Agent) : Normalizer := agent.settings.normalizer

/-! ### Matching -/

/-- The tests of words that depend on the agent. A predicate matches only if it was set, and to
something visible. -/
def scope (agent : Agent) : Scope where
  inSet name word := agent.sets.contains name word
  isBot name word :=
    (agent.profile.get? name).any fun value => agent.normalizer.key (Text.trim value) == word
  isPredicate name word :=
    let value := Text.trim (agent.predicates.get name)
    agent.predicates.isSet name && !value.isEmpty && agent.normalizer.key value == word

/-- The words of a context, and those that stand for a missing one if it has none. -/
def contextWords (agent : Agent) (context : String) : List InputWord :=
  match agent.normalizer.tokenize context with
  | [] => agent.normalizer.tokenize agent.settings.defaultContext
  | words => words

/-- The words of the last sentence of the last response. -/
def thatWords (agent : Agent) : List InputWord := agent.contextWords (agent.history.that 1 1)

/-- The words of the topic. -/
def topicWords (agent : Agent) : List InputWord :=
  agent.contextWords (agent.predicates.get "topic")

/-- The category that answers some words now. -/
def lookup (agent : Agent) (words : List InputWord) : Option Match :=
  agent.repertoire.store.lookup agent.scope words agent.thatWords agent.topicWords

/-- The sentences of an input that are answered one by one. -/
def inputSentences (agent : Agent) (input : String) : List String :=
  if agent.settings.splitSentences then Text.sentences input else [Text.trim input]

/-! ### Changing the repertoire -/

/-- The agent with its repertoire changed. -/
def mapRepertoire (agent : Agent) (image : Repertoire → Repertoire) : Agent :=
  { agent with repertoire := image agent.repertoire }

/-- The agent with a loaded category. -/
def addCategory (agent : Agent) (category : Category) : Agent :=
  agent.mapRepertoire fun repertoire => repertoire.add category

/-- The agent without any category under a key. -/
def removeCategory (agent : Agent) (key : Key) : Agent :=
  agent.mapRepertoire fun repertoire => repertoire.remove key

/-- The agent with a category that it learned. -/
def learn (agent : Agent) (category : Category) : Agent :=
  agent.mapRepertoire fun repertoire => repertoire.learn category

/-- The agent without the categories that its settings say it is to forget. -/
def unlearn (agent : Agent) : Agent :=
  agent.mapRepertoire fun repertoire => repertoire.unlearn agent.settings.unlearnPolicy

end Agent

end Dialogue
