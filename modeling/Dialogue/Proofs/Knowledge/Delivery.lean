/-
**What an agent that is loaded from files knows, whatever the order of their entries.**

The entries of a file of names and values are handed on in an order that nothing fixes. Two loadings
of the same files that differ in these orders read, note and fail alike, and if every file is
coherent under the form in which its names are compared, the agents know the same.

* `SameOutcome`, `Loading.Alike`: related results after the same notices, or the same fault; kept
  from step to step (`Alike.bind`, `Alike.mapM`);
* `alike_entries`: the one step at which the orders matter;
* `Agent.KnowsAs`: agents with the same predicates, properties, maps and substitutions;
* `setup_delivery`: loading under two orders.
-/

import Dialogue.Agent.Loading
import Dialogue.Proofs.Knowledge.Arrangement
import Mathlib.Data.List.Forall2

namespace Dialogue

open Json Text

variable {α β : Type}

/-! ### Loadings that differ in the order of entries -/

/-- **The outcomes of two loadings with the same notices**: results that are related, or one
fault. -/
inductive SameOutcome (Related : α → α → Prop) :
    Except LoadFault α × List Notice → Except LoadFault α × List Notice → Prop where
  | ok {first second : α} {notices : List Notice} : Related first second →
      SameOutcome Related (.ok first, notices) (.ok second, notices)
  | error {fault : LoadFault} {notices : List Notice} :
      SameOutcome Related (.error fault, notices) (.error fault, notices)

/-- Outcomes stay related where their results do. -/
theorem SameOutcome.imp {Related Other : α → α → Prop}
    {first second : Except LoadFault α × List Notice} (same : SameOutcome Related first second)
    (implies : ∀ value other, Related value other → Other value other) :
    SameOutcome Other first second := by
  cases same with
  | ok related => exact .ok (implies _ _ related)
  | error => exact .error

/-- What related results have in common is the same in both outcomes. -/
theorem SameOutcome.map_eq {Related : α → α → Prop}
    {first second : Except LoadFault α × List Notice} (same : SameOutcome Related first second)
    {view : α → β} (common : ∀ value other, Related value other → view value = view other) :
    first.1.toOption.map view = second.1.toOption.map view := by
  cases same with
  | ok related => exact congrArg some (common _ _ related)
  | error => rfl

namespace Loading

/-- A loading is followed by another one where the first left off, unless it fails. -/
theorem runAfter_bind (loading : Loading α) (next : α → Loading β) (source : Source)
    (notices : List Notice) :
    (loading >>= next).runAfter source notices =
      match loading.runAfter source notices with
      | (.ok value, noted) => (next value).runAfter source noted
      | (.error fault, noted) => (.error fault, noted) := by
  simp only [runAfter, bind, ReaderT.bind, ExceptT.bind, ExceptT.mk, ExceptT.bindCont,
    ExceptT.run, StateT.bind]
  cases loading source notices with
  | mk result noted => cases result <;> rfl

theorem runAfter_json (decoder : Decoder α) (path : String) (source : Source)
    (notices : List Notice) :
    (json decoder path).runAfter source notices =
      match source.files.read path with
      | .error fault => (.error (.file fault), notices)
      | .ok text =>
        match decode? decoder text with
        | none => (.error .form, notices)
        | some value => (.ok value, notices ++ [.fileLoaded path]) := by
  rw [json, runAfter_bind]
  change Loading.runAfter source notices _ = _
  cases source.files.read path with
  | error fault => rfl
  | ok text =>
    dsimp only
    cases decode? decoder text <;> rfl

/-- The entries of a file are handed on in the order for it. -/
theorem runAfter_entries (path : String) (source : Source) (notices : List Notice) :
    (entries path).runAfter source notices =
      match (json (Decoder.table Decoder.string) path).runAfter source notices with
      | (.ok table, noted) =>
        (.ok (source.delivery.arrange notices.length (Table.ofEntries table)), noted)
      | (.error fault, noted) => (.error fault, noted) := by
  rw [entries, runAfter_bind]
  change Loading.runAfter source notices _ = _
  rw [runAfter_bind]
  cases (json (Decoder.table Decoder.string) path).runAfter source notices with
  | mk result noted => cases result <;> rfl

/-- Loadings with the same outcome from two sources. -/
def Alike (source other : Source) (Related : α → α → Prop) (first second : Loading α) : Prop :=
  ∀ notices, SameOutcome Related (first.runAfter source notices) (second.runAfter other notices)

namespace Alike

variable {source other : Source} {Related : α → α → Prop} {RelatedNext : β → β → Prop}

theorem pure {first second : α} (related : Related first second) :
    Alike source other Related (Pure.pure first) (Pure.pure second) :=
  fun _ => .ok related

theorem bind {first second : Loading α} {next nextOther : α → Loading β}
    (step : Alike source other Related first second)
    (later : ∀ value valueOther, Related value valueOther →
      Alike source other RelatedNext (next value) (nextOther valueOther)) :
    Alike source other RelatedNext (first >>= next) (second >>= nextOther) := by
  intro notices
  have here := step notices
  rw [runAfter_bind, runAfter_bind]
  generalize first.runAfter source notices = outcome,
    second.runAfter other notices = outcome' at here
  cases here with
  | ok related => exact later _ _ related _
  | error => exact .error

theorem mapM {ι : Type} {items : List ι} {load : ι → Loading α}
    (step : ∀ item ∈ items, Alike source other Related (load item) (load item)) :
    Alike source other (List.Forall₂ Related) (items.mapM load) (items.mapM load) := by
  induction items with
  | nil => exact .pure .nil
  | cons item items ih =>
    rw [List.mapM_cons]
    refine (step item List.mem_cons_self).bind fun first second here => ?_
    refine (ih fun item member => step item (List.mem_cons_of_mem _ member)).bind ?_
    exact fun others others' later => .pure (.cons here later)

end Alike

section Steps

variable {files : Files} {delivery other : Delivery}

/-- Where no order matters, nothing differs. -/
theorem alike_json (decoder : Decoder α) (path : String) :
    Alike ⟨files, delivery⟩ ⟨files, other⟩ Eq (json decoder path) (json decoder path) := by
  intro notices
  rw [runAfter_json, runAfter_json]
  dsimp only
  cases files.read path with
  | error fault => exact .error
  | ok text =>
    dsimp only
    cases decode? decoder text with
    | none => exact .error
    | some value => exact .ok rfl

theorem alike_resourceName (path : String) :
    Alike ⟨files, delivery⟩ ⟨files, other⟩ Eq (resourceName path) (resourceName path) := by
  intro notices
  unfold resourceName
  cases fileStem? path with
  | none => exact .error
  | some stem => exact .ok rfl

end Steps

end Loading

/-- The names and values in a file, if it has any. -/
def Files.entries? (files : Files) (path : String) : Option (List (String × String)) :=
  match files.read path with
  | .error _ => none
  | .ok text => (decode? (Decoder.table Decoder.string) text).map Table.ofEntries

section Entries

variable {κ : Type}

/-- A file that says one thing about each name, where it has names and values at all. -/
def Files.CoherentAt (files : Files) (form : String → Option κ) (path : String) : Prop :=
  ∀ entries ∈ files.entries? path, Coherent form entries

variable [DecidableEq κ] {form : String → Option κ} {files : Files} {delivery other : Delivery}

instance (path : String) : Decidable (files.CoherentAt form path) :=
  inferInstanceAs (Decidable (∀ entries ∈ files.entries? path, Coherent form entries))

/-- **The entries of a coherent file say the same in every order.** Whether it is coherent depends
on what is assumed; the orders never matter to what is read and noted. -/
theorem Loading.alike_entries {Assumed : Prop} {path : String}
    (coherent : Assumed → files.CoherentAt form path) :
    Alike ⟨files, delivery⟩ ⟨files, other⟩
      (fun first second => Assumed → SameValues form first second)
      (entries path) (entries path) := by
  intro notices
  rw [runAfter_entries, runAfter_entries, runAfter_json, runAfter_json]
  dsimp only
  unfold Files.CoherentAt Files.entries? at coherent
  cases read : files.read path with
  | error fault => exact .error
  | ok text =>
    rw [read] at coherent
    dsimp only at coherent ⊢
    cases decoded : decode? (Decoder.table Decoder.string) text with
    | none => exact .error
    | some table =>
      rw [decoded] at coherent
      refine .ok fun assumed => ?_
      have same := coherent_iff.mp (coherent assumed (Table.ofEntries table) rfl)
      exact same _ _ (delivery.perm _ _) (other.perm _ _)

end Entries

/-! ### Setups -/

/-- **Every file of names and values says one thing about each name**, in the form in which its
names are compared. -/
structure Settings.CoherentIn (settings : Settings) (files : Files) : Prop where
  properties : ∀ path ∈ settings.profileFile.toList, files.CoherentAt canonicalForm path
  predicates : ∀ path ∈ settings.predicatesFile.toList, files.CoherentAt canonicalForm path
  maps : ∀ path ∈ settings.mapFiles, files.CoherentAt canonicalForm path
  substitutions : ∀ entry ∈ settings.substitutionFiles, files.CoherentAt phraseForm entry.2

/-- Setups with one generator that differ at most in the order of what their entries say. -/
structure Setup.SaysAs (first second : Setup) : Prop where
  generator : first.generator = second.generator
  settings : first.settings = second.settings
  definitions : first.definitions = second.definitions
  properties : SameValues canonicalForm first.properties second.properties
  predicates : SameValues canonicalForm first.predicates second.predicates
  sets : first.sets = second.sets
  maps (name argument : String) : first.maps.call? name argument = second.maps.call? name argument
  substitutions : first.substitutions.SameAs second.substitutions
  dates : first.dates = second.dates
  classifier : first.classifier = second.classifier

/-- **Agents that know the same**: every predicate, property, map and substitution has the same
value, and nothing else differs. -/
structure Agent.KnowsAs (first second : Agent) : Prop where
  predicate (name : String) : first.predicates.get name = second.predicates.get name
  isSet (name : String) : first.predicates.isSet name = second.predicates.isSet name
  property (name : String) : first.profile.get? name = second.profile.get? name
  map (name argument : String) : first.maps.call? name argument = second.maps.call? name argument
  substitution (kind : SubstitutionKind) (text : String) :
    first.substitutions.apply kind text = second.substitutions.apply kind text
  others : ({ first with
    predicates := second.predicates
    profile := second.profile
    maps := second.maps
    substitutions := second.substitutions } : Agent) = second

/-- Agents that are built from the same know the same. -/
theorem Setup.SaysAs.knowsAs {first second : Setup} (same : first.SaysAs second) :
    first.build.1.KnowsAs second.build.1 where
  predicate name := by
    change first.initialPredicates.get name = second.initialPredicates.get name
    rw [get_initialPredicates, get_initialPredicates, same.predicates, same.settings]
  isSet name := by
    change first.initialPredicates.isSet name = second.initialPredicates.isSet name
    rw [isSet_initialPredicates, isSet_initialPredicates, same.predicates]
  property name := by
    change (Profile.ofEntries _).get? name = (Profile.ofEntries _).get? name
    rw [Profile.get?_ofEntries, Profile.get?_ofEntries, same.properties]
  map := same.maps
  substitution := same.substitutions.apply_eq
  others := by
    have sets : first.wordSets = second.wordSets := by
      rw [wordSets, wordSets, same.sets, same.settings]
    simp only [build, same.generator, same.settings, same.definitions, same.dates,
      same.classifier, sets]

/-! ### Loading a setup -/

namespace Loading

section Setups

variable {files : Files} {delivery other : Delivery}

theorem alike_wordSet (path : String) :
    Alike ⟨files, delivery⟩ ⟨files, other⟩ Eq (wordSet path) (wordSet path) := by
  refine (alike_json _ path).bind fun members _ sameMembers => ?_
  refine (alike_resourceName path).bind fun name _ sameName => .pure ?_
  rw [sameMembers, sameName]

theorem alike_intentModel (path : String) :
    Alike ⟨files, delivery⟩ ⟨files, other⟩ Eq (intentModel path) (intentModel path) := by
  refine (alike_json _ path).bind fun intents _ same => .pure ?_
  rw [same]

theorem alike_map {Assumed : Prop} {path : String}
    (coherent : Assumed → files.CoherentAt canonicalForm path) :
    Alike ⟨files, delivery⟩ ⟨files, other⟩
      (fun first second => Assumed →
        first.1 = second.1 ∧ SameValues canonicalForm first.2 second.2) (map path) (map path) := by
  refine (alike_entries coherent).bind fun entries others same => ?_
  exact (alike_resourceName path).bind fun name _ sameName =>
    .pure fun assumed => ⟨sameName, same assumed⟩

/-- **Setups that are loaded from coherent files say the same in every order.** -/
theorem alike_setup (generator : Generator) (settings : Settings) :
    Alike ⟨files, delivery⟩ ⟨files, other⟩
      (fun first second => settings.CoherentIn files → first.SaysAs second)
      (setup generator settings) (setup generator settings) := by
  refine (Alike.mapM fun path _ => alike_json _ path).bind
    fun definitions _ sameDefinitions => ?_
  refine (Alike.mapM fun path named => alike_entries fun coherent : settings.CoherentIn files =>
    coherent.properties path named).bind fun properties _ sameProperties => ?_
  refine (Alike.mapM fun path named => alike_entries fun coherent : settings.CoherentIn files =>
    coherent.predicates path named).bind fun predicates _ samePredicates => ?_
  refine (Alike.mapM fun path _ => alike_wordSet path).bind fun sets _ sameSets => ?_
  refine (Alike.mapM fun path named => alike_map fun coherent : settings.CoherentIn files =>
    coherent.maps path named).bind fun maps _ sameMaps => ?_
  have substitutions : ∀ entry ∈ settings.substitutionFiles, Alike ⟨files, delivery⟩ ⟨files, other⟩
      (fun first second => settings.CoherentIn files →
        first.1 = second.1 ∧ SameValues phraseForm first.2 second.2)
      (do return (entry.1, ← entries entry.2)) (do return (entry.1, ← entries entry.2)) :=
    fun entry named => (alike_entries fun coherent : settings.CoherentIn files =>
      coherent.substitutions entry named).bind
        fun entries others same => .pure fun coherent => ⟨rfl, same coherent⟩
  refine (Alike.mapM substitutions).bind fun substitutions _ sameSubstitutions => ?_
  refine (Alike.mapM fun path _ => alike_intentModel path).bind fun models _ sameModels => ?_
  rw [List.forall₂_eq_eq_eq] at sameDefinitions sameSets sameModels
  refine .pure fun coherent => ?_
  exact {
    generator := rfl
    settings := rfl
    definitions := congrArg List.flatten sameDefinitions
    properties := .flatten (sameProperties.imp fun _ _ same => same coherent)
    predicates := .flatten (samePredicates.imp fun _ _ same => same coherent)
    sets := sameSets
    maps := Maps.call?_registerAll (sameMaps.imp fun _ _ same => same coherent) fun _ _ => rfl
    substitutions := Substitutions.SameAs.extendAll (fun _ => .none)
      (sameSubstitutions.imp fun _ _ same => same coherent)
    dates := rfl
    classifier := congrArg (fun models : List IntentModel =>
      models.head?.map IntentModel.bestMatch) sameModels }

end Setups

end Loading

/-- **What an agent knows does not depend on the order in which the entries of its files are handed
on**, if each file says one thing about each name.

Two loadings of the same files either fail alike or give two setups, after the same notices. If the
files are coherent, agents with one generator know the same: names count as one where the agent
takes them for one, for properties, predicates and maps if they agree after trimming and lowering,
for substitutions if they have the same words in lower case. -/
theorem setup_delivery (generator : Generator) (settings : Settings) (files : Files)
    (delivery other : Delivery) :
    SameOutcome
      (fun first second => settings.CoherentIn files → first.build.1.KnowsAs second.build.1)
      ((Loading.setup generator settings).runFrom ⟨files, delivery⟩)
      ((Loading.setup generator settings).runFrom ⟨files, other⟩) :=
  (Loading.alike_setup generator settings []).imp fun _ _ same coherent => (same coherent).knowsAs

/-- Every entry is handed on in place of its opposite. -/
def Delivery.reversed : Delivery :=
  ⟨fun _ entries => entries.reverse, fun _ entries => List.reverse_perm entries⟩

/-- One coherent file for everything, handed on in two orders. -/
theorem setup_delivery_reversed :
    let settings : Settings :=
      { profileFile := some "names.json"
        predicatesFile := some "names.json"
        mapFiles := ["names.json"]
        substitutionFiles := [(.person, "names.json")] }
    let files : Files := .ofEntries
      [("names.json", "\x7b\"Name\": \"Ada\", \"me\": \"you\", \"NAME\": \"Ada\"\x7d".toUTF8)]
    let generator : Generator := fun _ => .first
    settings.CoherentIn files ∧
      ((Loading.setup generator settings).runFrom ⟨files, .asWritten⟩).1.isOk ∧
      SameOutcome (fun first second => first.build.1.KnowsAs second.build.1)
        ((Loading.setup generator settings).runFrom ⟨files, .asWritten⟩)
        ((Loading.setup generator settings).runFrom ⟨files, .reversed⟩) := by
  intro settings files generator
  have coherent : settings.CoherentIn files :=
    ⟨by decide +kernel, by decide +kernel, by decide +kernel, by decide +kernel⟩
  have same := setup_delivery generator settings files .asWritten .reversed
  exact ⟨coherent, by decide +kernel, same.imp fun _ _ known => known coherent⟩

/-- **Names that differ in case alone leave it to the order which of their values is known.** -/
theorem not_setup_delivery : ¬ ∀ (generator : Generator) (settings : Settings) (files : Files)
    (delivery other : Delivery),
    SameOutcome (fun first second => first.build.1.KnowsAs second.build.1)
      ((Loading.setup generator settings).runFrom ⟨files, delivery⟩)
      ((Loading.setup generator settings).runFrom ⟨files, other⟩) := by
  intro same
  have outcome := same (fun _ => .first) { profileFile := some "bot.json" }
    (.ofEntries [("bot.json", "\x7b\"Name\": \"Ada\", \"name\": \"Bob\"\x7d".toUTF8)])
    .asWritten .reversed
  have names := outcome.map_eq fun first second known => known.property "name"
  exact absurd names (by decide +kernel)

end Dialogue
