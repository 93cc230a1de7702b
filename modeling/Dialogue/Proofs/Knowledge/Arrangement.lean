/-
**What entries say, whatever their order.**

Names are compared in a form of their own, and of two entries whose names have one form the later
one counts. So the order of entries makes no difference exactly if they are coherent: what has one
form has one value.

* `lastValue`, `SameValues`: what entries say, and entries that say the same;
* `Coherent`, `coherent_iff`: entries that say the same in every order;
* `Profile.get?_ofEntries`, `Setup.get_initialPredicates`, `Maps.call?_registerTable`: properties,
  predicates and maps go by what their entries say;
* `PhraseTable.phrases_addAll`, `PhraseTable.longest_addAll_le_iff`: a table of phrases goes by what
  its entries say as well, and so do substitutions (`Substitutions.SameAs.apply_eq`).
-/

import Dialogue.Agent.Setup
import Dialogue.Proofs.Text.Lowering
import Mathlib.Data.List.Induction
import Mathlib.Order.Basic

namespace Dialogue

open Text

section Values

variable {κ : Type} {form : String → Option κ}

/-! ### What entries say -/

/-- **Entries whose names have one form have one value.** Names without a form do not matter. -/
def Coherent (form : String → Option κ) (entries : List (String × String)) : Prop :=
  ∀ first ∈ entries, ∀ second ∈ entries,
    (form first.1).isSome → form first.1 = form second.1 → first.2 = second.2

theorem Coherent.perm {entries other : List (String × String)} (coherent : Coherent form entries)
    (perm : other.Perm entries) : Coherent form other := by
  intro first firstMember second secondMember
  exact coherent first (perm.mem_iff.mp firstMember) second (perm.mem_iff.mp secondMember)

variable [DecidableEq κ]

instance (form : String → Option κ) (entries : List (String × String)) :
    Decidable (Coherent form entries) :=
  inferInstanceAs (Decidable (∀ first ∈ entries, ∀ second ∈ entries,
    (form first.1).isSome → form first.1 = form second.1 → first.2 = second.2))

/-- **What entries say about names of a form**: the value of the last one, if there is one. -/
def lastValue (form : String → Option κ) (entries : List (String × String)) (key : κ) :
    Option String :=
  (entries.reverse.find? fun entry => form entry.1 = some key).map Prod.snd

/-- Entries that say the same. -/
def SameValues (form : String → Option κ) (first second : List (String × String)) : Prop :=
  ∀ key, lastValue form first key = lastValue form second key

/-- What later entries say counts. -/
theorem lastValue_append (first second : List (String × String)) (key : κ) :
    lastValue form (first ++ second) key =
      (lastValue form second key).or (lastValue form first key) := by
  rw [lastValue, List.reverse_append, List.find?_append, Option.map_or]
  rfl

theorem lastValue_concat (entries : List (String × String)) (entry : String × String) (key : κ) :
    lastValue form (entries ++ [entry]) key =
      if form entry.1 = some key then some entry.2 else lastValue form entries key := by
  rw [lastValue_append]
  by_cases said : form entry.1 = some key
  · simp [lastValue, said]
  · simp [lastValue, said]

theorem SameValues.flatten {lists others : List (List (String × String))}
    (same : List.Forall₂ (SameValues form) lists others) :
    SameValues form lists.flatten others.flatten := by
  induction same with
  | nil => exact fun _ => rfl
  | cons here _ ih =>
    intro key
    rw [List.flatten_cons, List.flatten_cons, lastValue_append, lastValue_append, here, ih]

theorem mem_of_lastValue {entries : List (String × String)} {key : κ} {value : String}
    (said : lastValue form entries key = some value) :
    ∃ entry ∈ entries, form entry.1 = some key ∧ entry.2 = value := by
  obtain ⟨entry, found, same⟩ := Option.map_eq_some_iff.mp said
  have named := List.find?_some found
  exact ⟨entry, List.mem_reverse.mp (List.mem_of_find?_eq_some found), by simpa using named, same⟩

theorem lastValue_eq_none_iff {entries : List (String × String)} {key : κ} :
    lastValue form entries key = none ↔ ∀ entry ∈ entries, form entry.1 ≠ some key := by
  simp [lastValue]

/-- Entries whose forms are mapped to others without loss say the same under those. -/
theorem lastValue_map {ι : Type} [DecidableEq ι] {image : κ → ι} {source : ι → κ}
    (inverse : ∀ name key, form name = some key → source (image key) = key)
    (entries : List (String × String)) (key : ι) :
    lastValue (fun name => (form name).map image) entries key =
      if image (source key) = key then lastValue form entries (source key) else none := by
  induction entries using List.reverseRecOn with
  | nil => simp [lastValue]
  | append_singleton entries entry ih =>
    have formed : (form entry.1).map image = some key ↔
        image (source key) = key ∧ form entry.1 = some (source key) := by
      rw [Option.map_eq_some_iff]
      constructor
      · rintro ⟨key, named, rfl⟩
        rw [inverse _ _ named]
        exact ⟨rfl, named⟩
      · rintro ⟨same, named⟩
        exact ⟨_, named, same⟩
    rw [lastValue_concat, lastValue_concat, ih]
    simp only [formed]
    split <;> simp_all

/-- Coherent entries say what any of them says. -/
theorem Coherent.lastValue_eq_some_iff {entries : List (String × String)}
    (coherent : Coherent form entries) {key : κ} {value : String} :
    lastValue form entries key = some value ↔
      ∃ entry ∈ entries, form entry.1 = some key ∧ entry.2 = value := by
  refine ⟨mem_of_lastValue, ?_⟩
  rintro ⟨entry, member, named, rfl⟩
  cases said : lastValue form entries key with
  | none => exact absurd named (lastValue_eq_none_iff.mp said entry member)
  | some value =>
    obtain ⟨other, otherMember, otherNamed, rfl⟩ := mem_of_lastValue said
    refine congrArg some (coherent other otherMember entry member ?_ ?_)
    · rw [otherNamed]
      rfl
    · rw [otherNamed, named]

/-- **Entries say the same in every order exactly if they are coherent.** -/
theorem coherent_iff {entries : List (String × String)} :
    Coherent form entries ↔ ∀ first second : List (String × String),
      first.Perm entries → second.Perm entries → SameValues form first second := by
  constructor
  · intro coherent first second perm perm' key
    refine Option.ext fun value => ?_
    rw [(coherent.perm perm).lastValue_eq_some_iff, (coherent.perm perm').lastValue_eq_some_iff]
    simp only [perm.mem_iff, perm'.mem_iff]
  · intro same first firstMember second secondMember named formed
    obtain ⟨key, key_eq⟩ := Option.isSome_iff_exists.mp named
    -- an entry that comes last has its say
    have last : ∀ entry ∈ entries, form entry.1 = some key →
        ∃ order, order.Perm entries ∧ lastValue form order key = some entry.2 := by
      intro entry member entry_eq
      refine ⟨entries.erase entry ++ [entry], ?_, ?_⟩
      · exact List.perm_append_comm.trans (List.perm_cons_erase member).symm
      · rw [lastValue_concat, if_pos entry_eq]
    obtain ⟨order, perm, said⟩ := last first firstMember key_eq
    obtain ⟨order', perm', said'⟩ := last second secondMember (formed.symm.trans key_eq)
    have both := same order order' perm perm' key
    rw [said, said'] at both
    exact Option.some.inj both

/-! ### Tables -/

namespace Table

/-- A table with the value of an entry under the form of its name, if it has one. -/
def setEntry (form : String → Option κ) (table : Table κ String) (entry : String × String) :
    Table κ String :=
  match form entry.1 with
  | none => table
  | some key => table.set key entry.2

/-- A table in which the values of some entries are set, one after the other. -/
def setAll (form : String → Option κ) (entries : List (String × String))
    (table : Table κ String) : Table κ String :=
  entries.foldl (setEntry form) table

theorem setAll_concat (entries : List (String × String)) (entry : String × String)
    (table : Table κ String) :
    setAll form (entries ++ [entry]) table = (setAll form entries table).setEntry form entry :=
  List.foldl_append

/-- **A table has what the entries say**, and else what it had before. -/
theorem get?_setAll (entries : List (String × String)) (table : Table κ String) (key : κ) :
    (setAll form entries table).get? key = (lastValue form entries key).or (table.get? key) := by
  induction entries using List.reverseRecOn with
  | nil => rfl
  | append_singleton entries entry ih =>
    rw [setAll_concat, lastValue_concat, setEntry]
    cases named : form entry.1 with
    | none => simpa using ih
    | some other =>
      by_cases same : other = key
      · subst same
        simp
      · have differ : key ≠ other := fun equal => same equal.symm
        simpa [same, get?_set_of_ne differ] using ih

end Table

end Values

/-! ### Names that ignore case -/

/-- The form of a name that ignores case. -/
def canonicalForm (name : String) : Option String := some (canonical name)

theorem Table.ofEntries_canonical (entries : List (String × String)) :
    Table.ofEntries (entries.map fun entry => (canonical entry.1, entry.2)) =
      Table.setAll canonicalForm entries [] :=
  List.foldl_map

/-- A profile has what its entries say. -/
theorem Profile.get?_ofEntries (entries : List (String × String)) (name : String) :
    (Profile.ofEntries entries).get? name = lastValue canonicalForm entries (canonical name) := by
  rw [ofEntries, get?, Table.ofEntries_canonical, Table.get?_setAll, Table.get?_nil,
    Option.or_none]

/-- The predicates of a setup are set to what its entries say. -/
theorem Setup.values_initialPredicates (setup : Setup) :
    setup.initialPredicates.values = Table.setAll canonicalForm setup.predicates [] ∧
      setup.initialPredicates.default = setup.settings.defaultPredicate := by
  have all : ∀ (entries : List (String × String)) (start : Predicates),
      let finish := entries.foldl (fun predicates entry => predicates.set entry.1 entry.2) start
      finish.values = Table.setAll canonicalForm entries start.values ∧
        finish.default = start.default := by
    intro entries
    induction entries with
    | nil => exact fun start => ⟨rfl, rfl⟩
    | cons entry entries ih => exact fun start => ih (start.set entry.1 entry.2)
  exact all setup.predicates _

theorem Setup.get_initialPredicates (setup : Setup) (name : String) :
    setup.initialPredicates.get name =
      (lastValue canonicalForm setup.predicates (canonical name)).getD
        setup.settings.defaultPredicate := by
  obtain ⟨values, default⟩ := setup.values_initialPredicates
  rw [Predicates.get, values, default, Table.get?_setAll, Table.get?_nil, Option.or_none]

theorem Setup.isSet_initialPredicates (setup : Setup) (name : String) :
    setup.initialPredicates.isSet name =
      (lastValue canonicalForm setup.predicates (canonical name)).isSome := by
  rw [Predicates.isSet, setup.values_initialPredicates.1, Table.has, Table.get?_setAll,
    Table.get?_nil, Option.or_none]

namespace Maps

/-- A map that is registered sends arguments to what its entries say. -/
theorem call?_registerTable (maps : Maps) (name : String) (entries : List (String × String))
    (other argument : String) :
    (maps.registerTable name entries).call? other argument =
      if canonical other = canonical name then
        some ((lastValue canonicalForm entries (canonical argument)).getD "")
      else maps.call? other argument := by
  rw [registerTable, register, call?, Table.ofEntries_canonical]
  by_cases same : canonical other = canonical name
  · rw [if_pos same, same, Table.get?_set_self, Option.map_some, tableMap, Table.get?_setAll,
      Table.get?_nil, Option.or_none]
  · rw [if_neg same, Table.get?_set_of_ne same]
    rfl

/-- Maps that are registered with entries that say the same send arguments to the same texts. -/
theorem call?_registerAll {first second : List (String × List (String × String))}
    (same : List.Forall₂ (fun entry other => entry.1 = other.1 ∧
      SameValues canonicalForm entry.2 other.2) first second) {maps others : Maps}
    (before : ∀ name argument, maps.call? name argument = others.call? name argument)
    (name argument : String) :
    (first.foldl (fun maps entry => maps.registerTable entry.1 entry.2) maps).call? name argument =
      (second.foldl (fun maps entry => maps.registerTable entry.1 entry.2) others).call? name
        argument := by
  induction same generalizing maps others with
  | nil => exact before name argument
  | cons here _ ih =>
    refine ih fun name argument => ?_
    rw [call?_registerTable, call?_registerTable, here.1, here.2, before]

end Maps

/-! ### Phrases -/

/-- The form of a phrase, its words in lower case; none if it has no word. -/
def phraseForm (phrase : String) : Option (List String) :=
  let key := (words phrase).map lower
  if key.isEmpty then none else some key

/-- The form under which a table has a phrase, its words in lower case and joined by spaces. -/
def joinedForm (phrase : String) : Option String := (phraseForm phrase).map unwords

theorem solid_of_phraseForm {phrase : String} {key : List String}
    (formed : phraseForm phrase = some key) : ∀ word ∈ key, Solid word.toList := by
  unfold phraseForm at formed
  dsimp only at formed
  split at formed
  · cases formed
  · cases formed
    intro word member
    obtain ⟨other, inPhrase, rfl⟩ := List.mem_map.mp member
    rw [lower, String.toList_ofList]
    exact (solid_of_mem_words inPhrase).lowerChars

/-- What entries say about phrases under their joined forms. -/
theorem lastValue_joinedForm (entries : List (String × String)) (key : String) :
    lastValue joinedForm entries key =
      if unwords (words key) = key then lastValue phraseForm entries (words key) else none :=
  lastValue_map (fun _ _ formed => words_unwords (solid_of_phraseForm formed)) entries key

theorem SameValues.joined {entries others : List (String × String)}
    (same : SameValues phraseForm entries others) : SameValues joinedForm entries others := by
  intro key
  rw [lastValue_joinedForm, lastValue_joinedForm, same]

namespace PhraseTable

theorem phrases_add (table : PhraseTable) (entry : String × String) :
    (table.add entry.1 entry.2).phrases = table.phrases.setEntry joinedForm entry := by
  unfold add Table.setEntry joinedForm phraseForm
  by_cases nothing : ((words entry.1).map lower).isEmpty
  · simp [nothing]
  · simp [nothing]

theorem phrases_addAll (entries : List (String × String)) (table : PhraseTable) :
    (entries.foldl (fun table entry => table.add entry.1 entry.2) table).phrases =
      Table.setAll joinedForm entries table.phrases := by
  induction entries generalizing table with
  | nil => rfl
  | cons entry entries ih =>
    rw [List.foldl_cons, ih, phrases_add]
    rfl

theorem longest_add_le_iff {table : PhraseTable} {entry : String × String} {bound : Nat} :
    (table.add entry.1 entry.2).longest ≤ bound ↔
      table.longest ≤ bound ∧ ∀ key, phraseForm entry.1 = some key → key.length ≤ bound := by
  unfold add phraseForm
  by_cases nothing : ((words entry.1).map lower).isEmpty
  · simp [nothing]
  · rw [if_neg nothing, if_neg nothing]
    simp only [Nat.max_le, Option.some.injEq, forall_eq']

/-- **The longest phrase of a table** is the longest one that entries say anything about, or that
was there before. -/
theorem longest_addAll_le_iff {entries : List (String × String)} {table : PhraseTable}
    {bound : Nat} :
    (entries.foldl (fun table entry => table.add entry.1 entry.2) table).longest ≤ bound ↔
      table.longest ≤ bound ∧
        ∀ key, lastValue phraseForm entries key ≠ none → key.length ≤ bound := by
  induction entries using List.reverseRecOn with
  | nil => simp [lastValue]
  | append_singleton entries entry ih =>
    rw [List.foldl_append, List.foldl_cons, List.foldl_nil, longest_add_le_iff, ih, and_assoc]
    refine and_congr_right fun _ => ⟨fun ⟨before, last⟩ key said => ?_, fun all => ⟨?_, ?_⟩⟩
    · rw [lastValue_concat] at said
      split at said
      · rename_i named
        exact last key named
      · exact before key said
    · intro key said
      refine all key ?_
      rw [lastValue_concat]
      split
      · exact Option.some_ne_none _
      · exact said
    · intro key named
      refine all key ?_
      rw [lastValue_concat, if_pos named]
      exact Option.some_ne_none _

/-- Tables with the same replacements, and longest phrases of one length. -/
structure SameAs (first second : PhraseTable) : Prop where
  get?_eq (key : String) : first.phrases.get? key = second.phrases.get? key
  longest_eq : first.longest = second.longest

variable {first second : PhraseTable}

theorem SameAs.empty : SameAs {} {} := ⟨fun _ => rfl, rfl⟩

/-- Phrases that are added from entries that say the same have the same replacements. -/
theorem SameAs.addAll (same : SameAs first second) {entries others : List (String × String)}
    (values : SameValues phraseForm entries others) :
    SameAs (entries.foldl (fun table entry => table.add entry.1 entry.2) first)
      (others.foldl (fun table entry => table.add entry.1 entry.2) second) where
  get?_eq key := by
    rw [phrases_addAll, phrases_addAll, Table.get?_setAll, Table.get?_setAll, values.joined,
      same.get?_eq]
  longest_eq := by
    refine eq_of_forall_ge_iff fun bound => ?_
    rw [longest_addAll_le_iff, longest_addAll_le_iff, same.longest_eq]
    simp only [show ∀ key, lastValue phraseForm entries key = lastValue phraseForm others key from
      values]

theorem SameAs.longestRun?_eq (same : SameAs first second) (words : List String) (length : Nat) :
    first.longestRun? words length = second.longestRun? words length := by
  induction length with
  | zero => rfl
  | succ length ih => rw [longestRun?, longestRun?, find?, find?, same.get?_eq, ih]

theorem SameAs.replace_eq (same : SameAs first second) (words : List String) :
    first.replace words = second.replace words := by
  fun_induction first.replace words with
  | case1 => rw [replace]
  | case2 word rest window length replacement found ih =>
    rw [same.longestRun?_eq] at found
    rw [replace, ← same.longest_eq, found, ih]
  | case3 word rest window nothing ih =>
    rw [same.longestRun?_eq] at nothing
    rw [replace, ← same.longest_eq, nothing, ih]

end PhraseTable

namespace Substitutions

/-- Substitutions with the same phrases for every kind. -/
def SameAs (first second : Substitutions) : Prop :=
  ∀ kind, Option.Rel PhraseTable.SameAs (first.tables.get? kind) (second.tables.get? kind)

variable {first second : Substitutions}

theorem SameAs.extend (same : SameAs first second) (kind : SubstitutionKind)
    {entries others : List (String × String)} (values : SameValues phraseForm entries others) :
    SameAs (first.extend kind entries) (second.extend kind others) := by
  intro other
  unfold Substitutions.extend
  by_cases equal : other = kind
  · subst equal
    rw [Table.get?_set_self, Table.get?_set_self]
    have before : PhraseTable.SameAs ((first.tables.get? other).getD {})
        ((second.tables.get? other).getD {}) := by
      have here := same other
      generalize first.tables.get? other = table, second.tables.get? other = table' at here
      cases here with
      | some tables => exact tables
      | none => exact .empty
    exact .some (before.addAll values)
  · rw [Table.get?_set_of_ne equal, Table.get?_set_of_ne equal]
    exact same other

theorem SameAs.extendAll (same : SameAs first second)
    {entries others : List (SubstitutionKind × List (String × String))}
    (values : List.Forall₂ (fun entry other => entry.1 = other.1 ∧
      SameValues phraseForm entry.2 other.2) entries others) :
    SameAs (entries.foldl (fun substitutions entry => substitutions.extend entry.1 entry.2) first)
      (others.foldl (fun substitutions entry => substitutions.extend entry.1 entry.2) second) := by
  induction values generalizing first second with
  | nil => exact same
  | @cons entry other entries others here _ ih =>
    refine ih ?_
    dsimp only
    rw [here.1]
    exact same.extend other.1 here.2

/-- **Substitutions with the same phrases replace the same.** -/
theorem SameAs.apply_eq (same : SameAs first second) (kind : SubstitutionKind) (text : String) :
    first.apply kind text = second.apply kind text := by
  unfold apply
  have here := same kind
  generalize first.tables.get? kind = table, second.tables.get? kind = table' at here
  cases here with
  | none => rfl
  | some tables => exact congrArg unwords (tables.replace_eq _)

end Substitutions

end Dialogue
