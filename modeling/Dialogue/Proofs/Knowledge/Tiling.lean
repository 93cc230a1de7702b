/-
**Substitution cuts a text into tiles.**

The words of a text are cut, from left to right and without remainder, into the longest phrases that
start where the one before ended, and words at which no phrase starts. There is one such tiling, and
what is written for its tiles is the text with its phrases replaced.

* `replacementOf`: what entries say about a run of words;
* `Tile`, `Tile.Fits`, `Tiling`: the tilings of a list of words; `Tiling.unique`: there is one at
  most;
* `PhraseTable.KnowsAs`: a table knows the phrases of some entries and the length of the longest
  one, as every table does that is made of them (`knowsAs_addAll`);
* `PhraseTable.longestRun?_spec`: the search finds the longest phrase within its bound;
* `PhraseTable.KnowsAs.exists_tiling`: the pass follows the tiling;
* `substitution_tiles`: so for every table that is made by extensions, and every text.
-/

import Dialogue.Proofs.Knowledge.Arrangement

namespace Dialogue

open Text

/-! ### Tiles -/

section Tiles

variable (entries : List (String × String))

/-- **What a run of words is replaced by**: the value that was given last for a phrase of the same
words, compared in lower case one by one. -/
def replacementOf (run : List String) : Option String :=
  lastValue phraseForm entries (run.map lower)

/-- Some words of a text, one after the other, and what is written for them. -/
structure Tile where
  run : List String
  output : String

/-- **What may stand in front of some words**: the longest phrase that starts there, with its
replacement in the case of what it replaces, or a word at which no phrase starts, as it is. -/
inductive Tile.Fits (rest : List String) : Tile → Prop
  | phrase {run : List String} {value : String} (said : replacementOf entries run = some value)
    (longest : ∀ other, other <+: run ++ rest → replacementOf entries other ≠ none →
      other.length ≤ run.length) :
    Fits rest ⟨run, fitCase value (unwords run)⟩
  | word {word : String}
    (nothing : ∀ other, other <+: word :: rest → replacementOf entries other = none) :
    Fits rest ⟨[word], word⟩

/-- The words of some tiles. -/
def runsOf (tiles : List Tile) : List String := tiles.flatMap Tile.run

/-- **Tiles that fit where they stand.** -/
inductive Tiling : List Tile → Prop
  | nil : Tiling []
  | cons {tile : Tile} {tiles : List Tile} (fits : tile.Fits entries (runsOf tiles))
    (tiling : Tiling tiles) : Tiling (tile :: tiles)

variable {entries}

/-- Entries say nothing about no words. -/
theorem replacementOf_nil : replacementOf entries [] = none := by
  refine lastValue_eq_none_iff.mpr fun entry _ formed => ?_
  unfold phraseForm at formed
  dsimp only at formed
  split at formed
  · cases formed
  · rename_i filled
    exact filled (by rw [Option.some.inj formed]; rfl)

theorem Tile.Fits.run_ne_nil {rest : List String} {tile : Tile} (fits : tile.Fits entries rest) :
    tile.run ≠ [] := by
  cases fits with
  | phrase said longest =>
    rintro rfl
    rw [replacementOf_nil] at said
    cases said
  | word nothing => exact List.cons_ne_nil _ _

/-- What may stand in front is determined by the words from there on. -/
theorem Tile.Fits.unique {rest others : List String} {first second : Tile}
    (fits : first.Fits entries rest) (fitsToo : second.Fits entries others)
    (same : first.run ++ rest = second.run ++ others) : first = second ∧ rest = others := by
  cases fits with
  | @phrase run value said longest =>
    cases fitsToo with
    | @phrase run' value' said' longest' =>
      dsimp only at same
      have within : run.length ≤ run'.length :=
        longest' run (same ▸ List.prefix_append run rest) (by simp [said])
      have within' : run'.length ≤ run.length :=
        longest run' (same ▸ List.prefix_append run' others) (by simp [said'])
      obtain ⟨rfl, rfl⟩ := List.append_inj same (Nat.le_antisymm within within')
      rw [said] at said'
      cases said'
      exact ⟨rfl, rfl⟩
    | word nothing =>
      have unsaid := nothing run (by rw [← List.singleton_append, ← same]; exact List.prefix_append _ _)
      rw [said] at unsaid
      cases unsaid
  | @word word nothing =>
    cases fitsToo with
    | @phrase run value said longest =>
      have unsaid := nothing run (by rw [← List.singleton_append, same]; exact List.prefix_append _ _)
      rw [said] at unsaid
      cases unsaid
    | word nothing' =>
      obtain ⟨rfl, rfl⟩ := List.cons.inj same
      exact ⟨rfl, rfl⟩

/-- **Words have one tiling at most.** -/
theorem Tiling.unique {tiles others : List Tile} (tiling : Tiling entries tiles)
    (tilingToo : Tiling entries others) (same : runsOf tiles = runsOf others) :
    tiles = others := by
  induction tiling generalizing others with
  | nil =>
    cases tilingToo with
    | nil => rfl
    | cons fits _ => exact absurd (List.append_eq_nil_iff.mp same.symm).1 fits.run_ne_nil
  | cons fits tiling ih =>
    cases tilingToo with
    | nil => exact absurd (List.append_eq_nil_iff.mp same).1 fits.run_ne_nil
    | cons fitsToo tilingToo =>
      obtain ⟨rfl, later⟩ := fits.unique fitsToo same
      rw [ih tilingToo later]

end Tiles

/-! ### The search -/

namespace PhraseTable

/-- **A table knows what entries say**, and how long the longest phrase of theirs is. -/
structure KnowsAs (entries : List (String × String)) (table : PhraseTable) : Prop where
  find?_eq {run : List String} (solid : ∀ word ∈ run, Solid word.toList) :
    table.find? run = replacementOf entries run
  length_le {run : List String} (said : replacementOf entries run ≠ none) :
    run.length ≤ table.longest

/-- A table that is made of entries knows what they say: words that are joined and lowered are
words that are lowered and joined, and they are found again. -/
theorem knowsAs_addAll (entries : List (String × String)) :
    KnowsAs entries (entries.foldl (fun table entry => table.add entry.1 entry.2) {}) where
  find?_eq {run} solid := by
    have lowered : ∀ word ∈ run.map lower, Solid word.toList := by
      intro word member
      obtain ⟨other, inRun, rfl⟩ := List.mem_map.mp member
      rw [lower, String.toList_ofList]
      exact (solid other inRun).lowerChars
    rw [find?, phrases_addAll, Table.get?_setAll, Table.get?_nil, Option.or_none, lower_unwords,
      lastValue_joinedForm, words_unwords lowered, if_pos rfl, replacementOf]
  length_le {run} said := by
    have bounded := (@longest_addAll_le_iff entries {} _).mp (Nat.le_refl _)
    simpa using bounded.2 (run.map lower) said

/-- **The search finds the longest phrase within its bound**, if there is one. -/
theorem longestRun?_spec (table : PhraseTable) (words : List String) (bound : Nat) :
    match table.longestRun? words bound with
    | some (length, value) => 0 < length ∧ length ≤ bound ∧
      table.find? (words.take length) = some value ∧
        ∀ other, length < other → other ≤ bound → table.find? (words.take other) = none
    | none => ∀ other, 0 < other → other ≤ bound → table.find? (words.take other) = none := by
  induction bound with
  | zero => exact fun other positive within => absurd positive (by omega)
  | succ bound ih =>
    rw [longestRun?]
    cases found : table.find? (words.take (bound + 1)) with
    | some value => exact ⟨by omega, Nat.le_refl _, found, fun other longer within => by omega⟩
    | none =>
      have reached : ∀ other, (other ≤ bound → table.find? (words.take other) = none) →
          other ≤ bound + 1 → table.find? (words.take other) = none := by
        intro other shorter within
        rcases Nat.le_succ_iff.mp within with below | rfl
        · exact shorter below
        · exact found
      cases later : table.longestRun? words bound with
      | some entry =>
        rw [later] at ih
        obtain ⟨positive, within, value, longer⟩ := ih
        exact ⟨positive, Nat.le_succ_of_le within, value, fun other above =>
          reached other (longer other above)⟩
      | none =>
        rw [later] at ih
        exact fun other positive => reached other (ih other positive)

variable {entries : List (String × String)} {table : PhraseTable}

section Window

variable (knows : KnowsAs entries table) {words : List String}
  (solid : ∀ word ∈ words, Solid word.toList)

include knows solid

/-- Within the window, the first words of it are looked up as the first words of the text. -/
theorem KnowsAs.find?_window {length : Nat} (within : length ≤ (words.take table.longest).length) :
    table.find? ((words.take table.longest).take length) =
      replacementOf entries (words.take length) := by
  have shorter : min length table.longest = length := by
    rw [List.length_take] at within
    omega
  rw [List.take_take, shorter]
  exact knows.find?_eq fun word member => solid word (List.mem_of_mem_take member)

omit solid in
/-- **No phrase is longer than the window.** -/
theorem KnowsAs.eq_take_of_said {run : List String} (front : run <+: words)
    (said : replacementOf entries run ≠ none) :
    0 < run.length ∧ run.length ≤ (words.take table.longest).length ∧
      run = words.take run.length := by
  refine ⟨List.length_pos_iff.mpr ?_, ?_, List.prefix_iff_eq_take.mp front⟩
  · rintro rfl
    exact said replacementOf_nil
  · rw [List.length_take]
    exact Nat.le_min.mpr ⟨knows.length_le said, front.length_le⟩

/-- A phrase that is found in the window is the longest one at the front of the words. -/
theorem KnowsAs.longest_of_some {length : Nat} {value : String}
    (found : table.longestRun? (words.take table.longest) (words.take table.longest).length =
      some (length, value)) :
    0 < length ∧ length ≤ (words.take table.longest).length ∧
      replacementOf entries (words.take length) = some value ∧
      ∀ other, other <+: words → replacementOf entries other ≠ none → other.length ≤ length := by
  have search := table.longestRun?_spec (words.take table.longest)
    (words.take table.longest).length
  rw [found] at search
  obtain ⟨positive, within, said, longer⟩ := search
  rw [knows.find?_window solid within] at said
  refine ⟨positive, within, said, fun other front saidToo => Nat.not_lt.mp fun above => ?_⟩
  obtain ⟨_, inside, same⟩ := knows.eq_take_of_said front saidToo
  have missed := longer other.length above inside
  rw [knows.find?_window solid inside, ← same] at missed
  exact saidToo missed

/-- Where none is found in the window, no phrase is at the front of the words. -/
theorem KnowsAs.nothing_of_none
    (missed : table.longestRun? (words.take table.longest) (words.take table.longest).length =
      none) {other : List String} (front : other <+: words) :
    replacementOf entries other = none := by
  have search := table.longestRun?_spec (words.take table.longest)
    (words.take table.longest).length
  rw [missed] at search
  by_contra said
  obtain ⟨positive, inside, same⟩ := knows.eq_take_of_said front said
  have unsaid := search other.length positive inside
  rw [knows.find?_window solid inside, ← same] at unsaid
  exact said unsaid

end Window

/-- **The pass follows the tiling of the words.** -/
theorem KnowsAs.exists_tiling (knows : KnowsAs entries table) {words : List String}
    (solid : ∀ word ∈ words, Solid word.toList) :
    ∃ tiles, Tiling entries tiles ∧ runsOf tiles = words ∧
      table.replace words = tiles.map Tile.output := by
  fun_induction table.replace words with
  | case1 => exact ⟨[], .nil, rfl, rfl⟩
  | case2 word rest window length value found ih =>
    obtain ⟨positive, within, said, longest⟩ := knows.longest_of_some solid found
    have inWindow : window.take length = (word :: rest).take length := by
      rw [List.take_take, Nat.min_eq_left (within.trans (List.length_take_le _ _))]
    have behind : rest.drop (length - 1) = (word :: rest).drop length := by
      obtain ⟨shorter, rfl⟩ := Nat.exists_eq_succ_of_ne_zero positive.ne'
      rfl
    obtain ⟨tiles, tiling, runs, written⟩ := ih fun other member =>
      solid other (List.mem_cons_of_mem word (List.mem_of_mem_drop member))
    have whole : (word :: rest).take length ++ runsOf tiles = word :: rest := by
      rw [runs, behind, List.take_append_drop]
    have counted : ((word :: rest).take length).length = length := by
      rw [← inWindow, List.length_take, Nat.min_eq_left within]
    refine ⟨⟨_, fitCase value (unwords ((word :: rest).take length))⟩ :: tiles,
      .cons (.phrase said fun other front => ?_) tiling, whole, ?_⟩
    · rw [counted]
      exact longest other (whole ▸ front)
    · rw [written, inWindow]
      rfl
  | case3 word rest window missed ih =>
    obtain ⟨tiles, tiling, runs, written⟩ := ih fun other member =>
      solid other (List.mem_cons_of_mem word member)
    refine ⟨⟨[word], word⟩ :: tiles, .cons (.word fun other front => ?_) tiling, ?_, ?_⟩
    · rw [runs] at front
      exact knows.nothing_of_none solid missed front
    · exact congrArg (word :: ·) runs
    · rw [written]
      rfl

end PhraseTable

/-! ### Tables that are made by extensions -/

namespace Substitutions

/-- The tables that are extended several times, one after the other. -/
def extendAll (extensions : List (SubstitutionKind × List (String × String)))
    (substitutions : Substitutions) : Substitutions :=
  extensions.foldl (fun substitutions extension => substitutions.extend extension.1 extension.2)
    substitutions

/-- The entries of the extensions of one kind, in order. -/
def entriesOf (extensions : List (SubstitutionKind × List (String × String)))
    (kind : SubstitutionKind) : List (String × String) :=
  (extensions.filter fun extension => extension.1 = kind).flatMap Prod.snd

theorem entriesOf_of_not_mem {extensions : List (SubstitutionKind × List (String × String))}
    {kind : SubstitutionKind} (missing : kind ∉ extensions.map Prod.fst) :
    entriesOf extensions kind = [] := by
  refine List.flatMap_eq_nil_iff.mpr fun extension member => ?_
  obtain ⟨inAll, same⟩ := List.mem_filter.mp member
  exact absurd (List.mem_map.mpr ⟨extension, inAll, of_decide_eq_true same⟩) missing

/-- The table of a kind is made of the entries of its extensions, if it has any extension. -/
theorem get?_extendAll (extensions : List (SubstitutionKind × List (String × String)))
    (kind : SubstitutionKind) :
    (({} : Substitutions).extendAll extensions).tables.get? kind =
      if kind ∈ extensions.map Prod.fst then
        some ((entriesOf extensions kind).foldl (fun table entry => table.add entry.1 entry.2) {})
      else none := by
  induction extensions using List.reverseRecOn with
  | nil => rfl
  | append_singleton extensions extension ih =>
    have last : ({} : Substitutions).extendAll (extensions ++ [extension]) =
        (({} : Substitutions).extendAll extensions).extend extension.1 extension.2 :=
      List.foldl_append
    rw [last, extend]
    by_cases same : extension.1 = kind
    · subst same
      have before : ((({} : Substitutions).extendAll extensions).tables.get? extension.1).getD {} =
          (entriesOf extensions extension.1).foldl
            (fun table entry => table.add entry.1 entry.2) {} := by
        rw [ih]
        split
        · rfl
        · rename_i fresh
          rw [entriesOf_of_not_mem fresh]
          rfl
      rw [Table.get?_set_self, before, ← List.foldl_append]
      simp [entriesOf]
    · have members : kind ∈ (extensions ++ [extension]).map Prod.fst ↔
          kind ∈ extensions.map Prod.fst := by
        simp [Ne.symm same]
      have others : entriesOf (extensions ++ [extension]) kind = entriesOf extensions kind := by
        simp [entriesOf, same]
      simp only [Table.get?_set_of_ne (Ne.symm same), ih, members, others]

end Substitutions

/-- **Substitution replaces the longest phrases from left to right, in one pass.** After any
extensions, if one of them was of a kind, the words of every text have exactly one tiling by the
entries of that kind, and the text is what is written for its tiles, joined by spaces. Without a
table, it is the text as it was. -/
theorem substitution_tiles (extensions : List (SubstitutionKind × List (String × String)))
    (kind : SubstitutionKind) (text : String) :
    let substitutions := ({} : Substitutions).extendAll extensions
    let entries := Substitutions.entriesOf extensions kind
    if kind ∈ extensions.map Prod.fst then
      ∃ tiles, substitutions.apply kind text = unwords (tiles.map Tile.output) ∧
        ∀ others, (Tiling entries others ∧ runsOf others = words text) ↔ others = tiles
    else substitutions.apply kind text = text := by
  intro substitutions entries
  split
  · rename_i extended
    have solid : ∀ word ∈ words text, Solid word.toList := fun word => solid_of_mem_words
    obtain ⟨tiles, tiling, runs, written⟩ :=
      (PhraseTable.knowsAs_addAll entries).exists_tiling solid
    refine ⟨tiles, ?_, fun others => ⟨?_, ?_⟩⟩
    · rw [Substitutions.apply, Substitutions.get?_extendAll, if_pos extended]
      exact congrArg unwords written
    · rintro ⟨tilingToo, runsToo⟩
      exact tilingToo.unique tiling (runsToo.trans runs.symm)
    · rintro rfl
      exact ⟨tiling, runs⟩
  · rename_i missing
    rw [Substitutions.apply, Substitutions.get?_extendAll, if_neg missing]

end Dialogue
