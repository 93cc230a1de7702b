/-
**Lowering twice is lowering once.**

No image of a character under the lower-case mapping is moved by that mapping. So a text in lower
case is one whose characters stay, also where a sigma stands.

* `mem_lowerChars`, `lowerChars_eq_self_iff`: what characters a lower-case form has;
* `lowerChars_lowerChars`: lowering twice is lowering once;
* `lowerChars_append_space`, `lower_unwords`: words that are joined by spaces are lowered one by one;
* `canonical_canonical`, `mem_canonical`: and so for the canonical form of a name.
-/

import Dialogue.Proofs.Text.CaseMapping
import Dialogue.Text.Name
import Mathlib.Data.String.Basic

namespace Dialogue.Text

/-! ### Texts -/

/-- A sigma has one of two images. -/
theorem lowerSigma_mem (before after : List Char) : lowerSigma before after ∈ ['ς', 'σ'] := by
  unfold lowerSigma
  split <;> simp

/-- A character that stays when it is lowered is no capital sigma. -/
theorem ne_sigma_of_lowerChar_eq {c : Char} (still : lowerChar c = [c]) : c ≠ 'Σ' := by
  rintro rfl
  exact absurd still (by decide +kernel)

theorem mem_lowerAfter {before chars : List Char} {image : Char}
    (member : image ∈ lowerAfter before chars) :
    lowerChar image = [image] ∧ (image ∈ chars ∨ isPlain image) := by
  induction chars generalizing before with
  | nil => cases member
  | cons c rest ih =>
    rw [lowerAfter, List.mem_append] at member
    rcases member with first | later
    · split at first
      · have sigma : ∀ other ∈ ['ς', 'σ'], lowerChar other = [other] ∧ isPlain other := by
          refine List.forall_mem_cons.mpr ⟨?_, List.forall_mem_singleton.mpr ?_⟩ <;> decide +kernel
        rw [List.mem_singleton.mp first]
        exact (sigma _ (lowerSigma_mem before rest)).imp_right .inr
      · obtain ⟨still, origin⟩ := of_mem_lowerChar first
        refine ⟨still, origin.imp_left fun same => ?_⟩
        rw [same]
        exact List.mem_cons_self
    · exact (ih later).imp_right (Or.imp_left (List.mem_cons_of_mem c))

/-- A text whose characters are not moved is its own lower-case form. -/
theorem lowerAfter_eq_self {before chars : List Char} (still : ∀ c ∈ chars, lowerChar c = [c]) :
    lowerAfter before chars = chars := by
  induction chars generalizing before with
  | nil => rfl
  | cons c rest ih =>
    obtain ⟨first, later⟩ := List.forall_mem_cons.mp still
    rw [lowerAfter, if_neg (ne_sigma_of_lowerChar_eq first), first, ih later]
    rfl

/-- A character of a lower-case form is one of the text, or a plain one. -/
theorem mem_lowerChars {chars : List Char} {image : Char} (member : image ∈ lowerChars chars) :
    image ∈ chars ∨ isPlain image :=
  (mem_lowerAfter member).2

/-- **A text is in lower case exactly if each of its characters stays when it is lowered.** -/
theorem lowerChars_eq_self_iff {chars : List Char} :
    lowerChars chars = chars ↔ ∀ c ∈ chars, lowerChar c = [c] := by
  refine ⟨fun same c member => ?_, lowerAfter_eq_self⟩
  rw [← same] at member
  exact (mem_lowerAfter member).1

theorem lower_eq_self_iff {text : String} :
    lower text = text ↔ ∀ c ∈ text.toList, lowerChar c = [c] :=
  String.ofList_eq.trans lowerChars_eq_self_iff

/-- **Lowering twice is lowering once.** -/
@[simp] theorem lowerChars_lowerChars (chars : List Char) :
    lowerChars (lowerChars chars) = lowerChars chars :=
  lowerChars_eq_self_iff.mpr fun _ member => (mem_lowerAfter member).1

/-- A space ends the search for the neighbour of a sigma. -/
theorem meetsCased_append_space (chars others : List Char) :
    meetsCased (chars ++ ' ' :: others) = meetsCased chars := by
  induction chars with
  | nil =>
    have seen : isCaseTransparent ' ' = false ∧ isCased ' ' = false := by decide +kernel
    simp [meetsCased, seen]
  | cons c chars ih =>
    unfold meetsCased at ih ⊢
    by_cases transparent : isCaseTransparent c
    · simpa [transparent] using ih
    · simp [transparent]

/-- What stands before a space makes no difference after it. -/
theorem lowerAfter_append_space (before others chars : List Char) :
    lowerAfter (before ++ ' ' :: others) chars = lowerAfter before chars := by
  induction chars generalizing before with
  | nil => rfl
  | cons c rest ih =>
    rw [lowerAfter, lowerAfter, lowerSigma, meetsCased_append_space, ← List.cons_append, ih,
      lowerSigma]

/-- **A text is lowered on both sides of a space by itself**, also where a sigma stands. -/
theorem lowerChars_append_space (first others : List Char) :
    lowerChars (first ++ ' ' :: others) = lowerChars first ++ ' ' :: lowerChars others := by
  have space : lowerChar ' ' = [' '] ∧ ' ' ≠ 'Σ' := by decide +kernel
  have inside : ∀ before, lowerAfter before (first ++ ' ' :: others) =
      lowerAfter before first ++ ' ' :: lowerChars others := by
    induction first with
    | nil =>
      intro before
      have first : lowerAfter before (' ' :: others) = ' ' :: lowerAfter (' ' :: before) others := by
        rw [lowerAfter, if_neg space.2, space.1, List.singleton_append]
      rw [List.nil_append, first]
      exact congrArg (' ' :: ·) (lowerAfter_append_space [] before others)
    | cons c first ih =>
      intro before
      rw [List.cons_append, lowerAfter, lowerAfter, ih, lowerSigma, meetsCased_append_space,
        ← lowerSigma, List.append_assoc]
  exact inside []

/-- **Words that are joined by spaces are lowered one by one.** -/
theorem lower_unwords (parts : List String) :
    lower (unwords parts) = unwords (parts.map lower) := by
  induction parts with
  | nil => rfl
  | cons first others ih =>
    cases others with
    | nil => simp
    | cons second others =>
      refine String.toList_inj.mp ?_
      rw [List.map_cons, List.map_cons, unwords_cons_cons, ← List.map_cons, ← ih, lower, lower,
        lower, String.toList_ofList, String.toList_ofList, String.toList_ofList, unwords_cons_cons,
        lowerChars_append_space]

/-- A word in lower case is a word. -/
theorem Solid.lowerChars {word : List Char} (solid : Solid word) : Solid (lowerChars word) := by
  refine ⟨fun empty => solid.1 (lowerChars_eq_nil_iff.mp empty), fun c member => ?_⟩
  exact (mem_lowerChars member).elim (solid.2 c) isBlank_eq_false_of_isPlain

/-- The image of the first character is not empty, and has a blank only if that was one. -/
theorem exists_lowerAfter_cons (before : List Char) (c : Char) (rest : List Char) :
    ∃ image, lowerAfter before (c :: rest) = image ++ lowerAfter (c :: before) rest ∧
      image ≠ [] ∧ ∀ other ∈ image, isBlank other → isBlank c := by
  rw [lowerAfter]
  refine ⟨_, rfl, ?_, fun other member blank => ?_⟩
  · split
    · exact List.cons_ne_nil _ _
    · exact lowerChar_ne_nil c
  · split at member
    · have visible : ∀ other ∈ ['ς', 'σ'], isBlank other = false := by
        refine List.forall_mem_cons.mpr ⟨?_, List.forall_mem_singleton.mpr ?_⟩ <;> decide
      rw [List.mem_singleton.mp member, visible _ (lowerSigma_mem before rest)] at blank
      cases blank
    · rcases (of_mem_lowerChar member).2 with same | plain
      · exact same ▸ blank
      · rw [isBlank_eq_false_of_isPlain plain] at blank
        cases blank

theorem startsBlank_of_lowerAfter {before chars : List Char}
    (starts : StartsBlank (lowerAfter before chars)) : StartsBlank chars := by
  cases chars with
  | nil => exact starts
  | cons c rest =>
    obtain ⟨image, split, filled, origin⟩ := exists_lowerAfter_cons before c rest
    obtain ⟨first, others, rfl⟩ := List.exists_cons_of_ne_nil filled
    rw [split] at starts
    exact origin first List.mem_cons_self starts

theorem endsBlank_of_lowerAfter {before chars : List Char}
    (ends : EndsBlank (lowerAfter before chars)) : EndsBlank chars := by
  induction chars generalizing before with
  | nil => exact ends
  | cons c rest ih =>
    obtain ⟨image, split, filled, origin⟩ := exists_lowerAfter_cons before c rest
    rw [split] at ends
    cases rest with
    | nil =>
      rw [lowerAfter, List.append_nil] at ends
      obtain ⟨init, gap, blank, rfl⟩ := ends.exists_concat
      exact origin gap List.mem_concat_self blank
    | cons next rest =>
      obtain ⟨_, splitRest, filledRest, _⟩ := exists_lowerAfter_cons (c :: before) next rest
      have inRest : (lowerAfter (c :: before) (next :: rest)).getLast?.isSome := by
        simp [splitRest, filledRest]
      rw [EndsBlank, List.getLast?_append, Option.or_of_isSome inRest] at ends
      exact ih ends

/-- **Lowering brings no blank to the ends of a text.** -/
theorem Trimmed.lowerChars {chars : List Char} (trimmed : Trimmed chars) :
    Trimmed (lowerChars chars) :=
  ⟨fun starts => trimmed.1 (startsBlank_of_lowerAfter starts),
    fun ends => trimmed.2 (endsBlank_of_lowerAfter ends)⟩

/-! ### Names -/

/-- A character of a canonical name is one of the name, or a plain one. -/
theorem mem_canonical {name : String} {c : Char} (member : c ∈ (canonical name).toList) :
    c ∈ name.toList ∨ isPlain c := by
  rw [canonical, lower, String.toList_ofList, toList_trim] at member
  exact (mem_lowerChars member).imp_left mem_of_mem_trimChars

theorem trimmed_canonical (name : String) : Trimmed (canonical name).toList := by
  rw [canonical, lower, String.toList_ofList, toList_trim]
  exact (trimmed_trimChars name.toList).lowerChars

/-- **The canonical form of a canonical name is that name.** -/
@[simp] theorem canonical_canonical (name : String) :
    canonical (canonical name) = canonical name := by
  rw [canonical, (trimmed_canonical name).trim_eq, canonical, lower, lower, String.toList_ofList, lowerChars_lowerChars]

end Dialogue.Text
