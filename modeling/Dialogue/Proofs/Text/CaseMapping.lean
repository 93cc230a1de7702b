/-
**What a case mapping maps, and to what.**

A case mapping is given by two tables. No image of a character under one is moved by it again, and
none is a blank or punctuation that was not there before. The images and the characters that they
have to avoid are compared as two sets of bits.

* `codeMask`, `not_mem_of_codeMask`: lists of code points without a common one;
* `movedCodes`, `imageCodes`: what the tables of a mapping map, and to what;
* `Settled`: a mapping whose images are not mapped again, with `settled_lowering` and
  `settled_raising`;
* `isPlain`, `Settled.of_mem_mapChar`: an image is not moved, and is the character itself or a plain
  one; `of_mem_lowerChar`, `of_mem_raiseChar`: so for both mappings.
-/

import Dialogue.Proofs.Text.Words
import Dialogue.Text.Casing

namespace Dialogue.Text

/-! ### Sets of code points -/

/-- Some code points as a set of bits. -/
def codeMask (codes : List Nat) : Nat := codes.foldr (fun code mask => 1 <<< code ||| mask) 0

theorem testBit_codeMask (codes : List Nat) (code : Nat) :
    (codeMask codes).testBit code = true ↔ code ∈ codes := by
  induction codes with
  | nil => simp [codeMask]
  | cons first codes ih =>
    have split : codeMask (first :: codes) = 1 <<< first ||| codeMask codes := rfl
    rw [split, Nat.one_shiftLeft, Nat.testBit_or, Bool.or_eq_true, ih, Nat.testBit_two_pow,
      decide_eq_true_eq, List.mem_cons, eq_comm]

/-- **Two lists of code points whose bits do not meet have none in common.** -/
theorem not_mem_of_codeMask {codes others : List Nat}
    (apart : codeMask codes &&& codeMask others = 0) {code : Nat} (member : code ∈ codes) :
    code ∉ others := by
  intro common
  have both : (codeMask codes &&& codeMask others).testBit code = true := by
    rw [Nat.testBit_and, (testBit_codeMask codes code).mpr member,
      (testBit_codeMask others code).mpr common]
    rfl
  rw [apart, Nat.zero_testBit] at both
  cases both

/-- The members of a run. -/
def Run.members (run : Run) : List Nat :=
  (List.range run.count).map fun steps => run.first + steps * run.step

/-- A code point that a run holds is one of its members. -/
theorem Run.mem_members {run : Run} {code : Nat} (holds : run.holds code) :
    code ∈ run.members := by
  simp only [Run.holds, Bool.and_eq_true, decide_eq_true_eq, beq_iff_eq] at holds
  obtain ⟨⟨above, below⟩, whole⟩ := holds
  obtain ⟨steps, away⟩ := Nat.dvd_of_mod_eq_zero whole
  rw [Nat.mul_comm] at away
  have fewer : steps * run.step < run.count * run.step := by omega
  refine List.mem_map.mpr ⟨steps, ?_, by omega⟩
  exact List.mem_range.mpr (Nat.lt_of_mul_lt_mul_right fewer)

/-- The members of a closed interval. -/
def spanMembers (span : Nat × Nat) : List Nat := List.range' span.1 (span.2 + 1 - span.1)

theorem mem_spanMembers {span : Nat × Nat} {code : Nat} (above : span.1 ≤ code)
    (below : code ≤ span.2) : code ∈ spanMembers span := by
  rw [spanMembers, List.mem_range'_1]
  omega

theorem mem_of_inSpans {spans : List (Nat × Nat)} (ascending : isAscending (spans.map Prod.fst))
    {code : Nat} (inside : inSpans spans code) : code ∈ spans.flatMap spanMembers := by
  rw [inSpans_eq_any ascending, List.any_eq_true] at inside
  obtain ⟨span, member, held⟩ := inside
  simp only [Bool.and_eq_true, decide_eq_true_eq] at held
  exact List.mem_flatMap.mpr ⟨span, member, mem_spanMembers held.1 held.2⟩

/-- The code points of blanks and of punctuation. -/
def separatorCodes : List Nat := (blankSpans ++ punctuationSpans).flatMap spanMembers

/-! ### The tables of a mapping -/

/-- The run of the images under a case run. -/
def CaseRun.images (entry : CaseRun) : Run := ⟨entry.image, entry.run.count, entry.run.step⟩

theorem CaseRun.holds_images {entry : CaseRun} {code image : Nat}
    (found : entry.imageOf? code = some image) : entry.images.holds image := by
  unfold imageOf? at found
  split at found
  · rename_i holds
    obtain rfl := Option.some.inj found
    simp only [Run.holds, Bool.and_eq_true, decide_eq_true_eq, beq_iff_eq] at holds
    obtain ⟨⟨above, below⟩, whole⟩ := holds
    have below : entry.image + (code - entry.run.first) <
        entry.image + entry.run.count * entry.run.step := by omega
    simp [Run.holds, images, below, whole]
  · cases found

section Tables

variable (expansions : List (Nat × List Nat)) (runs : List CaseRun)

/-- The code points that two tables map. -/
def movedCodes : List Nat :=
  expansions.map Prod.fst ++ runs.flatMap fun entry => entry.run.members

/-- The code points to which two tables map. -/
def imageCodes : List Nat :=
  expansions.flatMap Prod.snd ++ runs.flatMap fun entry => entry.images.members

/-- The image of a character under the mapping that two tables give. -/
def mapChar (c : Char) : List Char := (mapCode expansions runs c.toNat).map Char.ofNat

/-- **A case mapping none of whose images is mapped again.** None is a blank or punctuation, either,
and every one is the code point of a character. -/
structure Settled : Prop where
  ascending : isAscending (runs.map fun entry => entry.run.first)
  apart : codeMask (imageCodes expansions runs) &&&
    codeMask (movedCodes expansions runs ++ separatorCodes) = 0
  valid : (imageCodes expansions runs).all fun code =>
    code < 0xd800 || 0xdfff < code && code < 0x110000

end Tables

theorem settled_lowering : Settled loweringExpansions loweringRuns where
  ascending := isAscending_loweringRuns
  apart := by decide +kernel
  valid := by decide +kernel

theorem settled_raising : Settled raisingExpansions raisingRuns where
  ascending := isAscending_raisingRuns
  apart := by decide +kernel
  valid := by decide +kernel

/-- Whether a character neither separates words nor is dropped from them. -/
def isPlain (c : Char) : Bool := !isBlank c && !isPunctuation c

theorem isBlank_eq_false_of_isPlain {c : Char} (plain : isPlain c) : isBlank c = false := by
  rw [isPlain, Bool.and_eq_true, Bool.not_eq_true'] at plain
  exact plain.1

namespace Settled

variable {expansions : List (Nat × List Nat)} {runs : List CaseRun}
  (settled : Settled expansions runs)

include settled

/-- A code point that is not mapped is its own image. -/
theorem mapCode_of_not_mem {code : Nat} (unmoved : code ∉ movedCodes expansions runs) :
    mapCode expansions runs code = [code] := by
  rw [movedCodes, List.mem_append, not_or] at unmoved
  have expansion : expansions.lookup code = none := by
    refine List.lookup_eq_none_iff.mpr fun entry member => bne_iff_ne.mpr ?_
    rintro rfl
    exact unmoved.1 (List.mem_map_of_mem member)
  have image : imageIn? runs code = none := by
    rw [imageIn?_eq_findSome? settled.ascending, List.findSome?_eq_none_iff]
    intro entry member
    have outside : ¬entry.run.holds code := fun holds =>
      unmoved.2 (List.mem_flatMap.mpr ⟨entry, member, Run.mem_members holds⟩)
    rw [CaseRun.imageOf?, if_neg outside]
  rw [mapCode, expansion, image]

/-- What a code point is mapped to is an image, or the code point itself. -/
theorem mapCode_cases (code : Nat) :
    mapCode expansions runs code = [code] ∨
      ∀ image ∈ mapCode expansions runs code, image ∈ imageCodes expansions runs := by
  unfold mapCode
  split
  · rename_i expansion found
    obtain ⟨before, after, whole, _⟩ := List.lookup_eq_some_iff.mp found
    refine .inr fun image member => List.mem_append_left _ ?_
    exact List.mem_flatMap.mpr ⟨(code, expansion), by simp [whole], member⟩
  · split
    · rename_i mapped found
      rw [imageIn?_eq_findSome? settled.ascending] at found
      obtain ⟨entry, member, mapped⟩ := List.exists_of_findSome?_eq_some found
      refine .inr fun image same => List.mem_append_right _ ?_
      rw [List.mem_singleton.mp same]
      exact List.mem_flatMap.mpr ⟨entry, member, Run.mem_members (CaseRun.holds_images mapped)⟩
    · exact .inl rfl

/-- An image, as a character. -/
theorem of_mem_imageCodes {code : Nat} (member : code ∈ imageCodes expansions runs) :
    mapChar expansions runs (Char.ofNat code) = [Char.ofNat code] ∧
      isPlain (Char.ofNat code) := by
  have avoids := not_mem_of_codeMask settled.apart member
  rw [List.mem_append, not_or] at avoids
  have same : (Char.ofNat code).toNat = code := by
    have inside := List.all_eq_true.mp settled.valid code member
    have valid : code.isValidChar := by simpa [Nat.isValidChar] using inside
    rw [Char.ofNat, dif_pos valid]
    rfl
  constructor
  · rw [mapChar, same, settled.mapCode_of_not_mem avoids.1]
    rfl
  · rw [isPlain, Bool.and_eq_true, Bool.not_eq_true', Bool.not_eq_true', isBlank, isPunctuation,
      same, ← Bool.not_eq_true, ← Bool.not_eq_true]
    have separates := avoids.2
    rw [separatorCodes, List.flatMap_append, List.mem_append, not_or] at separates
    exact ⟨fun blank => separates.1 (mem_of_inSpans isAscending_blankSpans blank),
      fun mark => separates.2 (mem_of_inSpans isAscending_punctuationSpans mark)⟩

/-- **The image of a character is not moved**, and it is the character itself or a plain one. -/
theorem of_mem_mapChar {c image : Char} (member : image ∈ mapChar expansions runs c) :
    mapChar expansions runs image = [image] ∧ (image = c ∨ isPlain image) := by
  obtain ⟨code, mapped, rfl⟩ := List.mem_map.mp member
  rcases settled.mapCode_cases c.toNat with unmoved | moved
  · rw [unmoved, List.mem_singleton] at mapped
    have alone : mapChar expansions runs c = [c] := by
      rw [mapChar, unmoved, List.map_singleton, Char.ofNat_toNat]
    rw [mapped, Char.ofNat_toNat]
    exact ⟨alone, .inl rfl⟩
  · obtain ⟨still, plain⟩ := settled.of_mem_imageCodes (moved code mapped)
    exact ⟨still, .inr plain⟩

end Settled

/-- **What a character is lowered to is not lowered further**, and it is the character itself or a
plain one. -/
theorem of_mem_lowerChar {c image : Char} (member : image ∈ lowerChar c) :
    lowerChar image = [image] ∧ (image = c ∨ isPlain image) :=
  settled_lowering.of_mem_mapChar member

/-- **What a character is raised to is not raised further**, and it is the character itself or a
plain one. -/
theorem of_mem_raiseChar {c image : Char} (member : image ∈ raiseChar c) :
    raiseChar image = [image] ∧ (image = c ∨ isPlain image) :=
  settled_raising.of_mem_mapChar member

end Dialogue.Text
