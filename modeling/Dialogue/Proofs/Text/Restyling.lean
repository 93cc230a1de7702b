/-
**Giving a text the same style twice.**

Upper and lower case and the exploded style stay as they are when they are given again. Formal and
sentence style raise one character and lower what follows it. Given again they lower what was raised
as well, apart from its first character: they stay as they are unless the capital of that character
has several characters of which lowering moves a later one, as it does with a sharp s.

* `StaysCapital`, `capitalizeChars_capitalizeChars_iff`: the characters that are capitalised once
  and for all;
* `Style.Steady`, `Style.apply_apply_iff`: the texts to which a style can be given twice;
* `Style.apply_trim`, `Style.apply_unwords`: a text that a style leaves as it is can be trimmed, and
  such texts can be joined, and the style still leaves it as it is.
-/

import Dialogue.Proofs.Text.Lowering
import Dialogue.Text.Style

namespace Dialogue.Text

/-! ### Raising -/

/-- **A text is in upper case exactly if each of its characters stays when it is raised.** -/
theorem raiseChars_eq_self_iff {chars : List Char} :
    raiseChars chars = chars ↔ ∀ c ∈ chars, raiseChar c = [c] := by
  constructor
  · intro same c member
    rw [← same] at member
    obtain ⟨origin, _, image⟩ := List.mem_flatMap.mp member
    exact (of_mem_raiseChar image).1
  · intro still
    induction chars with
    | nil => rfl
    | cons c rest ih =>
      obtain ⟨first, later⟩ := List.forall_mem_cons.mp still
      rw [raiseChars, List.flatMap_cons, first, ← raiseChars, ih later]
      rfl

theorem upper_eq_self_iff {text : String} :
    upper text = text ↔ ∀ c ∈ text.toList, raiseChar c = [c] :=
  String.ofList_eq.trans raiseChars_eq_self_iff

/-- **Raising twice is raising once.** -/
@[simp] theorem raiseChars_raiseChars (chars : List Char) :
    raiseChars (raiseChars chars) = raiseChars chars :=
  raiseChars_eq_self_iff.mpr fun _ member =>
    (of_mem_raiseChar (List.mem_flatMap.mp member).choose_spec.2).1

/-! ### Capitalising -/

/-- The capital of a character has only a first character that lowering moves. -/
def StaysCapital (c : Char) : Prop := ∀ other ∈ (raiseChar c).tail, lowerChar other = [other]

instance (c : Char) : Decidable (StaysCapital c) :=
  List.decidableBAll (fun other => lowerChar other = [other]) (raiseChar c).tail

/-- The capital of a character begins with one that is not raised further. -/
theorem exists_raiseChar_cons (c : Char) :
    ∃ first others, raiseChar c = first :: others ∧ raiseChar first = [first] := by
  obtain ⟨first, others, raised⟩ := List.exists_cons_of_ne_nil (raiseChar_ne_nil c)
  refine ⟨first, others, raised, (@of_mem_raiseChar c first ?_).1⟩
  rw [raised]
  exact List.mem_cons_self

/-- **A text that is capitalised twice comes out as it does once**, exactly if its first character
stays a capital. -/
theorem capitalizeChars_capitalizeChars_iff {chars : List Char} :
    capitalizeChars (capitalizeChars chars) = capitalizeChars chars ↔
      ∀ c ∈ chars.head?, StaysCapital c := by
  cases chars with
  | nil => simp [capitalizeChars]
  | cons c rest =>
    obtain ⟨first, others, raised, still⟩ := exists_raiseChar_cons c
    have lowered := lowerChars_eq_self_iff.mp (lowerChars_lowerChars rest)
    simp only [List.head?_cons, Option.mem_def, Option.some.injEq, forall_eq']
    rw [StaysCapital, capitalizeChars, raised, List.cons_append, capitalizeChars, still,
      List.singleton_append, List.cons_inj_right, lowerChars_eq_self_iff, List.forall_mem_append,
      List.tail_cons, and_iff_left lowered]

/-- A text is capitalised exactly if its first character stays when it is raised, and the others
stay when they are lowered. -/
theorem capitalizeChars_cons_eq_self_iff {c : Char} {rest : List Char} :
    capitalizeChars (c :: rest) = c :: rest ↔
      raiseChar c = [c] ∧ ∀ other ∈ rest, lowerChar other = [other] := by
  rw [capitalizeChars, ← lowerChars_eq_self_iff]
  constructor
  · intro same
    obtain ⟨first, others, raised, still⟩ := exists_raiseChar_cons c
    rw [raised, List.cons_append] at same
    obtain ⟨rfl, behind⟩ := List.cons_eq_cons.mp same
    rw [raised] at still
    obtain rfl := (List.cons_eq_cons.mp still).2
    exact ⟨raised, behind⟩
  · rintro ⟨first, later⟩
    rw [first, later, List.singleton_append]

/-- A character of a capitalised text is one of the text, or a plain one. -/
theorem mem_capitalizeChars {chars : List Char} {image : Char}
    (member : image ∈ capitalizeChars chars) : image ∈ chars ∨ isPlain image := by
  cases chars with
  | nil => cases member
  | cons c rest =>
    rcases List.mem_append.mp member with first | later
    · refine (of_mem_raiseChar first).2.imp_left fun same => ?_
      rw [same]
      exact List.mem_cons_self
    · exact (mem_lowerChars later).imp_left (List.mem_cons_of_mem c)

/-- A capitalised word is a word. -/
theorem Solid.capitalizeChars {word : List Char} (solid : Solid word) :
    Solid (capitalizeChars word) := by
  refine ⟨?_, fun c member => ?_⟩
  · obtain ⟨c, rest, rfl⟩ := List.exists_cons_of_ne_nil solid.1
    exact List.append_ne_nil_of_left_ne_nil (raiseChar_ne_nil c) _
  · exact (mem_capitalizeChars member).elim (solid.2 c) isBlank_eq_false_of_isPlain

/-- A text that does not start with a blank does not when it is capitalised. -/
theorem not_startsBlank_capitalizeChars {chars : List Char} (visible : ¬StartsBlank chars) :
    ¬StartsBlank (capitalizeChars chars) := by
  cases chars with
  | nil => exact visible
  | cons c rest =>
    obtain ⟨first, others, raised, _⟩ := exists_raiseChar_cons c
    have origin : first = c ∨ isPlain first :=
      (of_mem_raiseChar (raised ▸ List.mem_cons_self : first ∈ raiseChar c)).2
    rw [capitalizeChars, raised, List.cons_append]
    intro starts
    rcases origin with rfl | plain
    · exact visible starts
    · exact absurd starts (by simp [StartsBlank, isBlank_eq_false_of_isPlain plain])

/-! ### Words in formal style, and exploded texts -/

theorem capitalize_capitalize_iff {word : String} :
    capitalize (capitalize word) = capitalize word ↔ ∀ c ∈ word.toList.head?, StaysCapital c := by
  rw [capitalize, capitalize, String.ofList_inj, String.toList_ofList,
    capitalizeChars_capitalizeChars_iff]

/-- The words of a text in formal style are the capitalised words of the text. -/
theorem words_formal (text : String) :
    words (Style.formal.apply text) = (words text).map capitalize := by
  refine words_unwords fun word member => ?_
  obtain ⟨origin, inText, rfl⟩ := List.mem_map.mp member
  rw [capitalize, String.toList_ofList]
  exact (solid_of_mem_words inText).capitalizeChars

/-- The visible characters of a text, each as a word. -/
def glyphs (text : String) : List String :=
  (text.toList.filter fun c => !isBlank c).map fun c => String.ofList [c]

theorem solid_of_mem_glyphs {text glyph : String} (member : glyph ∈ glyphs text) :
    Solid glyph.toList := by
  obtain ⟨c, visible, rfl⟩ := List.mem_map.mp member
  rw [String.toList_ofList]
  refine ⟨List.cons_ne_nil _ _, fun other same => ?_⟩
  rw [List.mem_singleton.mp same]
  simpa using (List.mem_filter.mp visible).2

theorem glyphs_unwords (texts : List String) : glyphs (unwords texts) = texts.flatMap glyphs :=
  unwords_distributes
    (fun chars => (chars.filter fun c => !isBlank c).map fun c => String.ofList [c]) rfl
    (fun before after => by
      rw [List.filter_append, List.filter_cons_of_neg (by decide), List.map_append]) texts

theorem words_unwords_flatMap (texts : List String) :
    words (unwords texts) = texts.flatMap words :=
  unwords_distributes (fun chars => (splitWords chars).map String.ofList) rfl
    (fun before after => by rw [splitWords_append_blank (by decide), List.map_append]) texts

theorem glyphs_explode (text : String) : glyphs (Style.explode.apply text) = glyphs text := by
  have alone : ∀ glyph ∈ glyphs text, glyphs glyph = [glyph] := fun glyph member => by
    obtain ⟨c, visible, rfl⟩ := List.mem_map.mp member
    have shown := (List.mem_filter.mp visible).2
    simp only [glyphs, String.toList_ofList, List.filter_cons, shown, if_true, List.filter_nil,
      List.map_singleton]
  rw [Style.apply, ← glyphs, glyphs_unwords, List.flatMap_def, List.map_congr_left alone,
    ← List.flatMap_def, List.flatMap_singleton']

/-! ### Styles -/

/-- **The texts to which a style can be given twice.** Every word that formal style capitalises, and
the text that sentence style does, begins with a character that stays a capital. -/
def Style.Steady : Style → String → Prop
  | .uppercase, _ | .lowercase, _ | .explode, _ => True
  | .formal, text => ∀ word ∈ words text, ∀ c ∈ word.toList.head?, StaysCapital c
  | .sentence, text => ∀ c ∈ (trimStart text).toList.head?, StaysCapital c

instance : (style : Style) → (text : String) → Decidable (style.Steady text)
  | .uppercase, _ | .lowercase, _ | .explode, _ => .isTrue trivial
  | .formal, text =>
    @List.decidableBAll String (fun word => ∀ c ∈ word.toList.head?, StaysCapital c)
      (fun word => Option.decidableForallMem word.toList.head?) (words text)
  | .sentence, text => Option.decidableForallMem (trimStart text).toList.head?

theorem trimStart_eq_self {text : String} (visible : ¬StartsBlank text.toList) :
    trimStart text = text := by
  rw [trimStart, dropWhile_of_not_startsBlank visible, String.ofList_toList]

/-- **Giving a text a style twice comes out as giving it once, exactly for the steady ones.** -/
theorem Style.apply_apply_iff (style : Style) (text : String) :
    style.apply (style.apply text) = style.apply text ↔ style.Steady text := by
  cases style with
  | uppercase =>
    rw [apply, apply, upper, upper, String.toList_ofList, raiseChars_raiseChars]
    exact iff_of_true rfl trivial
  | lowercase =>
    rw [apply, apply, lower, lower, String.toList_ofList, lowerChars_lowerChars]
    exact iff_of_true rfl trivial
  | explode =>
    refine iff_of_true ?_ trivial
    rw [apply, ← glyphs, glyphs_explode]
    rfl
  | formal =>
    have again : formal.apply (formal.apply text) =
        unwords (((words text).map capitalize).map capitalize) := by
      rw [← words_formal]
      rfl
    rw [Steady]
    constructor
    · intro same word member
      -- The words are found again in what the style gives, so equal texts have equal words.
      have twice := words_formal (formal.apply text)
      rw [same, words_formal, List.map_map] at twice
      exact capitalize_capitalize_iff.mp (List.map_inj_left.mp twice word member).symm
    · intro steady
      rw [again, List.map_map]
      exact congrArg unwords <| List.map_congr_left fun word member =>
        capitalize_capitalize_iff.mpr (steady word member)
  | sentence =>
    have visible : ¬StartsBlank (capitalize (trimStart text)).toList := by
      rw [capitalize, trimStart, String.toList_ofList, String.toList_ofList]
      exact not_startsBlank_capitalizeChars (not_startsBlank_dropWhile _)
    rw [apply, apply, trimStart_eq_self visible, capitalize_capitalize_iff, Steady]

/-- A text in formal style is its words, joined. -/
theorem unwords_words_of_formal {text : String} (same : Style.formal.apply text = text) :
    unwords (words text) = text := by
  have capitalised := words_formal text
  rw [same] at capitalised
  rw [capitalised]
  exact same

/-- A text in sentence style is capitalised, and does not start with a blank. -/
theorem sentence_eq_self_iff {text : String} :
    Style.sentence.apply text = text ↔
      ¬StartsBlank text.toList ∧ capitalizeChars text.toList = text.toList := by
  constructor
  · intro same
    have visible : ¬StartsBlank text.toList := by
      rw [← same, Style.apply, capitalize, trimStart, String.toList_ofList, String.toList_ofList]
      exact not_startsBlank_capitalizeChars (not_startsBlank_dropWhile _)
    rw [Style.apply, trimStart_eq_self visible] at same
    exact ⟨visible, String.ofList_eq.mp same⟩
  · rintro ⟨visible, same⟩
    rw [Style.apply, trimStart_eq_self visible, capitalize, same, String.ofList_toList]

/-- **A text that a style leaves as it is, trimmed.** -/
theorem Style.apply_trim {style : Style} {text : String} (same : style.apply text = text) :
    style.apply (trim text) = trim text := by
  cases style with
  | uppercase =>
    refine upper_eq_self_iff.mpr fun c member => upper_eq_self_iff.mp same c ?_
    rw [toList_trim] at member
    exact mem_of_mem_trimChars member
  | lowercase =>
    refine lower_eq_self_iff.mpr fun c member => lower_eq_self_iff.mp same c ?_
    rw [toList_trim] at member
    exact mem_of_mem_trimChars member
  | formal =>
    have trimmed := (@trimmed_unwords (words text) fun word => solid_of_mem_words).1
    rw [unwords_words_of_formal same] at trimmed
    rwa [trimmed.trim_eq]
  | explode =>
    have trimmed := (@trimmed_unwords (glyphs text) fun glyph => solid_of_mem_glyphs).1
    rw [show unwords (glyphs text) = text from same] at trimmed
    rwa [trimmed.trim_eq]
  | sentence =>
    obtain ⟨visible, capitalised⟩ := sentence_eq_self_iff.mp same
    refine sentence_eq_self_iff.mpr ⟨?_, ?_⟩
    · rw [toList_trim]
      exact (trimmed_trimChars _).1
    · rw [toList_trim]
      -- Nothing is removed in front, so the first character stays the first one.
      have inFront : ∃ after, text.toList = trimChars text.toList ++ after := by
        obtain ⟨after, whole, _⟩ := exists_dropEndWhile isBlank text.toList
        refine ⟨after, ?_⟩
        rwa [trimChars, stripWhile, dropWhile_of_not_startsBlank visible]
      obtain ⟨after, whole⟩ := inFront
      generalize trimChars text.toList = front at whole
      cases front with
      | nil => rfl
      | cons c rest =>
        rw [whole, List.cons_append, capitalizeChars_cons_eq_self_iff] at capitalised
        exact capitalizeChars_cons_eq_self_iff.mpr
          ⟨capitalised.1, fun other member => capitalised.2 other (List.mem_append_left _ member)⟩

/-- **Texts that a style leaves as they are, joined.** Sentence style lowers what stands after the
first one. -/
theorem Style.apply_unwords {style : Style} {texts : List String}
    (same : ∀ text ∈ texts, style.apply text = text) (filled : ∀ text ∈ texts, text ≠ "")
    (small : style = .sentence → ∀ text ∈ texts.tail, lower text = text) :
    style.apply (unwords texts) = unwords texts := by
  cases style with
  | uppercase =>
    refine upper_eq_self_iff.mpr fun c member => ?_
    by_cases space : c = ' '
    · rw [space]
      decide +kernel
    · obtain ⟨text, among, inText⟩ := mem_of_mem_unwords member space
      exact upper_eq_self_iff.mp (same text among) c inText
  | lowercase =>
    rw [apply, lower_unwords]
    exact congrArg unwords ((List.map_congr_left same).trans (List.map_id texts))
  | formal =>
    have joined : unwords ((words (unwords texts)).map capitalize) =
        unwords (texts.flatMap fun text => (words text).map capitalize) := by
      rw [words_unwords_flatMap, List.map_flatMap]
    exact joined.trans (unwords_flatMap same filled)
  | explode =>
    have joined : unwords (glyphs (unwords texts)) = unwords (texts.flatMap glyphs) := by
      rw [glyphs_unwords]
    exact joined.trans (unwords_flatMap same filled)
  | sentence =>
    cases texts with
    | nil => rfl
    | cons first others =>
      have start := same first List.mem_cons_self
      cases others with
      | nil => rwa [unwords_singleton]
      | cons second others =>
        -- Only the first character of all is raised, so the later texts have to be small already.
        have lowered : lower (unwords (second :: others)) = unwords (second :: others) := by
          rw [lower_unwords]
          exact congrArg unwords ((List.map_congr_left (small rfl)).trans (List.map_id _))
        obtain ⟨visible, capitalised⟩ := sentence_eq_self_iff.mp start
        have some : first.toList ≠ [] := fun empty =>
          filled first List.mem_cons_self (String.toList_eq_nil_iff.mp empty)
        rw [sentence_eq_self_iff, unwords_cons_cons]
        generalize first.toList = chars at visible capitalised some
        obtain ⟨c, rest, rfl⟩ := List.exists_cons_of_ne_nil some
        obtain ⟨raised, still⟩ := capitalizeChars_cons_eq_self_iff.mp capitalised
        refine ⟨visible, capitalizeChars_cons_eq_self_iff.mpr ⟨raised, ?_⟩⟩
        have space : lowerChar ' ' = [' '] := by decide +kernel
        exact List.forall_mem_append.mpr
          ⟨still, List.forall_mem_cons.mpr ⟨space, lower_eq_self_iff.mp lowered⟩⟩

end Dialogue.Text
