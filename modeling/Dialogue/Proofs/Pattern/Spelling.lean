/-
**Patterns that are written and parsed again.**

A name can be given in two forms and is written in one of them, which ends at a character that the
other form allows. Where no name has that character, the tokens of a pattern are parsed again from
their written form. Where a name has it, what is written has other references, but none whose name
has it: one round trip is enough.

* `Normalizer.patternTokens`: the tokens of some characters; `patternTokens_append_blank`,
  `patternTokens_of_some`: they can be taken piece by piece;
* `Normalizer.Yields`: the tokens that parsing can give, `yields_of_mem_parsePattern`;
* `Token.IsReadable`: a token that is parsed again from its written form,
  `patternTokens_text_append`;
* `isReadable_text_append`, `isReadable_patternText`: what is written has only readable references,
  whatever the tokens are;
* `patternText_roundtrip`: so patterns and their written forms agree where the tokens are readable,
  and after one round trip.
-/

import Dialogue.Proofs.Pattern.Markup

namespace Dialogue

open Text Pattern

/-! ### The tokens of some characters -/

/-- The first stretch of text with a character in front of it. -/
theorem exists_prependChar (normalizer : Normalizer) (c : Char) (cut : List Piece) :
    ∃ chars others, prependChar c cut = .text (c :: chars) :: others ∧
      cut.flatMap normalizer.pieceTokens =
        (splitWords chars).filterMap normalizer.wordToken? ++
          others.flatMap normalizer.pieceTokens := by
  match cut with
  | [] => exact ⟨[], [], rfl, rfl⟩
  | .text chars :: others => exact ⟨chars, others, rfl, rfl⟩
  | .reference found :: others => exact ⟨[], .reference found :: others, rfl, rfl⟩

/-- Characters that begin no reference belong to the text that follows them. -/
theorem pieces_append {before rest chars : List Char} {others : List Piece}
    (unopened : '<' ∉ before) (cut : pieces rest = .text chars :: others) :
    pieces (before ++ rest) = .text (before ++ chars) :: others := by
  induction before with
  | nil => exact cut
  | cons c before ih =>
    rw [List.mem_cons, not_or] at unopened
    have unread : readReference? (c :: (before ++ rest)) = none :=
      readReference?_eq_none fun first => unopened.1 (Option.some.inj first).symm
    rw [List.cons_append, pieces_of_none unread, ih unopened.2]
    rfl

namespace Normalizer

variable (normalizer : Normalizer)

/-- The tokens of some characters of a pattern. -/
def patternTokens (chars : List Char) : List Token :=
  (pieces chars).flatMap normalizer.pieceTokens

theorem parsePattern_eq (text : String) :
    normalizer.parsePattern text = normalizer.patternTokens text.toList := rfl

theorem patternTokens_of_some {chars rest : List Char} {reference : Reference}
    (read : readReference? chars = some (reference, rest)) :
    normalizer.patternTokens chars =
      (referenceToken? reference).toList ++ normalizer.patternTokens rest := by
  rw [patternTokens, pieces_of_some read]
  rfl

theorem patternTokens_of_unopened {chars : List Char} (unopened : '<' ∉ chars) :
    normalizer.patternTokens chars = (splitWords chars).filterMap normalizer.wordToken? := by
  have unmarked : Unmarked (String.ofList chars).toList := by
    rw [String.toList_ofList]
    exact unmarked_of_not_mem unopened
  have tokens := normalizer.parsePattern_of_unmarked unmarked
  rwa [parsePattern_eq, String.toList_ofList] at tokens

/-- **Words in front of a blank are parsed by themselves.** -/
theorem patternTokens_append_blank {before : List Char} {gap : Char} (unopened : '<' ∉ before)
    (blank : isBlank gap) (rest : List Char) :
    normalizer.patternTokens (before ++ gap :: rest) =
      (splitWords before).filterMap normalizer.wordToken? ++ normalizer.patternTokens rest := by
  have unread : readReference? (gap :: rest) = none := by
    refine readReference?_eq_none fun opened => ?_
    rw [Option.some.inj opened] at blank
    exact absurd blank (by decide)
  obtain ⟨chars, others, cut, tokens⟩ := exists_prependChar normalizer gap (pieces rest)
  rw [← pieces_of_none unread] at cut
  rw [patternTokens, pieces_append unopened cut, List.flatMap_cons, pieceTokens,
    splitWords_append_blank blank, List.filterMap_append, List.append_assoc, ← tokens]
  rfl

/-- A blank at the start has no token. -/
theorem patternTokens_blank {gap : Char} (blank : isBlank gap) (rest : List Char) :
    normalizer.patternTokens (gap :: rest) = normalizer.patternTokens rest :=
  normalizer.patternTokens_append_blank List.not_mem_nil blank rest

/-- A token of some characters is that of a word, or of a reference. -/
theorem of_mem_patternTokens {chars : List Char} {token : Token}
    (member : token ∈ normalizer.patternTokens chars) :
    (∃ word, Solid word ∧ normalizer.wordToken? word = some token) ∨
      ∃ reference ∈ references chars, referenceToken? reference = some token := by
  obtain ⟨piece, inPieces, inPiece⟩ := List.mem_flatMap.mp member
  cases piece with
  | text words =>
    obtain ⟨word, inWords, found⟩ := List.mem_filterMap.mp inPiece
    exact .inl ⟨word, solid_of_mem_splitWords inWords, found⟩
  | reference found =>
    exact .inr ⟨found, List.mem_filterMap.mpr ⟨_, inPieces, rfl⟩, Option.mem_toList.mp inPiece⟩

/-- The token of a word is a wildcard, or has the key of the word or of what is behind its mark. -/
theorem cases_of_wordToken? {word : List Char} {token : Token}
    (found : normalizer.wordToken? word = some token) :
    token ∈ [.star, .underscore, .hash, .caret] ∨
      ∃ inner, inner <:+ word ∧ normalizer.key (String.ofList inner) ≠ "" ∧
        (token = .word (normalizer.key (String.ofList inner)) ∨
          token = .priority (normalizer.key (String.ofList inner))) := by
  unfold wordToken? at found
  split at found
  case h_5 c rest =>
    obtain ⟨filled, same⟩ := Option.ite_none_left_eq_some.mp found
    cases same
    rw [String.isEmpty_iff] at filled
    exact .inr ⟨c :: rest, List.suffix_cons '$' _, filled, .inr rfl⟩
  case h_6 =>
    obtain ⟨filled, same⟩ := Option.ite_none_left_eq_some.mp found
    cases same
    rw [String.isEmpty_iff] at filled
    exact .inr ⟨word, List.suffix_rfl, filled, .inl rfl⟩
  all_goals
    cases found
    exact .inl (by decide)

/-! ### What parsing gives -/

/-- Folding leaves nothing to fold. -/
@[simp] theorem foldChars_foldChars (chars : List Char) :
    normalizer.foldChars (normalizer.foldChars chars) = normalizer.foldChars chars := by
  unfold foldChars
  split <;> simp

/-- A character of a folded text is one of the text, or a plain one. -/
theorem mem_foldChars {chars : List Char} {c : Char} (member : c ∈ normalizer.foldChars chars) :
    c ∈ chars ∨ isPlain c := by
  unfold foldChars at member
  split at member
  · exact .inl member
  · exact mem_lowerChars member

/-- **The key of a word**: it is clean and has no blank, and it is its own key. -/
structure IsKey (key : String) : Prop where
  solid : Solid key.toList
  clean : normalizer.cleanChars key.toList = key.toList
  key_eq : normalizer.key key = key

variable {normalizer}

theorem IsKey.ne_empty {key : String} (isKey : normalizer.IsKey key) : key ≠ "" := by
  rw [ne_eq, ← String.toList_eq_nil_iff]
  exact isKey.solid.1

theorem isKey_key (strip : normalizer.punctuation = .strip) {word : List Char}
    (visible : ∀ c ∈ word, isBlank c = false) (filled : normalizer.key (String.ofList word) ≠ "") :
    normalizer.IsKey (normalizer.key (String.ofList word)) := by
  have key : normalizer.key (String.ofList word) =
      String.ofList (normalizer.foldChars (normalizer.cleanChars word)) := by
    rw [Normalizer.key, String.toList_ofList]
  have plain : ∀ c ∈ normalizer.foldChars (normalizer.cleanChars word),
      isBlank c = false ∧ isPunctuation c = false := by
    intro c member
    rcases normalizer.mem_foldChars member with inWord | plain
    · exact ⟨visible c (normalizer.cleanChars_subset word inWord),
        isPunctuation_eq_false_of_clean strip (normalizer.cleanChars_cleanChars word) c inWord⟩
    · simpa [isPlain] using plain
  have clean : normalizer.cleanChars (normalizer.foldChars (normalizer.cleanChars word)) =
      normalizer.foldChars (normalizer.cleanChars word) := by
    rw [cleanChars, strip, List.filter_eq_self]
    exact fun c member => by simp [(plain c member).2]
  rw [key] at filled ⊢
  refine ⟨⟨?_, ?_⟩, ?_, ?_⟩
  · simpa using filled
  · simpa using fun c member => (plain c member).1
  · rw [String.toList_ofList, clean]
  · rw [Normalizer.key, String.toList_ofList, clean, foldChars_foldChars]

end Normalizer

/-- The token of a reference with a name. -/
def Token.ofReference (reference : Reference) : Token :=
  match reference.kind with
  | .set => .set reference.name
  | .bot => .bot reference.name
  | .predicate => .predicate reference.name

/-- The name of a reference that is read: canonical, and without what ends one of the two forms. -/
structure Pattern.Reference.IsNamed (reference : Reference) : Prop where
  filled : reference.name ≠ ""
  canonical_eq : canonical reference.name = reference.name
  unclosed : '<' ∉ reference.name.toList ∨ '"' ∉ reference.name.toList

/-- **The tokens that parsing can give.** -/
inductive Normalizer.Yields (normalizer : Normalizer) : Token → Prop
  | word {key : String} : normalizer.IsKey key → normalizer.Yields (.word key)
  | priority {key : String} : normalizer.IsKey key → normalizer.Yields (.priority key)
  | reference {reference : Reference} : reference.IsNamed →
      normalizer.Yields (.ofReference reference)
  | wild {token : Token} : token ∈ [.star, .underscore, .hash, .caret] → normalizer.Yields token

theorem referenceToken?_eq_some_iff {reference : Reference} {token : Token} :
    Normalizer.referenceToken? reference = some token ↔
      reference.name ≠ "" ∧ token = .ofReference reference := by
  unfold Normalizer.referenceToken? Token.ofReference
  split
  · rename_i nothing
    simp [String.isEmpty_iff.mp nothing]
  · rename_i filled
    rw [String.isEmpty_iff] at filled
    cases reference.kind <;> simp [filled, eq_comm]

section Strip

variable {normalizer : Normalizer} (strip : normalizer.punctuation = .strip)

include strip

theorem yields_of_wordToken? {word : List Char} {token : Token} (solid : Solid word)
    (found : normalizer.wordToken? word = some token) : normalizer.Yields token := by
  rcases normalizer.cases_of_wordToken? found with wild | ⟨inner, behind, filled, either⟩
  · exact .wild wild
  · have visible : ∀ c ∈ inner, isBlank c = false :=
      fun c member => solid.2 c (behind.subset member)
    have isKey := Normalizer.isKey_key strip visible filled
    rcases either with rfl | rfl
    · exact .word isKey
    · exact .priority isKey

omit strip in
/-- The name of a reference of a text is that of a reference. -/
theorem isNamed_of_mem_references {chars : List Char} {reference : Reference}
    (member : reference ∈ references chars) (filled : reference.name ≠ "") : reference.IsNamed := by
  obtain ⟨_, _, read⟩ := exists_of_mem_references member
  obtain ⟨name, _, _, named, form⟩ := exists_of_readReference? read
  refine ⟨filled, by rw [named, canonical_canonical], ?_⟩
  rw [named]
  rcases form with form | form
  · obtain ⟨_, _, _, _, _, unquoted, _⟩ := eq_of_readAttribute? form
    exact .inr (not_mem_canonical unquoted (by decide))
  · obtain ⟨_, _, _, _, _, unopened, _⟩ := eq_of_readElement? form
    exact .inl (not_mem_canonical unopened (by decide))

/-- **Parsing gives words with their own keys, and references with canonical names.** -/
theorem yields_of_mem_parsePattern {text : String} {token : Token}
    (member : token ∈ normalizer.parsePattern text) : normalizer.Yields token := by
  rcases normalizer.of_mem_patternTokens member with
    ⟨word, solid, found⟩ | ⟨reference, among, found⟩
  · exact yields_of_wordToken? strip solid found
  · obtain ⟨filled, rfl⟩ := referenceToken?_eq_some_iff.mp found
    exact .reference (isNamed_of_mem_references among filled)

end Strip

/-! ### What is written -/

/-- **A token that is parsed again from its written form.** Its name does not close it. -/
def Token.IsReadable : Token → Prop
  | .set name => '<' ∉ name.toList
  | .bot name | .predicate name => '"' ∉ name.toList
  | .word _ | .priority _ | .star | .underscore | .hash | .caret => True

instance (token : Token) : Decidable token.IsReadable :=
  match token with
  | .set name => inferInstanceAs (Decidable ('<' ∉ name.toList))
  | .bot name | .predicate name => inferInstanceAs (Decidable ('"' ∉ name.toList))
  | .word _ | .priority _ | .star | .underscore | .hash | .caret => inferInstanceAs (Decidable True)

theorem isReadable_ofReference {reference : Reference} :
    (Token.ofReference reference).IsReadable ↔ reference.IsReadable := by
  obtain ⟨kind, name⟩ := reference
  cases kind <;> rfl

theorem isReadable_of_wordToken? {normalizer : Normalizer} {word : List Char} {token : Token}
    (found : normalizer.wordToken? word = some token) : token.IsReadable := by
  rcases normalizer.cases_of_wordToken? found with wild | ⟨_, _, _, rfl | rfl⟩
  · have all : ∀ token ∈ [Token.star, .underscore, .hash, .caret], token.IsReadable := by decide
    exact all token wild
  · trivial
  · trivial

theorem text_ofReference (reference : Reference) :
    (Token.ofReference reference).text.toList =
      reference.kind.opening ++ (reference.name.toList ++ reference.kind.closing) := by
  have joined : ∀ before name after : String, (before ++ name ++ after).toList =
      before.toList ++ (name.toList ++ after.toList) := by
    intro before name after
    rw [String.toList_append, String.toList_append, List.append_assoc]
  obtain ⟨kind, name⟩ := reference
  cases kind with
  | set => exact joined "<set>" name "</set>"
  | bot => exact joined "<bot name=\"" name "\"/>"
  | predicate => exact joined "<get name=\"" name "\"/>"

/-! ### One token -/

section Text

variable {normalizer : Normalizer}

/-- A word that is written is the one word of its text, without a bracket. -/
theorem patternTokens_word_append {word rest : List Char} {token : Token} (solid : Solid word)
    (unopened : '<' ∉ word) (found : normalizer.wordToken? word = some token)
    (ends : rest = [] ∨ StartsBlank rest) :
    normalizer.patternTokens (word ++ rest) = token :: normalizer.patternTokens rest := by
  have alone : (splitWords word).filterMap normalizer.wordToken? = [token] := by
    rw [splitWords_of_solid solid]
    simp [found]
  rcases ends with rfl | starts
  · rw [List.append_nil, normalizer.patternTokens_of_unopened unopened, alone]
    rw [normalizer.patternTokens_of_unopened List.not_mem_nil]
    rfl
  · obtain ⟨gap, rest, blank, rfl⟩ := starts.exists_cons
    rw [normalizer.patternTokens_append_blank unopened blank, alone,
      normalizer.patternTokens_blank blank]
    rfl

variable (strip : normalizer.punctuation = .strip)

include strip

/-- Nothing in a key is punctuation. -/
theorem Normalizer.IsKey.not_mem {key : String} (isKey : normalizer.IsKey key) {c : Char}
    (mark : isPunctuation c) : c ∉ key.toList := by
  intro member
  rw [isPunctuation_eq_false_of_clean strip isKey.clean c member] at mark
  cases mark

/-- **The written form of a token is one piece**: it is a word without a bracket, or a reference. -/
theorem Normalizer.Yields.text_cases {token : Token} (yields : normalizer.Yields token) :
    (Solid token.text.toList ∧ '<' ∉ token.text.toList ∧
      normalizer.wordToken? token.text.toList = some token) ∨
    ∃ reference : Reference, reference.IsNamed ∧ token = .ofReference reference := by
  cases yields with
  | @word key isKey =>
    have filled : normalizer.key (String.ofList key.toList) ≠ "" := by
      rw [String.ofList_toList, isKey.key_eq]
      exact isKey.ne_empty
    refine .inl ⟨isKey.solid, isKey.not_mem strip (by decide), ?_⟩
    change normalizer.wordToken? key.toList = _
    rw [normalizer.wordToken?_eq_map (Normalizer.isOrdinary_of_clean strip isKey.clean),
      normalizer.inputWord?_eq, if_neg filled, String.ofList_toList, isKey.key_eq]
    rfl
  | @priority key isKey =>
    have written : (Token.priority key).text.toList = '$' :: key.toList := by
      rw [Token.text, String.toList_append]
      rfl
    obtain ⟨c, rest, split⟩ := List.exists_cons_of_ne_nil isKey.solid.1
    have same : String.ofList (c :: rest) = key := by rw [← split, String.ofList_toList]
    have filled : ¬key.isEmpty := mt String.isEmpty_iff.mp isKey.ne_empty
    rw [written]
    refine .inl ⟨⟨List.cons_ne_nil _ _, ?_⟩, ?_, ?_⟩
    · exact List.forall_mem_cons.mpr ⟨by decide, isKey.solid.2⟩
    · simpa using isKey.not_mem strip (by decide)
    · rw [split, Normalizer.wordToken?, same, isKey.key_eq]
      simp [filled]
  | @reference reference named => exact .inr ⟨reference, named, rfl⟩
  | wild wild =>
    have single : ∀ c, isBlank c = false → Solid [c] := fun c visible =>
      ⟨List.cons_ne_nil c [], List.forall_mem_singleton.mpr visible⟩
    have unopened : ∀ c, '<' ≠ c → '<' ∉ [c] :=
      fun c other same => other (List.mem_singleton.mp same)
    simp only [List.mem_cons, List.not_mem_nil, or_false] at wild
    rcases wild with rfl | rfl | rfl | rfl
    all_goals exact .inl ⟨single _ (by decide), unopened _ (by decide), rfl⟩

/-- **A readable token is parsed from its written form**, in front of a blank or at the end. -/
theorem patternTokens_text_append {token : Token} (yields : normalizer.Yields token)
    (readable : token.IsReadable) {rest : List Char} (ends : rest = [] ∨ StartsBlank rest) :
    normalizer.patternTokens (token.text.toList ++ rest) =
      token :: normalizer.patternTokens rest := by
  rcases yields.text_cases strip with ⟨solid, unopened, found⟩ | ⟨reference, named, rfl⟩
  · exact patternTokens_word_append solid unopened found ends
  · have unclosed := isReadable_ofReference.mp readable
    have same : (⟨reference.kind, canonical (String.ofList reference.name.toList)⟩ : Reference) =
        reference := by
      rw [String.ofList_toList, named.canonical_eq]
    have token : Normalizer.referenceToken? reference = some (.ofReference reference) :=
      referenceToken?_eq_some_iff.mpr ⟨named.filled, rfl⟩
    rw [text_ofReference, List.append_assoc, List.append_assoc,
      normalizer.patternTokens_of_some (readReference?_written unclosed rest), same, token]
    rfl

/-- **What is written has only readable references**, whether the token is readable or not. -/
theorem isReadable_text_append {token : Token} (yields : normalizer.Yields token)
    {rest : List Char} (later : ∀ reference ∈ references rest, reference.IsReadable) :
    ∀ reference ∈ references (token.text.toList ++ rest), reference.IsReadable := by
  rcases yields.text_cases strip with ⟨_, unopened, _⟩ | ⟨reference, named, rfl⟩
  · rwa [references_append unopened]
  · rw [text_ofReference, List.append_assoc, List.append_assoc]
    by_cases closed : reference.kind.closer ∈ reference.name.toList
    · -- A name that has one of the two characters does not have the other.
      obtain ⟨kind, name⟩ := reference
      cases kind with
      | set =>
        have opened : '<' ∈ name.toList := closed
        have unquoted : '"' ∉ name.toList := named.unclosed.resolve_left (· opened)
        have inside : '"' ∉ ReferenceKind.set.opening ++ name.toList := by
          rw [List.mem_append, not_or]
          exact ⟨by decide, unquoted⟩
        rw [← List.append_assoc]
        exact isReadable_inside inside later
      | bot | predicate =>
        have quoted : '"' ∈ name.toList := closed
        have unopened : '<' ∉ name.toList := named.unclosed.resolve_right (· quoted)
        exact isReadable_attribute rfl unopened later
    · rw [references_of_some (readReference?_written closed rest)]
      exact List.forall_mem_cons.mpr ⟨isReadable_canonical closed, later⟩

end Text

/-! ### Patterns -/

theorem patternText_cons_cons (first second : Token) (others : List Token) :
    (patternText (first :: second :: others)).toList =
      first.text.toList ++ ' ' :: (patternText (second :: others)).toList := by
  rw [patternText, patternText, List.map_cons, List.map_cons, unwords_cons_cons]

section Pattern

variable {normalizer : Normalizer} (strip : normalizer.punctuation = .strip)

include strip

/-- **Readable tokens are parsed again from what is written.** -/
theorem parsePattern_patternText {tokens : List Token}
    (yields : ∀ token ∈ tokens, normalizer.Yields token)
    (readable : ∀ token ∈ tokens, token.IsReadable) :
    normalizer.parsePattern (patternText tokens) = tokens := by
  induction tokens with
  | nil => exact normalizer.patternTokens_of_unopened List.not_mem_nil
  | cons first others ih =>
    obtain ⟨yieldsFirst, yieldsOthers⟩ := List.forall_mem_cons.mp yields
    obtain ⟨readableFirst, readableOthers⟩ := List.forall_mem_cons.mp readable
    have later := ih yieldsOthers readableOthers
    cases others with
    | nil =>
      have alone := patternTokens_text_append strip yieldsFirst readableFirst (.inl rfl)
      rw [List.append_nil, normalizer.patternTokens_of_unopened List.not_mem_nil] at alone
      exact alone
    | cons second others =>
      have starts : StartsBlank (' ' :: (patternText (second :: others)).toList) := rfl
      rw [normalizer.parsePattern_eq, patternText_cons_cons,
        patternTokens_text_append strip yieldsFirst readableFirst (.inr starts),
        normalizer.patternTokens_blank (by decide), ← normalizer.parsePattern_eq, later]

/-- What is written for some tokens has only readable references. -/
theorem isReadable_patternText {tokens : List Token}
    (yields : ∀ token ∈ tokens, normalizer.Yields token) :
    ∀ reference ∈ references (patternText tokens).toList, reference.IsReadable := by
  induction tokens with
  | nil =>
    have nothing : references (patternText []).toList = [] := references_nil
    rw [nothing]
    exact fun _ absent => absurd absent List.not_mem_nil
  | cons first others ih =>
    obtain ⟨yieldsFirst, yieldsOthers⟩ := List.forall_mem_cons.mp yields
    cases others with
    | nil =>
      have nothing : ∀ reference ∈ references [], reference.IsReadable := by simp
      have alone := isReadable_text_append strip yieldsFirst nothing
      rwa [List.append_nil] at alone
    | cons second others =>
      rw [patternText_cons_cons, ← List.singleton_append]
      refine isReadable_text_append strip yieldsFirst ?_
      rw [references_append (by decide)]
      exact ih yieldsOthers

/-- **What is written is parsed to readable tokens.** -/
theorem isReadable_of_mem_parsePattern {tokens : List Token}
    (yields : ∀ token ∈ tokens, normalizer.Yields token) :
    ∀ token ∈ normalizer.parsePattern (patternText tokens), token.IsReadable := by
  intro token member
  rcases normalizer.of_mem_patternTokens member with ⟨_, _, found⟩ | ⟨reference, inText, found⟩
  · exact isReadable_of_wordToken? found
  · obtain ⟨_, rfl⟩ := referenceToken?_eq_some_iff.mp found
    exact isReadable_ofReference.mpr (isReadable_patternText strip yields reference inText)

/-- **Writing a pattern and parsing it again.** If punctuation does not count, then for every text
the tokens of its pattern are parsed again from their written form exactly if no name of a set has
an opening bracket and no name of a property or of a predicate has a quote. In every case one round
trip is enough: what comes of it is parsed again as it is. -/
theorem patternText_roundtrip (text : String) :
    let tokens := normalizer.parsePattern text
    let again := normalizer.parsePattern (patternText tokens)
    (again = tokens ↔ ∀ token ∈ tokens, token.IsReadable) ∧
      normalizer.parsePattern (patternText again) = again := by
  intro tokens again
  have yields : ∀ token ∈ tokens, normalizer.Yields token :=
    fun token => yields_of_mem_parsePattern strip
  have readable : ∀ token ∈ again, token.IsReadable := isReadable_of_mem_parsePattern strip yields
  refine ⟨⟨fun same => same ▸ readable, parsePattern_patternText strip yields⟩, ?_⟩
  exact parsePattern_patternText strip (fun token => yields_of_mem_parsePattern strip) readable

end Pattern

/-- Names that close what is written around them fall apart into words, and the words stay. -/
theorem patternText_roundtrip_closers :
    let text := "<set name=\"A<b\"/> <bot>x\"y</bot> <get> </set > $Ok *"
    let tokens : List Token := [.set "a<b", .bot "x\"y", .priority "ok", .star]
    let again : List Token :=
      [.word "setabset", .word "bot", .word "namexy", .priority "ok", .star]
    Normalizer.parsePattern {} text = tokens ∧
    Normalizer.parsePattern {} (patternText tokens) = again ∧
    (∃ token ∈ tokens, ¬token.IsReadable) ∧
    Normalizer.parsePattern {} (patternText again) = again := by
  intro text tokens again
  have parsed : Normalizer.parsePattern {} text = tokens := by decide +kernel
  have written : Normalizer.parsePattern {} (patternText tokens) = again := by decide +kernel
  obtain ⟨agrees, stable⟩ := @patternText_roundtrip {} rfl text
  rw [parsed, written] at agrees stable
  refine ⟨parsed, written, ?_, stable⟩
  by_contra readable
  have same := agrees.mpr (by simpa using readable)
  exact absurd same (by decide)

end Dialogue
