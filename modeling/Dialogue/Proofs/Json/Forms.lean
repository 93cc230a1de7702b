/-
**The JSON forms of templates, categories and intents lose nothing.**

Every construct has its form by the rules of `Dialogue.Proofs.Json.Lossless`.

* `lossless_guard`, `lossless_lesson_over`: what lies inside a template, over any decoder of
  templates;
* `lossless_template_within`: so templates, by induction on the levels that are read;
* `json_lossless`: written values are read back, and so is what was read from any other spelling.
-/

import Dialogue.Category
import Dialogue.Intent
import Dialogue.Proofs.Json.Lossless

namespace Dialogue

open Json

variable {bound : Nat}

/-! ### Names -/

theorem lossless_segment : Lossless bound Segment.decode Segment.encode where
  reads segment := by
    cases segment with
    | pattern => exact reads_plain "pattern" rfl rfl
    | that => exact reads_plain "that" rfl rfl
    | topic => exact reads_plain "topic" rfl rfl
  shallow := shallow_choice (by decide) (List.forall_mem_nil _)

theorem lossless_substitutionKind :
    Lossless bound SubstitutionKind.decode SubstitutionKind.encode where
  reads kind := by cases kind <;> exact reads_plain _ rfl rfl
  shallow := shallow_choice (by decide) (List.forall_mem_nil _)

theorem lossless_style : Lossless bound Text.Style.decode Text.Style.encode where
  reads style := by
    cases style with
    | uppercase => exact reads_plain "uppercase" rfl rfl
    | lowercase => exact reads_plain "lowercase" rfl rfl
    | formal => exact reads_plain "formal" rfl rfl
    | sentence => exact reads_plain "sentence" rfl rfl
    | explode => exact reads_plain "explode" rfl rfl
  shallow := shallow_choice (by decide) (List.forall_mem_nil _)

theorem lossless_optional_string :
    Lossless bound (Decoder.option Decoder.string) (ofOption ofText) :=
  lossless_string.option fun _ => nofun

/-! ### Records of positions and names -/

theorem lossless_index :
    Lossless bound decodeIndex fun index => ofMembers [("index", ofWord index)] := by
  refine lossless_record (fun index => [("index", ofWord index)]) (fun _ => rfl) (fun _ => rfl)
    (by decide) (fun index => .of_bind_some (.optional lossless_word builds_nothing)) ?_
  intro record index built
  exact List.forall_mem_singleton.mpr ((@lossless_word bound).shallow_optional rfl built)

theorem lossless_name :
    Lossless bound decodeName fun name => ofMembers [("name", ofText name)] := by
  refine lossless_record (fun name => [("name", ofText name)]) (fun _ => rfl) (fun _ => rfl)
    (by decide) (fun name => .of_bind_some (.required lossless_string builds_nothing)) ?_
  intro record name built
  exact List.forall_mem_singleton.mpr ((@lossless_string bound).shallow_required built)

theorem lossless_pair {α β : Type} {first second : String} {firstDecoder : Decoder α}
    {secondDecoder : Decoder β} {encodeFirst : α → Json} {encodeSecond : β → Json}
    (distinct : [first, second].Nodup) (firstLossless : Lossless bound firstDecoder encodeFirst)
    (secondLossless : Lossless bound secondDecoder encodeSecond) :
    Lossless bound (decodePair first firstDecoder second secondDecoder) fun pair =>
      ofMembers [(first, encodeFirst pair.1), (second, encodeSecond pair.2)] := by
  refine lossless_record
    (fun pair => [(first, encodeFirst pair.1), (second, encodeSecond pair.2)]) (fun _ => rfl)
    (fun _ => rfl) distinct
    (fun pair => .required firstLossless (.required secondLossless builds_nothing)) ?_
  intro record pair built
  obtain ⟨left, gotLeft, built⟩ := Option.bind_eq_some_iff.mp built
  obtain ⟨right, gotRight, built⟩ := Option.bind_eq_some_iff.mp built
  cases built
  simp only [List.forall_mem_cons]
  exact ⟨firstLossless.shallow_required gotLeft, secondLossless.shallow_required gotRight,
    List.forall_mem_nil _⟩

theorem lossless_capture :
    Lossless bound decodeCapture fun read =>
      ofMembers [("kind", read.1.encode), ("index", ofWord read.2)] := by
  have segment : Lossless bound Segment.decode Segment.encode := lossless_segment
  have word : Lossless bound Decoder.word ofWord := lossless_word
  refine lossless_record (fun read => [("kind", read.1.encode), ("index", ofWord read.2)])
    (fun _ => rfl) (fun _ => rfl) (by decide)
    (fun read => .required segment (.optional word builds_nothing)) ?_
  intro record read built
  obtain ⟨part, gotPart, built⟩ := Option.bind_eq_some_iff.mp built
  obtain ⟨index, gotIndex, built⟩ := Option.bind_eq_some_iff.mp built
  cases built
  simp only [List.forall_mem_cons]
  exact ⟨segment.shallow_required gotPart, word.shallow_optional rfl gotIndex,
    List.forall_mem_nil _⟩

theorem lossless_that :
    Lossless bound decodeThat fun read =>
      ofMembers [("index", ofWord read.1), ("sentence", ofWord read.2)] := by
  have word : Lossless bound Decoder.word ofWord := lossless_word
  refine lossless_record (fun read => [("index", ofWord read.1), ("sentence", ofWord read.2)])
    (fun _ => rfl) (fun _ => rfl) (by decide)
    (fun read => .optional word (.optional word builds_nothing)) ?_
  intro record read built
  obtain ⟨turn, gotTurn, built⟩ := Option.bind_eq_some_iff.mp built
  obtain ⟨sentence, gotSentence, built⟩ := Option.bind_eq_some_iff.mp built
  cases built
  simp only [List.forall_mem_cons]
  exact ⟨word.shallow_optional rfl gotTurn, word.shallow_optional rfl gotSentence,
    List.forall_mem_nil _⟩

/-! ### What lies inside a template -/

theorem encodeTemplates_eq_map (templates : List Template) :
    encodeTemplates templates = templates.map Template.encode := by
  induction templates with
  | nil => rfl
  | cons template templates ih => rw [encodeTemplates, ih, List.map_cons]

theorem array_encodeTemplates (templates : List Template) :
    .array (encodeTemplates templates) = ofList Template.encode templates := by
  rw [encodeTemplates_eq_map, ofList]

theorem encodeGuards_eq_map (guards : List Guard) :
    encodeGuards guards = guards.map Guard.encode := by
  induction guards with
  | nil => rfl
  | cons guard guards ih => rw [encodeGuards, ih, List.map_cons]

theorem encodeLessonParts_eq_map (parts : List LessonPart) :
    encodeLessonParts parts = parts.map LessonPart.encode := by
  induction parts with
  | nil => rfl
  | cons part parts ih => rw [encodeLessonParts, ih, List.map_cons]

theorem encodeLessonContext_eq_ofOption (context : Option (List LessonPart)) :
    encodeLessonContext context = ofOption (ofList LessonPart.encode) context := by
  cases context with
  | none => rfl
  | some parts => rw [encodeLessonContext, encodeLessonParts_eq_map, ofOption, ofList]

section

variable {template : Decoder Template}

theorem lossless_guard (lossless : Lossless bound template Template.encode) :
    Lossless bound (Guard.decodeOver template) Guard.encode := by
  have name : Lossless bound (Decoder.option Decoder.string) (ofOption ofText) :=
    lossless_optional_string
  -- Guards and templates contain one another, so a guard is its members only once it is opened.
  refine lossless_record
    (fun guard : Guard => [("predicate", ofOption ofText guard.predicate),
      ("value", ofOption ofText guard.value), ("body", guard.body.encode)])
    (fun ⟨_, _, _⟩ => rfl) (fun _ => rfl) (by decide)
    (fun ⟨_, _, _⟩ => .optional name (.optional name (.required lossless builds_nothing))) ?_
  intro record guard built
  obtain ⟨predicate, gotPredicate, built⟩ := Option.bind_eq_some_iff.mp built
  obtain ⟨value, gotValue, built⟩ := Option.bind_eq_some_iff.mp built
  obtain ⟨body, gotBody, built⟩ := Option.bind_eq_some_iff.mp built
  cases built
  simp only [List.forall_mem_cons]
  exact ⟨name.shallow_optional rfl gotPredicate, name.shallow_optional rfl gotValue,
    lossless.shallow_required gotBody, List.forall_mem_nil _⟩

theorem lossless_condition_over (lossless : Lossless bound template Template.encode) :
    Lossless bound (Guard.decodeConditionOver template) encodeCondition := by
  have guards := (lossless_guard lossless).list
  refine lossless_record (fun guards => [("guards", ofList Guard.encode guards)])
    (fun guards => ?_) (fun _ => rfl) (by decide)
    (fun _ => .of_bind_some (.required guards builds_nothing)) ?_
  · rw [encodeCondition, encodeGuards_eq_map, ofList]
  · intro record _ built
    exact List.forall_mem_singleton.mpr (guards.shallow_required built)

theorem lossless_lessonPart (lossless : Lossless bound template Template.encode) :
    Lossless bound (LessonPart.decodeOver template) LessonPart.encode where
  reads part := by
    refine Reads.mono ?_ (Nat.le_succ bound)
    cases part with
    | text content => exact reads_tagged "text" lossless_string content rfl rfl rfl rfl
    | eval content => exact reads_tagged "eval" lossless content rfl rfl rfl rfl
  shallow := by
    refine shallow_choice (List.forall_mem_nil _) ?_
    simp only [List.forall_mem_cons]
    exact ⟨encloses_map (@lossless_string bound) fun _ => rfl,
      encloses_map lossless fun _ => rfl, List.forall_mem_nil _⟩

theorem lossless_lesson_over (lossless : Lossless bound template Template.encode) :
    Lossless bound (Lesson.decodeOver template) Lesson.encode := by
  have parts := (lossless_lessonPart lossless).list
  have context := parts.option fun _ => nofun
  refine lossless_record
    (fun lesson : Lesson => [("pattern", ofList LessonPart.encode lesson.pattern),
      ("that", ofOption (ofList LessonPart.encode) lesson.that),
      ("topic", ofOption (ofList LessonPart.encode) lesson.topic),
      ("template", lesson.template.encode)])
    (fun ⟨_, _, _, _⟩ => ?_) (fun _ => rfl) (by decide)
    (fun ⟨_, _, _, _⟩ => .required parts (.optional context (.optional context
      (.required lossless builds_nothing)))) ?_
  · rw [Lesson.encode, encodeLessonParts_eq_map, encodeLessonContext_eq_ofOption,
      encodeLessonContext_eq_ofOption, ofList]
  · intro record lesson built
    obtain ⟨pattern, gotPattern, built⟩ := Option.bind_eq_some_iff.mp built
    obtain ⟨that, gotThat, built⟩ := Option.bind_eq_some_iff.mp built
    obtain ⟨topic, gotTopic, built⟩ := Option.bind_eq_some_iff.mp built
    obtain ⟨answer, gotAnswer, built⟩ := Option.bind_eq_some_iff.mp built
    cases built
    simp only [List.forall_mem_cons]
    exact ⟨parts.shallow_required gotPattern, context.shallow_optional rfl gotThat,
      context.shallow_optional rfl gotTopic, lossless.shallow_required gotAnswer,
      List.forall_mem_nil _⟩

/-- The locale, the timezone and the format of a date. -/
def decodeDateMembersOver (template : Decoder Template) :
    Decoder (Option String × Option String × Template) := fun room value => do
  let fields ← Decoder.record? ["locale", "timezone", "format"] room value
  pure (← fields.optional "locale" (Decoder.option Decoder.string) none,
    ← fields.optional "timezone" (Decoder.option Decoder.string) none,
    ← fields.required "format" template)

theorem decodeDateOver_eq_map (template : Decoder Template) :
    decodeDateOver template =
      Decoder.map (fun read => .date read.1 read.2.1 read.2.2) (decodeDateMembersOver template) := by
  funext room value
  simp only [decodeDateOver, Decoder.map, decodeDateMembersOver, Option.bind_eq_bind,
    Option.map_bind, Option.pure_def, Function.comp_def, Option.map_some]

theorem lossless_dateMembers (lossless : Lossless bound template Template.encode) :
    Lossless bound (decodeDateMembersOver template) fun read =>
      ofMembers [("locale", ofOption ofText read.1), ("timezone", ofOption ofText read.2.1),
        ("format", read.2.2.encode)] := by
  have name : Lossless bound (Decoder.option Decoder.string) (ofOption ofText) :=
    lossless_optional_string
  refine lossless_record
    (fun read => [("locale", ofOption ofText read.1), ("timezone", ofOption ofText read.2.1),
      ("format", read.2.2.encode)])
    (fun _ => rfl) (fun _ => rfl) (by decide)
    (fun read => .optional name (.optional name (.required lossless builds_nothing))) ?_
  intro record read built
  obtain ⟨locale, gotLocale, built⟩ := Option.bind_eq_some_iff.mp built
  obtain ⟨timezone, gotTimezone, built⟩ := Option.bind_eq_some_iff.mp built
  obtain ⟨format, gotFormat, built⟩ := Option.bind_eq_some_iff.mp built
  cases built
  simp only [List.forall_mem_cons]
  exact ⟨name.shallow_optional rfl gotLocale, name.shallow_optional rfl gotTimezone,
    lossless.shallow_required gotFormat, List.forall_mem_nil _⟩

end

/-! ### Templates -/

section

variable {levels : Nat} (inner : Lossless levels (Template.decodeWithin levels) Template.encode)

include inner

theorem reads_template (template : Template) :
    Reads (levels + 1) (Template.decodeWithin (levels + 1)) Template.encode template := by
  have named {member : String} (distinct : ["name", member].Nodup) :=
    lossless_pair distinct lossless_string inner
  cases template with
  | text content => exact reads_tagged "text" lossless_string content rfl rfl rfl rfl
  | sequence items =>
    have form := congrArg (tagged "sequence") (array_encodeTemplates items)
    exact reads_tagged "sequence" inner.list items form rfl rfl rfl
  | capture segment index =>
    exact reads_tagged "star" lossless_capture (segment, index) rfl rfl rfl rfl
  | redirectCapture => exact reads_plain "sr" rfl rfl
  | redirect content => exact reads_tagged "srai" inner content rfl rfl rfl rfl
  | think content => exact reads_tagged "think" inner content rfl rfl rfl rfl
  | assign name value =>
    exact reads_tagged "set" (named (by decide)) (name, value) rfl rfl rfl rfl
  | «recall» name => exact reads_tagged "get" lossless_name name rfl rfl rfl rfl
  | property name => exact reads_tagged "bot" lossless_name name rfl rfl rfl rfl
  | map name content =>
    exact reads_tagged "map" (named (by decide)) (name, content) rfl rfl rfl rfl
  | condition guards =>
    exact reads_tagged "condition" (lossless_condition_over inner) guards rfl rfl rfl rfl
  | loop => exact reads_plain "loop" rfl rfl
  | random items =>
    have form := congrArg (tagged "random") (array_encodeTemplates items)
    exact reads_tagged "random" inner.list items form rfl rfl rfl
  | that turn sentence =>
    exact reads_tagged "that" lossless_that (turn, sentence) rfl rfl rfl rfl
  | input index => exact reads_tagged "input" lossless_index index rfl rfl rfl rfl
  | request index => exact reads_tagged "request" lossless_index index rfl rfl rfl rfl
  | response index => exact reads_tagged "response" lossless_index index rfl rfl rfl rfl
  | date locale timezone format =>
    have found := congrArg some (decodeDateOver_eq_map (Template.decodeWithin levels))
    exact reads_tagged "date" (lossless_dateMembers inner) (locale, timezone, format) rfl rfl
      found rfl
  | learn lesson => exact reads_tagged "learn" (lossless_lesson_over inner) lesson rfl rfl rfl rfl
  | unlearn => exact reads_plain "unlearn" rfl rfl
  | eval content => exact reads_tagged "eval" inner content rfl rfl rfl rfl
  | substitute kind content =>
    have members := lossless_pair (by decide : ["kind", "content"].Nodup)
      lossless_substitutionKind inner
    exact reads_tagged "substitute" members (kind, content) rfl rfl rfl rfl
  | styled style content =>
    have members := lossless_pair (by decide : ["op", "content"].Nodup) lossless_style inner
    exact reads_tagged "transform" members (style, content) rfl rfl rfl rfl

theorem shallow_template {room : Nat} {written : Json} {template : Template}
    (decoded : Template.decodeWithin (levels + 1) room written = some template) :
    template.encode.depth ≤ room := by
  have text : Lossless levels Decoder.string ofText := lossless_string
  have name := @lossless_name levels
  have index := @lossless_index levels
  have paired {α : Type} {first second : String} {decoder : Decoder α} {encode : α → Json}
      (distinct : [first, second].Nodup) (lossless : Lossless levels decoder encode) :=
    lossless_pair distinct lossless inner
  refine shallow_choice (by decide) ?_ decoded
  simp only [List.forall_mem_cons]
  refine ⟨encloses_map text fun _ => rfl,
    encloses_map inner.list fun _ => congrArg (tagged _) (array_encodeTemplates _),
    encloses_map (@lossless_capture levels) fun _ => rfl, encloses_map inner fun _ => rfl,
    encloses_map inner fun _ => rfl, encloses_map (paired (by decide) text) fun _ => rfl,
    encloses_map name fun _ => rfl, encloses_map name fun _ => rfl,
    encloses_map (paired (by decide) text) fun _ => rfl,
    encloses_map (lossless_condition_over inner) fun _ => rfl,
    encloses_map inner.list fun _ => congrArg (tagged _) (array_encodeTemplates _),
    encloses_map (@lossless_that levels) fun _ => rfl, encloses_map index fun _ => rfl,
    encloses_map index fun _ => rfl, encloses_map index fun _ => rfl, ?_,
    encloses_map (lossless_lesson_over inner) fun _ => rfl, encloses_map inner fun _ => rfl,
    encloses_map (paired (by decide) lossless_substitutionKind) fun _ => rfl,
    encloses_map (paired (by decide) lossless_style) fun _ => rfl, List.forall_mem_nil _⟩
  -- A date is read as a whole.
  rw [decodeDateOver_eq_map]
  exact encloses_map (lossless_dateMembers inner) fun _ => rfl

end

/-- Templates of at most some levels, by induction on them. -/
theorem lossless_template_within (levels : Nat) :
    Lossless levels (Template.decodeWithin levels) Template.encode := by
  induction levels with
  | zero => exact ⟨fun _ _ below => absurd below (Nat.not_lt_zero _), nofun⟩
  | succ levels inner => exact ⟨reads_template inner, shallow_template inner⟩

/-- The levels that a decoder may read are as many as the containers it may enter, and one. -/
theorem lossless_template : Lossless bound Template.decode Template.encode where
  reads template room _ :=
    (lossless_template_within (room + 1)).reads template room (Nat.lt_succ_self room)
  shallow {room _ _} decoded := (lossless_template_within (room + 1)).shallow decoded

/-! ### Categories and intents -/

theorem lossless_token : Lossless bound Token.decode Token.encode where
  reads token := by
    refine Reads.mono ?_ (Nat.le_succ bound)
    cases token with
    | word key => exact reads_tagged "word" lossless_string key rfl rfl rfl rfl
    | priority key => exact reads_tagged "priority" lossless_string key rfl rfl rfl rfl
    | set name => exact reads_tagged "set" lossless_string name rfl rfl rfl rfl
    | bot name => exact reads_tagged "bot" lossless_string name rfl rfl rfl rfl
    | predicate name => exact reads_tagged "predicate" lossless_string name rfl rfl rfl rfl
    | star => exact reads_plain "star" rfl rfl
    | underscore => exact reads_plain "underscore" rfl rfl
    | hash => exact reads_plain "hash" rfl rfl
    | caret => exact reads_plain "caret" rfl rfl
  shallow decoded := by
    have text : Lossless bound Decoder.string ofText := lossless_string
    refine shallow_choice (by decide) ?_ decoded
    simp only [List.forall_mem_cons]
    exact ⟨encloses_map text fun _ => rfl, encloses_map text fun _ => rfl,
      encloses_map text fun _ => rfl, encloses_map text fun _ => rfl,
      encloses_map text fun _ => rfl, List.forall_mem_nil _⟩

theorem lossless_key : Lossless bound Key.decode Key.encode := by
  have tokens : Lossless bound (Decoder.list Token.decode) (ofList Token.encode) :=
    lossless_token.list
  refine lossless_record
    (fun key : Key => [("pattern", ofList Token.encode key.pattern),
      ("that", ofList Token.encode key.that), ("topic", ofList Token.encode key.topic)])
    (fun _ => rfl) (fun _ => rfl) (by decide) (fun key => ?_) ?_
  · exact .required tokens (.required tokens (.required tokens builds_nothing))
  · intro record key built
    obtain ⟨pattern, gotPattern, built⟩ := Option.bind_eq_some_iff.mp built
    obtain ⟨that, gotThat, built⟩ := Option.bind_eq_some_iff.mp built
    obtain ⟨topic, gotTopic, built⟩ := Option.bind_eq_some_iff.mp built
    cases built
    simp only [List.forall_mem_cons]
    exact ⟨tokens.shallow_required gotPattern, tokens.shallow_required gotThat,
      tokens.shallow_required gotTopic, List.forall_mem_nil _⟩

theorem lossless_definition : Lossless bound Definition.decode Definition.encode := by
  have text : Lossless bound Decoder.string ofText := lossless_string
  have context : Lossless bound (Decoder.option Decoder.string) (ofOption ofText) :=
    lossless_optional_string
  have template : Lossless bound Template.decode Template.encode := lossless_template
  refine lossless_record
    (fun definition : Definition => [("pattern", ofText definition.pattern),
      ("that", ofOption ofText definition.that), ("topic", ofOption ofText definition.topic),
      ("template", definition.template.encode)])
    (fun _ => rfl) (fun _ => rfl) (by decide)
    (fun definition => .required text (.optional context (.optional context
      (.required template builds_nothing)))) ?_
  intro record definition built
  obtain ⟨pattern, gotPattern, built⟩ := Option.bind_eq_some_iff.mp built
  obtain ⟨that, gotThat, built⟩ := Option.bind_eq_some_iff.mp built
  obtain ⟨topic, gotTopic, built⟩ := Option.bind_eq_some_iff.mp built
  obtain ⟨answer, gotAnswer, built⟩ := Option.bind_eq_some_iff.mp built
  cases built
  simp only [List.forall_mem_cons]
  exact ⟨text.shallow_required gotPattern, context.shallow_optional rfl gotThat,
    context.shallow_optional rfl gotTopic, template.shallow_required gotAnswer,
    List.forall_mem_nil _⟩

theorem lossless_intent : Lossless bound Intent.decode Intent.encode := by
  have text : Lossless bound Decoder.string ofText := lossless_string
  refine lossless_record
    (fun intent : Intent => [("label", ofText intent.label),
      ("examples", ofList ofText intent.examples)])
    (fun _ => rfl) (fun _ => rfl) (by decide)
    (fun intent => .required text (.required text.list builds_nothing)) ?_
  intro record intent built
  obtain ⟨label, gotLabel, built⟩ := Option.bind_eq_some_iff.mp built
  obtain ⟨examples, gotExamples, built⟩ := Option.bind_eq_some_iff.mp built
  cases built
  simp only [List.forall_mem_cons]
  exact ⟨text.shallow_required gotLabel, text.list.shallow_required gotExamples,
    List.forall_mem_nil _⟩

/-- **JSON forms lose nothing.** A template, a definition, some definitions, a key, a token, a
condition, a lesson or some intents whose form nests fewer than 128 containers are read back from
it. So are those that were read from a text, however it spells them. -/
theorem json_lossless :
    Survives Template.decode Template.encode ∧
    Survives Definition.decode Definition.encode ∧
    Survives (Decoder.list Definition.decode) (ofList Definition.encode) ∧
    Survives Key.decode Key.encode ∧
    Survives Token.decode Token.encode ∧
    Survives decodeCondition encodeCondition ∧
    Survives Lesson.decode Lesson.encode ∧
    Survives (Decoder.list Intent.decode) (ofList Intent.encode) :=
  ⟨lossless_template.survives, lossless_definition.survives, lossless_definition.list.survives,
    lossless_key.survives, lossless_token.survives,
    (lossless_condition_over lossless_template).survives,
    (lossless_lesson_over lossless_template).survives, lossless_intent.list.survives⟩

/-- A record may be an array of its members, a name an object, and the position left out. -/
example :
    Template.decode 3 (.object [(some "star", .array [.object [(some "that", .null)]])]) =
      some (.capture .that 1) := by
  rfl

end Dialogue
