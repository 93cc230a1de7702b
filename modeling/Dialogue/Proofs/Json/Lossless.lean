/-
**Forms that lose nothing.**

* `Json.depth`: how many containers of a value lie around one another;
* `Reads`: a decoder reads a value back from its form, if it may enter as many containers as the form
  nests;
* `Lossless`: so it is for every value; and the form of what a decoder reads, in whatever spelling,
  nests no more containers than the decoder may enter. Then values survive being written and read
  (`Lossless.survives`).

The rules for strings, lists, options, records and choices follow. A name with content raises the
bound on the containers that may be entered by one; so nested forms are proved by induction on it.
-/

import Dialogue.Json.Decoder
import Dialogue.Proofs.Json.Rendering

namespace Dialogue.Json

variable {α β : Type}

/-! ### Depth -/

mutual

/-- **How many containers of a value lie around one another.** -/
def depth : Json → Nat
  | .null | .bool _ | .number _ | .string _ => 0
  | .array items => depthOfItems items + 1
  | .object members => depthOfMembers members + 1

def depthOfItems : List Json → Nat
  | [] => 0
  | item :: items => max item.depth (depthOfItems items)

def depthOfMembers : List (Option String × Json) → Nat
  | [] => 0
  | (_, value) :: members => max value.depth (depthOfMembers members)

end

theorem depthOfItems_le_iff {items : List Json} {bound : Nat} :
    depthOfItems items ≤ bound ↔ ∀ item ∈ items, item.depth ≤ bound := by
  induction items with
  | nil => simp [depthOfItems]
  | cons item items ih => rw [depthOfItems, Nat.max_le, ih, List.forall_mem_cons]

theorem depthOfMembers_le_iff {members : List (Option String × Json)} {bound : Nat} :
    depthOfMembers members ≤ bound ↔ ∀ member ∈ members, member.2.depth ≤ bound := by
  induction members with
  | nil => simp [depthOfMembers]
  | cons member members ih => rw [depthOfMembers, Nat.max_le, ih, List.forall_mem_cons]

theorem depth_array_le_iff {items : List Json} {room : Nat} :
    (Json.array items).depth ≤ room + 1 ↔ ∀ item ∈ items, item.depth ≤ room := by
  rw [depth, Nat.add_le_add_iff_right, depthOfItems_le_iff]

theorem depth_ofMembers_le_iff {members : List (String × Json)} {room : Nat} :
    (ofMembers members).depth ≤ room + 1 ↔ ∀ member ∈ members, member.2.depth ≤ room := by
  rw [ofMembers, depth, Nat.add_le_add_iff_right, depthOfMembers_le_iff, List.forall_mem_map]

theorem exists_of_depth_array_le {items : List Json} {room : Nat}
    (shallow : (Json.array items).depth ≤ room) : ∃ inner, room = inner + 1 := by
  rw [depth] at shallow
  exact ⟨room - 1, by omega⟩

theorem exists_of_depth_ofMembers_le {members : List (String × Json)} {room : Nat}
    (shallow : (ofMembers members).depth ≤ room) : ∃ inner, room = inner + 1 := by
  rw [ofMembers, depth] at shallow
  exact ⟨room - 1, by omega⟩

theorem arePlain_iff {items : List Json} : ArePlain items ↔ ∀ item ∈ items, item.IsPlain := by
  induction items with
  | nil => simp [ArePlain]
  | cons item items ih => rw [ArePlain, ih, List.forall_mem_cons]

theorem isPlain_ofMembers_iff {members : List (String × Json)} :
    (ofMembers members).IsPlain ↔ ∀ member ∈ members, member.2.IsPlain := by
  rw [ofMembers, IsPlain]
  induction members with
  | nil => simp [HavePlain]
  | cons member members ih =>
    rw [List.map_cons, HavePlain, ih, List.forall_mem_cons]
    exact and_iff_right rfl

/-! ### Reading back -/

/-- **A decoder reads a value back from its form**, if it may enter as many containers as the form
nests, and fewer than a bound. -/
def Reads (bound : Nat) (decoder : Decoder α) (encode : α → Json) (value : α) : Prop :=
  ∀ room, room < bound → (encode value).depth ≤ room →
    (encode value).IsPlain ∧ decoder room (encode value) = some value

/-- **A form that loses nothing**, as long as fewer containers than a bound may be entered. -/
structure Lossless (bound : Nat) (decoder : Decoder α) (encode : α → Json) : Prop where
  reads (value : α) : Reads bound decoder encode value
  /-- What is read has a form that can be read with no more room, however it was written. -/
  shallow {room : Nat} {written : Json} {value : α} :
    decoder room written = some value → (encode value).depth ≤ room

theorem Reads.mono {bound larger : Nat} {decoder : Decoder α} {encode : α → Json} {value : α}
    (reads : Reads larger decoder encode value) (le : bound ≤ larger) :
    Reads bound decoder encode value :=
  fun room below => reads room (Nat.lt_of_lt_of_le below le)

/-- **Writing and reading keeps values**: those whose form does not nest too deep, and those that
were read from any text. -/
def Survives (decoder : Decoder α) (encode : α → Json) : Prop :=
  (∀ value, (encode value).depth < 128 →
    decode? decoder (render (encode value)) = some value) ∧
  ∀ text value, decode? decoder text = some value →
    decode? decoder (render (encode value)) = some value

theorem Lossless.survives {decoder : Decoder α} {encode : α → Json}
    (lossless : Lossless 128 decoder encode) : Survives decoder encode := by
  have written : ∀ value, (encode value).depth < 128 →
      decode? decoder (render (encode value)) = some value := by
    intro value shallow
    obtain ⟨plain, decoded⟩ :=
      lossless.reads value maximumDepth (by decide) (Nat.le_of_lt_succ shallow)
    rw [decode?, read?_render plain]
    exact decoded
  refine ⟨written, fun text value decoded => written value ?_⟩
  obtain ⟨form, _, decoded⟩ := Option.bind_eq_some_iff.mp decoded
  exact Nat.lt_succ_of_le (lossless.shallow decoded)

variable {bound : Nat} {decoder : Decoder α} {encode : α → Json}

/-! ### Strings and numbers -/

theorem lossless_string : Lossless bound Decoder.string ofText where
  reads _ _ _ _ := ⟨rfl, rfl⟩
  shallow _ := Nat.zero_le _

theorem lossless_word : Lossless bound Decoder.word ofWord where
  reads value _ _ _ := by
    refine ⟨trivial, ?_⟩
    have fits : value.toNat < UInt64.size := value.toNat_lt_size
    rw [Decoder.word, ofWord, ofNat, Decoder.nat, if_pos fits, Option.map_some,
      UInt64.ofNat_toNat]
  shallow _ := Nat.zero_le _

/-! ### Lists and options -/

theorem mapM_map_eq_some {γ : Type} {write : α → γ} {read : γ → Option α} {items : List α}
    (each : ∀ item ∈ items, read (write item) = some item) :
    (items.map write).mapM read = some items := by
  induction items with
  | nil => rfl
  | cons item items ih =>
    rw [List.map_cons, List.mapM_cons, each item List.mem_cons_self,
      ih fun other member => each other (List.mem_cons_of_mem _ member)]
    rfl

theorem exists_of_mapM {γ : Type} {read : γ → Option α} {written : List γ} {items : List α}
    (decoded : written.mapM read = some items) {item : α} (member : item ∈ items) :
    ∃ form, read form = some item := by
  induction written generalizing items with
  | nil =>
    cases decoded
    cases member
  | cons form written ih =>
    rw [List.mapM_cons] at decoded
    obtain ⟨first, found, others⟩ := Option.bind_eq_some_iff.mp decoded
    obtain ⟨rest, more, same⟩ := Option.bind_eq_some_iff.mp others
    cases same
    rcases List.mem_cons.mp member with rfl | later
    · exact ⟨form, found⟩
    · exact ih more later

theorem Lossless.list (lossless : Lossless bound decoder encode) :
    Lossless bound (Decoder.list decoder) (ofList encode) where
  reads items room below shallow := by
    obtain ⟨inner, rfl⟩ := exists_of_depth_array_le shallow
    rw [ofList, depth_array_le_iff, List.forall_mem_map] at shallow
    have each := fun item member =>
      lossless.reads item inner (Nat.lt_of_succ_lt below) (shallow item member)
    rw [ofList, IsPlain, arePlain_iff, List.forall_mem_map, Decoder.list]
    exact ⟨fun item member => (each item member).1,
      mapM_map_eq_some fun item member => (each item member).2⟩
  shallow {room written items} decoded := by
    match room, written with
    | inner + 1, .array forms =>
      rw [ofList, depth_array_le_iff, List.forall_mem_map]
      intro item member
      obtain ⟨form, found⟩ := exists_of_mapM decoded member
      exact lossless.shallow found

/-- A form that is not written as null. -/
theorem Lossless.option (lossless : Lossless bound decoder encode)
    (filled : ∀ value, encode value ≠ .null) :
    Lossless bound (Decoder.option decoder) (ofOption encode) where
  reads value room below shallow := by
    cases value with
    | none => exact ⟨trivial, rfl⟩
    | some inner =>
      obtain ⟨plain, decoded⟩ := lossless.reads inner room below shallow
      have present : Decoder.option decoder room (encode inner) =
          (decoder room (encode inner)).map some := by
        rw [Decoder.option]
        exact filled inner
      rw [decoded] at present
      exact ⟨plain, present⟩
  shallow {room written value} decoded := by
    cases value with
    | none => exact Nat.zero_le _
    | some inner =>
      unfold Decoder.option at decoded
      split at decoded
      · cases decoded
      · obtain ⟨found, read, same⟩ := Option.map_eq_some_iff.mp decoded
        cases same
        exact lossless.shallow read

/-! ### Records -/

open Decoder (Record record?)

/-- All members in their order. -/
theorem record?_ofMembers {names : List String} {members : List (String × Json)}
    (named : members.map Prod.fst = names) (distinct : names.Nodup) (room : Nat) :
    record? names (room + 1) (ofMembers members) = some ⟨members, room⟩ := by
  have texts : Decoder.members? (members.map fun member => (some member.1, member.2)) =
      some members :=
    mapM_map_eq_some fun _ _ => rfl
  have known : members.filter (fun member => names.contains member.1) = members := by
    refine List.filter_eq_self.mpr fun member inside => ?_
    rw [List.contains_iff_mem, ← named]
    exact List.mem_map_of_mem inside
  have once : (guard names.Nodup : Option Unit) = some () := if_pos distinct
  rw [ofMembers, record?, texts, Option.bind_eq_bind, Option.bind_some]
  dsimp only
  rw [known, named, once]
  rfl

theorem room_of_record? {names : List String} {room : Nat} {written : Json} {record : Record}
    (given : record? names room written = some record) : room = record.room + 1 := by
  unfold record? at given
  split at given
  · obtain ⟨members, _, filtered⟩ := Option.bind_eq_some_iff.mp given
    obtain ⟨_, _, same⟩ := Option.bind_eq_some_iff.mp filtered
    cases same
    rfl
  · obtain ⟨_, _, same⟩ := Option.bind_eq_some_iff.mp given
    cases same
    rfl
  · cases given

theorem lookup_eq_some_of_mem {γ : Type} {entries : List (String × γ)} {entry : String × γ}
    (distinct : (entries.map Prod.fst).Nodup) (member : entry ∈ entries) :
    entries.lookup entry.1 = some entry.2 := by
  induction entries with
  | nil => cases member
  | cons first entries ih =>
    obtain ⟨fresh, distinct⟩ := List.nodup_cons.mp distinct
    rcases List.mem_cons.mp member with rfl | later
    · exact List.lookup_cons_self
    · have other : entry.1 ≠ first.1 := fun same => fresh (same ▸ List.mem_map_of_mem later)
      rw [List.lookup_cons, beq_false_of_ne other]
      exact ih distinct later

theorem mem_of_lookup {γ : Type} {entries : List (String × γ)} {name : String} {value : γ}
    (found : entries.lookup name = some value) : (name, value) ∈ entries := by
  obtain ⟨before, later, rfl, _⟩ := List.lookup_eq_some_iff.mp found
  exact List.mem_append_right _ List.mem_cons_self

/-- Some members are read, one after the other, and a value is built from them. -/
def Builds (bound : Nat) (build : Record → Option α) (members : List (String × Json))
    (value : α) : Prop :=
  ∀ record : Record, record.room < bound →
    (∀ member ∈ members, record.given.lookup member.1 = some member.2) →
    (∀ member ∈ members, member.2.depth ≤ record.room) →
      (∀ member ∈ members, member.2.IsPlain) ∧ build record = some value

theorem builds_nothing {value : α} : Builds bound (fun _ => some value) [] value :=
  fun _ _ _ _ => ⟨List.forall_mem_nil _, rfl⟩

/-- The last member may be the value itself. -/
theorem Builds.of_bind_some {read : Record → Option α} {members : List (String × Json)} {value : α}
    (builds : Builds bound (fun record => (read record).bind some) members value) :
    Builds bound read members value := by
  simpa only [Option.bind_fun_some] using builds

section

variable {name : String} {content : α} {members : List (String × Json)} {value : β}
  {build : α → Record → Option β}

theorem Builds.member {read : Record → Option α} (lossless : Lossless bound decoder encode)
    (reading : ∀ record written, record.given.lookup name = some written →
      read record = decoder record.room written)
    (others : Builds bound (build content) members value) :
    Builds bound (fun record => (read record).bind fun content => build content record)
      ((name, encode content) :: members) value := by
  intro record below given shallow
  rw [List.forall_mem_cons] at given shallow ⊢
  obtain ⟨plain, decoded⟩ := lossless.reads content record.room below shallow.1
  obtain ⟨othersPlain, built⟩ := others record below given.2 shallow.2
  refine ⟨⟨plain, othersPlain⟩, ?_⟩
  show (read record).bind (fun content => build content record) = some value
  rw [reading record _ given.1, decoded, Option.bind_some, built]

theorem Builds.required (lossless : Lossless bound decoder encode)
    (others : Builds bound (build content) members value) :
    Builds bound
      (fun record => (record.required name decoder).bind fun content => build content record)
      ((name, encode content) :: members) value := by
  refine Builds.member lossless (fun record written given => ?_) others
  rw [Record.required, given, Option.bind_some]

theorem Builds.optional {default : α} (lossless : Lossless bound decoder encode)
    (others : Builds bound (build content) members value) :
    Builds bound
      (fun record => (record.optional name decoder default).bind fun content =>
        build content record)
      ((name, encode content) :: members) value := by
  refine Builds.member lossless (fun record written given => ?_) others
  rw [Record.optional, given]

variable {record : Record} {default : α}

theorem Lossless.shallow_required (lossless : Lossless bound decoder encode)
    (got : record.required name decoder = some content) :
    (encode content).depth ≤ record.room := by
  obtain ⟨written, _, decoded⟩ := Option.bind_eq_some_iff.mp got
  exact lossless.shallow decoded

theorem Lossless.shallow_optional (lossless : Lossless bound decoder encode)
    (flat : (encode default).depth = 0) (got : record.optional name decoder default = some content) :
    (encode content).depth ≤ record.room := by
  unfold Record.optional at got
  split at got
  · cases got
    rw [flat]
    exact Nat.zero_le _
  · exact lossless.shallow got

end

/-- A record whose form has all members in their order. -/
theorem lossless_record {names : List String} {build : Record → Option α}
    (members : α → List (String × Json)) (form : ∀ value, encode value = ofMembers (members value))
    (named : ∀ value, (members value).map Prod.fst = names) (distinct : names.Nodup)
    (builds : ∀ value, Builds bound build (members value) value)
    (shallow : ∀ {record value}, build record = some value →
      ∀ member ∈ members value, member.2.depth ≤ record.room) :
    Lossless bound (fun room written => (record? names room written).bind build) encode where
  reads value room below nested := by
    rw [form] at nested ⊢
    obtain ⟨inner, rfl⟩ := exists_of_depth_ofMembers_le nested
    rw [depth_ofMembers_le_iff] at nested
    obtain ⟨plain, built⟩ := builds value ⟨members value, inner⟩ (Nat.lt_of_succ_lt below)
      (fun _ member => lookup_eq_some_of_mem ((named value).symm ▸ distinct) member) nested
    refine ⟨isPlain_ofMembers_iff.mpr plain, ?_⟩
    show (record? names (inner + 1) (ofMembers (members value))).bind build = some value
    rw [record?_ofMembers (named value) distinct, Option.bind_some, built]
  shallow {room written value} decoded := by
    obtain ⟨record, given, built⟩ := Option.bind_eq_some_iff.mp decoded
    rw [form, room_of_record? given, depth_ofMembers_le_iff]
    exact shallow built

/-! ### Choices -/

section

variable {plain : List (String × α)} {filled : List (String × Decoder α)}

/-- A name without content. -/
theorem reads_plain {value : α} (name : String) (form : encode value = ofText name)
    (found : plain.lookup name = some value) :
    Reads bound (Decoder.choice plain filled) encode value := by
  intro room _ _
  rw [form]
  exact ⟨rfl, found⟩

/-- A name with content. -/
theorem reads_tagged {value : α} {inside : Decoder β} {encodeInside : β → Json} {image : β → α}
    (name : String) (lossless : Lossless bound inside encodeInside) (content : β)
    (form : encode value = tagged name (encodeInside content)) (absent : plain.lookup name = none)
    (found : filled.lookup name = some (Decoder.map image inside))
    (meant : image content = value) :
    Reads (bound + 1) (Decoder.choice plain filled) encode value := by
  intro room below shallow
  rw [form, tagged] at shallow ⊢
  obtain ⟨inner, rfl⟩ := exists_of_depth_ofMembers_le shallow
  rw [depth_ofMembers_le_iff, List.forall_mem_singleton] at shallow
  obtain ⟨contentPlain, decoded⟩ :=
    lossless.reads content inner (Nat.lt_of_succ_lt_succ below) shallow
  have chosen : Decoder.choice plain filled (inner + 1)
      (ofMembers [(name, encodeInside content)]) =
        Decoder.map image inside inner (encodeInside content) := by
    simp only [Decoder.choice, ofMembers, List.map_cons, List.map_nil, absent, found,
      Option.bind_some]
  rw [chosen, Decoder.map, decoded, Option.map_some, meant, isPlain_ofMembers_iff,
    List.forall_mem_singleton]
  exact ⟨contentPlain, rfl⟩

/-- The form of what an entry of a choice reads nests one container more than the content. -/
def Encloses (encode : α → Json) (entry : String × Decoder α) : Prop :=
  ∀ room content value, entry.2 room content = some value →
    (encode value).depth ≤ room + 1

theorem encloses_map {inside : Decoder β} {encodeInside : β → Json} {image : β → α} {name : String}
    (lossless : Lossless bound inside encodeInside)
    (form : ∀ content, encode (image content) = tagged name (encodeInside content)) :
    Encloses encode (name, Decoder.map image inside) := by
  intro room content value decoded
  obtain ⟨read, inner, rfl⟩ := Option.map_eq_some_iff.mp decoded
  rw [form, tagged, depth_ofMembers_le_iff, List.forall_mem_singleton]
  exact lossless.shallow inner

theorem shallow_choice (flat : ∀ entry ∈ plain, (encode entry.2).depth = 0)
    (encloses : ∀ entry ∈ filled, Encloses encode entry) {room : Nat} {written : Json} {value : α}
    (decoded : Decoder.choice plain filled room written = some value) :
    (encode value).depth ≤ room := by
  unfold Decoder.choice at decoded
  split at decoded
  · rw [flat _ (mem_of_lookup decoded)]
    exact Nat.zero_le _
  · split at decoded
    · rename_i found
      cases decoded
      rw [flat _ (mem_of_lookup found)]
      exact Nat.zero_le _
    · cases decoded
    · obtain ⟨decoder, found, decoded⟩ := Option.bind_eq_some_iff.mp decoded
      exact encloses _ (mem_of_lookup found) _ _ _ decoded
  · cases decoded

end

end Dialogue.Json
