import Interner.Config.Json
import Interner.Proofs.AcceptedConfig
import Interner.Proofs.JsonPrinting

namespace Interner

open Json

namespace Config

/-- A number that is written with digits only, with no sign, fraction or exponent. -/
inductive IsNatural : Value → Nat → Prop
  | digits {literal : List Char} (h : Number.IsDigits literal) :
      IsNatural (.number literal) (Nat.ofDigitChars 10 literal 0)

/-- The values give a field: its default if there are none, and a 64-bit number if there is one. -/
inductive Gives (default : UInt64) : List Value → UInt64 → Prop
  | absent : Gives default [] default
  | given {v : Value} {n : UInt64} (h : IsNatural v n.toNat) : Gives default [v] n

/-- The values of the members whose name means the given one. -/
def occurrences (name : String) (members : List (List Char × Value)) : List Value :=
  (members.filter fun m => unescape? m.1 = some name.toList).map Prod.snd

def Named (members : List (List Char × Value)) : Prop := ∀ m ∈ members, (unescape? m.1).isSome

theorem IsNatural.unique {v : Value} {k k' : Nat} (h : IsNatural v k) (h' : IsNatural v k') :
    k = k' := by
  cases h with
  | digits _ =>
      cases h' with
      | digits _ => rfl

theorem counter?_eq_some_iff {v : Value} {n : UInt64} :
    v.counter? = some n ↔ IsNatural v n.toNat := by
  constructor
  · intro h
    cases v with
    | number literal =>
        obtain ⟨k, hk, h⟩ := Option.bind_eq_some_iff.mp h
        obtain ⟨hdigits, rfl⟩ := Number.natural?_eq_some_iff.mp hk
        by_cases hlt : Nat.ofDigitChars 10 literal 0 < UInt64.size
        · rw [if_pos hlt] at h
          cases h
          rw [UInt64.toNat_ofNat_of_lt' hlt]
          exact .digits hdigits
        · rw [if_neg hlt] at h
          cases h
    | _ => cases h
  · intro h
    generalize hk : n.toNat = k at h
    cases h with
    | @digits literal hdigits =>
        have hnatural := Number.natural?_eq_some_iff.mpr ⟨hdigits, hk.symm⟩
        simp only [Value.counter?, hnatural, Option.bind_eq_bind, Option.bind_some,
          if_pos n.toNat_lt_size, UInt64.ofNat_toNat]

theorem isSome_counter?_iff {v : Value} :
    v.counter?.isSome ↔ ∃ k < 2 ^ 64, IsNatural v k := by
  rw [Option.isSome_iff_exists]
  constructor
  · rintro ⟨n, hn⟩
    exact ⟨n.toNat, n.toNat_lt, counter?_eq_some_iff.mp hn⟩
  · rintro ⟨k, hlt, hk⟩
    refine ⟨UInt64.ofNat k, counter?_eq_some_iff.mpr ?_⟩
    rw [UInt64.toNat_ofNat_of_lt' hlt]
    exact hk

theorem gives_nil_iff {default n : UInt64} : Gives default [] n ↔ default = n := by
  constructor
  · rintro ⟨⟩
    rfl
  · rintro rfl
    exact .absent

theorem gives_singleton_iff {default n : UInt64} {v : Value} :
    Gives default [v] n ↔ v.counter? = some n := by
  rw [counter?_eq_some_iff]
  constructor
  · rintro ⟨⟩
    assumption
  · exact .given

theorem exists_gives_iff {default : UInt64} {values : List Value} :
    (∃ n, Gives default values n) ↔
      values.length ≤ 1 ∧ ∀ v ∈ values, ∃ k < 2 ^ 64, IsNatural v k := by
  constructor
  · rintro ⟨n, hn⟩
    cases hn with
    | absent => exact ⟨Nat.zero_le 1, List.forall_mem_nil _⟩
    | given h => exact ⟨Nat.le_refl 1, List.forall_mem_singleton.mpr ⟨_, n.toNat_lt, h⟩⟩
  · rintro ⟨hlength, hvalues⟩
    match values with
    | [] => exact ⟨default, .absent⟩
    | [v] =>
        have hcounter := isSome_counter?_iff.mpr (hvalues v List.mem_cons_self)
        obtain ⟨n, hn⟩ := Option.isSome_iff_exists.mp hcounter
        exact ⟨n, .given (counter?_eq_some_iff.mp hn)⟩

theorem namedMembers?_cons (raw : List Char) (value : Value) (members : List (List Char × Value)) :
    namedMembers? ((raw, value) :: members) = (unescape? raw).bind fun name =>
      (namedMembers? members).map ((String.ofList name, value) :: ·) := by
  rw [namedMembers?, List.mapM_cons, ← namedMembers?]
  dsimp only
  rcases unescape? raw with _ | name
  · rfl
  · rcases namedMembers? members with _ | named
    · rfl
    · rfl

theorem exists_config_iff {blockSize maxRecords : UInt64} {bs ms : List Value} :
    (∃ c : Config, Gives blockSize bs c.blockSize ∧ Gives maxRecords ms c.maxRecords) ↔
      (bs.length ≤ 1 ∧ ∀ v ∈ bs, ∃ k < 2 ^ 64, IsNatural v k) ∧
        ms.length ≤ 1 ∧ ∀ v ∈ ms, ∃ k < 2 ^ 64, IsNatural v k := by
  rw [← exists_gives_iff, ← exists_gives_iff]
  constructor
  · rintro ⟨c, hb, hm⟩
    exact ⟨⟨_, hb⟩, _, hm⟩
  · rintro ⟨⟨b, hb⟩, m, hm⟩
    exact ⟨⟨b, m⟩, hb, hm⟩

theorem exists_named {members : List (List Char × Value)} (h : Named members) :
    ∃ named, namedMembers? members = some named ∧
      ∀ name, (named.filter (·.1 = name)).map Prod.snd = occurrences name members := by
  induction members with
  | nil => exact ⟨[], rfl, fun _ => rfl⟩
  | cons m members ih =>
      obtain ⟨raw, value⟩ := m
      obtain ⟨hraw, hmembers⟩ := List.forall_mem_cons.mp h
      obtain ⟨meant, hmeant⟩ := Option.isSome_iff_exists.mp hraw
      obtain ⟨named, hnamed, hvalues⟩ := ih hmembers
      refine ⟨(String.ofList meant, value) :: named, ?_, ?_⟩
      · rw [namedMembers?_cons, hmeant, hnamed]
        rfl
      · intro name
        have hiff : String.ofList meant = name ↔ unescape? raw = some name.toList := by
          rw [hmeant, Option.some_inj]
          exact ⟨fun h => h ▸ String.toList_ofList.symm, fun h => h ▸ String.ofList_toList⟩
        have hrest := hvalues name
        rw [occurrences] at hrest ⊢
        by_cases hname : String.ofList meant = name
        · simpa [hname, hiff.mp hname] using hrest
        · simpa [hname, mt hiff.mpr hname] using hrest

theorem named_of_namedMembers? {members : List (List Char × Value)}
    {named : List (String × Value)} (h : namedMembers? members = some named) : Named members := by
  induction members generalizing named with
  | nil => exact List.forall_mem_nil _
  | cons m members ih =>
      obtain ⟨raw, value⟩ := m
      rw [namedMembers?_cons] at h
      obtain ⟨meant, hmeant, hrest⟩ := Option.bind_eq_some_iff.mp h
      obtain ⟨named', hnamed', -⟩ := Option.map_eq_some_iff.mp hrest
      exact List.forall_mem_cons.mpr ⟨Option.isSome_of_mem hmeant, ih hnamed'⟩

theorem field?_eq_some_iff {named : List (String × Value)} {name : String} {default n : UInt64} :
    (field? named name).map (·.getD default) = some n ↔
      Gives default ((named.filter (·.1 = name)).map Prod.snd) n := by
  rw [field?]
  generalize named.filter (·.1 = name) = found
  match found with
  | [] => rw [List.map_nil, gives_nil_iff, Option.map_some, Option.getD_none, Option.some_inj]
  | [(_, value)] =>
      rw [List.map_singleton, gives_singleton_iff]
      dsimp only
      rcases value.counter? with _ | n
      · rfl
      · rfl
  | _ :: _ :: _ =>
      constructor
      · rintro ⟨⟩
      · rintro ⟨⟩

theorem ofValue?_object {members : List (List Char × Value)} (h : Named members) (c : Config) :
    ofValue? (.object members) = some c ↔
      Gives ({} : Config).blockSize (occurrences "block_size" members) c.blockSize ∧
        Gives ({} : Config).maxRecords (occurrences "max_records" members) c.maxRecords := by
  obtain ⟨named, hnamed, hvalues⟩ := exists_named h
  rw [← hvalues, ← hvalues, ← field?_eq_some_iff, ← field?_eq_some_iff]
  simp only [ofValue?, hnamed, Option.bind_eq_bind, Option.bind_some]
  constructor
  · intro h
    obtain ⟨blockSize, hblockSize, h⟩ := Option.bind_eq_some_iff.mp h
    obtain ⟨maxRecords, hmaxRecords, h⟩ := Option.bind_eq_some_iff.mp h
    cases h
    rw [hblockSize, hmaxRecords]
    exact ⟨rfl, rfl⟩
  · rintro ⟨hb, hm⟩
    obtain ⟨blockSize, hblockSize, hb⟩ := Option.map_eq_some_iff.mp hb
    obtain ⟨maxRecords, hmaxRecords, hm⟩ := Option.map_eq_some_iff.mp hm
    rw [hblockSize, hmaxRecords, Option.bind_some, Option.bind_some, hb, hm]
    rfl

theorem ofValue?_array (items : List Value) (c : Config) :
    ofValue? (.array items) = some c ↔
      Gives ({} : Config).blockSize (items.take 1) c.blockSize ∧
        Gives ({} : Config).maxRecords (items.drop 1) c.maxRecords := by
  obtain ⟨blockSize, maxRecords⟩ := c
  match items with
  | [] =>
      rw [List.take_nil, List.drop_nil, gives_nil_iff, gives_nil_iff, ofValue?, Option.some_inj,
        Config.mk.injEq]
  | [b] =>
      rw [List.take_succ_cons, List.take_zero, List.drop_succ_cons, List.drop_zero,
        gives_singleton_iff, gives_nil_iff, ofValue?]
      rcases b.counter? with _ | b
      · simp
      · simp
  | [b, m] =>
      rw [List.take_succ_cons, List.take_zero, List.drop_succ_cons, List.drop_zero,
        gives_singleton_iff, gives_singleton_iff, ofValue?]
      rcases b.counter? with _ | b
      · simp
      · rcases m.counter? with _ | m
        · simp
        · simp
  | _ :: _ :: _ :: _ =>
      constructor
      · rintro ⟨⟩
      · rintro ⟨-, ⟨⟩⟩

theorem ofJson?_of_text {v : Value} {text : String} (h : Text v text.toList) :
    ofJson? text = ofValue? v := by
  rw [ofJson?, parse?_eq_some_iff.mpr h, Option.bind_some]

theorem escape_fieldNames : ∀ name ∈ fieldNames, escape name.toList = name.toList := by
  decide

def members (c : Config) : List (List Char × Value) :=
  [("block_size".toList, .ofNat c.blockSize.toNat),
    ("max_records".toList, .ofNat c.maxRecords.toNat)]

theorem text_toJson (c : Config) : Text (.object c.members) c.toJson.toList := by
  have hraw : ∀ name ∈ fieldNames, Raw name.toList := by
    intro name hname
    have hescaped := raw_escape name.toList
    rw [escape_fieldNames name hname] at hescaped
    exact hescaped
  have hproper : Proper (.object c.members) := by
    refine .object (List.forall_mem_cons.mpr ⟨?_, List.forall_mem_singleton.mpr ?_⟩)
      (List.forall_mem_cons.mpr ⟨proper_ofNat _, List.forall_mem_singleton.mpr (proper_ofNat _)⟩)
    · exact hraw "block_size" (by decide)
    · exact hraw "max_records" (by decide)
  rw [toJson, String.toList_ofList]
  exact hproper.spells_compact.text

theorem named_members (c : Config) : Named c.members := by
  refine List.forall_mem_cons.mpr ⟨?_, List.forall_mem_singleton.mpr ?_⟩
  · rfl
  · rfl

theorem occurrences_members (c : Config) :
    occurrences "block_size" c.members = [.ofNat c.blockSize.toNat] ∧
      occurrences "max_records" c.members = [.ofNat c.maxRecords.toNat] :=
  ⟨rfl, rfl⟩

theorem isNatural_ofNat (n : Nat) : IsNatural (.ofNat n) n := by
  have h := IsNatural.digits (Number.isDigits_digits n)
  rw [Number.digits, Nat.ofDigitChars_ten_toDigits] at h
  exact h

structure DecodingLaw (text : String) : Prop where
  object : ∀ members, Text (.object members) text.toList → Named members →
    ∀ c, ofJson? text = some c ↔
      Gives ({} : Config).blockSize (occurrences "block_size" members) c.blockSize ∧
        Gives ({} : Config).maxRecords (occurrences "max_records" members) c.maxRecords
  /-- It is accepted exactly if no field is given twice, and each is given by digits that fit 64
  bits. -/
  object_accepted : ∀ members, Text (.object members) text.toList → Named members →
    ((ofJson? text).isSome ↔ ∀ name ∈ fieldNames, (occurrences name members).length ≤ 1 ∧
      ∀ v ∈ occurrences name members, ∃ k < 2 ^ 64, IsNatural v k)
  others_ignored : ∀ members members' text', Text (.object members) text.toList →
    Text (.object members') text'.toList → Named members → Named members' →
    (∀ name ∈ fieldNames, occurrences name members' = occurrences name members) →
    ofJson? text' = ofJson? text
  array : ∀ items, Text (.array items) text.toList → ∀ c, ofJson? text = some c ↔
    Gives ({} : Config).blockSize (items.take 1) c.blockSize ∧
      Gives ({} : Config).maxRecords (items.drop 1) c.maxRecords
  array_accepted : ∀ items, Text (.array items) text.toList →
    ((ofJson? text).isSome ↔ items.length ≤ 2 ∧ ∀ v ∈ items, ∃ k < 2 ^ 64, IsNatural v k)
  /-- Nothing else is accepted. -/
  rejected : (¬ ∃ members, Text (.object members) text.toList ∧ Named members) →
    (¬ ∃ items, Text (.array items) text.toList) → ofJson? text = none
  restored : ∀ c : Config, c.toJson = text → ofJson? text = some c

end Config

open Config

/-- Decoding accepts exactly the texts that say what the fields are, and takes every field as it is
said. -/
theorem decoding_takes_fields_as_written (text : String) : DecodingLaw text := by
  constructor
  case object =>
    intro members htext hnamed c
    rw [ofJson?_of_text htext, ofValue?_object hnamed]
  case object_accepted =>
    intro members htext hnamed
    rw [ofJson?_of_text htext, Option.isSome_iff_exists]
    simp only [ofValue?_object hnamed, exists_config_iff]
    rw [fieldNames, List.forall_mem_cons, List.forall_mem_singleton]
  case others_ignored =>
    intro members members' text' htext htext' hnamed hnamed' hsame
    refine Option.ext fun c => ?_
    rw [ofJson?_of_text htext, ofJson?_of_text htext', ofValue?_object hnamed,
      ofValue?_object hnamed', hsame "block_size" (by decide), hsame "max_records" (by decide)]
  case array =>
    intro items htext c
    rw [ofJson?_of_text htext, ofValue?_array]
  case array_accepted =>
    intro items htext
    rw [ofJson?_of_text htext, Option.isSome_iff_exists]
    simp only [ofValue?_array, exists_config_iff]
    rcases items with _ | ⟨item, items⟩
    · simp
    · rw [List.take_succ_cons, List.take_zero, List.drop_succ_cons, List.drop_zero,
        List.forall_mem_singleton, List.forall_mem_cons, List.length_singleton, List.length_cons]
      constructor
      · exact fun ⟨⟨_, hitem⟩, hlength, hitems⟩ => ⟨Nat.succ_le_succ hlength, hitem, hitems⟩
      · exact fun ⟨hlength, hitem, hitems⟩ =>
          ⟨⟨Nat.le_refl 1, hitem⟩, Nat.le_of_succ_le_succ hlength, hitems⟩
  case rejected =>
    intro hobject harray
    rw [ofJson?]
    rcases hparsed : parse? text.toList with _ | v
    · rfl
    · have htext := parse?_eq_some_iff.mp hparsed
      cases v with
      | object members =>
          rw [Option.bind_some, ofValue?]
          rcases hnamed : namedMembers? members with _ | named
          · rfl
          · exact absurd ⟨members, htext, named_of_namedMembers? hnamed⟩ hobject
      | array items => exact absurd ⟨items, htext⟩ harray
      | _ => rfl
  case restored =>
    rintro c rfl
    obtain ⟨hblockSize, hmaxRecords⟩ := c.occurrences_members
    rw [ofJson?_of_text c.text_toJson, ofValue?_object c.named_members, hblockSize, hmaxRecords]
    exact ⟨.given (isNatural_ofNat _), .given (isNatural_ofNat _)⟩

example : ofJson? "\x7b\"other\": [null, 1e9], \"block\\u005fsize\": 16\x7d" =
    some { blockSize := 16 } := by
  cbv

end Interner
