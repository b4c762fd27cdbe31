import Interner.Proofs.JsonNumbers
import Interner.Proofs.JsonStrings

/-!
The grammar of JSON. Reading follows it: a text is read as a value exactly if the grammar has the text
for the value, with blanks around it.
-/

namespace Interner.Json

def Blanks (text : List Char) : Prop := ∀ c ∈ text, isBlank c

/-- Texts with commas between them, and blanks before and after each comma and at the end. -/
inductive Listed : List (List Char) → List Char → Prop
  | last (text : List Char) {after : List Char} (hafter : Blanks after) :
      Listed [text] (text ++ after)
  | cons (text : List Char) {after before more : List Char} {texts : List (List Char)}
      (hafter : Blanks after) (hbefore : Blanks before) (h : Listed texts more) :
      Listed (text :: texts) (text ++ after ++ ',' :: before ++ more)

/-- A member of an object as it is written: with blanks before and after the colon. -/
structure MemberText where
  name : List Char
  before : List Char
  after : List Char
  value : Value
  spelled : List Char

namespace MemberText

def member (m : MemberText) : List Char × Value := (m.name, m.value)

def text (m : MemberText) : List Char :=
  '"' :: m.name ++ '"' :: m.before ++ ':' :: m.after ++ m.spelled

structure IsProper (m : MemberText) : Prop where
  raw : Raw m.name
  before : Blanks m.before
  after : Blanks m.after

end MemberText

/-- The texts of a value, without the blanks that may stand around it. -/
inductive Spells : Value → List Char → Prop
  | null : Spells .null ['n', 'u', 'l', 'l']
  | true : Spells (.boolean true) ['t', 'r', 'u', 'e']
  | false : Spells (.boolean false) ['f', 'a', 'l', 's', 'e']
  | number {literal : List Char} (h : Literal literal) : Spells (.number literal) literal
  | string {raw : List Char} (h : Raw raw) : Spells (.string raw) ('"' :: raw ++ ['"'])
  | emptyArray {blanks : List Char} (hblanks : Blanks blanks) :
      Spells (.array []) ('[' :: blanks ++ [']'])
  | array {parts : List (Value × List Char)} {before text : List Char} (hbefore : Blanks before)
      (hparts : ∀ p ∈ parts, Spells p.1 p.2) (h : Listed (parts.map Prod.snd) text) :
      Spells (.array (parts.map Prod.fst)) ('[' :: before ++ text ++ [']'])
  | emptyObject {blanks : List Char} (hblanks : Blanks blanks) :
      Spells (.object []) ('\x7b' :: blanks ++ ['\x7d'])
  | object {parts : List MemberText} {before text : List Char} (hbefore : Blanks before)
      (hproper : ∀ m ∈ parts, m.IsProper) (hparts : ∀ m ∈ parts, Spells m.value m.spelled)
      (h : Listed (parts.map MemberText.text) text) :
      Spells (.object (parts.map MemberText.member)) ('\x7b' :: before ++ text ++ ['\x7d'])

/-- The texts that are a value and nothing else. -/
def Text (v : Value) (text : List Char) : Prop :=
  ∃ before spelled after, Blanks before ∧ Spells v spelled ∧ Blanks after ∧
    text = before ++ spelled ++ after

theorem blanks_nil : Blanks [] := List.forall_mem_nil _

theorem skipBlanks_append {blanks : List Char} (h : Blanks blanks) (text : List Char) :
    skipBlanks (blanks ++ text) = skipBlanks text :=
  List.dropWhile_append_of_pos h

theorem skipBlanks_cons {c : Char} (h : isBlank c = false) (text : List Char) :
    skipBlanks (c :: text) = c :: text :=
  List.dropWhile_cons_of_neg (Bool.eq_false_iff.mp h)

theorem exists_blanks (text : List Char) :
    ∃ blanks, Blanks blanks ∧ text = blanks ++ skipBlanks text :=
  ⟨text.takeWhile isBlank, fun _ hc => List.mem_takeWhile_imp hc,
    List.takeWhile_append_dropWhile.symm⟩

theorem EndsNumber.blanks_append {blanks rest : List Char} (h : EndsNumber rest)
    (hblanks : Blanks blanks) : EndsNumber (blanks ++ rest) := by
  rcases blanks with _ | ⟨c, blanks⟩
  · exact h
  · rintro _ ⟨⟩
    have hc := hblanks c List.mem_cons_self
    simp only [isBlank, Bool.or_eq_true, beq_iff_eq] at hc
    rcases hc with ((rfl | rfl) | rfl) | rfl
    · decide
    · decide
    · decide
    · decide

theorem endsNumber_cons {c : Char} (h : c = ',' ∨ c = ']' ∨ c = '\x7d') (rest : List Char) :
    EndsNumber (c :: rest) := by
  rintro _ ⟨⟩
  rcases h with rfl | rfl | rfl
  · decide
  · decide
  · decide

/-- A text that begins with neither a blank nor a closing bracket. -/
def Opens (text : List Char) : Prop :=
  ∃ c rest, text = c :: rest ∧ isBlank c = false ∧ c ≠ ']' ∧ c ≠ '\x7d'

theorem Opens.append {text : List Char} (h : Opens text) (more : List Char) :
    Opens (text ++ more) := by
  obtain ⟨c, rest, rfl, hc⟩ := h
  exact ⟨c, rest ++ more, rfl, hc⟩

theorem Opens.skipBlanks {text : List Char} (h : Opens text) :
    Json.skipBlanks text = text := by
  obtain ⟨c, rest, rfl, hblank, -⟩ := h
  exact skipBlanks_cons hblank rest

theorem Literal.opens {literal : List Char} (h : Literal literal) : Opens literal := by
  obtain ⟨c, rest, rfl, hc⟩ := h.exists_cons
  refine ⟨c, rest, rfl, ?_⟩
  rcases hc with hdigit | rfl
  · refine ⟨?_, ?_, ?_⟩
    · rw [Bool.eq_false_iff]
      intro hblank
      simp only [isBlank, Bool.or_eq_true, beq_iff_eq] at hblank
      rcases hblank with ((rfl | rfl) | rfl) | rfl <;> cases hdigit
    · rintro rfl
      cases hdigit
    · rintro rfl
      cases hdigit
  · decide

theorem Spells.opens {v : Value} {text : List Char} (h : Spells v text) : Opens text := by
  cases h with
  | number h => exact h.opens
  | _ => exact ⟨_, _, rfl, by decide, by decide, by decide⟩

theorem MemberText.opens (m : MemberText) : Opens m.text :=
  ⟨_, _, rfl, by decide, by decide, by decide⟩

theorem Listed.opens {texts : List (List Char)} {text : List Char} (h : Listed texts text)
    (htexts : ∀ t ∈ texts, Opens t) : Opens text := by
  cases h with
  | last text hafter => exact (htexts text List.mem_cons_self).append _
  | cons text hafter hbefore h =>
      rw [List.append_assoc, List.append_assoc]
      exact (htexts text List.mem_cons_self).append _

section Reading

/-- The value is read off the text, whatever follows that is no part of a number. Two steps for every
character are enough. -/
def Reads (v : Value) (text : List Char) : Prop :=
  ∀ fuel rest, 2 * text.length ≤ fuel → EndsNumber rest →
    takeValue? fuel (text ++ rest) = some (v, rest)

variable {fuel : Nat} {text rest : List Char}

theorem takeValue?_literal {literal : List Char} (h : Literal literal) :
    takeValue? (fuel + 1) (literal ++ rest) =
      (takeNumber? (literal ++ rest)).map fun (literal, rest) => (.number literal, rest) := by
  obtain ⟨c, tail, rfl, hc⟩ := h.exists_cons
  rw [takeValue?]
  -- No other kind of value begins with a digit or a minus sign.
  all_goals
    intro _ heq
    rw [(List.cons.inj heq).1] at hc
    simp at hc

theorem takeItems?_last {v : Value} {after : List Char}
    (hvalue : takeValue? fuel text = some (v, after)) (hclose : skipBlanks after = ']' :: rest) :
    takeItems? (fuel + 1) text = some ([v], rest) := by
  simp only [takeItems?, hvalue, Option.bind_eq_bind, Option.bind_some, hclose]

theorem takeItems?_comma {v : Value} {after : List Char}
    (hvalue : takeValue? fuel text = some (v, after)) (hcomma : skipBlanks after = ',' :: rest) :
    takeItems? (fuel + 1) text =
      (takeItems? fuel (skipBlanks rest)).map fun (items, rest) => (v :: items, rest) := by
  simp only [takeItems?, hvalue, Option.bind_eq_bind, Option.bind_some, hcomma]

theorem takeItems?_of_listed {parts : List (Value × List Char)}
    (hreads : ∀ p ∈ parts, Reads p.1 p.2) (hopens : ∀ p ∈ parts, Opens p.2)
    (h : Listed (parts.map Prod.snd) text) (hfuel : 2 * text.length < fuel) :
    takeItems? fuel (text ++ ']' :: rest) = some (parts.map Prod.fst, rest) := by
  obtain ⟨fuel, rfl⟩ := Nat.exists_eq_add_one_of_ne_zero (Nat.ne_of_gt (Nat.zero_lt_of_lt hfuel))
  generalize htexts : parts.map Prod.snd = texts at h
  induction h generalizing parts fuel with
  | @last spelled after hafter =>
      obtain ⟨⟨v, spelled⟩, rfl, rfl⟩ := List.map_eq_singleton_iff.mp htexts
      rw [List.length_append] at hfuel
      have hvalue := hreads _ List.mem_cons_self fuel (after ++ ']' :: rest) (by omega)
        ((endsNumber_cons (.inr (.inl rfl)) rest).blanks_append hafter)
      rw [List.append_assoc]
      exact takeItems?_last hvalue ((skipBlanks_append hafter _).trans (skipBlanks_cons rfl _))
  | @cons spelled after before more texts hafter hbefore h ih =>
      obtain ⟨⟨v, spelled⟩, parts, rfl, rfl, rfl⟩ := List.map_eq_cons_iff.mp htexts
      obtain ⟨(hread : Reads v spelled), hreads⟩ := List.forall_mem_cons.mp hreads
      obtain ⟨-, hopens⟩ := List.forall_mem_cons.mp hopens
      simp only [List.length_append, List.length_cons] at hfuel
      have hvalue := hread fuel (after ++ ',' :: (before ++ (more ++ ']' :: rest))) (by omega)
        ((endsNumber_cons (.inl rfl) _).blanks_append hafter)
      have hmore : Opens more := h.opens (List.forall_mem_map.mpr hopens)
      obtain ⟨fuel, rfl⟩ := Nat.exists_eq_add_one_of_ne_zero (n := fuel) (by omega)
      simp only [List.append_assoc, List.cons_append]
      rw [takeItems?_comma hvalue ((skipBlanks_append hafter _).trans (skipBlanks_cons rfl _)),
        skipBlanks_append hbefore, (hmore.append _).skipBlanks,
        ih hreads hopens fuel (by omega) rfl]
      rfl

theorem takeMembers?_head (m : MemberText) (hproper : m.IsProper) (hopens : Opens m.spelled)
    (hread : Reads m.value m.spelled) (hfuel : 2 * m.spelled.length ≤ fuel)
    (hrest : EndsNumber rest) : takeMembers? (fuel + 1) (m.text ++ rest) =
      match skipBlanks rest with
      | ',' :: rest =>
        (takeMembers? fuel (skipBlanks rest)).map fun (members, rest) => (m.member :: members, rest)
      | '\x7d' :: rest => some ([m.member], rest)
      | _ => none := by
  have hraw := takeRaw?_of_raw hproper.raw (m.before ++ ':' :: (m.after ++ (m.spelled ++ rest)))
  have hcolon : skipBlanks (m.before ++ ':' :: (m.after ++ (m.spelled ++ rest))) =
      ':' :: (m.after ++ (m.spelled ++ rest)) :=
    (skipBlanks_append hproper.before _).trans (skipBlanks_cons rfl _)
  have hvalue : skipBlanks (m.after ++ (m.spelled ++ rest)) = m.spelled ++ rest :=
    (skipBlanks_append hproper.after _).trans (hopens.append rest).skipBlanks
  simp only [MemberText.text, List.cons_append, List.append_assoc, takeMembers?, hraw, hcolon, hvalue,
    hread fuel rest hfuel hrest, Option.bind_eq_bind, Option.bind_some]
  rfl

theorem takeMembers?_of_listed {parts : List MemberText} (hproper : ∀ m ∈ parts, m.IsProper)
    (hreads : ∀ m ∈ parts, Reads m.value m.spelled) (hopens : ∀ m ∈ parts, Opens m.spelled)
    (h : Listed (parts.map MemberText.text) text) (hfuel : 2 * text.length < fuel) :
    takeMembers? fuel (text ++ '\x7d' :: rest) = some (parts.map MemberText.member, rest) := by
  have hlength : ∀ m : MemberText, m.spelled.length ≤ m.text.length := by
    intro m
    simp only [MemberText.text, List.length_append, List.length_cons]
    omega
  obtain ⟨fuel, rfl⟩ := Nat.exists_eq_add_one_of_ne_zero (Nat.ne_of_gt (Nat.zero_lt_of_lt hfuel))
  generalize htexts : parts.map MemberText.text = texts at h
  induction h generalizing parts fuel with
  | @last spelled after hafter =>
      obtain ⟨m, rfl, rfl⟩ := List.map_eq_singleton_iff.mp htexts
      have hm := List.mem_singleton_self m
      have hle := hlength m
      rw [List.length_append] at hfuel
      rw [List.append_assoc, takeMembers?_head m (hproper m hm) (hopens m hm) (hreads m hm)
          (by omega) ((endsNumber_cons (.inr (.inr rfl)) rest).blanks_append hafter),
        skipBlanks_append hafter, skipBlanks_cons rfl]
      rfl
  | @cons spelled after before more texts hafter hbefore h ih =>
      obtain ⟨m, parts, rfl, rfl, rfl⟩ := List.map_eq_cons_iff.mp htexts
      obtain ⟨hm, hproper⟩ := List.forall_mem_cons.mp hproper
      obtain ⟨hread, hreads⟩ := List.forall_mem_cons.mp hreads
      obtain ⟨hopen, hopens⟩ := List.forall_mem_cons.mp hopens
      have hle := hlength m
      simp only [List.length_append, List.length_cons] at hfuel
      have hmore : Opens more := h.opens (List.forall_mem_map.mpr fun m _ => m.opens)
      obtain ⟨fuel, rfl⟩ := Nat.exists_eq_add_one_of_ne_zero (n := fuel) (by omega)
      simp only [List.append_assoc, List.cons_append]
      rw [takeMembers?_head m hm hopen hread (by omega)
          ((endsNumber_cons (.inl rfl) _).blanks_append hafter),
        skipBlanks_append hafter, skipBlanks_cons rfl]
      simp only [skipBlanks_append hbefore, (hmore.append _).skipBlanks,
        ih hproper hreads hopens fuel (by omega) rfl]
      rfl

theorem takeValue?_array {after : List Char} (h : skipBlanks after = text) (hopens : Opens text) :
    takeValue? (fuel + 1) ('[' :: after) =
      (takeItems? fuel text).map fun (items, rest) => (.array items, rest) := by
  obtain ⟨c, tail, rfl, -, hclose, -⟩ := hopens
  simp only [takeValue?, h]
  split
  · rename_i heq
    exact absurd (List.cons.inj heq).1 hclose
  · rfl

theorem takeValue?_object {after : List Char} (h : skipBlanks after = text) (hopens : Opens text) :
    takeValue? (fuel + 1) ('\x7b' :: after) =
      (takeMembers? fuel text).map fun (members, rest) => (.object members, rest) := by
  obtain ⟨c, tail, rfl, -, -, hclose⟩ := hopens
  simp only [takeValue?, h]
  split
  · rename_i heq
    exact absurd (List.cons.inj heq).1 hclose
  · rfl

theorem reads_of_opens {v : Value} (hopens : Opens text)
    (h : ∀ fuel rest, 2 * text.length ≤ fuel + 1 → EndsNumber rest →
      takeValue? (fuel + 1) (text ++ rest) = some (v, rest)) : Reads v text := by
  intro fuel rest hfuel hrest
  obtain ⟨c, tail, rfl, -⟩ := hopens
  obtain ⟨fuel, rfl⟩ := Nat.exists_eq_add_one_of_ne_zero (n := fuel) (by
    rw [List.length_cons] at hfuel
    omega)
  exact h fuel rest hfuel hrest

/-- Whatever the grammar has for a value is read as that value. -/
theorem Spells.reads {v : Value} {text : List Char} (h : Spells v text) : Reads v text := by
  induction h with
  | null => exact reads_of_opens Spells.null.opens fun _ _ _ _ => rfl
  | true => exact reads_of_opens Spells.true.opens fun _ _ _ _ => rfl
  | false => exact reads_of_opens Spells.false.opens fun _ _ _ _ => rfl
  | number h =>
      refine reads_of_opens h.opens fun fuel rest _ hrest => ?_
      rw [takeValue?_literal h, takeNumber?_append h hrest, Option.map_some]
  | string h =>
      refine reads_of_opens (Spells.string h).opens fun fuel rest _ _ => ?_
      simp only [List.cons_append, List.append_assoc, List.nil_append, takeValue?,
        takeRaw?_of_raw h, Option.map_some]
  | emptyArray hblanks =>
      refine reads_of_opens (Spells.emptyArray hblanks).opens fun fuel rest _ _ => ?_
      simp only [List.cons_append, List.append_assoc, List.nil_append, takeValue?,
        skipBlanks_append hblanks, skipBlanks_cons (c := ']') rfl]
  | @array parts before text hbefore hparts h ih =>
      refine reads_of_opens (Spells.array hbefore hparts h).opens fun fuel rest hfuel _ => ?_
      have hopens : ∀ p ∈ parts, Opens p.2 := fun p hp => (hparts p hp).opens
      have htext : Opens (text ++ ']' :: rest) :=
        (h.opens (List.forall_mem_map.mpr hopens)).append _
      simp only [List.length_cons, List.length_append] at hfuel
      simp only [List.cons_append, List.append_assoc, List.nil_append]
      rw [takeValue?_array ((skipBlanks_append hbefore _).trans htext.skipBlanks) htext,
        takeItems?_of_listed ih hopens h (by omega), Option.map_some]
  | emptyObject hblanks =>
      refine reads_of_opens (Spells.emptyObject hblanks).opens fun fuel rest _ _ => ?_
      simp only [List.cons_append, List.append_assoc, List.nil_append, takeValue?,
        skipBlanks_append hblanks, skipBlanks_cons (c := '\x7d') rfl]
  | @object parts before text hbefore hproper hparts h ih =>
      refine reads_of_opens (Spells.object hbefore hproper hparts h).opens
        fun fuel rest hfuel _ => ?_
      have hopens : ∀ m ∈ parts, Opens m.spelled := fun m hm => (hparts m hm).opens
      have htext : Opens (text ++ '\x7d' :: rest) :=
        (h.opens (List.forall_mem_map.mpr fun m _ => m.opens)).append _
      simp only [List.length_cons, List.length_append] at hfuel
      simp only [List.cons_append, List.append_assoc, List.nil_append]
      rw [takeValue?_object ((skipBlanks_append hbefore _).trans htext.skipBlanks) htext,
        takeMembers?_of_listed hproper ih hopens h (by omega), Option.map_some]

end Reading

section Derivation

variable {fuel : Nat}

/-- What reading with so much fuel finds, the grammar has. -/
structure Derives (fuel : Nat) : Prop where
  value : ∀ text v rest, takeValue? fuel text = some (v, rest) →
    ∃ spelled, Spells v spelled ∧ text = spelled ++ rest
  items : ∀ text items rest, takeItems? fuel text = some (items, rest) →
    ∃ (parts : List (Value × List Char)) (listed : List Char), parts.map Prod.fst = items ∧
      (∀ p ∈ parts, Spells p.1 p.2) ∧ Listed (parts.map Prod.snd) listed ∧
      text = listed ++ ']' :: rest
  members : ∀ text members rest, takeMembers? fuel text = some (members, rest) →
    ∃ (parts : List MemberText) (listed : List Char), parts.map MemberText.member = members ∧
      (∀ m ∈ parts, m.IsProper) ∧ (∀ m ∈ parts, Spells m.value m.spelled) ∧
      Listed (parts.map MemberText.text) listed ∧ text = listed ++ '\x7d' :: rest

theorem derives_value (h : Derives fuel) {text rest : List Char} {v : Value}
    (hvalue : takeValue? (fuel + 1) text = some (v, rest)) :
    ∃ spelled, Spells v spelled ∧ text = spelled ++ rest := by
  unfold takeValue? at hvalue
  split at hvalue
  case h_1 =>
    cases hvalue
    exact ⟨_, .null, rfl⟩
  case h_2 =>
    cases hvalue
    exact ⟨_, .true, rfl⟩
  case h_3 =>
    cases hvalue
    exact ⟨_, .false, rfl⟩
  case h_4 text =>
    obtain ⟨⟨raw, rest'⟩, htake, heq⟩ := Option.map_eq_some_iff.mp hvalue
    cases heq
    obtain ⟨hraw, rfl⟩ := raw_of_takeRaw? htake
    exact ⟨_, .string hraw, by simp⟩
  case h_5 text =>
    obtain ⟨blanks, hblanks, htext⟩ := exists_blanks text
    split at hvalue
    · rename_i after hclose
      cases hvalue
      rw [hclose] at htext
      exact ⟨_, .emptyArray hblanks, by simp [htext]⟩
    · obtain ⟨⟨items, rest'⟩, hitems, heq⟩ := Option.map_eq_some_iff.mp hvalue
      cases heq
      obtain ⟨parts, listed, rfl, hparts, hlisted, heq⟩ := h.items _ _ _ hitems
      rw [heq] at htext
      exact ⟨_, .array hblanks hparts hlisted, by simp [htext]⟩
  case h_6 text =>
    obtain ⟨blanks, hblanks, htext⟩ := exists_blanks text
    split at hvalue
    · rename_i after hclose
      cases hvalue
      rw [hclose] at htext
      exact ⟨_, .emptyObject hblanks, by simp [htext]⟩
    · obtain ⟨⟨members, rest'⟩, hmembers, heq⟩ := Option.map_eq_some_iff.mp hvalue
      cases heq
      obtain ⟨parts, listed, rfl, hproper, hparts, hlisted, heq⟩ := h.members _ _ _ hmembers
      rw [heq] at htext
      exact ⟨_, .object hblanks hproper hparts hlisted, by simp [htext]⟩
  case h_7 =>
    obtain ⟨⟨literal, rest'⟩, htake, heq⟩ := Option.map_eq_some_iff.mp hvalue
    cases heq
    obtain ⟨hliteral, rfl⟩ := literal_of_takeNumber? htake
    exact ⟨_, .number hliteral, rfl⟩

theorem derives_items (h : Derives fuel) {text rest : List Char} {items : List Value}
    (hitems : takeItems? (fuel + 1) text = some (items, rest)) :
    ∃ (parts : List (Value × List Char)) (listed : List Char), parts.map Prod.fst = items ∧
      (∀ p ∈ parts, Spells p.1 p.2) ∧ Listed (parts.map Prod.snd) listed ∧
      text = listed ++ ']' :: rest := by
  obtain ⟨⟨v, after⟩, hvalue, hrest⟩ := Option.bind_eq_some_iff.mp hitems
  obtain ⟨spelled, hspells, rfl⟩ := h.value _ _ _ hvalue
  obtain ⟨blanks, hblanks, hafter⟩ := exists_blanks after
  dsimp only at hrest
  split at hrest
  · rename_i more hcomma
    obtain ⟨⟨items', rest'⟩, hmoreItems, heq⟩ := Option.map_eq_some_iff.mp hrest
    cases heq
    obtain ⟨parts, listed, rfl, hparts, hlisted, heq⟩ := h.items _ _ _ hmoreItems
    obtain ⟨blanks', hblanks', hmore⟩ := exists_blanks more
    refine ⟨(v, spelled) :: parts, _, rfl, List.forall_mem_cons.mpr ⟨hspells, hparts⟩,
      .cons spelled hblanks hblanks' hlisted, ?_⟩
    rw [heq] at hmore
    rw [hafter, hcomma, hmore]
    simp
  · rename_i more hclose
    cases hrest
    refine ⟨[(v, spelled)], _, rfl, List.forall_mem_singleton.mpr hspells,
      .last spelled hblanks, ?_⟩
    rw [hafter, hclose]
    simp
  · cases hrest

theorem derives_members (h : Derives fuel) {text rest : List Char}
    {members : List (List Char × Value)}
    (hmembers : takeMembers? (fuel + 1) text = some (members, rest)) :
    ∃ (parts : List MemberText) (listed : List Char), parts.map MemberText.member = members ∧
      (∀ m ∈ parts, m.IsProper) ∧ (∀ m ∈ parts, Spells m.value m.spelled) ∧
      Listed (parts.map MemberText.text) listed ∧ text = listed ++ '\x7d' :: rest := by
  unfold takeMembers? at hmembers
  split at hmembers
  · obtain ⟨⟨name, afterName⟩, hname, hmember⟩ := Option.bind_eq_some_iff.mp hmembers
    obtain ⟨hraw, rfl⟩ := raw_of_takeRaw? hname
    obtain ⟨before, hbefore, hafterName⟩ := exists_blanks afterName
    dsimp only at hmember
    split at hmember
    · rename_i afterColon hcolon
      obtain ⟨⟨v, after⟩, hvalue, hend⟩ := Option.bind_eq_some_iff.mp hmember
      obtain ⟨spelled, hspells, hspelled⟩ := h.value _ _ _ hvalue
      obtain ⟨blanks, hblanks, hafterColon⟩ := exists_blanks afterColon
      obtain ⟨blanks', hblanks', hafter⟩ := exists_blanks after
      have hproper : MemberText.IsProper ⟨name, before, blanks, v, spelled⟩ :=
        ⟨hraw, hbefore, hblanks⟩
      dsimp only at hend
      split at hend
      · rename_i more hcomma
        obtain ⟨⟨members', rest'⟩, hrest, heq⟩ := Option.map_eq_some_iff.mp hend
        cases heq
        obtain ⟨parts, listed, rfl, hpropers, hparts, hlisted, heq⟩ := h.members _ _ _ hrest
        obtain ⟨blanks'', hblanks'', hmore⟩ := exists_blanks more
        refine ⟨⟨name, before, blanks, v, spelled⟩ :: parts, _, rfl,
          List.forall_mem_cons.mpr ⟨hproper, hpropers⟩,
          List.forall_mem_cons.mpr ⟨hspells, hparts⟩, .cons _ hblanks' hblanks'' hlisted, ?_⟩
        rw [heq] at hmore
        rw [hafterName, hcolon, hafterColon, hspelled, hafter, hcomma, hmore]
        simp [MemberText.text]
      · rename_i more hclose
        cases hend
        refine ⟨[⟨name, before, blanks, v, spelled⟩], _, rfl,
          List.forall_mem_singleton.mpr hproper, List.forall_mem_singleton.mpr hspells,
          .last _ hblanks', ?_⟩
        rw [hafterName, hcolon, hafterColon, hspelled, hafter, hclose]
        simp [MemberText.text]
      · cases hend
    · cases hmember
  · cases hmembers

theorem derives (fuel : Nat) : Derives fuel := by
  induction fuel with
  | zero =>
      constructor
      case value => exact fun _ _ _ h => nomatch h
      case items => exact fun _ _ _ h => nomatch h
      case members => exact fun _ _ _ h => nomatch h
  | succ fuel ih =>
      constructor
      case value => exact fun _ _ _ h => derives_value ih h
      case items => exact fun _ _ _ h => derives_items ih h
      case members => exact fun _ _ _ h => derives_members ih h

end Derivation

/-- A text is read as a value exactly if it is a text of that value. -/
theorem parse?_eq_some_iff {text : List Char} {v : Value} : parse? text = some v ↔ Text v text := by
  constructor
  · intro h
    obtain ⟨⟨v', rest⟩, hvalue, h⟩ := Option.bind_eq_some_iff.mp h
    obtain ⟨hrest, heq⟩ := Option.ite_none_right_eq_some.mp h
    cases heq
    obtain ⟨spelled, hspells, hspelled⟩ := (derives _).value _ _ _ hvalue
    obtain ⟨before, hbefore, hbeforeText⟩ := exists_blanks text
    obtain ⟨after, hafter, hafterText⟩ := exists_blanks rest
    refine ⟨before, spelled, after, hbefore, hspells, hafter, ?_⟩
    rw [List.isEmpty_iff] at hrest
    rw [hrest, List.append_nil] at hafterText
    rw [hbeforeText, hspelled, hafterText, List.append_assoc]
  · rintro ⟨before, spelled, after, hbefore, hspells, hafter, rfl⟩
    have hends : EndsNumber after := by
      have h : EndsNumber ([] : List Char) := fun c hc => nomatch hc
      simpa using h.blanks_append hafter
    have hskip : skipBlanks after = [] := by
      simpa [skipBlanks] using skipBlanks_append hafter []
    have hvalue := hspells.reads (2 * (before ++ spelled ++ after).length + 1) after
      (by simp only [List.length_append]; omega) hends
    rw [parse?, List.append_assoc, skipBlanks_append hbefore, (hspells.opens.append after).skipBlanks,
      ← List.append_assoc, hvalue]
    simp [hskip]

theorem Text.unique {v w : Value} {text : List Char} (h : Text v text) (h' : Text w text) :
    v = w := by
  rw [← parse?_eq_some_iff] at h h'
  exact Option.some_inj.mp (h.symm.trans h')

end Interner.Json
