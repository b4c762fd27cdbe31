import Interner.Json.Printer
import Interner.Proofs.JsonTexts

namespace Interner.Json

/-- Numbers are literals and strings are in escaped form, all the way down. -/
inductive Proper : Value → Prop
  | null : Proper .null
  | boolean (b : Bool) : Proper (.boolean b)
  | number {literal : List Char} (h : Literal literal) : Proper (.number literal)
  | string {raw : List Char} (h : Raw raw) : Proper (.string raw)
  | array {items : List Value} (h : ∀ v ∈ items, Proper v) : Proper (.array items)
  | object {members : List (List Char × Value)} (hnames : ∀ m ∈ members, Raw m.1)
      (h : ∀ m ∈ members, Proper m.2) : Proper (.object members)

theorem proper_ofInt (n : Int) : Proper (.ofInt n) := .number (literal_signedDigits n)

theorem proper_ofNat (n : Nat) : Proper (.ofNat n) := .number (literal_digits n)

theorem blanks_newline (depth : Nat) : Blanks (newline depth) := by
  intro c hc
  rcases List.mem_cons.mp hc with rfl | hspace
  · rfl
  · rw [List.eq_of_mem_replicate hspace]
    rfl

theorem listed_joinWith {before after : List Char} (hbefore : Blanks before) (hafter : Blanks after)
    {texts : List (List Char)} (hne : texts ≠ []) :
    Listed texts (joinWith (',' :: before) texts ++ after) := by
  induction texts with
  | nil => exact absurd rfl hne
  | cons text texts ih =>
      rcases texts with _ | ⟨next, texts⟩
      · exact .last text hafter
      · have h := Listed.cons text blanks_nil hbefore (ih (List.cons_ne_nil _ _))
        simpa [joinWith] using h

section Enclosed

variable {write : Value → List Char} {blanks before after : List Char}

theorem spells_items (hblanks : Blanks blanks) (hbefore : Blanks before) (hafter : Blanks after)
    {items : List Value} (hne : items ≠ []) (h : ∀ v ∈ items, Spells v (write v)) :
    Spells (.array items)
      ('[' :: blanks ++ (joinWith (',' :: before) (items.map write) ++ after) ++ [']']) := by
  let parts : List (Value × List Char) := items.map fun v => (v, write v)
  have hlisted : Listed (parts.map Prod.snd)
      (joinWith (',' :: before) (items.map write) ++ after) := by
    rw [List.map_map]
    exact listed_joinWith hbefore hafter (List.map_eq_nil_iff.not.mpr hne)
  have hspells : ∀ p ∈ parts, Spells p.1 p.2 := List.forall_mem_map.mpr h
  have harray := Spells.array hblanks hspells hlisted
  have hitems : parts.map Prod.fst = items := by
    rw [List.map_map]
    exact List.map_id items
  rw [hitems] at harray
  exact harray

/-- `space` is what stands between the colon and the value of a member. -/
theorem spells_members (hblanks : Blanks blanks) (hbefore : Blanks before) (hafter : Blanks after)
    {space : List Char} (hspace : Blanks space) {members : List (List Char × Value)}
    (hne : members ≠ []) (hnames : ∀ m ∈ members, Raw m.1)
    (h : ∀ m ∈ members, Spells m.2 (write m.2)) :
    Spells (.object members)
      ('\x7b' :: blanks ++ (joinWith (',' :: before)
        (members.map fun (name, v) => quoted name ++ ':' :: space ++ write v) ++ after) ++
          ['\x7d']) := by
  let texts := members.map fun (name, v) => quoted name ++ ':' :: space ++ write v
  let parts : List MemberText := members.map fun m => ⟨m.1, [], space, m.2, write m.2⟩
  have hlisted : Listed texts (joinWith (',' :: before) texts ++ after) :=
    listed_joinWith hbefore hafter (List.map_eq_nil_iff.not.mpr hne)
  have htexts : parts.map MemberText.text = texts := by
    simp [parts, texts, MemberText.text, quoted]
  have hproper : ∀ p ∈ parts, p.IsProper :=
    List.forall_mem_map.mpr fun m hm => ⟨hnames m hm, blanks_nil, hspace⟩
  have hspells : ∀ p ∈ parts, Spells p.value p.spelled := List.forall_mem_map.mpr h
  have hmembers : parts.map MemberText.member = members := by
    rw [List.map_map]
    exact List.map_id members
  have hobject := Spells.object hblanks hproper hspells (htexts.symm ▸ hlisted)
  rw [hmembers, htexts] at hobject
  exact hobject

end Enclosed

namespace Value

theorem compactItems_eq (items : List Value) : compactItems items = items.map compact := by
  induction items with
  | nil => rfl
  | cons item items ih => rw [compactItems, ih, List.map_cons]

theorem compactMembers_eq (members : List (List Char × Value)) :
    compactMembers members = members.map fun (name, v) => quoted name ++ ':' :: compact v := by
  induction members with
  | nil => rfl
  | cons m members ih => rw [compactMembers, ih, List.map_cons]

theorem prettyItems_eq (depth : Nat) (items : List Value) :
    prettyItems depth items = items.map (pretty depth) := by
  induction items with
  | nil => rfl
  | cons item items ih => rw [prettyItems, ih, List.map_cons]

theorem prettyMembers_eq (depth : Nat) (members : List (List Char × Value)) :
    prettyMembers depth members =
      members.map fun (name, v) => quoted name ++ ':' :: ' ' :: pretty depth v := by
  induction members with
  | nil => rfl
  | cons m members ih => rw [prettyMembers, ih, List.map_cons]

end Value

open Value

theorem Proper.spells_compact {v : Value} (h : Proper v) : Spells v v.compact := by
  induction h with
  | null => exact .null
  | boolean b =>
      cases b with
      | true => exact .true
      | false => exact .false
  | number h => exact .number h
  | string h => exact .string h
  | @array items h ih =>
      rw [compact, compactItems_eq]
      by_cases hne : items = []
      · rw [hne]
        exact .emptyArray blanks_nil
      · simpa using spells_items blanks_nil blanks_nil blanks_nil hne ih
  | @object members hnames h ih =>
      rw [compact, compactMembers_eq]
      by_cases hne : members = []
      · rw [hne]
        exact .emptyObject blanks_nil
      · simpa using spells_members blanks_nil blanks_nil blanks_nil blanks_nil hne hnames ih

theorem Proper.spells_pretty {v : Value} (h : Proper v) (depth : Nat) :
    Spells v (v.pretty depth) := by
  induction h generalizing depth with
  | null => exact .null
  | boolean b =>
      cases b with
      | true => exact .true
      | false => exact .false
  | number h => exact .number h
  | string h => exact .string h
  | @array items h ih =>
      rw [pretty, prettyItems_eq, enclosed, List.isEmpty_map]
      by_cases hne : items = []
      · rw [hne]
        exact .emptyArray blanks_nil
      · rw [if_neg (by simpa using hne)]
        have hitems := spells_items (blanks_newline (depth + 1)) (blanks_newline (depth + 1))
          (blanks_newline depth) hne fun v hv => ih v hv (depth + 1)
        simpa using hitems
  | @object members hnames h ih =>
      rw [pretty, prettyMembers_eq, enclosed, List.isEmpty_map]
      by_cases hne : members = []
      · rw [hne]
        exact .emptyObject blanks_nil
      · rw [if_neg (by simpa using hne)]
        have hspace : Blanks [' '] := List.forall_mem_singleton.mpr rfl
        have hmembers := spells_members (blanks_newline (depth + 1)) (blanks_newline (depth + 1))
          (blanks_newline depth) hspace hne hnames fun m hm => ih m hm (depth + 1)
        simpa using hmembers

theorem Spells.text {v : Value} {text : List Char} (h : Spells v text) : Text v text :=
  ⟨[], text, [], blanks_nil, h, blanks_nil, (List.append_nil _).symm⟩

end Interner.Json
