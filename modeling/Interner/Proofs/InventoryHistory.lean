import Interner.Proofs.FirstOccurrences
import Interner.Proofs.InventoryContents
import Interner.Proofs.ShapeOrder
import Interner.Session
import Mathlib.Data.List.Pairwise

/-!
An inventory as the history of its entries. Of the entries that have as many fields as their shape
says, the first one for a handle stays; the others are refused and leave no trace. What the inventory
lists, how much and in which order is read off these first entries.
-/

namespace Interner

open Session

structure Entry where
  shape : Shape
  handle : Handle
  fields : Record

namespace Entry

def key (e : Entry) : Shape × Handle := (e.shape, e.handle)

/-- The entries that are not refused: they have as many fields as their shape says. -/
def admitted (entries : List Entry) : List Entry :=
  entries.filter fun e => e.fields.length = e.shape.arity

def firstFields? (entries : List Entry) (s : Shape) (h : Handle) : Option Record :=
  (entries.find? fun e => e.key = (s, h)).map Entry.fields

/-- The entry gives other fields than those that were given first. -/
def Collides (entries : List Entry) (e : Entry) : Prop :=
  ∃ present, firstFields? entries e.shape e.handle = some present ∧ present ≠ e.fields

theorem admitted_concat_of_length {e : Entry} (h : e.fields.length = e.shape.arity)
    (entries : List Entry) : admitted (entries ++ [e]) = admitted entries ++ [e] := by
  simp [admitted, List.filter_append, h]

theorem admitted_concat_of_length_ne {e : Entry} (h : e.fields.length ≠ e.shape.arity)
    (entries : List Entry) : admitted (entries ++ [e]) = admitted entries := by
  simp [admitted, List.filter_append, h]

theorem firstFields?_concat (entries : List Entry) (e : Entry) (s : Shape) (h : Handle) :
    firstFields? (entries ++ [e]) s h =
      (firstFields? entries s h).or (if e.key = (s, h) then some e.fields else none) := by
  rw [firstFields?, firstFields?, List.find?_append, Option.map_or]
  congr 1
  by_cases hkey : e.key = (s, h) <;> simp [hkey]

theorem isSome_firstFields?_iff {entries : List Entry} {s : Shape} {h : Handle} :
    (firstFields? entries s h).isSome ↔ (s, h) ∈ entries.map key := by
  simp [firstFields?, List.find?_isSome]

end Entry

namespace Inventory

open Entry

/-- The inventory has listings for the shapes of these entries, and there the fields that were given
first. -/
structure Keeps (v : Inventory) (entries : List Entry) : Prop where
  get?_eq : ∀ s h, v.get? s h = firstFields? entries s h
  isSome_records?_iff : ∀ s, (v.records? s).isSome ↔ ∃ e ∈ entries, e.shape = s

theorem keeps_empty : ({} : Inventory).Keeps [] := by
  constructor
  case get?_eq =>
    intro s h
    simp [get?, records?, firstFields?]
  case isSome_records?_iff =>
    intro s
    simp [records?]

theorem add_of_length_ne {s : Shape} {fields : Record} (h : fields.length ≠ s.arity)
    (v : Inventory) (handle : Handle) :
    v.add s handle fields = .error (.unequal s.arity fields.length) :=
  if_neg (Ne.symm h)

/-- An entry that is not refused fills its handle if that is free, and nothing else. It is reported
if the handle has other fields. -/
theorem add_of_length {s : Shape} {fields : Record} (hlength : fields.length = s.arity)
    (v : Inventory) (handle : Handle) :
    ∃ after events, v.add s handle fields = .ok (after, events) ∧
      ((∃ present, v.get? s handle = some present ∧ present ≠ fields) →
        events = [.exportedTwice s handle]) ∧
      ((¬ ∃ present, v.get? s handle = some present ∧ present ≠ fields) → events = []) ∧
      (∀ s' h, after.get? s' h =
        (v.get? s' h).or (if (s, handle) = (s', h) then some fields else none)) ∧
      ∀ s', (after.records? s').isSome ↔ (v.records? s').isSome ∨ s = s' := by
  refine ⟨_, _, if_pos hlength.symm, ?_, ?_, ?_, ?_⟩
  · rintro ⟨present, hpresent, hother⟩
    simp only [getElem?_getD_records?, hpresent, if_neg hother]
  · intro hsame
    rw [getElem?_getD_records?]
    rcases hget : v.get? s handle with _ | present
    · rfl
    · exact if_pos (by_contra fun hother => hsame ⟨present, hget, hother⟩)
  · intro s' h
    rw [get?, records?_insert]
    by_cases hs : s = s'
    · subst hs
      simp [Listing.getElem?_insertIfNew, getElem?_getD_records?]
    · simp [hs, get?]
  · intro s'
    rw [records?_insert]
    by_cases hs : s = s' <;> simp [hs]

theorem Keeps.add {v : Inventory} {entries : List Entry} (h : v.Keeps entries) {e : Entry}
    (hlength : e.fields.length = e.shape.arity) :
    ∃ after events, v.add e.shape e.handle e.fields = .ok (after, events) ∧
      (e.Collides entries → events = [.exportedTwice e.shape e.handle]) ∧
      (¬ e.Collides entries → events = []) ∧ after.Keeps (entries ++ [e]) := by
  obtain ⟨after, events, hadd, hreported, hquiet, hget, hrecords⟩ :=
    add_of_length hlength v e.handle
  rw [h.get?_eq] at hreported hquiet
  refine ⟨after, events, hadd, hreported, hquiet, ?_⟩
  constructor
  case get?_eq =>
    intro s handle
    rw [hget, h.get?_eq, firstFields?_concat, key]
  case isSome_records?_iff =>
    intro s
    simp [hrecords, h.isSome_records?_iff, or_and_right, exists_or]

theorem mem_rows_iff {v : Inventory} {s : Shape} {h : Handle} {fields : Record} :
    (s, h, fields) ∈ v.rows ↔ v.get? s h = some fields := by
  simp only [rows, List.mem_flatMap, List.mem_map, Prod.exists, Prod.mk.injEq,
    Std.ExtTreeMap.mem_toList_iff_getElem?_eq_some, get?, records?, Option.bind_eq_some_iff]
  constructor
  · rintro ⟨_, listing, hlisting, _, _, hfields, rfl, rfl, rfl⟩
    exact ⟨listing, hlisting, hfields⟩
  · rintro ⟨listing, hlisting, hfields⟩
    exact ⟨s, listing, hlisting, h, fields, hfields, rfl, rfl, rfl⟩

theorem pairwise_rows (v : Inventory) : v.rows.Pairwise fun a b =>
    a.1.Before b.1 ∨ a.1 = b.1 ∧ a.2.1.toInt < b.2.1.toInt := by
  rw [rows, List.pairwise_flatMap]
  constructor
  · rintro ⟨s, listing⟩ -
    rw [List.pairwise_map]
    refine listing.ordered_keys_toList.imp ?_
    rintro ⟨h, fields⟩ ⟨h', fields'⟩ hlt
    exact .inr ⟨rfl, Int32.lt_iff_toInt_lt.mp (Std.compare_eq_lt.mp hlt)⟩
  · refine v.shapes.ordered_keys_toList.imp ?_
    rintro ⟨s, listing⟩ ⟨s', listing'⟩ hlt a ha b hb
    obtain ⟨_, -, rfl⟩ := List.mem_map.mp ha
    obtain ⟨_, -, rfl⟩ := List.mem_map.mp hb
    exact .inl (Shape.before_of_compare_eq_lt hlt)

theorem before_or_before {v : Inventory} {a b : Shape × Handle × Record}
    {R : Shape × Handle × Record → Shape × Handle × Record → Prop} (h : v.rows.Pairwise R)
    (ha : a ∈ v.rows) (hb : b ∈ v.rows) (hne : a ≠ b) : R a b ∨ R b a := by
  have hsymm : Std.Symm fun a b => R a b ∨ R b a := ⟨fun _ _ => Or.symm⟩
  have hboth : v.rows.Pairwise fun a b => R a b ∨ R b a := h.imp Or.inl
  exact hboth.forall ha hb hne

theorem nodup_rows (v : Inventory) : (v.rows.map fun row => (row.1, row.2.1)).Nodup := by
  refine List.pairwise_map.mpr (v.pairwise_rows.imp ?_)
  rintro a b hab heq
  obtain ⟨hshape, hhandle⟩ := Prod.mk.inj heq
  rcases hab with hbefore | ⟨-, hlt⟩
  · exact hbefore.ne hshape
  · rw [hhandle] at hlt
    exact Int.lt_irrefl _ hlt

theorem length_rows (v : Inventory) : v.rows.length = v.size := by
  rw [rows, size]
  induction v.shapes.toList with
  | nil => rfl
  | cons entry rest ih =>
      rw [List.flatMap_cons, List.length_append, ih, List.length_map,
        Std.ExtTreeMap.length_toList, List.foldr_cons]

theorem pairwise_listedShapes (v : Inventory) : v.listedShapes.Pairwise Shape.Before :=
  v.shapes.ordered_keys.imp Shape.before_of_compare_eq_lt

theorem mem_listedShapes_iff {v : Inventory} {s : Shape} :
    s ∈ v.listedShapes ↔ (v.records? s).isSome := by
  rw [listedShapes, Std.ExtTreeMap.mem_keys, Std.ExtTreeMap.mem_iff_isSome_getElem?, records?]

structure ShowsFirst (v : Inventory) (entries : List Entry) : Prop where
  get?_eq : ∀ s h, v.get? s h = firstFields? entries s h
  records?_eq_none_iff : ∀ s, v.records? s = none ↔ ∀ e ∈ entries, e.shape ≠ s
  size_eq : v.size = (entries.map key).eraseDups.length
  mem_rows_iff : ∀ s h fields, (s, h, fields) ∈ v.rows ↔ firstFields? entries s h = some fields
  nodup_rows : (v.rows.map fun row => (row.1, row.2.1)).Nodup
  pairwise_rows : v.rows.Pairwise fun a b =>
    a.1.Before b.1 ∨ a.1 = b.1 ∧ a.2.1.toInt < b.2.1.toInt
  /-- Unless two types agree in arity and name, these and the handle are all there is to the order. -/
  pairwise_rows_of_named : (∀ s ∈ v.listedShapes, ∀ s' ∈ v.listedShapes,
      s.arity = s'.arity → s.name = s'.name → s = s') →
    v.rows.Pairwise fun a b => a.1.arity < b.1.arity ∨ a.1.arity = b.1.arity ∧
      (Text.bytes a.1.name < Text.bytes b.1.name ∨
        a.1.name = b.1.name ∧ a.2.1.toInt < b.2.1.toInt)
  mem_listedShapes_iff : ∀ s, s ∈ v.listedShapes ↔ ∃ e ∈ entries, e.shape = s
  pairwise_listedShapes : v.listedShapes.Pairwise Shape.Before

theorem pairwise_rows_of_named {v : Inventory} (h : ∀ s ∈ v.listedShapes, ∀ s' ∈ v.listedShapes,
      s.arity = s'.arity → s.name = s'.name → s = s') :
    v.rows.Pairwise fun a b => a.1.arity < b.1.arity ∨ a.1.arity = b.1.arity ∧
      (Text.bytes a.1.name < Text.bytes b.1.name ∨
        a.1.name = b.1.name ∧ a.2.1.toInt < b.2.1.toInt) := by
  have hlisted : ∀ row ∈ v.rows, row.1 ∈ v.listedShapes := by
    rintro ⟨s, handle, fields⟩ hrow
    obtain ⟨listing, hlisting, -⟩ := Option.bind_eq_some_iff.mp (mem_rows_iff.mp hrow)
    rw [Inventory.mem_listedShapes_iff, hlisting, Option.isSome_some]
  refine v.pairwise_rows.imp_of_mem ?_
  rintro a b ha hb ((harity | ⟨harity, hname | ⟨hname, hid⟩⟩) | ⟨hshape, hlt⟩)
  · exact .inl harity
  · exact .inr ⟨harity, .inl hname⟩
  · have hshape := h a.1 (hlisted a ha) b.1 (hlisted b hb) harity hname
    rw [hshape] at hid
    exact absurd hid (Nat.lt_irrefl _)
  · rw [hshape]
    exact .inr ⟨rfl, .inr ⟨rfl, hlt⟩⟩

theorem Keeps.size_eq {v : Inventory} {entries : List Entry} (h : v.Keeps entries) :
    v.size = (entries.map key).eraseDups.length := by
  have hperm : (v.rows.map fun row => (row.1, row.2.1)).Perm (entries.map key).eraseDups := by
    rw [List.perm_ext_iff_of_nodup v.nodup_rows (nodup_eraseDups _)]
    rintro ⟨s, handle⟩
    rw [List.mem_eraseDups, ← isSome_firstFields?_iff, ← h.get?_eq, Option.isSome_iff_exists]
    simp only [← mem_rows_iff]
    simp
  rw [← length_rows, ← hperm.length_eq, List.length_map]

theorem Keeps.showsFirst {v : Inventory} {entries : List Entry} (h : v.Keeps entries) :
    v.ShowsFirst entries := by
  constructor
  case get?_eq => exact h.get?_eq
  case records?_eq_none_iff =>
    intro s
    rw [← Option.not_isSome_iff_eq_none, h.isSome_records?_iff]
    push Not
    rfl
  case size_eq => exact h.size_eq
  case mem_rows_iff =>
    intro s handle fields
    rw [Inventory.mem_rows_iff, h.get?_eq]
  case nodup_rows => exact v.nodup_rows
  case pairwise_rows => exact v.pairwise_rows
  case pairwise_rows_of_named => exact Inventory.pairwise_rows_of_named
  case mem_listedShapes_iff =>
    intro s
    rw [Inventory.mem_listedShapes_iff, h.isSome_records?_iff]
  case pairwise_listedShapes => exact v.pairwise_listedShapes

end Inventory

def Entry.step (id : String) (e : Entry) : Step := .addRecord id e.shape e.handle e.fields

namespace Session

theorem write_nil (s : Session) : s.write [] = s := by
  rw [write]
  split
  · rfl
  · rw [List.filter_nil, List.append_nil]

theorem inventories_write (s : Session) (events : List Event) :
    (s.write events).inventories = s.inventories := by
  rw [write]
  cases s.logger with
  | none => rfl
  | some filter => rfl

variable {s : Session} {id : String} {v : Inventory} {entries : List Entry} {e : Entry}

theorem perform_step_of_length_ne (hget : s.inventories[id]? = some v)
    (hlength : e.fields.length ≠ e.shape.arity) : s.perform (e.step id) =
      { answer := .error (.fault (.unequal e.shape.arity e.fields.length)), state := s } := by
  simp only [perform, act, Entry.step, enter, hget, Inventory.add_of_length_ne hlength,
    Run.within, List.append_nil, write_nil]

theorem perform_step_of_length (hget : s.inventories[id]? = some v)
    (hlength : e.fields.length = e.shape.arity) (h : v.Keeps entries) :
    ∃ after, (s.perform (e.step id)).answer = .ok .done ∧
      (e.Collides entries →
        (s.perform (e.step id)).events = [.exportedTwice e.shape e.handle]) ∧
      (¬ e.Collides entries → (s.perform (e.step id)).events = []) ∧
      (s.perform (e.step id)).state.inventories[id]? = some after ∧
      after.Keeps (entries ++ [e]) := by
  obtain ⟨after, events, hadd, hreported, hquiet, hafter⟩ := h.add hlength
  have hact : s.act (e.step id) = {
      answer := .ok .done
      state := { s with inventories := s.inventories.insert id after }
      events := events } := by
    simp only [act, Entry.step, enter, hget, hadd]
  rw [perform, hact]
  refine ⟨after, rfl, hreported, hquiet, ?_, hafter⟩
  simp [Run.within, inventories_write]

theorem keeps_all (hget : s.inventories[id]? = some {}) (entries : List Entry) :
    ∃ v, (Run.all perform s (entries.map (Entry.step id))).state.inventories[id]? = some v ∧
      v.Keeps (Entry.admitted entries) := by
  induction entries using List.reverseRecOn with
  | nil => exact ⟨{}, hget, Inventory.keeps_empty⟩
  | append_singleton entries e ih =>
      obtain ⟨v, hv, hkeeps⟩ := ih
      rw [List.map_append, List.map_singleton, Run.state_all_concat]
      by_cases hlength : e.fields.length = e.shape.arity
      · obtain ⟨after, -, -, -, hafter, hkept⟩ := perform_step_of_length hv hlength hkeeps
        rw [Entry.admitted_concat_of_length hlength]
        exact ⟨after, hafter, hkept⟩
      · rw [perform_step_of_length_ne hv hlength, Entry.admitted_concat_of_length_ne hlength]
        exact ⟨v, hv, hkeeps⟩

end Session

/-- After any entries a fresh inventory shows the first fields of every handle. An entry that does not
have as many fields as its shape says is refused without a trace, and of the others exactly those
are reported that give other fields than the first ones. -/
theorem inventory_keeps_first_fields (s : Session) (id : String) (entries : List Entry) :
    let opened := (s.perform (.openInventory id)).state
    let later := (Run.all Session.perform opened (entries.map (Entry.step id))).state
    ∃ v, later.inventories[id]? = some v ∧ v.ShowsFirst (Entry.admitted entries) ∧
      ∀ e : Entry,
        (e.fields.length ≠ e.shape.arity → later.perform (e.step id) =
          { answer := .error (.fault (.unequal e.shape.arity e.fields.length)), state := later }) ∧
        (e.fields.length = e.shape.arity →
          (later.perform (e.step id)).answer = .ok .done ∧
          (e.Collides (Entry.admitted entries) →
            (later.perform (e.step id)).events = [.exportedTwice e.shape e.handle]) ∧
          (¬ e.Collides (Entry.admitted entries) →
            (later.perform (e.step id)).events = [])) := by
  intro opened later
  have hopened : opened.inventories[id]? = some {} := by
    simp [opened, Session.perform, Session.act, Run.within, Session.inventories_write]
  obtain ⟨v, hv, hkeeps⟩ := Session.keeps_all hopened entries
  refine ⟨v, hv, hkeeps.showsFirst, ?_⟩
  intro e
  refine ⟨Session.perform_step_of_length_ne hv, ?_⟩
  intro hlength
  obtain ⟨-, hanswer, hreported, hquiet, -⟩ := Session.perform_step_of_length hv hlength hkeeps
  exact ⟨hanswer, hreported, hquiet⟩

theorem other_fields_of_pair_reported :
    let pair : Shape := { id := 0, name := "pair", arity := 2 }
    let entries : List Entry := [⟨pair, -1, [1, 2]⟩, ⟨pair, 3, [7]⟩, ⟨pair, 0, [5, 6]⟩]
    let opened := (Session.perform {} (.openInventory "all")).state
    let later := (Run.all Session.perform opened (entries.map (Entry.step "all"))).state
    ∃ v, later.inventories["all"]? = some v ∧ v.get? pair (-1) = some [1, 2] ∧
      v.get? pair 3 = none ∧ v.size = 2 ∧
      (later.perform (Entry.step "all" ⟨pair, -1, [3, 4]⟩)).events = [.exportedTwice pair (-1)] ∧
      (later.perform (Entry.step "all" ⟨pair, -1, [1, 2]⟩)).events = [] := by
  intro pair entries opened later
  obtain ⟨v, hv, hshows, hnext⟩ := inventory_keeps_first_fields {} "all" entries
  refine ⟨v, hv, ?_, ?_, ?_, ?_, ?_⟩
  · rw [hshows.get?_eq]
    decide
  · rw [hshows.get?_eq]
    decide
  · rw [hshows.size_eq]
    decide
  · exact ((hnext ⟨pair, -1, [3, 4]⟩).2 rfl).2.1 ⟨[1, 2], by decide, by decide⟩
  · refine ((hnext ⟨pair, -1, [1, 2]⟩).2 rfl).2.2 ?_
    rintro ⟨present, hpresent, hother⟩
    have hfirst : some [1, 2] = some present := hpresent
    exact hother (Option.some.inj hfirst).symm

/-- Of two types with the same name and as many fields the one with the smaller identity is listed
first, whichever handles they have. -/
theorem namesakes_not_listed_by_handle :
    let first : Shape := { id := 0, name := "p", arity := 1 }
    let second : Shape := { id := 1, name := "p", arity := 1 }
    let entries : List Entry := [⟨first, 5, [7]⟩, ⟨second, 3, [8]⟩]
    let opened := (Session.perform {} (.openInventory "all")).state
    let later := (Run.all Session.perform opened (entries.map (Entry.step "all"))).state
    ∃ v, later.inventories["all"]? = some v ∧
      (first, 5, [7]) ∈ v.rows ∧ (second, 3, [8]) ∈ v.rows ∧
      ¬ v.rows.Pairwise fun a b => a.1.arity < b.1.arity ∨ a.1.arity = b.1.arity ∧
        (Text.bytes a.1.name < Text.bytes b.1.name ∨
          a.1.name = b.1.name ∧ a.2.1.toInt < b.2.1.toInt) := by
  intro first second entries opened later
  have hopened : opened.inventories["all"]? = some {} := by
    simp [opened, Session.perform, Session.act, Run.within, Session.inventories_write]
  obtain ⟨v, hv, hkeeps⟩ := Session.keeps_all hopened entries
  have hfirst : (first, (5 : Handle), [7]) ∈ v.rows := by
    rw [Inventory.mem_rows_iff, hkeeps.get?_eq]
    decide
  have hsecond : (second, (3 : Handle), [8]) ∈ v.rows := by
    rw [Inventory.mem_rows_iff, hkeeps.get?_eq]
    decide
  refine ⟨v, hv, hfirst, hsecond, ?_⟩
  intro hpairwise
  -- The rows stand in one order or the other; one is not the order claimed, one not that of the rows.
  rcases Inventory.before_or_before (hpairwise.and v.pairwise_rows) hfirst hsecond (by decide) with
    ⟨hclaimed, -⟩ | ⟨-, hlisted⟩
  · rcases hclaimed with harity | ⟨-, hname | ⟨-, hhandle⟩⟩
    · exact Nat.lt_irrefl _ harity
    · exact List.lt_irrefl _ hname
    · exact absurd hhandle (by decide)
  · rcases hlisted with hbefore | ⟨hshape, -⟩
    · rcases hbefore with harity | ⟨-, hname | ⟨-, hid⟩⟩
      · exact Nat.lt_irrefl _ harity
      · exact List.lt_irrefl _ hname
      · exact absurd hid (by decide)
    · exact absurd hshape (by decide)

end Interner
