import Interner.Proofs.InventoryContents

namespace Interner

open Session

namespace InternTable

namespace Represents

variable {t : InternTable} {type : RecordType} {config : Config} {rs : List Record}

theorem length_entries (h : t.Represents type config rs) : t.entries.length = t.size := by
  rw [h.size_eq]
  rcases hunit : type.unit? with _ | unit
  · rw [h.entries_of_none hunit, List.length_map, List.length_zipIdx]
    rfl
  · rw [h.entries_of_unit hunit]
    rfl

theorem size_le_handleRange (h : t.Represents type config rs) : t.size ≤ handleRange := by
  rw [h.size_eq]
  split
  · decide
  · exact Nat.le_trans h.length_le h.capacity_le

theorem fst_getElem_entries (h : t.Represents type config rs) {i : Nat}
    (hi : i < t.entries.length) : t.entries[i].1 = Handle.ofIndex i := by
  rcases hunit : type.unit? with _ | unit
  · simp [h.entries_of_none hunit]
  · have hentries := h.entries_of_unit hunit
    have hzero : i = 0 := by
      rw [hentries] at hi
      exact Nat.lt_one_iff.mp hi
    subst hzero
    simp only [hentries]
    rfl

theorem map_entries (h : t.Represents type config rs) :
    t.entries.map (fun entry => (entry.1.toInt, some entry.2)) =
      (List.range' 1 t.size).map fun n : Nat => ((n : Int), t.get? (Int32.ofNat n)) := by
  apply List.ext_getElem
  · rw [List.length_map, List.length_map, List.length_range', h.length_entries]
  · intro i hi hi'
    rw [List.length_map] at hi
    have hfirst := h.fst_getElem_entries hi
    have hget : t.get? t.entries[i].1 = some t.entries[i].2 :=
      h.mem_entries_iff.mp (List.getElem_mem hi)
    have hrange : i < handleRange := by
      have hle := h.size_le_handleRange
      rw [← h.length_entries] at hle
      omega
    rw [hfirst] at hget
    rw [List.getElem_map, List.getElem_map, List.getElem_range', Nat.one_mul, Nat.add_comm 1 i,
      hfirst, Handle.toInt_ofIndex hrange, ← hget]
    rfl

end Represents

structure EnumerationLaw (type : RecordType) (t : InternTable) : Prop where
  entries : t.entries.map (fun entry => (entry.1.toInt, some entry.2)) =
    (List.range' 1 t.size).map fun n : Nat => ((n : Int), t.get? (Int32.ofNat n))
  listing : (∀ h, t.listing[h]? = t.get? h) ∧ t.listing.toList = t.entries
  /-- An inventory that does not know the shape takes over the listing, unless it is empty, and
  keeps its other shapes. -/
  exported : ∀ v : Inventory, v.records? type.shape = none →
    ∃ after, t.exportTo v = .ok (after, []) ∧ ∀ s, after.records? s =
      if s = type.shape ∧ t.size ≠ 0 then some t.listing else v.records? s
  counts :
    TableStep.size.perform t = { answer := .ok (.count t.entries.length), state := t } ∧
    TableStep.isEmpty.perform t = { answer := .ok (.flag t.entries.isEmpty), state := t } ∧
    TableStep.summary.perform t = {
      answer := .ok (.summary type.shape t.entries.length t.entries.isEmpty)
      state := t }

theorem Represents.enumerationLaw {t : InternTable} {type : RecordType} {config : Config}
    {rs : List Record} (h : t.Represents type config rs) (hregular : t.Regular) :
    EnumerationLaw type t := by
  have hempty : t.isEmpty = t.entries.isEmpty := by
    rw [isEmpty, ← h.length_entries]
    cases t.entries with
    | nil => rfl
    | cons entry entries => rfl
  constructor
  case entries => exact h.map_entries
  case listing => exact ⟨h.getElem?_listing, h.toList_listing⟩
  case exported =>
    intro v hnew
    have hsound : t.Sound := ⟨hregular, type, config, rs, h⟩
    rw [← h.shape_eq] at hnew ⊢
    obtain ⟨after, hexport, hrecords⟩ := hsound.exportTo hnew
    refine ⟨after, hexport, ?_⟩
    intro s
    simp only [hrecords, eq_comm]
  case counts =>
    rw [h.length_entries, ← hempty, ← h.shape_eq]
    exact ⟨rfl, rfl, rfl⟩

end InternTable

/-- After every run on a fresh table all enumerations agree with the handles one by one. A new
inventory gets the listing of the table and nothing else. -/
theorem enumerations_agree_with_handles (type : RecordType) (config : Config)
    (haccept : config.accept = .ok ()) :
    ∃ t, InternTable.create type config = .ok t ∧ ∀ steps : List TableStep,
      let after := (Run.all TableStep.perform t steps).state
      after.EnumerationLaw type ∧
        ∃ v, after.exportTo {} = .ok (v, []) ∧ ∀ s, v.records? s =
          if s = type.shape ∧ after.size ≠ 0 then some after.listing else none := by
  obtain ⟨t, hcreate, ht⟩ := InternTable.represents_create type haccept
  refine ⟨t, hcreate, ?_⟩
  intro steps after
  have hafter := TableStep.represents_all ht steps
  have hregular : after.Regular :=
    hafter.regular_of_forall fun _ => TableStep.length_of_mem_firstOccurrences
  have hlaw := hafter.enumerationLaw hregular
  have hnone : ∀ s, ({} : Inventory).records? s = none := fun s => Std.ExtTreeMap.getElem?_empty
  obtain ⟨v, hexport, hrecords⟩ := hlaw.exported {} (hnone type.shape)
  refine ⟨hlaw, v, hexport, ?_⟩
  intro s
  rw [hrecords, hnone]

theorem three_pairs_listed_under_their_handles :
    let type : RecordType := { shape := { id := 0, name := "pair", arity := 2 } }
    let config : Config := { blockSize := 2, maxRecords := 4 }
    let steps : List TableStep := [.intern [1, 2], .intern [3, 4], .intern [1, 2], .intern [5, 6]]
    config.accept = .ok () ∧ ∃ t, InternTable.create type config = .ok t ∧
      let after := (Run.all TableStep.perform t steps).state
      after.entries.map (fun entry => (entry.1.toInt, some entry.2)) =
          [(1, after.get? 1), (2, after.get? 2), (3, after.get? 3)] ∧
        ∃ v, after.exportTo {} = .ok (v, []) ∧ v.records? type.shape = some after.listing := by
  intro type config steps
  have haccept : config.accept = .ok () := Config.accept_eq_ok_iff.mpr (by decide)
  obtain ⟨t, hcreate, hall⟩ := enumerations_agree_with_handles type config haccept
  obtain ⟨hlaw, v, hexport, hrecords⟩ := hall steps
  have hafter := TableStep.represents_all (InternTable.represents_of_create hcreate) steps
  have hsize : (Run.all TableStep.perform t steps).state.size = 3 := hafter.size_eq
  refine ⟨haccept, t, hcreate, ?_, v, hexport, ?_⟩
  · rw [hlaw.entries, hsize]
    rfl
  · rw [hrecords, hsize]
    rfl

end Interner
