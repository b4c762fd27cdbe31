import Interner.Proofs.Enumerations
import Interner.Proofs.RegistrySnapshot
import Interner.Proofs.TableFootprint
import Interner.Proofs.TableRoom

/-!
Faults that no intern table meets. A list in blocks and a table check, cast and address in several
places; where the configuration is accepted, all of it succeeds in every state that a run can reach,
up to and including a full table. What is left is the fault of a record for which there is no room.
-/

namespace Interner

open Memory Session

namespace BlockList

variable {α : Type}

/-- Nothing goes wrong in the list: what it takes for granted holds. -/
structure Guarded (l : BlockList α) : Prop where
  push_of_room : l.size < l.capacity → ∀ a, (l.push a).1 = .ok l.size
  next_lt_directory : l.size < l.capacity → (l.slot l.size).1 < l.directory
  /-- It is there when its slot is written. -/
  next_allocated : l.size < l.capacity →
    (block? (allocate l.blocks (l.slot l.size).1) (l.slot l.size).1).isSome
  stored_allocated : ∀ index < l.size, (l.slot index).1 < l.blockCount
  blockCount_le : l.blockCount ≤ l.directory
  offset_lt : ∀ index, (l.slot index).2 < l.blockSize
  get_of_lt : ∀ index < l.size, ∃ a, l.get? index = some a ∧ l.get index = .ok a
  get?_of_ge : ∀ index, l.size ≤ index → l.get? index = none
  items : l.items.map Except.ok = (List.range l.size).map l.get

namespace Holds

variable {l : BlockList α} {blockSize capacity : Nat} {vs : List α}

theorem get_of_lt (h : l.Holds blockSize capacity vs) {index : Nat} (hindex : index < vs.length) :
    l.get index = .ok vs[index] := by
  rw [get, h.get?_eq, List.getElem?_eq_getElem hindex]

theorem next_allocated (h : l.Holds blockSize capacity vs) (hroom : vs.length < capacity) :
    (block? (allocate l.blocks (vs.length / blockSize)) (vs.length / blockSize)).isSome := by
  rw [h.block?_allocate_next hroom, if_pos (.inr rfl)]
  rfl

theorem stored_allocated (h : l.Holds blockSize capacity vs) {index : Nat}
    (hindex : index < vs.length) : index / blockSize < l.blockCount := by
  rw [h.lt_blockCount_iff]
  exact Nat.lt_of_le_of_lt (Nat.div_mul_le_self _ _) hindex

theorem map_items (h : l.Holds blockSize capacity vs) :
    l.items.map Except.ok = (List.range l.size).map l.get := by
  rw [h.items_eq, h.size_eq]
  apply List.ext_getElem
  · rw [List.length_map, List.length_map, List.length_range]
  · intro index hindex hindex'
    rw [List.length_map] at hindex
    rw [List.getElem_map, List.getElem_map, List.getElem_range, h.get_of_lt hindex]

theorem guarded (h : l.Holds blockSize capacity vs) : l.Guarded := by
  have hsize := h.size_eq
  have hslot := h.slot_eq
  constructor
  case push_of_room =>
    intro hroom a
    rw [hsize, h.capacity_eq] at hroom
    obtain ⟨after, hpush, -⟩ := h.push_of_lt hroom a
    rw [hpush, hsize]
  case next_lt_directory =>
    intro hroom
    rw [hsize, h.capacity_eq] at hroom
    rw [hsize, hslot]
    exact h.directory_gt hroom
  case next_allocated =>
    intro hroom
    rw [hsize, h.capacity_eq] at hroom
    rw [hsize, hslot]
    exact h.next_allocated hroom
  case stored_allocated =>
    intro index hindex
    rw [hslot]
    exact h.stored_allocated (hsize ▸ hindex)
  case blockCount_le => exact h.blockCount_le_directory
  case offset_lt =>
    intro index
    rw [hslot, h.blockSize_eq]
    exact Nat.mod_lt _ h.blockSize_pos
  case get_of_lt =>
    intro index hindex
    rw [hsize] at hindex
    refine ⟨vs[index], ?_, h.get_of_lt hindex⟩
    rw [h.get?_eq, List.getElem?_eq_getElem hindex]
  case get?_of_ge =>
    intro index hindex
    exact if_neg (Nat.not_lt.mpr hindex)
  case items => exact h.map_items

end Holds

end BlockList

namespace InternTable

/-- Nothing goes wrong in a table built with `config`, except that a new record may find it full. -/
structure Guarded (config : Config) (t : InternTable) : Prop where
  records : t.records.Guarded
  next_handle : t.records.size < t.records.capacity →
    (Handle.ofIndex t.records.size).toInt = t.records.size + 1 ∧
      Handle.ofIndex t.records.size ≠ Int32.maxValue
  entry_handle : ∀ i (hi : i < t.entries.length), t.entries[i].1.toInt = i + 1
  /-- An insertion faults only where a table is full, and then says so. -/
  insert_fault : ∀ r fault, (t.insert r).1 = .error fault →
    t.records.size = t.records.capacity ∧
      fault = .fatal (.exhausted t.shape.name config.maxRecords.toNat)
  step_fault : ∀ step : TableStep, step.interns = true →
    ∀ fault, (step.perform t).answer = .error (.fault fault) →
      fault = .fatal (.exhausted t.shape.name config.maxRecords.toNat)
  growth : ∀ r insertion, (t.insert r).1 = .ok insertion →
    reserved t.index.size + insertion.growth.entries = reserved (t.insert r).2.index.size
  /-- If the bytes of a block can be addressed, their number can be told. -/
  bytesPerBlock : t.blockSize * t.recordBytes < 2 ^ 63 →
    t.records.bytesPerBlock t.recordBytes = .ok (t.blockSize * t.recordBytes)
  /-- If besides the bytes of the index can be, no charge is beyond the range of a counter. -/
  charge_lt : ∀ r, t.blockSize * t.recordBytes < 2 ^ 63 →
    reserved (t.insert r).2.index.size * t.entryBytes < 2 ^ 63 →
      ∀ charge ∈ (t.intern r).charges, charge.items < 2 ^ 64 ∧ charge.bytes < 2 ^ 64

theorem Matched.fault_eq {type : RecordType} {config config' : Config} {lead : Nat} {α : Type}
    {found found' : Except Fault α} {t u : InternTable}
    (h : Matched type config config' lead found found' t u) {fault : Fault}
    (hfault : found = .error fault) : fault = TableStep.exhaustion type config := by
  cases h with
  | full hfound =>
      rw [hfound] at hfault
      cases hfault
      rfl
  | alike a hfound =>
      rw [hfound] at hfault
      cases hfault

end InternTable

namespace Session

theorem Reply.fault_of_ofStopped {α : Type} {answer : α → Answer} {found : Except Fault α}
    {fault : Fault} (h : Reply.ofStopped answer found = .error (.fault fault)) :
    found = .error fault := by
  cases found with
  | error cause =>
      cases h
      rfl
  | ok a => cases h

namespace TableStep

open InternTable

variable {t : InternTable} {type : RecordType} {config : Config} {rs : List Record}

theorem fault_of_withRecord {fields : List Int32} {use : Record → Run InternTable Reply}
    {fault : Fault} (h : (withRecord t fields use).answer = .error (.fault fault)) :
    (use fields).answer = .error (.fault fault) := by
  by_cases hlength : fields.length = t.shape.arity
  · rwa [withRecord_of_length hlength] at h
  · rw [withRecord_of_length_ne hlength] at h
    cases h

theorem fault_of_withRecords {records : List (List Int32)}
    {use : List Record → Run InternTable Reply} {fault : Fault}
    (h : (withRecords t records use).answer = .error (.fault fault)) :
    (use records).answer = .error (.fault fault) := by
  by_cases hlengths : ∀ fields ∈ records, fields.length = t.shape.arity
  · rwa [withRecords_of_forall hlengths] at h
  · obtain ⟨cause, hrefused⟩ := withRecords_of_not_forall hlengths use
    rw [hrefused] at h
    cases h

/-- Whatever a step interns and however, the fault that it may meet is one and the same. -/
theorem fault_of_interns (h : t.Represents type config rs) {step : TableStep}
    (hinterns : step.interns = true) {fault : Fault}
    (hfault : (step.perform t).answer = .error (.fault fault)) :
    fault = exhaustion type config := by
  have hself := trails_of_represents le_rfl h h
  cases step with
  | intern fields =>
      exact (hself.intern fields).fault_eq (Reply.fault_of_ofStopped (fault_of_withRecord hfault))
  | internProgression p =>
      rw [perform] at hfault
      split at hfault
      · cases hfault
      · have hfound := Reply.fault_of_ofStopped (fault_of_withRecord hfault)
        exact (hself.internFrom p rfl p.first p.count).fault_eq hfound
  | internTogether fields threads =>
      have hfound := Reply.fault_of_ofStopped (fault_of_withRecord hfault)
      exact (hself.internThreads _).fault_eq hfound
  | internAllTogether records threads =>
      have hfound := Reply.fault_of_ofStopped (fault_of_withRecords hfault)
      exact (hself.internThreads _).fault_eq hfound
  | _ => cases hinterns

end TableStep

end Session

/-- A charge for one more record is for one block, or for no more than the room of the index. -/
theorem RecordType.charge_lt_of_mem_chargesAt (type : RecordType) (config : Config) {size : Nat}
    (hblock : config.blockSize.toNat * (4 * type.shape.arity) < 2 ^ 63)
    (hindex : reserved (size + 1) * (4 * type.shape.arity + 4) < 2 ^ 63) {charge : Charge}
    (h : charge ∈ type.chargesAt config size) : charge.items < 2 ^ 64 ∧ charge.bytes < 2 ^ 64 := by
  have hrange : (2 : Nat) ^ 63 < 2 ^ 64 := by decide
  rcases List.mem_append.mp h with hmem | hmem
  · split at hmem
    · rw [List.mem_singleton.mp hmem]
      exact ⟨config.blockSize.toNat_lt, hblock.trans hrange⟩
    · cases hmem
  · split at hmem
    · cases hmem
    · have hbytes : (reserved (size + 1) - reserved size) * (4 * type.shape.arity + 4) < 2 ^ 63 :=
        Nat.lt_of_le_of_lt (Nat.mul_le_mul_right _ (Nat.sub_le _ _)) hindex
      have hitems : reserved (size + 1) - reserved size < 2 ^ 63 :=
        Nat.lt_of_le_of_lt (Nat.le_mul_of_pos_right _ (by omega)) hbytes
      rw [List.mem_singleton.mp hmem]
      exact ⟨hitems.trans hrange, hbytes.trans hrange⟩

namespace InternTable.Represents

variable {t : InternTable} {type : RecordType} {config : Config} {rs : List Record}

theorem insert_fault (h : t.Represents type config rs) {r : Record} {fault : Fault}
    (hfault : (t.insert r).1 = .error fault) :
    t.records.size = t.records.capacity ∧
      fault = .fatal (.exhausted t.shape.name config.maxRecords.toNat) := by
  have hfull := h.ge_of_insert_error ⟨fault, hfault⟩
  refine ⟨?_, ?_⟩
  · rw [h.holds.size_eq, h.holds.capacity_eq]
    exact Nat.le_antisymm h.length_le hfull
  · rw [h.shape_eq]
    exact h.exhausted_of_insert_error hfault

theorem growth (h : t.Represents type config rs) {r : Record} {insertion : Insertion}
    (hinsert : (t.insert r).1 = .ok insertion) :
    reserved t.index.size + insertion.growth.entries = reserved (t.insert r).2.index.size := by
  rcases hunit : type.unit? with _ | unit
  · by_cases hr : r ∈ rs
    · rw [h.insert_of_mem hunit hr] at hinsert ⊢
      cases hinsert
      rfl
    · rcases Nat.lt_or_ge rs.length (type.capacity config) with hroom | hfull
      · obtain ⟨after, hnew, hafter⟩ := h.insertNew_of_lt hr hroom
        have hgrown : reserved rs.length ≤ reserved (rs.length + 1) :=
          reserved_mono (Nat.le_succ _)
        rw [h.insert_of_notMem hunit hr, hnew] at hinsert ⊢
        cases hinsert
        rw [h.index_size, hafter.index_size, List.length_append, List.length_singleton]
        exact Nat.add_sub_of_le hgrown
      · rw [h.insert_of_full hunit hr hfull] at hinsert
        cases hinsert
  · rw [h.insert_of_unit (by rw [hunit, Option.isSome_some])] at hinsert ⊢
    cases hinsert
    rfl

theorem charge_lt (h : t.Represents type config rs) (r : Record)
    (hblock : t.blockSize * t.recordBytes < 2 ^ 63)
    (hindex : reserved (t.insert r).2.index.size * t.entryBytes < 2 ^ 63) {charge : Charge}
    (hmem : charge ∈ (t.intern r).charges) : charge.items < 2 ^ 64 ∧ charge.bytes < 2 ^ 64 := by
  have hblockSize : t.blockSize = config.blockSize.toNat := h.holds.blockSize_eq
  rw [hblockSize, recordBytes, h.shape_eq] at hblock
  rw [entryBytes, h.shape_eq, (h.insert r).index_size] at hindex
  rw [h.charges_intern] at hmem
  obtain ⟨size, hsize, hmem⟩ := List.mem_flatMap.mp hmem
  obtain ⟨hfrom, hto⟩ := List.mem_range'_1.mp hsize
  refine type.charge_lt_of_mem_chargesAt config hblock ?_ hmem
  refine Nat.lt_of_le_of_lt (Nat.mul_le_mul_right _ (reserved_mono ?_)) hindex
  omega

theorem guarded (h : t.Represents type config rs) : t.Guarded config := by
  constructor
  case records => exact h.holds.guarded
  case next_handle =>
    intro hroom
    rw [h.holds.size_eq, h.holds.capacity_eq] at hroom
    have hrange : rs.length < handleRange := hroom.trans_le h.capacity_le
    rw [h.holds.size_eq]
    exact ⟨Handle.toInt_ofIndex hrange, Handle.ofIndex_ne_maxValue hrange⟩
  case entry_handle =>
    intro i hi
    have hle := h.size_le_handleRange
    rw [← h.length_entries] at hle
    rw [h.fst_getElem_entries hi, Handle.toInt_ofIndex (hi.trans_le hle)]
  case insert_fault => exact fun r fault => h.insert_fault
  case step_fault =>
    intro step hinterns fault hfault
    rw [h.shape_eq]
    exact TableStep.fault_of_interns h hinterns hfault
  case growth => exact fun r insertion => h.growth
  case bytesPerBlock =>
    intro hblock
    have hsize : t.records.blockSize * t.recordBytes < UInt64.size := hblock.trans (by decide)
    exact if_pos hsize
  case charge_lt => exact fun r hblock hindex charge => h.charge_lt r hblock hindex

/-- Later insertions leave every item where it is. -/
theorem get_insertAll (h : t.Represents type config rs) (history : List Record) {index : Nat}
    (hindex : index < t.records.size) :
    index < (t.insertAll history).records.size ∧
      (t.insertAll history).records.get index = t.records.get index := by
  have hafter := h.insertAll history
  have hinitial := prefix_foldl_extend (type.capacity config) rs history
  rw [h.holds.size_eq] at hindex
  have hlater := hindex.trans_le hinitial.length_le
  refine ⟨?_, ?_⟩
  · rwa [hafter.holds.size_eq]
  · rw [hafter.holds.get_of_lt hlater, h.holds.get_of_lt hindex, hinitial.getElem hindex]

end InternTable.Represents

/-- With an accepted configuration no check of an intern table fails in any state that a run can
reach, on its own or in a registry; and what was stored once is read in every later state. -/
theorem full_table_is_only_fault (type : RecordType) (config : Config)
    (haccept : config.accept = .ok ()) :
    (∃ t, InternTable.create type config = .ok t ∧ ∀ steps : List TableStep,
      let now := (Run.all TableStep.perform t steps).state
      now.Guarded config ∧ ∀ (more : List TableStep) (index : Nat), index < now.records.size →
        let later := (Run.all TableStep.perform t (steps ++ more)).state
        index < later.records.size ∧ later.records.get index = now.records.get index) ∧
    ∃ g, Registry.create config = .ok g ∧ ∀ steps : List RegistryStep,
      ∀ t ∈ (Run.all RegistryStep.perform g steps).state.tables, t.Guarded config := by
  refine ⟨?_, ?_⟩
  · obtain ⟨t, hcreate, ht⟩ := InternTable.represents_create type haccept
    refine ⟨t, hcreate, ?_⟩
    intro steps now
    have hnow : now.Represents type config _ := TableStep.represents_all ht steps
    refine ⟨hnow.guarded, ?_⟩
    intro more index hindex later
    have hlater : later = now.insertAll (TableStep.history type.shape more) := by
      rw [← TableStep.state_all hnow]
      exact Run.state_all_append t steps more
    rw [hlater]
    exact hnow.get_insertAll _ hindex
  · refine ⟨_, Registry.create_of_accept haccept, ?_⟩
    intro steps t ht
    have hg := Registry.sound_of_create (Registry.create_of_accept haccept)
    obtain ⟨type, rs, hrepresents⟩ :=
      Registry.represents_of_mem (RegistryStep.sound_all hg steps) ht
    rw [RegistryStep.config_all hg] at hrepresents
    exact hrepresents.guarded

theorem third_pair_meets_only_full_table :
    let type : RecordType := { shape := { id := 0, name := "pair", arity := 2 } }
    let config : Config := { blockSize := 2, maxRecords := 2 }
    let steps : List TableStep := [.intern [1, 2], .intern [3, 4]]
    config.accept = .ok () ∧ ∃ t, InternTable.create type config = .ok t ∧
      let now := (Run.all TableStep.perform t steps).state
      now.records.size = now.records.capacity ∧
        (∀ fault, (now.insert [5, 6]).1 = .error fault → fault = .fatal (.exhausted "pair" 2)) ∧
        (∃ r, now.records.get 1 = .ok r) ∧
        now.records.bytesPerBlock now.recordBytes = .ok (now.blockSize * now.recordBytes) := by
  intro type config steps
  have haccept : config.accept = .ok () := Config.accept_eq_ok_iff.mpr (by decide)
  obtain ⟨⟨t, hcreate, hall⟩, -⟩ := full_table_is_only_fault type config haccept
  refine ⟨haccept, t, hcreate, ?_⟩
  intro now
  obtain ⟨hguarded, -⟩ := hall steps
  have hnow : now.Represents type config [[1, 2], [3, 4]] :=
    TableStep.represents_all (InternTable.represents_of_create hcreate) steps
  have hblockSize : now.blockSize = 2 := hnow.holds.blockSize_eq
  have hsize : now.records.size = 2 := hnow.holds.size_eq
  refine ⟨?_, ?_, ?_, ?_⟩
  · rw [hsize, hnow.holds.capacity_eq]
    rfl
  · intro fault hfault
    rw [(hguarded.insert_fault [5, 6] fault hfault).2, hnow.shape_eq]
    rfl
  · obtain ⟨r, -, hget⟩ := hguarded.records.get_of_lt 1 (by rw [hsize]; decide)
    exact ⟨r, hget⟩
  · apply hguarded.bytesPerBlock
    rw [hblockSize, InternTable.recordBytes, hnow.shape_eq]
    decide

end Interner
