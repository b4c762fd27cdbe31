import Interner.InternTable
import Interner.Proofs.BlockContents
import Interner.Proofs.FirstOccurrences
import Mathlib.Data.List.Nodup

/-!
What an intern table holds. A table of a type, built with a configuration, holds a list of distinct
records when its slots hold the list and its index leads from each record to the handle of its
position. Insertion leaves a known record alone, appends a new one while there is room, and faults
otherwise without a trace.
-/

namespace Interner

namespace Handle

theorem toInt_ofIndex {index : Nat} (h : index < handleRange) :
    (ofIndex index).toInt = index + 1 := by
  rw [ofIndex, Int32.toInt_ofNat_of_lt (by rw [handleRange] at h; omega)]
  omega

theorem ofIndex_ne_null {index : Nat} (h : index < handleRange) : ofIndex index ≠ null := by
  intro heq
  have hzero := congrArg Int32.toInt heq
  rw [toInt_ofIndex h, null, Int32.toInt_zero] at hzero
  omega

theorem ofIndex_ne_maxValue {index : Nat} (h : index < handleRange) :
    ofIndex index ≠ Int32.maxValue := by
  intro heq
  have hmax := congrArg Int32.toInt heq
  rw [toInt_ofIndex h, Int32.toInt_maxValue] at hmax
  rw [handleRange] at h
  omega

theorem index?_eq_some_iff {h : Handle} {index : Nat} :
    h.index? = some index ↔ h.toInt = index + 1 := by
  have hsign : h ≤ 0 ↔ h.toInt ≤ 0 := Int32.le_iff_toInt_le
  rw [index?]
  by_cases hnonpos : h ≤ 0
  · have hint := hsign.mp hnonpos
    simp only [if_pos hnonpos, reduceCtorEq, false_iff]
    omega
  · have hint := mt hsign.mpr hnonpos
    rw [if_neg hnonpos, Option.some_inj]
    omega

theorem index?_eq_none_iff {h : Handle} : h.index? = none ↔ h.toInt ≤ 0 := by
  have hsign : h ≤ 0 ↔ h.toInt ≤ 0 := Int32.le_iff_toInt_le
  rw [index?, ← hsign]
  split <;> simp_all

theorem index?_ofIndex {index : Nat} (h : index < handleRange) :
    (ofIndex index).index? = some index :=
  index?_eq_some_iff.mpr (toInt_ofIndex h)

theorem eq_ofIndex_iff {h : Handle} {index : Nat} (hindex : index < handleRange) :
    h = ofIndex index ↔ h.toInt = index + 1 := by
  rw [← Int32.toInt_inj, toInt_ofIndex hindex]

end Handle

/-- How many records a table of this type may hold. The only record of a type without fields takes
no room. -/
def RecordType.capacity (type : RecordType) (config : Config) : Nat :=
  if type.unit?.isSome then 0 else config.maxRecords.toNat

theorem RecordType.capacity_of_none {type : RecordType} (h : type.unit? = none) (config : Config) :
    type.capacity config = config.maxRecords.toNat := by
  rw [capacity, h]
  rfl

theorem RecordType.capacity_of_some {type : RecordType} (h : type.unit?.isSome) (config : Config) :
    type.capacity config = 0 :=
  if_pos h

theorem RecordType.unit?_eq_some {type : RecordType} {unit : Record} (h : type.unit? = some unit) :
    type.shape.arity = 0 ∧ unit = [] := by
  rw [unit?] at h
  split at h
  · rename_i harity
    refine ⟨harity, ?_⟩
    rw [rebuild, Shape.record, harity] at h
    split at h
    · cases h
    · cases h
      rfl
  · cases h

namespace InternTable

/-- The table belongs to `type`, was built with `config` and holds the distinct records `rs`, each
under the handle of its position. -/
structure Represents (t : InternTable) (type : RecordType) (config : Config)
    (rs : List Record) : Prop where
  shape_eq : t.shape = type.shape
  unit_eq : t.unit = type.unit?
  holds : t.records.Holds config.blockSize.toNat (type.capacity config) rs
  capacity_le : type.capacity config ≤ handleRange
  nodup : rs.Nodup
  index_eq : ∀ r, t.index[r]? = if r ∈ rs then some (Handle.ofIndex (rs.idxOf r)) else none
  index_size : t.index.size = rs.length

theorem represents_build (type : RecordType) {config : Config} (h : config.accept = .ok ()) :
    ∃ t, build type config = .ok t ∧ t.Represents type config [] := by
  obtain ⟨records, hempty, hholds⟩ :=
    BlockList.holds_empty (Config.isPowerOfTwo_of_accept h) (type.capacity config)
  refine ⟨{
    shape := type.shape, unit := type.unit?, reserve := type.reserve, index := ∅, records }, ?_, ?_⟩
  · rw [RecordType.capacity] at hempty
    simp only [build, hempty]
    rfl
  · constructor
    case shape_eq => rfl
    case unit_eq => rfl
    case holds => exact hholds
    case capacity_le =>
      rw [RecordType.capacity]
      split
      · exact Nat.zero_le _
      · exact Config.maxRecords_le_of_accept h
    case nodup => exact List.nodup_nil
    case index_eq =>
      intro r
      simp
    case index_size => rfl

theorem represents_create (type : RecordType) {config : Config} (h : config.accept = .ok ()) :
    ∃ t, create type config = .ok t ∧ t.Represents type config [] := by
  rw [create, h]
  exact represents_build type h

theorem accept_of_create {type : RecordType} {config : Config} {t : InternTable}
    (h : create type config = .ok t) : config.accept = .ok () := by
  rcases haccept : config.accept with cause | ⟨⟩
  · rw [create, haccept] at h
    cases h
  · rfl

theorem represents_of_create {type : RecordType} {config : Config} {t : InternTable}
    (h : create type config = .ok t) : t.Represents type config [] := by
  obtain ⟨u, hu, hrepresents⟩ := represents_create type (accept_of_create h)
  rw [h] at hu
  cases hu
  exact hrepresents

namespace Represents

variable {t : InternTable} {type : RecordType} {config : Config} {rs : List Record}

theorem length_le (h : t.Represents type config rs) : rs.length ≤ type.capacity config :=
  h.holds.length_le

theorem lt_handleRange (h : t.Represents type config rs) {index : Nat} (hi : index < rs.length) :
    index < handleRange :=
  Nat.lt_of_lt_of_le hi (Nat.le_trans h.length_le h.capacity_le)

theorem eq_nil_of_unit (h : t.Represents type config rs) (hunit : type.unit?.isSome) : rs = [] := by
  have hle := h.length_le
  rw [RecordType.capacity_of_some hunit] at hle
  exact List.eq_nil_of_length_eq_zero (Nat.le_zero.mp hle)

theorem nodup_concat (h : t.Represents type config rs) {r : Record} (hnew : r ∉ rs) :
    (rs ++ [r]).Nodup := by
  refine List.nodup_append.mpr ⟨h.nodup, List.nodup_singleton r, ?_⟩
  rintro a ha b hb rfl
  rw [List.mem_singleton.mp hb] at ha
  exact hnew ha

theorem index_insert_eq (h : t.Represents type config rs) {r : Record} (hnew : r ∉ rs)
    (q : Record) : (t.index.insert r (Handle.ofIndex rs.length))[q]? =
      if q ∈ rs ++ [r] then some (Handle.ofIndex ((rs ++ [r]).idxOf q)) else none := by
  rw [Std.HashMap.getElem?_insert, h.index_eq q]
  by_cases hq : r = q
  · simp [← hq, List.idxOf_append, hnew]
  · have hmem : q ∈ rs ++ [r] ↔ q ∈ rs := by simp [Ne.symm hq]
    simp only [beq_iff_eq, if_neg hq, hmem]
    split
    · rename_i hold
      rw [List.idxOf_append_of_mem hold]
    · rfl

theorem size_index_insert (h : t.Represents type config rs) {r : Record} (hnew : r ∉ rs)
    (handle : Handle) : (t.index.insert r handle).size = rs.length + 1 := by
  have hget : t.index[r]? = none := (h.index_eq r).trans (if_neg hnew)
  have hmem : r ∉ t.index := by simpa using hget
  rw [Std.HashMap.size_insert, if_neg hmem, h.index_size]

theorem insertNew_of_lt (h : t.Represents type config rs) {r : Record} (hnew : r ∉ rs)
    (hroom : rs.length < type.capacity config) :
    ∃ after, t.insertNew r = (.ok {
        handle := Handle.ofIndex rs.length
        growth := {
          block := if rs.length % config.blockSize.toNat = 0 then
            some (rs.length / config.blockSize.toNat) else none
          entries := Memory.reserved (rs.length + 1) - Memory.reserved rs.length } }, after) ∧
      after.Represents type config (rs ++ [r]) := by
  have hindex_eq := h.index_insert_eq hnew
  have hinserted := h.size_index_insert hnew (Handle.ofIndex rs.length)
  obtain ⟨shape, unit, reserve, index, records⟩ := t
  obtain ⟨after, hpush, hholds⟩ := h.holds.push_of_lt hroom r
  have hrange : rs.length < handleRange := Nat.lt_of_lt_of_le hroom h.capacity_le
  have hsize : records.size = rs.length := h.holds.size_eq
  have hcapacity : records.capacity = type.capacity config := h.holds.capacity_eq
  have hindex : index.size = rs.length := h.index_size
  refine ⟨{
    shape, unit, reserve, index := index.insert r (Handle.ofIndex rs.length), records := after },
    ?_, ?_⟩
  · simp only [insertNew, hsize, hcapacity, hindex, hpush, hholds.blockSize_eq, hinserted,
      if_neg (Nat.not_le.mpr hroom), if_neg (Handle.ofIndex_ne_maxValue hrange), ne_eq,
      not_true_eq_false, if_false, Memory.Reserve.room_eq]
  · constructor
    case shape_eq => exact h.shape_eq
    case unit_eq => exact h.unit_eq
    case holds => exact hholds
    case capacity_le => exact h.capacity_le
    case nodup => exact h.nodup_concat hnew
    case index_eq => exact hindex_eq
    case index_size => rw [hinserted, List.length_append, List.length_singleton]

theorem index_eq_of_mem (h : t.Represents type config rs) {r : Record} (hr : r ∈ rs) :
    t.index[r]? = some (Handle.ofIndex (rs.idxOf r)) :=
  (h.index_eq r).trans (if_pos hr)

theorem index_eq_of_notMem (h : t.Represents type config rs) {r : Record} (hr : r ∉ rs) :
    t.index[r]? = none :=
  (h.index_eq r).trans (if_neg hr)

theorem insert_of_unit (h : t.Represents type config rs) (hunit : type.unit?.isSome) (r : Record) :
    t.insert r = (.ok { handle := Handle.unit }, t) := by
  rw [insert, h.unit_eq, if_pos hunit]

theorem insert_of_mem (h : t.Represents type config rs) (hunit : type.unit? = none) {r : Record}
    (hr : r ∈ rs) : t.insert r = (.ok { handle := Handle.ofIndex (rs.idxOf r) }, t) := by
  simp only [insert, h.unit_eq, hunit, h.index_eq_of_mem hr, Option.isSome_none,
    Bool.false_eq_true, if_false]

theorem insert_of_notMem (h : t.Represents type config rs) (hunit : type.unit? = none)
    {r : Record} (hr : r ∉ rs) : t.insert r = t.insertNew r := by
  simp only [insert, h.unit_eq, hunit, h.index_eq_of_notMem hr, Option.isSome_none,
    Bool.false_eq_true, if_false]

theorem insert_of_full (h : t.Represents type config rs) (hunit : type.unit? = none) {r : Record}
    (hr : r ∉ rs) (hfull : type.capacity config ≤ rs.length) :
    t.insert r =
      (.error (.fatal (.exhausted type.shape.name (type.capacity config))), t) := by
  have hshape := h.shape_eq
  have hsize := h.holds.size_eq
  have hcapacity := h.holds.capacity_eq
  rw [h.insert_of_notMem hunit hr]
  obtain ⟨shape, unit, reserve, index, records⟩ := t
  simp only [insertNew] at hshape hsize hcapacity ⊢
  rw [hsize, hcapacity, hshape, if_pos hfull]

theorem insert_of_room (h : t.Represents type config rs) (hunit : type.unit? = none) {r : Record}
    (hr : r ∉ rs) (hroom : rs.length < type.capacity config) :
    ∃ growth after, t.insert r = (.ok { handle := Handle.ofIndex rs.length, growth }, after) ∧
      after.Represents type config (rs ++ [r]) := by
  obtain ⟨after, hinsert, hafter⟩ := h.insertNew_of_lt hr hroom
  exact ⟨_, after, (h.insert_of_notMem hunit hr).trans hinsert, hafter⟩

/-- Whatever an insertion meets, the table then holds the records extended by the one given. -/
theorem insert (h : t.Represents type config rs) (r : Record) :
    (t.insert r).2.Represents type config (extend (type.capacity config) rs r) := by
  rcases hunit : type.unit? with _ | unit
  · by_cases hr : r ∈ rs
    · rw [h.insert_of_mem hunit hr, extend_of_mem hr]
      exact h
    · rcases Nat.lt_or_ge rs.length (type.capacity config) with hroom | hfull
      · obtain ⟨growth, after, hinsert, hafter⟩ := h.insert_of_room hunit hr hroom
        rw [hinsert, extend_of_lt hr hroom]
        exact hafter
      · rw [h.insert_of_full hunit hr hfull, extend_of_ge hfull]
        exact h
  · have hsome : type.unit?.isSome := by rw [hunit, Option.isSome_some]
    have hfull : type.capacity config ≤ rs.length := by
      rw [RecordType.capacity_of_some hsome]
      exact Nat.zero_le _
    rw [h.insert_of_unit hsome, extend_of_ge hfull]
    exact h

theorem size_eq (h : t.Represents type config rs) :
    t.size = if type.unit?.isSome then 1 else rs.length := by
  rw [InternTable.size, h.unit_eq, h.holds.size_eq]

theorem get?_eq (h : t.Represents type config rs) (hunit : type.unit? = none) (handle : Handle) :
    t.get? handle = handle.index?.bind (rs[·]?) := by
  have hget : t.records.get? = fun index => rs[index]? := funext h.holds.get?_eq
  rw [get?, h.unit_eq, hunit, hget]

theorem get?_ofIndex (h : t.Represents type config rs) {index : Nat} (hi : index < rs.length) :
    t.get? (Handle.ofIndex index) = rs[index]? := by
  have hunit : type.unit? = none := by
    by_contra hsome
    rw [h.eq_nil_of_unit (Option.isSome_iff_ne_none.mpr hsome)] at hi
    exact Nat.not_lt_zero _ hi
  rw [h.get?_eq hunit, Handle.index?_ofIndex (h.lt_handleRange hi), Option.bind_some]

theorem get?_idxOf (h : t.Represents type config rs) {r : Record} (hr : r ∈ rs) :
    t.get? (Handle.ofIndex (rs.idxOf r)) = some r := by
  rw [h.get?_ofIndex (List.idxOf_lt_length_of_mem hr), List.getElem?_idxOf hr]

theorem mem_of_get? (h : t.Represents type config rs) (hunit : type.unit? = none)
    {handle : Handle} {r : Record} (hget : t.get? handle = some r) :
    r ∈ rs ∧ handle = Handle.ofIndex (rs.idxOf r) := by
  rw [h.get?_eq hunit] at hget
  obtain ⟨index, hindex, hget⟩ := Option.bind_eq_some_iff.mp hget
  obtain ⟨hlt, hget⟩ := List.getElem?_eq_some_iff.mp hget
  refine ⟨List.mem_of_getElem hget, ?_⟩
  rw [← hget, h.nodup.idxOf_getElem _ hlt, Handle.eq_ofIndex_iff (h.lt_handleRange hlt)]
  exact Handle.index?_eq_some_iff.mp hindex

theorem get?_of_prefix {after : InternTable} {config' : Config} {more : List Record}
    (h : t.Represents type config rs) (hafter : after.Represents type config' more)
    (hinitial : rs <+: more) {handle : Handle} {r : Record} (hget : t.get? handle = some r) :
    after.get? handle = some r := by
  rcases hunit : type.unit? with _ | unit
  · obtain ⟨hr, rfl⟩ := h.mem_of_get? hunit hget
    rw [← idxOf_eq_of_prefix hinitial hr]
    exact hafter.get?_idxOf (hinitial.mem hr)
  · rw [get?, h.unit_eq, hunit] at hget
    rw [get?, hafter.unit_eq, hunit]
    exact hget

theorem insert_of_get? (h : t.Represents type config rs) {handle : Handle} {r : Record}
    (hget : t.get? handle = some r) : t.insert r = (.ok { handle }, t) := by
  rcases hunit : type.unit? with _ | unit
  · obtain ⟨hr, rfl⟩ := h.mem_of_get? hunit hget
    rw [h.insert_of_mem hunit hr]
  · simp only [get?, h.unit_eq, hunit, Option.ite_none_right_eq_some] at hget
    rw [h.insert_of_unit (by rw [hunit, Option.isSome_some]), hget.1]

theorem get?_of_insert_of_none (h : t.Represents type config rs) (hunit : type.unit? = none)
    {r : Record} {insertion : Insertion} (hinsert : (t.insert r).1 = .ok insertion) :
    (t.insert r).2.get? insertion.handle = some r := by
  by_cases hr : r ∈ rs
  · rw [h.insert_of_mem hunit hr] at hinsert ⊢
    cases hinsert
    exact h.get?_idxOf hr
  · rcases Nat.lt_or_ge rs.length (type.capacity config) with hroom | hfull
    · obtain ⟨growth, after, hstep, hafter⟩ := h.insert_of_room hunit hr hroom
      have hget := hafter.get?_idxOf (List.mem_append_right rs (List.mem_singleton_self r))
      rw [hstep] at hinsert ⊢
      cases hinsert
      rw [List.idxOf_append_of_notMem hr] at hget
      simpa using hget
    · rw [h.insert_of_full hunit hr hfull] at hinsert
      cases hinsert

theorem get?_of_insert (h : t.Represents type config rs) {r : Record}
    (hlength : r.length = type.shape.arity) {insertion : Insertion}
    (hinsert : (t.insert r).1 = .ok insertion) :
    (t.insert r).2.get? insertion.handle = some r := by
  rcases hunit : type.unit? with _ | unit
  · exact h.get?_of_insert_of_none hunit hinsert
  · obtain ⟨harity, rfl⟩ := RecordType.unit?_eq_some hunit
    rw [h.insert_of_unit (by rw [hunit, Option.isSome_some])] at hinsert ⊢
    cases hinsert
    rw [harity, List.length_eq_zero_iff] at hlength
    rw [get?, h.unit_eq, hunit, hlength]
    exact if_pos rfl

theorem handle_unique (h : t.Represents type config rs) {handle handle' : Handle} {r : Record}
    (hget : t.get? handle = some r) (hget' : t.get? handle' = some r) : handle = handle' := by
  rcases hunit : type.unit? with _ | unit
  · rw [(h.mem_of_get? hunit hget).2, (h.mem_of_get? hunit hget').2]
  · simp only [get?, h.unit_eq, hunit, Option.ite_none_right_eq_some] at hget hget'
    rw [hget.1, hget'.1]

theorem get?_isSome_iff (h : t.Represents type config rs) (handle : Handle) :
    (t.get? handle).isSome ↔ 1 ≤ handle.toInt ∧ handle.toInt ≤ t.size := by
  rw [h.size_eq]
  rcases hunit : type.unit? with _ | unit
  · rw [h.get?_eq hunit]
    rcases hindex : handle.index? with _ | index
    · have hnonpos : handle.toInt ≤ 0 := Handle.index?_eq_none_iff.mp hindex
      simp only [Option.bind_none, Option.isSome_none, Bool.false_eq_true, false_iff]
      omega
    · have hint := Handle.index?_eq_some_iff.mp hindex
      simp only [Option.bind_some, isSome_getElem?, Option.isSome_none, Bool.false_eq_true,
        if_false]
      omega
  · have hone : handle = Handle.unit ↔ handle.toInt = 1 := Int32.toInt_inj.symm
    simp only [get?, h.unit_eq, hunit, Option.isSome_some, if_true]
    split
    · rename_i heq
      simp [hone.mp heq]
    · rename_i hne
      have hint := mt hone.mpr hne
      simp only [Option.isSome_none, Bool.false_eq_true, false_iff]
      omega

end Represents

variable {t : InternTable} {handle : Handle} {r : Record}

theorem lookup_of_get? (h : t.get? handle = some r) : t.lookup handle = .ok r := by
  rw [lookup, h]

theorem resolve_of_get? (h : t.get? handle = some r) : t.resolve handle = .ok r := by
  have hlookup := lookup_of_get? h
  rw [get?] at h
  rw [resolve]
  split
  · rename_i unit hunit
    simp only [hunit, Option.ite_none_right_eq_some, Option.some.injEq] at h
    rw [h.2]
  · rw [hlookup]
    rfl

theorem resolveTrusted_of_get? (h : t.get? handle = some r) : t.resolveTrusted handle = .ok r := by
  rw [get?] at h
  rw [resolveTrusted]
  split
  · rename_i unit hunit
    simp only [hunit, Option.ite_none_right_eq_some, Option.some.injEq] at h
    rw [h.2]
  · rename_i hunit
    simp only [hunit] at h
    obtain ⟨index, hindex, hget⟩ := Option.bind_eq_some_iff.mp h
    rw [hindex]
    change t.records.get index = _
    rw [BlockList.get, hget]

end InternTable

end Interner
