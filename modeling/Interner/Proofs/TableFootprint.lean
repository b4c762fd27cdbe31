import Interner.Proofs.AccountLevels
import Interner.Proofs.TableCharges

namespace Interner

open Memory Session

namespace Memory

/-- The items that so many records take up: all slots of the blocks that hold them, and all the room
of the index. -/
def itemsFor (blockSize size : Nat) : Category → Nat
  | .blocks => blocksFor size blockSize * blockSize
  | .index => reserved size

/-- The bytes of one item, for records with so many fields: a record, or a record and its handle. -/
def bytesPerItem (arity : Nat) : Category → Nat
  | .blocks => 4 * arity
  | .index => 4 * arity + 4

def footprint (arity blockSize size : Nat) (c : Category) : Measure → Nat
  | .items => itemsFor blockSize size c
  | .bytes => itemsFor blockSize size c * bytesPerItem arity c

/-- The bytes of the charge are those of its items. -/
def Charge.IsPriced (arity : Nat) (charge : Charge) : Prop :=
  charge.bytes = charge.items * bytesPerItem arity charge.category

theorem Charge.amount_bytes {arity : Nat} {charge : Charge} (h : charge.IsPriced arity)
    (c : Category) : charge.amount c .bytes = charge.amount c .items * bytesPerItem arity c := by
  rw [amount, amount]
  split
  · rename_i hcategory
    rw [← hcategory]
    exact h
  · rw [Nat.zero_mul]

theorem total_bytes {arity : Nat} {charges : List Charge}
    (h : ∀ charge ∈ charges, charge.IsPriced arity) (c : Category) :
    total charges c .bytes = total charges c .items * bytesPerItem arity c := by
  induction charges with
  | nil => exact (Nat.zero_mul _).symm
  | cons charge charges ih =>
      obtain ⟨hcharge, hrest⟩ := List.forall_mem_cons.mp h
      rw [total_cons, total_cons, Nat.add_mul, Charge.amount_bytes hcharge, ih hrest]

theorem itemsFor_zero {blockSize : Nat} (hpos : 0 < blockSize) (c : Category) :
    itemsFor blockSize 0 c = 0 := by
  cases c with
  | blocks => rw [itemsFor, blocksFor_zero hpos, Nat.zero_mul]
  | index => rfl

theorem footprint_zero (arity : Nat) {blockSize : Nat} (hpos : 0 < blockSize) (c : Category)
    (m : Measure) : footprint arity blockSize 0 c m = 0 := by
  cases m with
  | items => exact itemsFor_zero hpos c
  | bytes => rw [footprint, itemsFor_zero hpos, Nat.zero_mul]

end Memory

namespace RecordType

variable (type : RecordType) (config : Config)

theorem isPriced_of_mem_chargesAt {size : Nat} {charge : Charge}
    (h : charge ∈ type.chargesAt config size) : charge.IsPriced type.shape.arity := by
  rcases List.mem_append.mp h with hblock | hroom
  · split at hblock
    · rw [List.mem_singleton.mp hblock]
      rfl
    · cases hblock
  · split at hroom
    · cases hroom
    · rw [List.mem_singleton.mp hroom]
      rfl

theorem isPriced_of_mem_chargesBetween {before after : Nat} {charge : Charge}
    (h : charge ∈ type.chargesBetween config before after) :
    charge.IsPriced type.shape.arity := by
  obtain ⟨size, -, hmem⟩ := List.mem_flatMap.mp h
  exact type.isPriced_of_mem_chargesAt config hmem

theorem total_items_chargesAt (hpos : 0 < config.blockSize.toNat) (size : Nat) (c : Category) :
    itemsFor config.blockSize.toNat size c + total (type.chargesAt config size) c .items =
      itemsFor config.blockSize.toNat (size + 1) c := by
  have hgrown : reserved size ≤ reserved (size + 1) := reserved_mono (Nat.le_succ size)
  rw [chargesAt, total_append]
  cases c with
  | blocks =>
      rw [itemsFor, itemsFor, blocksFor_succ hpos, Nat.add_mul]
      congr 1
      split_ifs <;> simp [Charge.amount, Charge.measure]
  | index =>
      rw [itemsFor, itemsFor]
      split_ifs <;> simp [Charge.amount, Charge.measure] <;> omega

theorem total_items_chargesBetween (hpos : 0 < config.blockSize.toNat) {before after : Nat}
    (h : before ≤ after) (c : Category) :
    itemsFor config.blockSize.toNat before c +
        total (type.chargesBetween config before after) c .items =
      itemsFor config.blockSize.toNat after c := by
  induction after, h using Nat.le_induction with
  | base => rw [chargesBetween_self, total_nil, Nat.add_zero]
  | succ after h ih =>
      rw [← type.chargesBetween_append config h (Nat.le_succ after), type.chargesBetween_succ,
        total_append, ← Nat.add_assoc, ih, type.total_items_chargesAt config hpos]

theorem total_chargesBetween (hpos : 0 < config.blockSize.toNat) {before after : Nat}
    (h : before ≤ after) (c : Category) (m : Measure) :
    footprint type.shape.arity config.blockSize.toNat before c m +
        total (type.chargesBetween config before after) c m =
      footprint type.shape.arity config.blockSize.toNat after c m := by
  cases m with
  | items => exact type.total_items_chargesBetween config hpos h c
  | bytes =>
      rw [total_bytes fun _ => type.isPriced_of_mem_chargesBetween config, footprint, footprint,
        ← Nat.add_mul, type.total_items_chargesBetween config hpos h]

end RecordType

namespace InternTable

/-- The memory that the table takes. The only record of a type without fields takes none. -/
def footprint (t : InternTable) (c : Category) (m : Measure) : Nat :=
  if t.unit.isSome then 0 else Memory.footprint t.shape.arity t.blockSize t.size c m

namespace Represents

variable {t : InternTable} {type : RecordType} {config : Config} {rs : List Record}

theorem footprint_eq (h : t.Represents type config rs) (c : Category) (m : Measure) :
    t.footprint c m =
      Memory.footprint type.shape.arity config.blockSize.toNat rs.length c m := by
  have hblockSize : t.blockSize = config.blockSize.toNat := h.holds.blockSize_eq
  rw [footprint, h.unit_eq, h.shape_eq, hblockSize, h.size_eq]
  split
  · rename_i hunit
    rw [h.eq_nil_of_unit hunit, List.length_nil, footprint_zero _ h.holds.blockSize_pos]
  · rfl

theorem footprint_of_nil (h : t.Represents type config []) (c : Category) (m : Measure) :
    t.footprint c m = 0 := by
  rw [h.footprint_eq, List.length_nil, footprint_zero _ h.holds.blockSize_pos]

/-- The charges of a step are what the table grows by. -/
theorem total_charges_perform (h : t.Represents type config rs) (step : TableStep) (c : Category)
    (m : Measure) : t.footprint c m + total (step.perform t).charges c m =
      (step.perform t).state.footprint c m := by
  have hafter := h.insertAll (step.interned type.shape)
  rw [TableStep.charges_perform h, TableStep.state_perform h, h.shape_eq, hafter.footprint_eq,
    h.footprint_eq]
  exact type.total_chargesBetween config h.holds.blockSize_pos (length_le_foldl_extend _ _ _) c m

theorem isPriced_of_mem_holdings (h : t.Represents type config rs) {charge : Charge}
    (hmem : charge ∈ t.holdings) : charge.IsPriced type.shape.arity := by
  rw [holdings, recordBytes, entryBytes, h.shape_eq] at hmem
  rcases List.mem_append.mp hmem with hblock | hroom
  · split at hblock
    · cases hblock
    · rw [List.mem_singleton.mp hblock]
      exact (Nat.mul_assoc _ _ _).symm
  · split at hroom
    · cases hroom
    · rw [List.mem_singleton.mp hroom]
      rfl

/-- What is given back in the end is all the memory that the table takes. -/
theorem total_holdings (h : t.Represents type config rs) (c : Category) (m : Measure) :
    total t.holdings c m = t.footprint c m := by
  have hblockSize : t.blockSize = config.blockSize.toNat := h.holds.blockSize_eq
  have hitems : total t.holdings c .items = itemsFor config.blockSize.toNat rs.length c := by
    rw [holdings, h.holds.blockCount_eq, h.index_size, hblockSize, total_append]
    cases c with
    | blocks =>
        rw [itemsFor]
        split_ifs <;> simp_all [Charge.amount, Charge.measure]
    | index =>
        rw [itemsFor]
        split_ifs <;> simp_all [Charge.amount, Charge.measure]
  rw [h.footprint_eq]
  cases m with
  | items => exact hitems
  | bytes => rw [total_bytes fun _ => h.isPriced_of_mem_holdings, hitems, Memory.footprint]

theorem holdings_of_unit (h : t.Represents type config rs) (hunit : t.unit.isSome) :
    t.holdings = [] := by
  have hnil : rs = [] := h.eq_nil_of_unit (h.unit_eq ▸ hunit)
  rw [holdings, h.holds.blockCount_eq, h.index_size, hnil, List.length_nil,
    blocksFor_zero h.holds.blockSize_pos, Reserve.room_zero]
  rfl

theorem charges_of_unit (h : t.Represents type config rs) (hunit : t.unit.isSome)
    (step : TableStep) : (step.perform t).charges = [] := by
  have hfull : type.capacity config ≤ rs.length := by
    rw [RecordType.capacity_of_some (h.unit_eq ▸ hunit)]
    exact Nat.zero_le _
  rw [TableStep.charges_perform h, foldl_extend_of_ge hfull, type.chargesBetween_self]

end Represents

def footprints (tables : List InternTable) (c : Category) (m : Measure) : Nat :=
  (tables.map fun t => t.footprint c m).sum

section Footprints

variable (c : Category) (m : Measure)

@[simp] theorem footprints_nil : footprints [] c m = 0 := rfl

@[simp] theorem footprints_cons (t : InternTable) (tables : List InternTable) :
    footprints (t :: tables) c m = t.footprint c m + footprints tables c m := by
  rw [footprints, List.map_cons, List.sum_cons, ← footprints]

@[simp] theorem footprints_append (tables more : List InternTable) :
    footprints (tables ++ more) c m = footprints tables c m + footprints more c m := by
  rw [footprints, List.map_append, List.sum_append, ← footprints, ← footprints]

theorem footprints_perm {tables tables' : List InternTable} (h : tables.Perm tables') :
    footprints tables c m = footprints tables' c m :=
  (h.map _).sum_eq

end Footprints

end InternTable

end Interner
