import Interner.BlockList
import Interner.Proofs.AcceptedConfig
import Mathlib.Data.List.Basic
import Mathlib.Data.Nat.Bitwise
import Mathlib.Tactic.Ring

/-!
What a block list holds. A list made with a block size and a capacity holds a list of items when its
blocks are the consecutive pieces of that list; pushing appends, and every read is a read of the
list.
-/

namespace Interner

namespace BlockList

variable {α : Type}

/-- The piece of `vs` that belongs into the block with the given number. -/
def piece (blockSize : Nat) (vs : List α) (block : Nat) : Array α :=
  ((vs.drop (block * blockSize)).take blockSize).toArray

/-- The list was made with this block size and capacity and holds `vs`: block after block is
allocated as far as `vs` reaches, each with its piece of `vs`. -/
structure Holds (l : BlockList α) (blockSize capacity : Nat) (vs : List α) : Prop where
  blockSize_eq_pow : blockSize = 2 ^ l.shift
  mask_eq : l.mask = blockSize - 1
  capacity_eq : l.capacity = capacity
  directory_eq : l.directory = blocksFor capacity blockSize
  size_eq : l.size = vs.length
  length_le : vs.length ≤ capacity
  block?_eq : ∀ block, block? l.blocks block =
    if block * blockSize < vs.length then some (piece blockSize vs block) else none

section Directory

variable {blocks : Array (Option (Array α))} {block : Nat}

theorem block?_of_lt (h : block < blocks.size) : block? blocks block = blocks[block] := by
  rw [block?, Array.getElem?_eq_getElem h]
  rfl

theorem lt_size_of_isSome_block? (h : (block? blocks block).isSome) : block < blocks.size := by
  by_contra hbeyond
  rw [block?, Array.getElem?_eq_none (Nat.not_lt.mp hbeyond)] at h
  cases h

@[simp] theorem size_allocate (blocks : Array (Option (Array α))) (block : Nat) :
    (allocate blocks block).size = blocks.size :=
  Array.size_modify

/-- A block that has its place in the directory is there once it is allocated, with the slots that it
had before, and the others stay. -/
theorem block?_allocate (h : block < blocks.size) (other : Nat) :
    block? (allocate blocks block) other =
      if block = other then some ((block? blocks block).getD #[]) else block? blocks other := by
  rw [block?, allocate, Array.getElem?_modify]
  rcases eq_or_ne block other with rfl | hne
  · rw [if_pos rfl, if_pos rfl, block?_of_lt h, Array.getElem?_eq_getElem h]
    rfl
  · rw [if_neg hne, if_neg hne, ← block?]

theorem block?_modify (f : Array α → Array α) (other : Nat) :
    block? (blocks.modify block (Option.map f)) other =
      if block = other then (block? blocks other).map f else block? blocks other := by
  rw [block?, Array.getElem?_modify]
  rcases eq_or_ne block other with rfl | hne
  · rw [if_pos rfl, if_pos rfl, block?]
    rcases blocks[block]? with _ | place
    · rfl
    · rfl
  · rw [if_neg hne, if_neg hne, ← block?]

/-- A block lies before the first free place if it is allocated, and all blocks before it. -/
theorem lt_size_takeWhile_isSome_iff : block < (blocks.takeWhile Option.isSome).size ↔
    ∀ earlier ≤ block, (block? blocks earlier).isSome := by
  rw [← Array.length_toList, Array.toList_takeWhile, List.takeWhile_eq_take_findIdx_not,
    List.length_take, Nat.lt_min, List.lt_findIdx_iff]
  constructor
  · rintro ⟨⟨hblock, hall⟩, -⟩ earlier hearlier
    have hplace := hall earlier hearlier
    rw [Array.getElem_toList, Bool.not_eq_false'] at hplace
    rw [block?_of_lt (Nat.lt_of_le_of_lt hearlier hblock)]
    exact hplace
  · intro hall
    have hblock := lt_size_of_isSome_block? (hall block le_rfl)
    refine ⟨⟨hblock, ?_⟩, hblock⟩
    intro earlier hearlier
    have hplace := hall earlier hearlier
    rw [block?_of_lt (lt_size_of_isSome_block? hplace)] at hplace
    rw [Array.getElem_toList, Bool.not_eq_false']
    exact hplace

end Directory

theorem piece_getElem? {blockSize block offset : Nat} {vs : List α} (h : offset < blockSize) :
    (piece blockSize vs block)[offset]? = vs[block * blockSize + offset]? := by
  simp [piece, h, List.getElem?_drop]

theorem piece_size (blockSize block : Nat) (vs : List α) :
    (piece blockSize vs block).size = min blockSize (vs.length - block * blockSize) := by
  simp [piece]

theorem piece_append_of_lt {blockSize block : Nat} {vs : List α} {a : α}
    (h : (block + 1) * blockSize ≤ vs.length) :
    piece blockSize (vs ++ [a]) block = piece blockSize vs block := by
  have hfull : blockSize ≤ (vs.drop (block * blockSize)).length := by
    rw [List.length_drop]
    rw [Nat.add_mul, Nat.one_mul] at h
    omega
  have hstart : block * blockSize ≤ vs.length := by
    rw [Nat.add_mul, Nat.one_mul] at h
    omega
  rw [piece, piece, List.drop_append_of_le_length hstart, List.take_append_of_le_length hfull]

theorem piece_append_last {blockSize block : Nat} {vs : List α} {a : α}
    (hstart : block * blockSize ≤ vs.length) (hend : vs.length < (block + 1) * blockSize) :
    piece blockSize (vs ++ [a]) block = (piece blockSize vs block).push a := by
  have hroom : (vs.drop (block * blockSize) ++ [a]).length ≤ blockSize := by
    rw [List.length_append, List.length_drop, List.length_singleton]
    rw [Nat.add_mul, Nat.one_mul] at hend
    omega
  have hshort : (vs.drop (block * blockSize)).length ≤ blockSize := by
    rw [List.length_append] at hroom
    omega
  rw [piece, piece, List.drop_append_of_le_length hstart, List.take_of_length_le hroom,
    List.take_of_length_le hshort, List.push_toArray]

theorem filterMap_getElem?_range (vs : List α) :
    (List.range vs.length).filterMap (fun index => vs[index]?) = vs := by
  induction vs with
  | nil => rfl
  | cons v vs ih =>
      rw [List.length_cons, List.range_succ_eq_map, List.filterMap_cons]
      simp only [List.getElem?_cons_zero, List.filterMap_map]
      exact congrArg (v :: ·) ih

theorem holds_empty {blockSize : Nat} (h : isPowerOfTwo blockSize = true) (capacity : Nat) :
    ∃ l : BlockList α, empty blockSize capacity = .ok l ∧ l.Holds blockSize capacity [] := by
  refine ⟨_, if_pos h, ?_⟩
  constructor
  case blockSize_eq_pow => exact isPowerOfTwo_iff.mp h
  case mask_eq => rfl
  case capacity_eq => rfl
  case directory_eq => exact Array.size_replicate
  case size_eq => rfl
  case length_le => exact Nat.zero_le _
  case block?_eq =>
    intro block
    rw [block?, Array.getElem?_replicate, apply_ite (Option.getD · none), List.length_nil,
      if_neg (Nat.not_lt_zero _)]
    exact ite_self none

namespace Holds

variable {l : BlockList α} {blockSize capacity : Nat} {vs : List α}

theorem blockSize_pos (h : l.Holds blockSize capacity vs) : 0 < blockSize := by
  rw [h.blockSize_eq_pow]
  exact Nat.two_pow_pos _

theorem blockSize_eq (h : l.Holds blockSize capacity vs) : l.blockSize = blockSize := by
  have hpos := h.blockSize_pos
  rw [BlockList.blockSize, h.mask_eq]
  omega

theorem slot_eq (h : l.Holds blockSize capacity vs) (index : Nat) :
    l.slot index = (index / blockSize, index % blockSize) := by
  rw [slot, h.mask_eq, h.blockSize_eq_pow, Nat.shiftRight_eq_div_pow,
    Nat.and_two_pow_sub_one_eq_mod]

theorem lt_blockCount_iff (h : l.Holds blockSize capacity vs) (block : Nat) :
    block < l.blockCount ↔ block * blockSize < vs.length := by
  rw [blockCount, lt_size_takeWhile_isSome_iff]
  simp only [h.block?_eq]
  constructor
  · intro hall
    have hblock := hall block le_rfl
    split at hblock
    · assumption
    · cases hblock
  · intro hblock earlier hearlier
    have hstart := Nat.mul_le_mul_right blockSize hearlier
    rw [if_pos (Nat.lt_of_le_of_lt hstart hblock)]
    rfl

theorem blockCount_eq (h : l.Holds blockSize capacity vs) :
    l.blockCount = blocksFor vs.length blockSize :=
  eq_of_forall_lt_iff fun block =>
    (h.lt_blockCount_iff block).trans (lt_blocksFor_iff h.blockSize_pos).symm

theorem blockCount_le_directory (h : l.Holds blockSize capacity vs) :
    l.blockCount ≤ l.directory := by
  rw [h.blockCount_eq, h.directory_eq]
  exact Nat.div_le_div_right (Nat.add_le_add_right h.length_le _)

theorem read?_slot (h : l.Holds blockSize capacity vs) (index : Nat) :
    l.read? (l.slot index) = vs[index]? := by
  have hpos := h.blockSize_pos
  have hsplit : index / blockSize * blockSize + index % blockSize = index := by
    rw [Nat.mul_comm]
    exact Nat.div_add_mod _ _
  rw [h.slot_eq]
  change (block? l.blocks (index / blockSize)).bind (·[index % blockSize]?) = _
  rw [h.block?_eq]
  split
  · rw [Option.bind_some, piece_getElem? (Nat.mod_lt _ hpos), hsplit]
  · rename_i hbeyond
    rw [Option.bind_none, List.getElem?_eq_none]
    omega

theorem get?_eq (h : l.Holds blockSize capacity vs) (index : Nat) : l.get? index = vs[index]? := by
  rw [get?, h.read?_slot, h.size_eq]
  split
  · rfl
  · rename_i hbeyond
    exact (List.getElem?_eq_none (Nat.le_of_not_lt hbeyond)).symm

theorem items_eq (h : l.Holds blockSize capacity vs) : l.items = vs := by
  have hget : l.get? = fun index => vs[index]? := funext h.get?_eq
  rw [items, hget, h.size_eq, filterMap_getElem?_range]

theorem directory_gt (h : l.Holds blockSize capacity vs) (hroom : vs.length < capacity) :
    vs.length / blockSize < l.directory := by
  rw [h.directory_eq, lt_blocksFor_iff h.blockSize_pos]
  exact Nat.lt_of_le_of_lt (Nat.div_mul_le_self _ _) hroom

/-- The block of the next slot is allocated afterwards, with what was written into it before. -/
theorem block?_allocate_next (h : l.Holds blockSize capacity vs) (hroom : vs.length < capacity)
    (block : Nat) :
    block? (allocate l.blocks (vs.length / blockSize)) block =
      if block * blockSize < vs.length ∨ block = vs.length / blockSize then
        some (piece blockSize vs block)
      else none := by
  rw [block?_allocate (h.directory_gt hroom), h.block?_eq, h.block?_eq]
  by_cases hblock : vs.length / blockSize = block
  · subst hblock
    simp only [if_true, or_true]
    split
    · rfl
    · have hempty : piece blockSize vs (vs.length / blockSize) = #[] := by
        rw [← Array.size_eq_zero_iff, piece_size]
        omega
      rw [hempty]
      rfl
  · rw [if_neg hblock]
    simp only [Ne.symm hblock, or_false]

theorem writeSlot_piece (h : l.Holds blockSize capacity vs) (a : α) :
    writeSlot (piece blockSize vs (vs.length / blockSize)) (vs.length % blockSize) a =
      piece blockSize (vs ++ [a]) (vs.length / blockSize) := by
  have hsplit := Nat.div_add_mod vs.length blockSize
  have hmod := Nat.mod_lt vs.length h.blockSize_pos
  rw [Nat.mul_comm] at hsplit
  rw [piece_append_last (by omega) (by rw [Nat.add_mul, Nat.one_mul]; omega), writeSlot, if_neg]
  rw [piece_size]
  omega

theorem block?_written (h : l.Holds blockSize capacity vs) (hroom : vs.length < capacity) (a : α)
    (block : Nat) :
    block? ((allocate l.blocks (vs.length / blockSize)).modify (vs.length / blockSize)
        (Option.map (writeSlot · (vs.length % blockSize) a))) block =
      if block * blockSize < (vs ++ [a]).length then some (piece blockSize (vs ++ [a]) block)
      else none := by
  have hpos := h.blockSize_pos
  have hreach := Nat.div_mul_le_self vs.length blockSize
  rw [block?_modify, h.block?_allocate_next hroom, List.length_append, List.length_singleton]
  rcases Nat.lt_trichotomy block (vs.length / blockSize) with hlt | heq | hgt
  · have hend : (block + 1) * blockSize ≤ vs.length :=
      Nat.le_trans (Nat.mul_le_mul_right _ hlt) hreach
    have hstart : block * blockSize < vs.length := by
      rw [Nat.add_mul, Nat.one_mul] at hend
      omega
    rw [if_neg (Nat.ne_of_gt hlt), if_pos (.inl hstart), if_pos (Nat.lt_succ_of_lt hstart),
      piece_append_of_lt hend]
  · rw [if_pos heq.symm, if_pos (.inr heq), if_pos (by rw [heq]; omega), heq, Option.map_some,
      h.writeSlot_piece]
  · have hbeyond : vs.length < block * blockSize := (Nat.div_lt_iff_lt_mul hpos).mp hgt
    rw [if_neg (Nat.ne_of_lt hgt), if_neg (by omega), if_neg (by omega)]

theorem push_of_lt (h : l.Holds blockSize capacity vs) (hroom : vs.length < capacity) (a : α) :
    ∃ after : BlockList α, l.push a = (.ok vs.length, after) ∧
      after.Holds blockSize capacity (vs ++ [a]) := by
  have hpush : l.push a = (.ok vs.length, { l with
      blocks := (allocate l.blocks (vs.length / blockSize)).modify (vs.length / blockSize)
        (Option.map (writeSlot · (vs.length % blockSize) a))
      size := vs.length + 1 }) := by
    rw [push, h.slot_eq, h.size_eq, h.capacity_eq, if_neg (Nat.not_le.mpr hroom)]
    exact if_neg (Nat.not_le.mpr (h.directory_gt hroom))
  refine ⟨_, hpush, ?_⟩
  constructor
  case blockSize_eq_pow => exact h.blockSize_eq_pow
  case mask_eq => exact h.mask_eq
  case capacity_eq => exact h.capacity_eq
  case directory_eq =>
    rw [directory, Array.size_modify, size_allocate]
    exact h.directory_eq
  case size_eq => rw [List.length_append, List.length_singleton]
  case length_le =>
    rw [List.length_append]
    exact hroom
  case block?_eq => exact h.block?_written hroom a

theorem push_of_ge (h : l.Holds blockSize capacity vs) (hfull : capacity ≤ vs.length) (a : α) :
    l.push a = (.error .storeFull, l) := by
  rw [push, h.size_eq, h.capacity_eq]
  exact if_pos hfull

end Holds

end BlockList

end Interner
