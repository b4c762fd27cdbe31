import Interner.Proofs.BlockContents

namespace Interner

namespace BlockList

variable {α : Type}

/-- The list after items were pushed one after the other, whatever each push met. -/
def pushAll (l : BlockList α) (items : List α) : BlockList α :=
  items.foldl (fun l a => (l.push a).2) l

/-- Those of the items pushed one after the other whose push met no fault. -/
def taken (l : BlockList α) : List α → List α
  | [] => []
  | a :: rest =>
    match l.push a with
    | (.ok _, l) => a :: l.taken rest
    | (.error _, l) => l.taken rest

theorem pushAll_append (l : BlockList α) (items more : List α) :
    l.pushAll (items ++ more) = (l.pushAll items).pushAll more :=
  List.foldl_append

/-- The list is, for all who use it, the list `vs`, which may grow to `capacity` items. -/
structure Refines (l : BlockList α) (blockSize capacity : Nat) (vs : List α) : Prop where
  size_eq : l.size = vs.length
  get?_eq : ∀ index, l.get? index = vs[index]?
  read?_slot : ∀ index, l.read? (l.slot index) = vs[index]?
  items_eq : l.items = vs
  push_of_lt : vs.length < capacity → ∀ a, (l.push a).1 = .ok vs.length ∧
    (l.push a).2.items = vs ++ [a]
  push_of_ge : capacity ≤ vs.length → ∀ a, l.push a = (.error .storeFull, l)
  blockCount_eq : l.blockCount = blocksFor vs.length blockSize
  blockCount_push : ∀ a, (l.push a).2.blockCount = l.blockCount +
    if vs.length < capacity ∧ blockSize ∣ vs.length then 1 else 0
  lt_directory : ∀ a index, (l.push a).1 = .ok index → (l.slot index).1 < l.directory
  slot_eq : ∀ index, l.slot index = (index / blockSize, index % blockSize)
  slot_injective : ∀ i j, l.slot i = l.slot j → i = j

namespace Holds

variable {l : BlockList α} {blockSize capacity : Nat} {vs : List α}

theorem slot_injective (h : l.Holds blockSize capacity vs) {i j : Nat}
    (heq : l.slot i = l.slot j) : i = j := by
  rw [h.slot_eq, h.slot_eq, Prod.mk.injEq] at heq
  rw [← Nat.div_add_mod i blockSize, heq.1, heq.2, Nat.div_add_mod]

theorem refines (h : l.Holds blockSize capacity vs) : l.Refines blockSize capacity vs := by
  constructor
  case size_eq => exact h.size_eq
  case get?_eq => exact h.get?_eq
  case read?_slot => exact h.read?_slot
  case items_eq => exact h.items_eq
  case push_of_lt =>
    intro hroom a
    obtain ⟨after, hpush, hafter⟩ := h.push_of_lt hroom a
    rw [hpush]
    exact ⟨rfl, hafter.items_eq⟩
  case push_of_ge => exact h.push_of_ge
  case blockCount_eq => exact h.blockCount_eq
  case blockCount_push =>
    intro a
    rcases Nat.lt_or_ge vs.length capacity with hroom | hfull
    · obtain ⟨after, hpush, hafter⟩ := h.push_of_lt hroom a
      rw [hpush, hafter.blockCount_eq, h.blockCount_eq, List.length_append, List.length_singleton,
        blocksFor_succ h.blockSize_pos]
      simp only [hroom, true_and, Nat.dvd_iff_mod_eq_zero]
    · rw [h.push_of_ge hfull, if_neg (fun hroom => Nat.not_lt.mpr hfull hroom.1), Nat.add_zero]
  case lt_directory =>
    intro a index hindex
    rcases Nat.lt_or_ge vs.length capacity with hroom | hfull
    · obtain ⟨after, hpush, -⟩ := h.push_of_lt hroom a
      rw [hpush] at hindex
      cases hindex
      rw [h.slot_eq]
      exact h.directory_gt hroom
    · rw [h.push_of_ge hfull] at hindex
      cases hindex
  case slot_eq => exact h.slot_eq
  case slot_injective => exact fun i j => h.slot_injective

theorem pushAll (h : l.Holds blockSize capacity vs) (items : List α) :
    (l.pushAll items).Holds blockSize capacity (vs ++ l.taken items) := by
  induction items generalizing l vs with
  | nil =>
      rw [taken, List.append_nil]
      exact h
  | cons a rest ih =>
      rw [BlockList.pushAll, List.foldl_cons, ← BlockList.pushAll, taken]
      rcases Nat.lt_or_ge vs.length capacity with hroom | hfull
      · obtain ⟨after, hpush, hafter⟩ := h.push_of_lt hroom a
        rw [hpush, List.append_cons]
        exact ih hafter
      · rw [h.push_of_ge hfull]
        exact ih h

/-- A push is turned away only when the list is full, and then all later ones are. -/
theorem taken_eq_take (h : l.Holds blockSize capacity vs) (items : List α) :
    l.taken items = items.take (capacity - vs.length) := by
  induction items generalizing l vs with
  | nil => rw [taken, List.take_nil]
  | cons a rest ih =>
      rw [taken]
      rcases Nat.lt_or_ge vs.length capacity with hroom | hfull
      · obtain ⟨after, hpush, hafter⟩ := h.push_of_lt hroom a
        have hleft : capacity - vs.length = capacity - (vs ++ [a]).length + 1 := by
          rw [List.length_append, List.length_singleton]
          omega
        rw [hpush, hleft, List.take_succ_cons]
        exact congrArg (a :: ·) (ih hafter)
      · rw [h.push_of_ge hfull, Nat.sub_eq_zero_of_le hfull, List.take_zero]
        have hrest := ih h
        rwa [Nat.sub_eq_zero_of_le hfull, List.take_zero] at hrest

end Holds

/-- Made with a power of two as the size of its blocks, a block list refines a list of at most
`capacity` items, and no push moves an item that was taken before. -/
theorem block_list_refines_bounded_list (α : Type) (k capacity : Nat) :
    ∃ start : BlockList α, empty (2 ^ k) capacity = .ok start ∧
      (∀ pushes : List α,
        let l := start.pushAll pushes
        let vs := start.taken pushes
        vs = pushes.take capacity ∧ l.Refines (2 ^ k) capacity vs ∧
          ∀ (more : List α) (index : Nat), index < vs.length →
            let later := start.pushAll (pushes ++ more)
            later.slot index = l.slot index ∧
              later.read? (l.slot index) = l.read? (l.slot index)) ∧
      Fault.message .storeFull = "block store is full" := by
  have hpower : isPowerOfTwo (2 ^ k) = true := by
    rw [isPowerOfTwo_iff, Nat.log2_two_pow]
  obtain ⟨start, hempty, hstart⟩ := holds_empty (α := α) hpower capacity
  refine ⟨start, hempty, ?_, rfl⟩
  intro pushes l vs
  have hl : l.Holds (2 ^ k) capacity vs := hstart.pushAll pushes
  refine ⟨hstart.taken_eq_take pushes, hl.refines, ?_⟩
  intro more index hindex later
  have hlater : later.Holds (2 ^ k) capacity (vs ++ l.taken more) := by
    have hafter := hl.pushAll more
    rwa [← pushAll_append] at hafter
  have hslot : later.slot index = l.slot index := by
    rw [hlater.slot_eq, hl.slot_eq]
  refine ⟨hslot, ?_⟩
  rw [← hslot, hlater.read?_slot, hslot, hl.read?_slot, List.getElem?_append_left hindex]

theorem fourth_item_turned_away :
    ∃ start : BlockList Nat, empty 2 3 = .ok start ∧
      let l := start.pushAll [10, 20, 30, 40]
      start.taken [10, 20, 30, 40] = [10, 20, 30] ∧ l.items = [10, 20, 30] ∧
        l.blockCount = 2 ∧ l.push 50 = (.error .storeFull, l) := by
  obtain ⟨start, hempty, hall, -⟩ := block_list_refines_bounded_list Nat 1 3
  obtain ⟨htaken, hrefines, -⟩ := hall [10, 20, 30, 40]
  rw [htaken] at hrefines
  exact ⟨start, hempty, htaken, hrefines.items_eq, hrefines.blockCount_eq,
    hrefines.push_of_ge le_rfl 50⟩

end BlockList

end Interner
