import Interner.Config

/-!
Append-only lists kept in blocks of equal size. A block is allocated when its first slot is needed,
and an item never moves once it is written. The directory of blocks is sized once, from the capacity.
-/

namespace Interner

/-- A list in blocks. `blocks` is the directory: a place for each block, free until the block is
allocated, which then has the slots that have been written. -/
structure BlockList (α : Type) where
  shift : Nat
  mask : Nat
  capacity : Nat
  blocks : Array (Option (Array α))
  size : Nat

namespace BlockList

variable {α : Type}

def empty (blockSize capacity : Nat) : Except Fault (BlockList α) :=
  if isPowerOfTwo blockSize then
    .ok {
      shift := blockSize.log2
      mask := blockSize - 1
      capacity := capacity
      blocks := Array.replicate (blocksFor capacity blockSize) none
      size := 0 }
  else .error .blockSizeNotPowerOfTwo

def blockSize (l : BlockList α) : Nat := l.mask + 1

def isEmpty (l : BlockList α) : Bool := l.size == 0

def directory (l : BlockList α) : Nat := l.blocks.size

/-- The number of allocated blocks: those before the first free place. -/
def blockCount (l : BlockList α) : Nat := (l.blocks.takeWhile Option.isSome).size

def block? (blocks : Array (Option (Array α))) (block : Nat) : Option (Array α) :=
  (blocks[block]?).getD none

/-- The block of an index and the offset within that block. -/
def slot (l : BlockList α) (index : Nat) : Nat × Nat := (index >>> l.shift, index &&& l.mask)

/-- The bytes that one block takes, if a 64-bit number can tell. -/
def bytesPerBlock (l : BlockList α) (itemBytes : Nat) : Except Fault Nat :=
  if l.blockSize * itemBytes < UInt64.size then .ok (l.blockSize * itemBytes) else .error .productTooLarge

/-- Writes one slot of a block: a written slot is overwritten, the first unwritten one is added. -/
def writeSlot (slots : Array α) (offset : Nat) (a : α) : Array α :=
  if offset < slots.size then slots.setIfInBounds offset a else slots.push a

/-- Allocates the block with the given number unless that has been done. -/
def allocate (blocks : Array (Option (Array α))) (block : Nat) : Array (Option (Array α)) :=
  blocks.modify block fun place => some (place.getD #[])

/-- Appends an item: its index, and the list afterwards. A fault leaves the list as it was. -/
def push (l : BlockList α) (a : α) : Except Fault Nat × BlockList α :=
  let index := l.size
  if l.capacity ≤ index then (.error .storeFull, l)
  else
    let (block, offset) := l.slot index
    if l.directory ≤ block then (.error (.outsideDirectory block l.directory), l)
    else (.ok index, { l with
      blocks := (allocate l.blocks block).modify block (Option.map (writeSlot · offset a))
      size := index + 1 })

/-- What a slot holds, if its block is allocated and the slot written. -/
def read? (l : BlockList α) (slot : Nat × Nat) : Option α := do
  let slots ← block? l.blocks slot.1
  slots[slot.2]?

def get? (l : BlockList α) (index : Nat) : Option α :=
  if index < l.size then l.read? (l.slot index) else none

/-- The item with an index that is trusted to be below the size. -/
def get (l : BlockList α) (index : Nat) : Except Fault α :=
  match l.get? index with
  | some a => .ok a
  | none => .error (.notPublished index)

def items (l : BlockList α) : List α := (List.range l.size).filterMap l.get?

def liveSlots (l : BlockList α) (block : Nat) : Nat :=
  min (l.size - block * l.blockSize) l.blockSize

/-- The slots that are visited when the list is given up, block by block. -/
def releasedSlots (l : BlockList α) : List (Nat × Nat) :=
  (List.range l.blockCount).flatMap fun block =>
    (List.range (l.liveSlots block)).map (block, ·)

/-- The items that are released when the list is given up. -/
def released (l : BlockList α) : List α := l.releasedSlots.filterMap l.read?

end BlockList

end Interner
