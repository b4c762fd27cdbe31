/-!
Memory accounts: per category, how many items and bytes are in use. Counters are 64-bit and stop at
either end of their range instead of wrapping.
-/

namespace Interner.Memory

inductive Category where
  /-- Blocks of stored records; items are reserved slots. -/
  | blocks
  /-- The index from records to handles; items are reserved entries. -/
  | index
deriving DecidableEq

namespace Category

def name : Category → String
  | blocks => "RecordBlocks"
  | index => "ForwardMap"

def all : List Category := [blocks, index]

end Category

/-- The largest value of a counter. -/
def counterMax : Nat := 18446744073709551615

/-- A size as a counter value; sizes beyond the range count as the largest. -/
def counter (n : Nat) : UInt64 := UInt64.ofNat (min n counterMax)

/-- The sum, or the largest counter if the sum is beyond it. -/
def saturatingAdd (a b : UInt64) : UInt64 := counter (a.toNat + b.toNat)

/-- The difference, or zero if it would be negative. -/
def saturatingSub (a b : UInt64) : UInt64 := UInt64.ofNat (a.toNat - b.toNat)

structure Usage where
  items : UInt64 := 0
  bytes : UInt64 := 0
deriving DecidableEq

namespace Usage

def add (u : Usage) (items bytes : UInt64) : Usage :=
  ⟨saturatingAdd u.items items, saturatingAdd u.bytes bytes⟩

def remove (u : Usage) (items bytes : UInt64) : Usage :=
  ⟨saturatingSub u.items items, saturatingSub u.bytes bytes⟩

end Usage

/-- The accounts of both categories. A category that was never touched has none. -/
structure Account where
  blocks : Option Usage := none
  index : Option Usage := none
deriving DecidableEq

namespace Account

def get? (a : Account) : Category → Option Usage
  | .blocks => a.blocks
  | .index => a.index

/-- The use of a category, nothing if it was never touched. -/
def usage (a : Account) (c : Category) : Usage := (a.get? c).getD {}

def set (a : Account) (c : Category) (u : Usage) : Account :=
  match c with
  | .blocks => { a with blocks := some u }
  | .index => { a with index := some u }

def add (a : Account) (c : Category) (items bytes : UInt64) : Account :=
  a.set c ((a.usage c).add items bytes)

def remove (a : Account) (c : Category) (items bytes : UInt64) : Account :=
  a.set c ((a.usage c).remove items bytes)

/-- The categories touched so far with their use. -/
def touched (a : Account) : List (Category × Usage) :=
  Category.all.filterMap fun c => (a.get? c).map (c, ·)

end Account

end Interner.Memory
