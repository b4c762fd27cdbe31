import Interner.Record

/-!
Configuration of intern tables: how many records a block holds and how many records a table may
hold. A configuration is accepted when blocks have a power-of-two size, every record has a handle,
and a table needs no more blocks than a directory may have.
-/

namespace Interner

/-- Both fields are 64-bit numbers, accepted or not. -/
structure Config where
  blockSize : UInt64 := 1048576
  maxRecords : UInt64 := 2147483646
deriving DecidableEq

/-- The number of blocks of a given size that hold so many items. -/
def blocksFor (items blockSize : Nat) : Nat := (items + (blockSize - 1)) / blockSize

def isPowerOfTwo (n : Nat) : Bool := n == 1 <<< n.log2

namespace Config

/-- The number of blocks that hold all records a table may have. -/
def blocksNeeded (c : Config) : Except Fault Nat :=
  if c.blockSize = 0 then .error .divisionByZero
  else .ok (blocksFor c.maxRecords.toNat c.blockSize.toNat)

/-- Accepts a configuration, or names the first rule that it breaks. -/
def accept (c : Config) : Except ConfigError Unit :=
  let blockSize := c.blockSize.toNat
  let maxRecords := c.maxRecords.toNat
  if blockSize = 0 then .error .zeroBlockSize
  else if !isPowerOfTwo blockSize then .error (.blockSizeNotPowerOfTwo blockSize)
  else if maxRecords = 0 then .error .zeroCapacity
  else if handleRange < maxRecords then .error (.capacityBeyondHandles maxRecords)
  else if blockLimit < blocksFor maxRecords blockSize then
    .error (.tooManyBlocks blockSize (blocksFor maxRecords blockSize) maxRecords)
  else .ok ()

end Config

end Interner
