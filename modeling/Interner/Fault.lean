import Interner.Shape
import Interner.Text.Quoted
import Interner.Text.Slice

/-!
Everything that can go wrong, as causes. A `RecordError` is handed back to the caller; a `Fault`
ends the operation that met it, which then leaves no trace.
-/

namespace Interner

inductive ConfigError where
  | zeroBlockSize
  | blockSizeNotPowerOfTwo (blockSize : Nat)
  | zeroCapacity
  | capacityBeyondHandles (maxRecords : Nat)
  | tooManyBlocks (blockSize blocks maxRecords : Nat)
  /-- A record type that cannot be rebuilt from fields gives its own reason. -/
  | refused (reason : String)
deriving DecidableEq

/-- The last handle is kept back, so that the number of handles itself is a handle. -/
def handleRange : Nat := 2147483646

/-- The most blocks that one table may have room for. -/
def blockLimit : Nat := 65536

def ConfigError.message : ConfigError → String
  | zeroBlockSize => "Block size must be greater than 0"
  | blockSizeNotPowerOfTwo b => s!"Block size must be a power of two, got {b}"
  | zeroCapacity => "Record capacity must be greater than 0"
  | capacityBeyondHandles m =>
      s!"Record capacity {m} exceeds the handle range ({handleRange})"
  | tooManyBlocks b k m =>
      s!"Block size {b} needs {k} blocks for {m} records (limit {blockLimit}); " ++
        "raise block_size or lower max_records"
  | refused reason => reason

inductive RecordError where
  | invalidHandle (shapeName : String) (handle : Int32) (issued : Nat)
  | arityMismatch (expected found : Nat)
  | exhausted (shapeName : String) (capacity : Nat)
  | config (cause : ConfigError)
deriving DecidableEq

def RecordError.message : RecordError → String
  | invalidHandle name h issued => s!"Invalid handle {h} for shape {name}: {issued} record(s) issued"
  | arityMismatch expected found => s!"Arity mismatch: expected {expected} field(s), found {found}"
  | exhausted name capacity =>
      s!"Handle space exhausted for shape {name}: capacity is {capacity} record(s)"
  | config cause => "Configuration error: " ++ cause.message

/-- A broken promise: the operation stops where it stands. -/
inductive Fault where
  /-- A record error that the operation does not report but dies of. -/
  | fatal (error : RecordError)
  | blockSizeNotPowerOfTwo
  | storeFull
  | outsideDirectory (block directory : Nat)
  | notPublished (index : Nat)
  /-- A trusted handle is null or negative. -/
  | untrustedHandle (handle : Int32)
  /-- The handle that is kept back would be issued. -/
  | reservedHandle
  /-- Two counts that have to agree differ. -/
  | unequal (left right : Nat)
  | divisionByZero
  | productTooLarge
  /-- The table filed under a type's identity belongs to another type. -/
  | foreignTable (shape : Shape)
  | tornCharacter (torn : Text.TornCharacter)
deriving DecidableEq

def Fault.message : Fault → String
  | fatal error => error.message
  | blockSizeNotPowerOfTwo => "block size must be a power of two"
  | storeFull => "block store is full"
  | outsideDirectory block directory =>
      s!"index out of bounds: the len is {directory} but the index is {block}"
  | notPublished index => s!"index {index} not published"
  | untrustedHandle h => s!"null or negative handle {h}"
  | reservedHandle => "assertion `left != right` failed\n  left: 2147483647\n right: 2147483647"
  | unequal left right => s!"assertion `left == right` failed\n  left: {left}\n right: {right}"
  | divisionByZero => "attempt to divide by zero"
  | productTooLarge => "attempt to multiply with overflow"
  | foreignTable shape =>
      "internal error: entered unreachable code: shape " ++ shape.display ++
        " registered with a foreign table"
  | tornCharacter torn =>
      (match torn.edge with
        | .start => "start"
        | .finish => "end") ++
        s!" byte index {torn.place} is not a char boundary; it is inside " ++
        String.ofList (Text.quotedChar torn.character) ++
        s!" (bytes {torn.start}..{torn.start + torn.character.utf8Size} of string)"

end Interner
