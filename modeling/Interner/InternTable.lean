import Interner.BlockList
import Interner.Event
import Interner.Memory.Growth
import Std.Data.HashMap

/-!
Intern tables: one handle for each distinct record of one type. Handles count from one in the order
of first occurrence. The index leads from records to handles, the block list back from handles to
records. A type without fields whose record can be built needs no table: its record has handle one.
-/

namespace Interner

open Memory

/-- An intern table. Handle `h` and record `r` belong together when the index leads from `r` to `h` and
slot `h - 1` holds `r`. A table with a `unit` record leaves index and slots empty. -/
structure InternTable where
  shape : Shape
  unit : Option Record
  reserve : Reserve
  index : Std.HashMap Record Handle
  records : BlockList Record

namespace InternTable

def build (type : RecordType) (config : Config) : Except Fault InternTable := do
  let unit := type.unit?
  let capacity := if unit.isSome then 0 else config.maxRecords.toNat
  let records ← BlockList.empty config.blockSize.toNat capacity
  return { shape := type.shape, unit, reserve := type.reserve, index := ∅, records }

/-- A table without records, if the configuration is accepted. -/
def create (type : RecordType) (config : Config) : Except Fault InternTable :=
  match config.accept with
  | .error cause => .error (.fatal (.config cause))
  | .ok () => build type config

def blockSize (t : InternTable) : Nat := t.records.blockSize

/-- The number of handles issued. Exactly the handles from one up to this number are valid. -/
def size (t : InternTable) : Nat := if t.unit.isSome then 1 else t.records.size

def isEmpty (t : InternTable) : Bool := t.size == 0

def recordBytes (t : InternTable) : Nat := 4 * t.shape.arity

/-- The bytes of one entry of the index: a record and its handle. -/
def entryBytes (t : InternTable) : Nat := 4 * t.shape.arity + 4

/-- What a new record asked of memory: the record block that it started, if it started one, and the
entries by which the index grew. -/
structure Growth where
  block : Option Nat := none
  entries : Nat := 0
deriving DecidableEq

/-- What an insertion finds: the handle of the record, and what the table grew by. -/
structure Insertion where
  handle : Handle
  growth : Growth := {}
deriving DecidableEq

def insertNew (t : InternTable) (r : Record) : Except Fault Insertion × InternTable :=
  match t with
  | { shape, unit, reserve, index, records } =>
    let issued := records.size
    let handle := Handle.ofIndex issued
    if records.capacity ≤ issued then
      (.error (.fatal (.exhausted shape.name records.capacity)), { shape, unit, reserve, index, records })
    else if handle = Int32.maxValue then
      (.error .reservedHandle, { shape, unit, reserve, index, records })
    else
      let room := reserve.room index.size
      match records.push r with
      | (.error fault, records) => (.error fault, { shape, unit, reserve, index, records })
      | (.ok slot, records) =>
        if slot ≠ issued then (.error (.unequal slot issued), { shape, unit, reserve, index, records })
        else
          let index := index.insert r handle
          let block := if slot % records.blockSize = 0 then some (slot / records.blockSize) else none
          (.ok { handle, growth := { block, entries := reserve.room index.size - room } },
            { shape, unit, reserve, index, records })

/-- The handle of a record, which is inserted if it is new, and the table afterwards. -/
def insert (t : InternTable) (r : Record) : Except Fault Insertion × InternTable :=
  if t.unit.isSome then (.ok { handle := Handle.unit }, t)
  else
    match t.index[r]? with
    | some handle => (.ok { handle }, t)
    | none => t.insertNew r

/-- The memory that a growth takes. -/
def charges (t : InternTable) (g : Growth) : List Charge :=
  (match g.block with
    | some _ => [⟨.blocks, t.blockSize, t.blockSize * t.recordBytes⟩]
    | none => []) ++
  (if g.entries = 0 then [] else [⟨.index, g.entries, g.entries * t.entryBytes⟩])

def events (t : InternTable) (g : Growth) : List Event :=
  match g.block with
  | some block => [.blockAllocated t.shape block t.blockSize]
  | none => []

/-- The memory that is given back when the table is given up. -/
def holdings (t : InternTable) : List Charge :=
  let blocks := t.records.blockCount
  let entries := t.reserve.room t.index.size
  (if blocks = 0 then []
    else [⟨.blocks, blocks * t.blockSize, blocks * (t.blockSize * t.recordBytes)⟩]) ++
  (if entries = 0 then [] else [⟨.index, entries, entries * t.entryBytes⟩])

def get? (t : InternTable) (h : Handle) : Option Record :=
  match t.unit with
  | some unit => if h = Handle.unit then some unit else none
  | none => h.index?.bind t.records.get?

/-- The record with the given handle, or an error that names the handle. -/
def lookup (t : InternTable) (h : Handle) : Except RecordError Record :=
  match t.get? h with
  | some r => .ok r
  | none => .error (.invalidHandle t.shape.name h t.size)

/-- The record with the given handle, which must be valid. A type with one record has it under
every handle. -/
def resolve (t : InternTable) (h : Handle) : Except Fault Record :=
  match t.unit with
  | some unit => .ok unit
  | none => (t.lookup h).mapError .fatal

/-- The record with a handle that is trusted to have been issued. -/
def resolveTrusted (t : InternTable) (h : Handle) : Except Fault Record :=
  match t.unit with
  | some unit => .ok unit
  | none =>
    match h.index? with
    | some index => t.records.get index
    | none => .error (.untrustedHandle h)

def entries (t : InternTable) : List (Handle × Record) :=
  (t.unit.toList.map (Handle.unit, ·)) ++
    t.records.items.zipIdx.map fun (r, i) => (Handle.ofIndex i, r)

end InternTable

end Interner
