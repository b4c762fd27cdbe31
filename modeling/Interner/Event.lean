import Interner.Record

/-!
Events: what the library reports about its own doings, and the line that each is written as.
-/

namespace Interner

inductive Level where
  | error | warn | info | debug | trace
deriving DecidableEq

namespace Level

def name : Level → String
  | error => "ERROR"
  | warn => "WARN"
  | info => "INFO"
  | debug => "DEBUG"
  | trace => "TRACE"

/-- Levels by verbosity: the more verbose a level, the larger its rank. -/
def rank : Level → Nat
  | error => 1
  | warn => 2
  | info => 3
  | debug => 4
  | trace => 5

end Level

inductive Event where
  | tableCreated (shape : Shape) (blockSize : Nat)
  | blockAllocated (shape : Shape) (block slots : Nat)
  /-- A registry with so many tables wrote its inventory of so many records. -/
  | snapshotTaken (tables records : Nat)
  /-- An inventory was given other fields for a handle it already has. -/
  | exportedTwice (shape : Shape) (handle : Handle)
  | configRejected (reason : String)
deriving DecidableEq

namespace Event

def level : Event → Level
  | tableCreated .. | blockAllocated .. => .debug
  | snapshotTaken .. => .info
  | exportedTwice .. | configRejected .. => .warn

/-- The part of the library that speaks. Filters select events by the beginning of this name. -/
def target : Event → String
  | tableCreated .. | snapshotTaken .. | configRejected .. => "records_concurrent::registry"
  | blockAllocated .. => "records_concurrent::record_map"
  | exportedTwice .. => "records_core::record_table"

/-- The names under which an event tells its particulars. -/
def fieldNames : Event → List String
  | tableCreated .. => ["message", "shape", "block_size"]
  | blockAllocated .. => ["message", "shape", "block", "slots"]
  | snapshotTaken .. => ["message", "shapes", "records"]
  | exportedTwice .. => ["message", "shape", "handle"]
  | configRejected .. => ["message"]

def message : Event → String
  | tableCreated shape blockSize =>
      "created record map shape=" ++ shape.display ++ s!" block_size={blockSize}"
  | blockAllocated shape block slots =>
      "allocated record block shape=" ++ shape.display ++ s!" block={block} slots={slots}"
  | snapshotTaken tables records =>
      s!"record table snapshot taken shapes={tables} records={records}"
  | exportedTwice shape handle =>
      "record handle exported twice; keeping first shape=" ++ shape.display ++ s!" handle={handle}"
  | configRejected reason => "invalid record configuration, using defaults: " ++ reason

/-- The line an event is written as. -/
def line (e : Event) : String := e.level.name ++ " " ++ e.target ++ ": " ++ e.message

end Event

end Interner
