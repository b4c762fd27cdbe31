import Interner.Session.Answer

namespace Interner.Session

inductive ItemKind where
  | signed
  | byte
  | text
  | unit
  /-- Items that count how many of them are released. -/
  | counted
deriving DecidableEq

namespace ItemKind

def bytes : ItemKind → Nat
  | signed => 8
  | byte => 1
  | text => 24
  | unit => 0
  | counted => 16

end ItemKind

structure Store where
  kind : ItemKind
  list : BlockList Item
  /-- The items that met a fault when they were pushed. Each was released at once. -/
  turnedAway : Nat := 0

namespace Store

def create (kind : ItemKind) (blockSize capacity : Nat) : Except Fault Store := do
  return { kind, list := ← BlockList.empty blockSize capacity }

def push (s : Store) (item : Item) : Except Fault Nat × Store :=
  match s.list.push item with
  | (.ok index, list) => (.ok index, { s with list })
  | (.error fault, list) => (.error fault, { s with list, turnedAway := s.turnedAway + 1 })

/-- Pushes items until one is turned away; the items before it stay. -/
def pushMany (s : Store) : List Item → Except Fault (List Nat) × Store
  | [] => (.ok [], s)
  | item :: rest =>
    match s.push item with
    | (.error fault, s) => (.error fault, s)
    | (.ok index, s) =>
      let (answer, s) := s.pushMany rest
      (answer.map (index :: ·), s)

/-- How many counted items are released in all when the store is given up. -/
def releases (s : Store) : Nat :=
  if s.kind = .counted then s.list.released.length + s.turnedAway else 0

/-- Whether an index was filled before and is in the same slot, with the same item, afterwards. -/
def keeps (before after : Store) (index : Nat) : Bool :=
  match before.list.get? index with
  | none => false
  | some item =>
    before.list.slot index == after.list.slot index && after.list.get? index == some item

end Store

inductive StoreStep where
  | push (item : Item)
  | pushMany (items : List Item)
  | get (index : Nat)
  | all
  | size
  | isEmpty
  | blockSize
  | capacity
  | blockCount
  | bytesPerBlock
  /-- Pushes items and tells whether an index keeps its slot. -/
  | keepsSlot (index : Nat) (items : List Item)

namespace StoreStep

def perform (s : Store) : StoreStep → Reply × Store
  | push item =>
    let (answer, s) := s.push item
    (Reply.ofStopped .count answer, s)
  | pushMany items =>
    let (answer, s) := s.pushMany items
    (Reply.ofStopped .indices answer, s)
  | get index => (.ok (.item (s.list.get? index)), s)
  | all => (.ok (.items s.list.items), s)
  | size => (.ok (.count s.list.size), s)
  | isEmpty => (.ok (.flag s.list.isEmpty), s)
  | blockSize => (.ok (.count s.list.blockSize), s)
  | capacity => (.ok (.count s.list.capacity), s)
  | blockCount => (.ok (.count s.list.blockCount), s)
  | bytesPerBlock => (Reply.ofStopped .count (s.list.bytesPerBlock s.kind.bytes), s)
  | keepsSlot index items =>
    let (answer, after) := s.pushMany items
    (Reply.ofStopped (fun _ => .flag (s.keeps after index)) answer, after)

end StoreStep

end Interner.Session
