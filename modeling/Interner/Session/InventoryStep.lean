import Interner.Inventory.Dump
import Interner.Session.Answer

namespace Interner.Session

inductive InventoryQuery where
  | get (s : Shape) (h : Handle)
  | records (s : Shape)
  | size
  | isEmpty
  | shapes
  | rows
  | dump

namespace InventoryQuery

def answer (v : Inventory) : InventoryQuery → Answer
  | get s h => .recordIfAny (v.get? s h)
  | records s => .entriesIfAny ((v.records? s).map fun listing => listing.toList)
  | size => .count v.size
  | isEmpty => .flag v.isEmpty
  | shapes => .shapes v.listedShapes
  | rows => .rows v.rows
  | dump => .text v.dump

end InventoryQuery

end Interner.Session
