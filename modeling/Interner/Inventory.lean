import Interner.InternTable

/-!
Inventories: which records exist, by shape and handle. An inventory lists shapes in their order and
handles in increasing order, and the first fields given for a handle stay.
-/

namespace Interner

/-- The records of one shape by handle. -/
abbrev Listing := Std.ExtTreeMap Handle Record

/-- A shape has a listing from the first record that is entered under it. -/
structure Inventory where
  shapes : Std.ExtTreeMap Shape Listing := ∅

namespace Inventory

/-- The records of a shape, if the shape has been named. -/
def records? (v : Inventory) (s : Shape) : Option Listing := v.shapes[s]?

def get? (v : Inventory) (s : Shape) (h : Handle) : Option Record :=
  (v.records? s).bind (·[h]?)

/-- Enters the fields of a handle unless the handle has fields already; other fields than those are
reported. The fields must be as many as the shape says. -/
def add (v : Inventory) (s : Shape) (h : Handle) (fields : Record) :
    Except Fault (Inventory × List Event) :=
  if s.arity = fields.length then
    let listing := (v.records? s).getD ∅
    let events := match listing[h]? with
      | some present => if present = fields then [] else [.exportedTwice s h]
      | none => []
    .ok ({ v with shapes := v.shapes.insert s (listing.insertIfNew h fields) }, events)
  else .error (.unequal s.arity fields.length)

def addAll (v : Inventory) (s : Shape) (entries : List (Handle × Record)) :
    Except Fault (Inventory × List Event) :=
  entries.foldlM (fun (v, events) (h, fields) =>
    (v.add s h fields).map fun (v, more) => (v, events ++ more)) (v, [])

def size (v : Inventory) : Nat :=
  v.shapes.toList.foldr (fun (_, listing) records => listing.size + records) 0

def isEmpty (v : Inventory) : Bool := v.size == 0

def listedShapes (v : Inventory) : List Shape := v.shapes.keys

/-- Every record, by shape and then by handle. -/
def rows (v : Inventory) : List (Shape × Handle × Record) :=
  v.shapes.toList.flatMap fun (s, listing) => listing.toList.map fun (h, fields) => (s, h, fields)

end Inventory

namespace InternTable

/-- Enters every record of the table into an inventory. -/
def exportTo (t : InternTable) (v : Inventory) : Except Fault (Inventory × List Event) :=
  v.addAll t.shape t.entries

/-- The fields of every handle. -/
def listing (t : InternTable) : Listing := Std.ExtTreeMap.ofList t.entries

end InternTable

end Interner
