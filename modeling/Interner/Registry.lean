import Interner.Inventory

/-!
Registries: one intern table per record type, made when the type is first asked for and kept from
then on. The first request for the whole content is answered by an inventory that is never renewed.
-/

namespace Interner

/-- `tables` are in the order in which they were made. -/
structure Registry where
  config : Config
  tables : List InternTable := []
  snapshot : Option Inventory := none

namespace Registry

/-- A registry without tables, if the configuration is accepted. -/
def create (config : Config) : Except ConfigError Registry := do
  config.accept
  return { config }

/-- A registry with the configuration that is used when nothing else is said. -/
def usual : Registry := { config := {} }

/-- The table filed under the identity of a shape. -/
def find? (g : Registry) (s : Shape) : Option InternTable :=
  g.tables.find? fun t => t.shape.id = s.id

/-- Files a table in the place of the one with the same identity. -/
def store (g : Registry) (t : InternTable) : Registry :=
  { g with tables := g.tables.map fun old => if old.shape.id = t.shape.id then t else old }

/-- The table of a record type, which is made if there is none. -/
def request (g : Registry) (type : RecordType) :
    Except Fault (InternTable × Registry × List Event) :=
  match g.find? type.shape with
  | some t =>
    if t.shape = type.shape then .ok (t, g, []) else .error (.foreignTable type.shape)
  | none => do
    let t ← InternTable.build type g.config
    return (t, { g with tables := g.tables ++ [t] }, [.tableCreated t.shape t.blockSize])

def tableCount (g : Registry) : Nat := g.tables.length

def shapes (g : Registry) : List Shape := Shape.sort (g.tables.map (·.shape))

def tablesInOrder (g : Registry) : List InternTable :=
  g.tables.mergeSort fun a b => a.shape.listedBefore b.shape

def exportAll (v : Inventory) : List InternTable → Except Fault (Inventory × List Event)
  | [] => .ok (v, [])
  | t :: rest => do
    let (v, events) ← t.exportTo v
    let (v, more) ← exportAll v rest
    return (v, events ++ more)

/-- The inventory of the registry, written at the first request. -/
def inventory (g : Registry) : Except Fault (Inventory × Registry × List Event) :=
  match g.snapshot with
  | some v => .ok (v, g, [])
  | none => do
    let (v, events) ← exportAll {} g.tablesInOrder
    return (v, { g with snapshot := some v },
      events ++ [.snapshotTaken g.tableCount v.size])

end Registry

end Interner
