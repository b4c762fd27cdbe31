import Interner.Config
import Interner.Json.Reader
import Interner.Json.Printer
import Interner.Memory.Account

/-!
Configurations, uses of memory and categories as JSON. An object gives fields by name in any order, at most
once each; an array gives them by position. Members with other names say nothing, but their names
must mean something.
-/

namespace Interner

namespace Json

def namedMembers? (members : List (List Char × Value)) : Option (List (String × Value)) :=
  members.mapM fun (raw, value) => (unescape? raw).map fun name => (String.ofList name, value)

/-- The value of a field that may be missing: the inner `none` says that it is. -/
def field? (members : List (String × Value)) (name : String) : Option (Option UInt64) :=
  match members.filter (·.1 = name) with
  | [] => some none
  | [(_, value)] => value.counter?.map some
  | _ => none

end Json

open Json

namespace Config

def toJson (c : Config) : String :=
  String.ofList (Value.compact (.object
    [("block_size".toList, .ofNat c.blockSize.toNat), ("max_records".toList, .ofNat c.maxRecords.toNat)]))

/-- The configuration that a value describes; a field that is missing has its default. -/
def ofValue? : Value → Option Config
  | .object members => do
    let members ← namedMembers? members
    let blockSize ← field? members "block_size"
    let maxRecords ← field? members "max_records"
    let default : Config := {}
    return ⟨blockSize.getD default.blockSize, maxRecords.getD default.maxRecords⟩
  | .array [] => some {}
  | .array [b] => do return { blockSize := ← b.counter? }
  | .array [b, m] => do return ⟨← b.counter?, ← m.counter?⟩
  | _ => none

/-- The configuration that a text describes, accepted or not. -/
def ofJson? (text : String) : Option Config := (parse? text.toList).bind ofValue?

end Config

namespace Memory

namespace Usage

def toJson (u : Usage) : String :=
  String.ofList (Value.compact (.object
    [("items".toList, .ofNat u.items.toNat), ("bytes".toList, .ofNat u.bytes.toNat)]))

/-- The use of memory that a value describes; no field may be missing. -/
def ofValue? : Value → Option Usage
  | .object members => do
    let members ← namedMembers? members
    let items ← field? members "items"
    let bytes ← field? members "bytes"
    return ⟨← items, ← bytes⟩
  | .array [items, bytes] => do return ⟨← items.counter?, ← bytes.counter?⟩
  | _ => none

def ofJson? (text : String) : Option Usage := (parse? text.toList).bind ofValue?

end Usage

namespace Category

def ofName? (name : String) : Option Category := all.find? (·.name == name)

def toJson (c : Category) : String := String.ofList (Value.compact (.ofText c.name))

/-- A category is a string, or an object whose only member has its name and no value. -/
def ofValue? : Value → Option Category
  | .string raw => do ofName? (String.ofList (← unescape? raw))
  | .object [(raw, .null)] => do ofName? (String.ofList (← unescape? raw))
  | _ => none

def ofJson? (text : String) : Option Category := (parse? text.toList).bind ofValue?

end Category

end Memory

namespace Shape

/-- A shape as JSON, without its identity. -/
def toJson (s : Shape) : String :=
  String.ofList (Value.compact (.object
    [("name".toList, .ofText s.name), ("arity".toList, .ofNat s.arity)]))

end Shape

end Interner
