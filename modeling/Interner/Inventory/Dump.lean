import Interner.Inventory
import Interner.Json.Printer

namespace Interner.Inventory

open Json

def fieldsValue (fields : Record) : Value := .array (fields.map fun field => .ofInt field.toInt)

/-- The records of a shape, each named by the decimal text of its handle. -/
def listingValue (listing : Listing) : Value :=
  .object (listing.toList.map fun (h, fields) =>
    (Number.signedDigits h.toInt, fieldsValue fields))

def toValue (v : Inventory) : Value :=
  .object (v.shapes.toList.map fun (s, listing) =>
    (escape s.display.toList, listingValue listing))

/-- The dump as indented JSON text. -/
def dump (v : Inventory) : String := String.ofList (v.toValue.pretty 0)

end Interner.Inventory
