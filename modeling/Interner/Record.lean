import Interner.Fault
import Interner.Memory.Growth

/-!
Records and record types. A record is its fields in order; two records of one type are equal exactly
when their fields are.
-/

namespace Interner

/-- The fields of a record, in order. A field that refers to another record holds its handle. -/
abbrev Record := List Int32

/-- A handle stands for an interned record of one type. -/
abbrev Handle := Int32

namespace Handle

/-- The handle that stands for no record. No table ever issues it. -/
def null : Handle := 0

def isNull (h : Handle) : Bool := h == null

/-- The handle of the one record that a type without fields can have. -/
def unit : Handle := 1

/-- The handle of the slot with the given index: slots count from zero, handles from one. -/
def ofIndex (index : Nat) : Handle := Int32.ofNat (index + 1)

/-- The slot behind a handle, if the handle is positive. -/
def index? (h : Handle) : Option Nat := if h ≤ 0 then none else some (h.toInt.toNat - 1)

end Handle

def Shape.record (s : Shape) (fields : List Int32) : Except RecordError Record :=
  if fields.length = s.arity then .ok fields else .error (.arityMismatch s.arity fields.length)

/-- A record type. A type may refuse to have its records rebuilt from fields, whatever the fields
are; it then gives its reason. `reserve` is the room that an index of its records keeps. -/
structure RecordType where
  shape : Shape
  refusal : Option String := none
  reserve : Memory.Reserve := .doubling
deriving DecidableEq

namespace RecordType

def rebuild (type : RecordType) (fields : List Int32) : Except RecordError Record :=
  match type.refusal with
  | some reason => .error (.config (.refused reason))
  | none => type.shape.record fields

/-- The only record of a type without fields, if that record can be built. -/
def unit? (type : RecordType) : Option Record :=
  if type.shape.arity = 0 then (type.rebuild []).toOption else none

end RecordType

end Interner
