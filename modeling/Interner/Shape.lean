import Std.Data.ExtTreeMap

/-!
Record shapes: how a record type is named, how many fields its records have, and the order in which
shapes are listed.
-/

namespace Interner

/-- A record type as others see it. The identity `id` tells two types apart even when name and
arity agree. -/
structure Shape where
  id : Nat
  name : String
  arity : Nat
deriving DecidableEq

namespace Shape

/-- Shapes are listed by arity, then by name; identity breaks the ties that are left. -/
instance : Ord Shape :=
  ⟨compareLex (compareOn Shape.arity) (compareLex (compareOn Shape.name) (compareOn Shape.id))⟩

instance : Std.TransOrd Shape :=
  inferInstanceAs (Std.TransCmp
    (compareLex (compareOn Shape.arity) (compareLex (compareOn Shape.name) (compareOn Shape.id))))

/-- The parts of the comparison one after the other. -/
theorem compare_eq (a b : Shape) :
    compare a b = ((compare a.arity b.arity).then
      ((compare a.name b.name).then (compare a.id b.id))) := rfl

instance : Std.LawfulEqOrd Shape where
  compare_self {a} := by simp
  eq_of_compare {a b} h := by
    rw [compare_eq, Ordering.then_eq_eq, Ordering.then_eq_eq] at h
    obtain ⟨harity, hname, hid⟩ := h
    cases a
    cases b
    simp_all

/-- Whether `a` may stand before `b` in a listing. -/
def listedBefore (a b : Shape) : Bool := compare a b != .gt

/-- Shapes in listing order; a shape that occurs twice is listed twice. -/
def sort (shapes : List Shape) : List Shape := shapes.mergeSort listedBefore

/-- The text by which a shape is shown: its name and its arity. -/
def display (s : Shape) : String := s.name ++ "/" ++ Nat.repr s.arity

end Shape

end Interner
