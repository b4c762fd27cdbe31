import Interner.Proofs.ByteOrder
import Interner.Shape
import Mathlib.Order.Compare

namespace Interner.Shape

theorem listedBefore_iff (a b : Shape) : a.listedBefore b ↔ (compare a b).isLE := by
  rw [listedBefore]
  cases compare a b with
  | _ => decide

theorem le_of_listedBefore {a b : Shape} (h : a.listedBefore b) :
    a.arity < b.arity ∨ a.arity = b.arity ∧ a.name ≤ b.name := by
  rw [listedBefore_iff, compare_eq] at h
  rcases harity : compare a.arity b.arity with _ | _ | _
  · exact .inl (compare_lt_iff_lt.mp harity)
  · refine .inr ⟨compare_eq_iff_eq.mp harity, compare_le_iff_le.mp ?_⟩
    intro hname
    rw [harity, hname] at h
    cases h
  · rw [harity] at h
    cases h

theorem sort_perm (shapes : List Shape) : (sort shapes).Perm shapes :=
  List.mergeSort_perm shapes _

theorem pairwise_sort (shapes : List Shape) :
    (sort shapes).Pairwise fun a b => a.arity < b.arity ∨ a.arity = b.arity ∧ a.name ≤ b.name := by
  refine (List.pairwise_mergeSort (fun a b c hab hbc => ?_) (fun a b => ?_) shapes).imp
    le_of_listedBefore
  · rw [listedBefore_iff] at hab hbc ⊢
    exact Std.TransCmp.isLE_trans hab hbc
  · rw [Bool.or_eq_true, listedBefore_iff, listedBefore_iff]
    by_contra hneither
    obtain ⟨hab, hba⟩ := not_or.mp hneither
    exact hba (Ordering.isLE_of_eq_lt (Std.OrientedCmp.lt_of_not_isLE hab))

/-- One shape comes before another: by arity, then by the bytes of the name. Types that agree in both
are told apart by their identity. -/
def Before (a b : Shape) : Prop :=
  a.arity < b.arity ∨ a.arity = b.arity ∧
    (Text.bytes a.name < Text.bytes b.name ∨ a.name = b.name ∧ a.id < b.id)

theorem before_of_compare_eq_lt {a b : Shape} (h : compare a b = .lt) : a.Before b := by
  rw [compare_eq, Ordering.then_eq_lt, Ordering.then_eq_lt, compare_lt_iff_lt, compare_eq_iff_eq,
    compare_lt_iff_lt, compare_eq_iff_eq, compare_lt_iff_lt] at h
  exact h.imp_right (And.imp_right (Or.imp_left Text.bytes_lt_of_lt))

theorem Before.ne {a b : Shape} (h : a.Before b) : a ≠ b := by
  rintro rfl
  rcases h with harity | ⟨-, hname | ⟨-, hid⟩⟩
  · exact Nat.lt_irrefl _ harity
  · exact List.lt_irrefl _ hname
  · exact Nat.lt_irrefl _ hid

end Interner.Shape
