import Interner.Memory.Growth
import Mathlib.Algebra.BigOperators.Group.List.Basic
import Mathlib.Algebra.GroupWithZero.Nat
import Mathlib.Algebra.Order.BigOperators.Group.List

/-!
What an account counts. For each category and each of its two measures there is one counter, which a
sequence of charges raises by their total until it is full, and lowers by their total until it is
empty. The room of an index is the least that suffices.
-/

namespace Interner.Memory

/-- What is counted: items, or the bytes that they take. -/
inductive Measure where
  | items
  | bytes
deriving DecidableEq

def Usage.level (u : Usage) : Measure → Nat
  | .items => u.items.toNat
  | .bytes => u.bytes.toNat

def Account.level (a : Account) (c : Category) (m : Measure) : Nat := (a.usage c).level m

def Charge.measure (charge : Charge) : Measure → Nat
  | .items => charge.items
  | .bytes => charge.bytes

/-- What a charge means for the counter of a category for a measure. -/
def Charge.amount (charge : Charge) (c : Category) (m : Measure) : Nat :=
  if charge.category = c then charge.measure m else 0

def total (charges : List Charge) (c : Category) (m : Measure) : Nat :=
  (charges.map fun charge => charge.amount c m).sum

section Total

variable (c : Category) (m : Measure)

@[simp] theorem total_nil : total [] c m = 0 := rfl

@[simp] theorem total_cons (charge : Charge) (charges : List Charge) :
    total (charge :: charges) c m = charge.amount c m + total charges c m := by
  rw [total, List.map_cons, List.sum_cons, ← total]

@[simp] theorem total_append (charges more : List Charge) :
    total (charges ++ more) c m = total charges c m + total more c m := by
  rw [total, List.map_append, List.sum_append, ← total, ← total]

end Total

theorem toNat_counter (n : Nat) : (counter n).toNat = min n counterMax := by
  rw [counter, UInt64.toNat_ofNat_of_lt']
  rw [UInt64.size, counterMax]
  omega

theorem toNat_saturatingAdd (a b : UInt64) :
    (saturatingAdd a b).toNat = min (a.toNat + b.toNat) counterMax :=
  toNat_counter _

theorem toNat_saturatingSub (a b : UInt64) : (saturatingSub a b).toNat = a.toNat - b.toNat := by
  rw [saturatingSub, UInt64.toNat_ofNat_of_lt']
  exact Nat.lt_of_le_of_lt (Nat.sub_le _ _) a.toNat_lt

theorem toNat_le_counterMax (n : UInt64) : n.toNat ≤ counterMax :=
  Nat.le_of_lt_succ n.toNat_lt

theorem saturatingAdd_right_comm (a b c : UInt64) :
    saturatingAdd (saturatingAdd a b) c = saturatingAdd (saturatingAdd a c) b := by
  rw [← UInt64.toNat_inj, toNat_saturatingAdd, toNat_saturatingAdd, toNat_saturatingAdd,
    toNat_saturatingAdd]
  omega

theorem Usage.level_le (u : Usage) (m : Measure) : u.level m ≤ counterMax := by
  cases m with
  | items => exact toNat_le_counterMax u.items
  | bytes => exact toNat_le_counterMax u.bytes

namespace Account

theorem level_le (a : Account) (c : Category) (m : Measure) : a.level c m ≤ counterMax :=
  (a.usage c).level_le m

theorem usage_set (a : Account) (c c' : Category) (u : Usage) :
    (a.set c u).usage c' = if c = c' then u else a.usage c' := by
  cases c <;> cases c' <;> rfl

theorem level_take (a : Account) (charge : Charge) (c : Category) (m : Measure) :
    (a.take charge).level c m = min (a.level c m + charge.amount c m) counterMax := by
  have hle := a.level_le c m
  rw [take, add, level, usage_set, Charge.amount]
  split
  · rename_i hcategory
    subst hcategory
    cases m with
    | items =>
        change (saturatingAdd _ _).toNat = min ((a.usage _).items.toNat + charge.items) _
        rw [toNat_saturatingAdd, toNat_counter]
        omega
    | bytes =>
        change (saturatingAdd _ _).toNat = min ((a.usage _).bytes.toNat + charge.bytes) _
        rw [toNat_saturatingAdd, toNat_counter]
        omega
  · rw [Nat.add_zero, ← level, Nat.min_eq_left hle]

theorem level_giveBack (a : Account) (charge : Charge) (c : Category) (m : Measure) :
    (a.giveBack charge).level c m = a.level c m - charge.amount c m := by
  have hle := a.level_le c m
  rw [giveBack, remove, level, usage_set, Charge.amount]
  split
  · rename_i hcategory
    subst hcategory
    cases m with
    | items =>
        change (a.usage _).items.toNat ≤ _ at hle
        change (saturatingSub _ _).toNat = (a.usage _).items.toNat - charge.items
        rw [toNat_saturatingSub, toNat_counter]
        omega
    | bytes =>
        change (a.usage _).bytes.toNat ≤ _ at hle
        change (saturatingSub _ _).toNat = (a.usage _).bytes.toNat - charge.bytes
        rw [toNat_saturatingSub, toNat_counter]
        omega
  · rw [Nat.sub_zero, ← level]

theorem level_foldl_take (a : Account) (charges : List Charge) (c : Category) (m : Measure) :
    (charges.foldl take a).level c m = min (a.level c m + total charges c m) counterMax := by
  induction charges generalizing a with
  | nil => exact (Nat.min_eq_left (a.level_le c m)).symm
  | cons charge charges ih =>
      rw [List.foldl_cons, ih, level_take, total_cons]
      omega

theorem level_foldl_giveBack (a : Account) (charges : List Charge) (c : Category) (m : Measure) :
    (charges.foldl giveBack a).level c m = a.level c m - total charges c m := by
  induction charges generalizing a with
  | nil => rfl
  | cons charge charges ih =>
      rw [List.foldl_cons, ih, level_giveBack, total_cons]
      omega

theorem take_right_comm (a : Account) (charge charge' : Charge) :
    (a.take charge).take charge' = (a.take charge').take charge := by
  obtain ⟨c, items, bytes⟩ := charge
  obtain ⟨c', items', bytes'⟩ := charge'
  have husage : ∀ u : Usage, (u.add (counter items) (counter bytes)).add (counter items')
      (counter bytes') = (u.add (counter items') (counter bytes')).add (counter items)
        (counter bytes) := by
    intro u
    rw [Usage.add, Usage.add, Usage.add, Usage.add, Usage.mk.injEq]
    exact ⟨saturatingAdd_right_comm _ _ _, saturatingAdd_right_comm _ _ _⟩
  cases c with
  | blocks =>
      cases c' with
      | blocks => exact congrArg (fun u => { a with blocks := some u }) (husage _)
      | index => rfl
  | index =>
      cases c' with
      | blocks => rfl
      | index => exact congrArg (fun u => { a with index := some u }) (husage _)

theorem foldl_take_perm {charges charges' : List Charge} (h : charges.Perm charges')
    (a : Account) : charges.foldl take a = charges'.foldl take a := by
  have hcomm : RightCommutative take := ⟨take_right_comm⟩
  exact h.foldl_eq a

end Account

theorem reserved_mono {n n' : Nat} (h : n ≤ n') : reserved n ≤ reserved n' := by
  rcases Nat.eq_zero_or_pos n with rfl | hpos
  · exact Nat.zero_le _
  · exact reserved_le (isRoom_reserved (by omega)) (h.trans (le_reserved n'))

end Interner.Memory
