import Interner.Proofs.AccountLevels
import Interner.Session
import Mathlib.Algebra.Ring.Int.Defs
import Mathlib.Data.List.Induction
import Mathlib.Data.List.Infix

/-!
An account as the history of the steps on it. Every step moves a counter by what it means for that
counter alone, as far as the range of the counter goes. At every moment a counter is the balance of
the memory taken and given back, exactly if this balance never leaves the range. Histories of the
same steps that stay in range end in the same account, whatever the order.
-/

namespace Interner

open Memory Session

namespace Memory

def InRange (x : Int) : Prop := 0 ≤ x ∧ x ≤ counterMax

instance (x : Int) : Decidable (InRange x) := inferInstanceAs (Decidable (_ ∧ _))

/-- The value of a counter that is nearest to `x`. -/
def nearest (x : Int) : Int := max 0 (min x counterMax)

theorem nearest_of_inRange {x : Int} (h : InRange x) : nearest x = x := by
  rw [nearest, min_eq_left h.2, max_eq_right h.1]

theorem le_nearest_add {x y : Int} (hx : InRange x) (hy : 0 ≤ y) : x ≤ nearest (x + y) :=
  le_max_of_le_right (le_min (Int.le_add_of_nonneg_right hy) hx.2)

theorem nearest_add_le {x y : Int} (hx : InRange x) (hy : y ≤ 0) : nearest (x + y) ≤ x :=
  max_le hx.1 ((min_le_left _ _).trans (add_le_of_nonpos_right hy))

theorem counter_toNat (n : UInt64) : counter n.toNat = n := by
  rw [← UInt64.toNat_inj, toNat_counter, Nat.min_eq_left (toNat_le_counterMax n)]

theorem amount_counters (c c' : Category) (m : Measure) (items bytes : UInt64) :
    Charge.amount ⟨c', items.toNat, bytes.toNat⟩ c m =
      if c' = c then Usage.level ⟨items, bytes⟩ m else 0 := by
  cases m with
  | items => rfl
  | bytes => rfl

theorem Usage.ext_level {u v : Usage} (h : ∀ m, u.level m = v.level m) : u = v := by
  obtain ⟨items, bytes⟩ := u
  obtain ⟨items', bytes'⟩ := v
  rw [Usage.mk.injEq]
  exact ⟨UInt64.toNat_inj.mp (h .items), UInt64.toNat_inj.mp (h .bytes)⟩

namespace Account

theorem inRange_level (a : Account) (c : Category) (m : Measure) : InRange (a.level c m) :=
  ⟨Int.natCast_nonneg _, Int.ofNat_le.mpr (a.level_le c m)⟩

theorem get?_set (a : Account) (c c' : Category) (u : Usage) :
    (a.set c u).get? c' = if c = c' then some u else a.get? c' := by
  cases c <;> cases c' <;> rfl

theorem get?_eq_some_iff {a : Account} {c : Category} {u : Usage} :
    a.get? c = some u ↔ (a.get? c).isSome ∧ u = a.usage c := by
  rw [usage]
  rcases a.get? c with _ | v
  · simp
  · simp [eq_comm]

theorem ext_level {a b : Account} (hlevel : ∀ c m, a.level c m = b.level c m)
    (htouched : ∀ c, (a.get? c).isSome ↔ (b.get? c).isSome) : a = b := by
  have hget : ∀ c, a.get? c = b.get? c := by
    intro c
    have husage : a.usage c = b.usage c := Usage.ext_level (hlevel c)
    apply Option.ext
    intro u
    rw [get?_eq_some_iff, get?_eq_some_iff, htouched, husage]
  obtain ⟨blocks, index⟩ := a
  obtain ⟨blocks', index'⟩ := b
  rw [Account.mk.injEq]
  exact ⟨hget .blocks, hget .index⟩

theorem mem_touched_iff {a : Account} {c : Category} {u : Usage} :
    (c, u) ∈ a.touched ↔ a.get? c = some u := by
  have hall : c ∈ Category.all := by cases c <;> decide
  simp [touched, hall]

theorem nodup_touched (a : Account) : (a.touched.map Prod.fst).Nodup := by
  have hfst : a.touched.map Prod.fst = Category.all.filter fun c => (a.get? c).isSome := by
    rw [touched, List.map_filterMap, ← List.filterMap_eq_filter]
    congr 1
    funext c
    rcases hget : a.get? c with _ | u <;> simp [Option.guard, hget]
  rw [hfst]
  exact List.Nodup.sublist List.filter_sublist (by decide)

end Account

end Memory

namespace Session.AccountStep

def after (a : Account) : AccountStep → Account
  | add c items bytes => a.add c items bytes
  | remove c items bytes => a.remove c items bytes
  | usage _ => a
  | touched => a

/-- The step takes memory of a category or gives some back. -/
def Touches (c : Category) : AccountStep → Prop
  | add c' _ _ => c' = c
  | remove c' _ _ => c' = c
  | usage _ => False
  | touched => False

instance (c : Category) (step : AccountStep) : Decidable (step.Touches c) :=
  match step with
  | add c' _ _ => inferInstanceAs (Decidable (c' = c))
  | remove c' _ _ => inferInstanceAs (Decidable (c' = c))
  | usage _ => inferInstanceAs (Decidable False)
  | touched => inferInstanceAs (Decidable False)

/-- What a step means for a counter: the amount taken, or the amount given back with a minus. -/
def change (c : Category) (m : Measure) : AccountStep → Int
  | add c' items bytes => if c' = c then Usage.level ⟨items, bytes⟩ m else 0
  | remove c' items bytes => if c' = c then -Usage.level ⟨items, bytes⟩ m else 0
  | usage _ => 0
  | touched => 0

/-- What steps mean for a counter in all, whatever its range. -/
def balance (steps : List AccountStep) (c : Category) (m : Measure) : Int :=
  (steps.map fun step => step.change c m).sum

/-- After none of the steps would the balance be out of the range of a counter. -/
def StaysInRange (steps : List AccountStep) (c : Category) (m : Measure) : Prop :=
  ∀ before, before <+: steps → InRange (balance before c m)

instance (steps : List AccountStep) (c : Category) (m : Measure) :
    Decidable (StaysInRange steps c m) :=
  decidable_of_iff (∀ before ∈ steps.inits, InRange (balance before c m))
    (by simp only [StaysInRange, List.mem_inits])

section Step

variable (a : Account) (step : AccountStep) (c : Category) (m : Measure)

/-- A step moves every counter to the value that is nearest to what the step means for it. -/
theorem level_after : ((step.after a).level c m : Int) =
    nearest (a.level c m + step.change c m) := by
  have hle := a.level_le c m
  cases step with
  | add c' items bytes =>
      have htake := a.level_take ⟨c', items.toNat, bytes.toNat⟩ c m
      rw [Account.take, counter_toNat, counter_toNat, amount_counters] at htake
      rw [after, htake, nearest, change]
      split
      · omega
      · omega
  | remove c' items bytes =>
      have hgive := a.level_giveBack ⟨c', items.toNat, bytes.toNat⟩ c m
      rw [Account.giveBack, counter_toNat, counter_toNat, amount_counters] at hgive
      rw [after, hgive, nearest, change]
      split
      · omega
      · omega
  | usage c' => rw [after, change, Int.add_zero, nearest_of_inRange (a.inRange_level c m)]
  | touched => rw [after, change, Int.add_zero, nearest_of_inRange (a.inRange_level c m)]

theorem get?_after {step : AccountStep} {c : Category} (h : ¬ step.Touches c) :
    (step.after a).get? c = a.get? c := by
  cases step with
  | add c' items bytes => exact (a.get?_set c' c _).trans (if_neg h)
  | remove c' items bytes => exact (a.get?_set c' c _).trans (if_neg h)
  | usage c' => rfl
  | touched => rfl

theorem isSome_get?_after :
    ((step.after a).get? c).isSome ↔ (a.get? c).isSome ∨ step.Touches c := by
  by_cases h : step.Touches c
  · refine iff_of_true ?_ (.inr h)
    cases step with
    | add c' items bytes =>
        obtain rfl := h
        rw [after, Account.add, Account.get?_set, if_pos rfl, Option.isSome_some]
    | remove c' items bytes =>
        obtain rfl := h
        rw [after, Account.remove, Account.get?_set, if_pos rfl, Option.isSome_some]
    | usage c' => cases h
    | touched => cases h
  · rw [get?_after a h, or_iff_left h]

theorem change_add_nonneg (c' : Category) (items bytes : UInt64) :
    0 ≤ (add c' items bytes).change c m := by
  rw [change]
  split
  · exact Int.natCast_nonneg _
  · exact Int.le_refl 0

theorem change_remove_nonpos (c' : Category) (items bytes : UInt64) :
    (remove c' items bytes).change c m ≤ 0 := by
  rw [change]
  split
  · exact Int.neg_nonpos_of_nonneg (Int.natCast_nonneg _)
  · exact Int.le_refl 0

end Step

end Session.AccountStep

open AccountStep

/-- The account that steps lead to when nothing was taken before. -/
def Memory.Account.ofSteps (steps : List AccountStep) : Account := steps.foldl AccountStep.after {}

namespace Session.AccountStep

open Account

variable {steps steps' : List AccountStep} {c : Category} {m : Measure}

theorem ofSteps_concat (steps : List AccountStep) (step : AccountStep) :
    ofSteps (steps ++ [step]) = step.after (ofSteps steps) := by
  rw [ofSteps, List.foldl_concat, ← ofSteps]

theorem balance_concat (steps : List AccountStep) (step : AccountStep) (c : Category)
    (m : Measure) : balance (steps ++ [step]) c m = balance steps c m + step.change c m := by
  simp [balance]

theorem balance_perm (h : steps.Perm steps') (c : Category) (m : Measure) :
    balance steps c m = balance steps' c m :=
  (h.map _).sum_eq

theorem StaysInRange.of_prefix (h : StaysInRange steps' c m) (hearlier : steps <+: steps') :
    StaysInRange steps c m :=
  fun before hbefore => h before (hbefore.trans hearlier)

theorem StaysInRange.level_eq (h : StaysInRange steps c m) :
    ((ofSteps steps).level c m : Int) = balance steps c m := by
  induction steps using List.reverseRecOn with
  | nil => cases c <;> cases m <;> rfl
  | append_singleton steps step ih =>
      have hrange := h (steps ++ [step]) (List.prefix_refl _)
      rw [balance_concat] at hrange
      rw [ofSteps_concat, level_after, ih (h.of_prefix (List.prefix_append _ _)), balance_concat,
        nearest_of_inRange hrange]

/-- Counters are moved by what the steps mean for them, and by nothing else. -/
theorem level_ofSteps (steps : List AccountStep) (c : Category) (m : Measure) :
    ((ofSteps steps).level c m : Int) =
      (steps.map fun step => step.change c m).foldl (fun level x => nearest (level + x)) 0 := by
  induction steps using List.reverseRecOn with
  | nil => cases c <;> cases m <;> rfl
  | append_singleton steps step ih =>
      rw [ofSteps_concat, level_after, ih, List.map_append, List.foldl_append]
      rfl

theorem isSome_get?_ofSteps (steps : List AccountStep) (c : Category) :
    ((ofSteps steps).get? c).isSome ↔ ∃ step ∈ steps, step.Touches c := by
  induction steps using List.reverseRecOn with
  | nil => cases c <;> simp [ofSteps, get?]
  | append_singleton steps step ih =>
      rw [ofSteps_concat, isSome_get?_after, ih]
      simp [or_and_right, exists_or]

structure CounterLaw (steps : List AccountStep) : Prop where
  inRange : ∀ c m, InRange ((ofSteps steps).level c m)
  /-- A step moves a counter by what it means for it, as far as the range goes. -/
  level_concat : ∀ step c m, ((ofSteps (steps ++ [step])).level c m : Int) =
    nearest ((ofSteps steps).level c m + step.change c m)
  level_le_add : ∀ c' items bytes c m,
    (ofSteps steps).level c m ≤ (ofSteps (steps ++ [add c' items bytes])).level c m
  level_remove_le : ∀ c' items bytes c m,
    (ofSteps (steps ++ [remove c' items bytes])).level c m ≤ (ofSteps steps).level c m
  get?_concat : ∀ step c, ¬ step.Touches c →
    (ofSteps (steps ++ [step])).get? c = (ofSteps steps).get? c
  level_congr : ∀ steps' c m,
    (steps'.map fun step => step.change c m) = (steps.map fun step => step.change c m) →
    (ofSteps steps').level c m = (ofSteps steps).level c m
  staysInRange_iff : ∀ c m, StaysInRange steps c m ↔
    ∀ before, before <+: steps → ((ofSteps before).level c m : Int) = balance before c m
  level_perm : ∀ steps', steps'.Perm steps → ∀ c m,
    StaysInRange steps' c m → StaysInRange steps c m →
    (ofSteps steps').level c m = (ofSteps steps).level c m
  ofSteps_perm : ∀ steps', steps'.Perm steps →
    (∀ c m, StaysInRange steps' c m) → (∀ c m, StaysInRange steps c m) →
    ofSteps steps' = ofSteps steps
  mem_touched_iff : ∀ c u, (c, u) ∈ (ofSteps steps).touched ↔
    (∃ step ∈ steps, step.Touches c) ∧ u = (ofSteps steps).usage c
  nodup_touched : ((ofSteps steps).touched.map Prod.fst).Nodup

theorem staysInRange_iff : StaysInRange steps c m ↔
    ∀ before, before <+: steps → ((ofSteps before).level c m : Int) = balance before c m := by
  constructor
  · intro h before hbefore
    exact (h.of_prefix hbefore).level_eq
  · intro h before hbefore
    rw [← h before hbefore]
    exact (ofSteps before).inRange_level c m

theorem level_perm (h : steps.Perm steps') (hrange : StaysInRange steps c m)
    (hrange' : StaysInRange steps' c m) :
    (ofSteps steps).level c m = (ofSteps steps').level c m := by
  rw [← Int.natCast_inj, hrange.level_eq, hrange'.level_eq, balance_perm h]

theorem counterLaw (steps : List AccountStep) : CounterLaw steps := by
  have hconcat : ∀ step c m, ((ofSteps (steps ++ [step])).level c m : Int) =
      nearest ((ofSteps steps).level c m + step.change c m) := by
    intro step c m
    rw [ofSteps_concat, level_after]
  constructor
  case inRange => exact (ofSteps steps).inRange_level
  case level_concat => exact hconcat
  case level_le_add =>
    intro c' items bytes c m
    rw [← Int.ofNat_le, hconcat]
    exact le_nearest_add ((ofSteps steps).inRange_level c m) (change_add_nonneg c m c' items bytes)
  case level_remove_le =>
    intro c' items bytes c m
    rw [← Int.ofNat_le, hconcat]
    exact nearest_add_le ((ofSteps steps).inRange_level c m)
      (change_remove_nonpos c m c' items bytes)
  case get?_concat =>
    intro step c htouches
    rw [ofSteps_concat, get?_after _ htouches]
  case level_congr =>
    intro steps' c m hchanges
    rw [← Int.natCast_inj, level_ofSteps, hchanges, ← level_ofSteps]
  case staysInRange_iff => exact fun c m => staysInRange_iff
  case level_perm => exact fun steps' hperm c m => level_perm hperm
  case ofSteps_perm =>
    intro steps' hperm hrange' hrange
    refine ext_level (fun c m => level_perm hperm (hrange' c m) (hrange c m)) fun c => ?_
    rw [isSome_get?_ofSteps, isSome_get?_ofSteps]
    simp only [hperm.mem_iff]
  case mem_touched_iff =>
    intro c u
    rw [Account.mem_touched_iff, get?_eq_some_iff, isSome_get?_ofSteps]
  case nodup_touched => exact (ofSteps steps).nodup_touched

end Session.AccountStep

end Interner
