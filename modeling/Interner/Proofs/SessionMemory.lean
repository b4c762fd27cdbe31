import Interner.Proofs.SessionFootprint
import Mathlib.Algebra.BigOperators.Intervals
import Mathlib.Algebra.Ring.Int.Defs
import Mathlib.Order.Bounds.Defs
import Mathlib.Order.Interval.Finset.Nat
import Mathlib.Tactic
import Std.Data.TreeMap

namespace Interner

open Memory Session InternTable

namespace Session

/-- The account after a step, in terms of what the tables take. A step either takes memory or gives
some back. -/
inductive Balance (s : Session) (step : Step) (after : Session) (c : Category) (m : Measure) : Prop
  | taken (amount : Nat)
      (hlevel : after.memory.level c m = min (s.memory.level c m + amount) counterMax)
      (hfootprints : footprints after.tablesHeld c m + footprints (s.tablesLeft step) c m =
        footprints s.tablesHeld c m + amount)
  | givenBack (amount : Nat) (hlevel : after.memory.level c m = s.memory.level c m - amount)
      (hfootprints : footprints after.tablesHeld c m + amount = footprints s.tablesHeld c m)
      (hleft : s.tablesLeft step = [])

theorem tablesLeft_of_none {step : Step} (s : Session) (h : step.opened? = none) :
    s.tablesLeft step = [] := by
  rw [tablesLeft, h]
  rfl

theorem level_charge (s : Session) (charges : List Charge) (c : Category) (m : Measure) :
    (s.charge charges).memory.level c m =
      min (s.memory.level c m + total charges c m) counterMax :=
  s.memory.level_foldl_take charges c m

theorem level_giveBack (s : Session) (charges : List Charge) (c : Category) (m : Measure) :
    (s.giveBack charges).memory.level c m = s.memory.level c m - total charges c m :=
  s.memory.level_foldl_giveBack charges c m

theorem Sound.total_holdings {s : Session} (h : s.Sound) (id : String) (c : Category)
    (m : Measure) : total (((s.tables[id]?).map holdings).getD []) c m =
      footprints (s.tables[id]?).toList c m := by
  rcases ht : s.tables[id]? with _ | t
  · rfl
  · obtain ⟨type, config, rs, hrepresents⟩ := h.tables id t ht
    rw [Option.map_some, Option.getD_some, hrepresents.total_holdings, Option.toList_some,
      footprints_cons, footprints_nil, Nat.add_zero]

@[simp] theorem tablesHeld_charge (s : Session) (charges : List Charge) :
    (s.charge charges).tablesHeld = s.tablesHeld := rfl

@[simp] theorem tablesHeld_giveBack (s : Session) (charges : List Charge) :
    (s.giveBack charges).tablesHeld = s.tablesHeld := rfl

theorem level_putRegistry (s : Session) (ref : RegistryRef) (g : Registry) (c : Category)
    (m : Measure) : (s.putRegistry ref g).memory.level c m = s.memory.level c m := by
  cases ref with
  | named id => rfl
  | process => rfl

theorem Effect.balance {s after : Session} {step : Step} (h : s.Effect step after) (hs : s.Sound)
    (c : Category) (m : Measure) : s.Balance step after c m := by
  cases h with
  | nothing hdemand hopened h =>
      refine .taken 0 ?_ ?_
      · rw [h.level_eq, Nat.add_zero, Nat.min_eq_left (s.memory.level_le c m)]
      · rw [h.tablesHeld_eq, s.tablesLeft_of_none hopened]
        rfl
  | worked id inner t hstep ht h =>
      obtain ⟨type, config, rs, hrepresents⟩ := hs.tables id t ht
      have hinsert := s.footprints_insertTable c m id (inner.perform t).state
      have hcharges := hrepresents.total_charges_perform inner c m
      rw [ht, Option.toList_some, footprints_cons, footprints_nil] at hinsert
      refine .taken (total (inner.perform t).charges c m) ?_ ?_
      · rw [h.level_eq, level_charge]
      · rw [h.tablesHeld_eq, tablesHeld_charge, hstep, tablesLeft_of_none _ rfl, footprints_nil]
        omega
  | opened id type config t hstep ht h =>
      -- What the name meant before is given up, and the new table does not take anything yet.
      have hinsert := s.footprints_insertTable c m id t
      have hnew := (represents_of_create ht).footprint_of_nil c m
      refine .givenBack (footprints (s.tables[id]?).toList c m) ?_ ?_ ?_
      · rw [h.level_eq, level_giveBack, ← hs.total_holdings]
      · rw [h.tablesHeld_eq, tablesHeld_giveBack]
        omega
      · rw [hstep, tablesLeft_of_none _ rfl]
  | dropped id t hstep ht h =>
      have hholdings := hs.total_holdings id c m
      rw [ht, Option.map_some, Option.getD_some] at hholdings
      refine .givenBack (footprints (s.tables[id]?).toList c m) ?_ ?_ ?_
      · rw [h.level_eq, level_giveBack, hholdings, ht]
      · rw [h.tablesHeld_eq, tablesHeld_giveBack, footprints_eraseTable]
      · rw [hstep, tablesLeft_of_none _ rfl]
  | met ref g g' d? hdemand hopened hg hmeet h =>
      have hsound := hs.registries ref g hg
      have hput := s.footprints_putRegistry c m hg g'
      rw [(hmeet hsound).tables_eq, Registry.footprints_meet c m hsound] at hput
      refine .taken (total (g.chargesToMeet d?) c m) ?_ ?_
      · rw [h.level_eq, level_charge, level_putRegistry]
      · rw [h.tablesHeld_eq, tablesHeld_charge, tablesLeft_of_none _ hopened, footprints_nil]
        omega
  | replaced id g hdemand hopened haccept hnew h =>
      have hput := s.footprints_putNamed c m id g
      refine .taken 0 ?_ ?_
      · rw [h.level_eq, level_putRegistry, Nat.add_zero,
          Nat.min_eq_left (s.memory.level_le c m)]
      · rw [h.tablesHeld_eq, tablesLeft, hopened, Option.bind_some, hput, hnew]
        rfl

theorem balance_perform {s : Session} (hs : s.Sound) (step : Step) (c : Category) (m : Measure) :
    s.Balance step (s.perform step).state c m :=
  (effect_perform s step).balance hs c m

/-- A step keeps the distance between the counter and what the tables take, unless it fills the
counter. -/
theorem Balance.level_eq {s after : Session} {step : Step} {c : Category} {m : Measure}
    (h : s.Balance step after c m) {start left : Nat}
    (hbefore : s.memory.level c m = start + (footprints s.tablesHeld c m + left))
    (hrange : start + (footprints after.tablesHeld c m +
      (left + footprints (s.tablesLeft step) c m)) ≤ counterMax) :
    after.memory.level c m = start + (footprints after.tablesHeld c m +
      (left + footprints (s.tablesLeft step) c m)) := by
  cases h with
  | taken amount hlevel hfootprints =>
      rw [hlevel, Nat.min_eq_left]
      · omega
      · omega
  | givenBack amount hlevel hfootprints hleft =>
      rw [hlevel, hleft, footprints_nil]
      omega

def levelAt (s : Session) (steps : List Step) (c : Category) (m : Measure) (k : Nat) : Nat :=
  (Run.all perform s (steps.take k)).state.memory.level c m

/-- What the tables take that live after the first `k` steps. -/
def footprintAt (s : Session) (steps : List Step) (c : Category) (m : Measure) (k : Nat) : Nat :=
  footprints (s.liveTables (steps.take k)) c m

section Prefixes

variable (s : Session) (c : Category) (m : Measure) {steps : List Step} {k : Nat} {step : Step}

theorem footprintAt_eq (steps : List Step) (k : Nat) : s.footprintAt steps c m k =
    footprints (Run.all perform s (steps.take k)).state.tablesHeld c m +
      footprints (s.tablesLeftBy (steps.take k)) c m :=
  footprints_append c m _ _

theorem footprintAt_add_one (hk : steps[k]? = some step) : s.footprintAt steps c m (k + 1) =
    footprints ((Run.all perform s (steps.take k)).state.perform step).state.tablesHeld c m +
      (footprints (s.tablesLeftBy (steps.take k)) c m +
        footprints ((Run.all perform s (steps.take k)).state.tablesLeft step) c m) := by
  rw [footprintAt_eq, Run.state_all_take_add_one hk, Run.take_add_one_of_getElem? hk,
    tablesLeftBy_concat, footprints_append]

theorem levelAt_add_one (hk : steps[k]? = some step) : s.levelAt steps c m (k + 1) =
    ((Run.all perform s (steps.take k)).state.perform step).state.memory.level c m := by
  rw [levelAt, Run.state_all_take_add_one hk]

end Prefixes

theorem levelAt_eq {s : Session} (hs : s.Sound) (hempty : s.tablesHeld = []) {steps : List Step}
    {c : Category} {m : Measure}
    (hrange : ∀ k ≤ steps.length, s.memory.level c m + s.footprintAt steps c m k ≤ counterMax)
    {k : Nat} (hk : k ≤ steps.length) :
    s.levelAt steps c m k = s.memory.level c m + s.footprintAt steps c m k := by
  -- Tables that a replaced registry leaves behind count on, so both kinds are carried along.
  induction k with
  | zero =>
      rw [footprintAt_eq, List.take_zero, tablesLeftBy, footprints_nil]
      change _ = s.memory.level c m + (footprints s.tablesHeld c m + 0)
      rw [hempty]
      rfl
  | succ k ih =>
      have hstep := List.getElem?_eq_getElem hk
      have hbefore := ih (Nat.le_of_succ_le hk)
      have hbalance := balance_perform (sound_all hs (steps.take k)) steps[k] c m
      have hnext := hrange (k + 1) hk
      rw [levelAt, footprintAt_eq] at hbefore
      rw [s.footprintAt_add_one c m hstep] at hnext
      rw [s.levelAt_add_one c m hstep, s.footprintAt_add_one c m hstep]
      exact hbalance.level_eq hbefore hnext

/-- The step gives up the table that `id` names, by dropping it or by opening another one there. -/
def Step.Ends (id : String) : Step → Prop
  | .openTable id' _ config => id' = id ∧ config.accept = .ok ()
  | .dropTable id' => id' = id
  | _ => False

def Step.isOn (id : String) : Step → Bool
  | .table (.own id') _ => id' = id
  | _ => false

theorem Step.eq_of_isOn {step : Step} {id : String} (h : step.isOn id = true) :
    ∃ inner, step = .table (.own id) inner := by
  cases step with
  | table source inner =>
      cases source with
      | own id' => exact ⟨inner, by rw [of_decide_eq_true h]⟩
      | filed ref type => cases h
  | _ => cases h

/-- What step `k` adds to the counter, if it is one on the table that `id` names. -/
def addedAt (s : Session) (steps : List Step) (id : String) (c : Category) (m : Measure)
    (k : Nat) : Int :=
  if steps[k]?.any (Step.isOn id) then s.levelAt steps c m (k + 1) - s.levelAt steps c m k else 0

theorem sameTables_work {s : Session} {id : String} {t : InternTable} (ht : s.tables[id]? = some t)
    (inner : TableStep) : (s.perform (.table (.own id) inner)).state.SameTables
      ({ s with tables := s.tables.insert id (inner.perform t).state }.charge
        (inner.perform t).charges) := by
  refine (sameTables_write _ _).trans ?_
  simp only [act, onTable, ht]
  exact .refl _

theorem sameTables_open {s : Session} (id : String) {type : RecordType} {config : Config}
    {t : InternTable} (ht : InternTable.create type config = .ok t) :
    (s.perform (.openTable id type config)).state.SameTables
      ({ s with tables := s.tables.insert id t }.giveBack
        (((s.tables[id]?).map holdings).getD [])) := by
  refine (sameTables_write _ _).trans ?_
  simp only [act, openTable, ht]
  exact .refl _

theorem sameTables_drop {s : Session} {id : String} {t : InternTable}
    (ht : s.tables[id]? = some t) : (s.perform (.dropTable id)).state.SameTables
      ({ s with tables := s.tables.erase id }.giveBack t.holdings) := by
  refine (sameTables_write _ _).trans ?_
  simp only [act, dropTable, ht]
  exact .refl _

theorem Effect.getElem?_tables {s after : Session} {step : Step} (h : s.Effect step after)
    {id : String} (hkept : ¬ step.Ends id) (hother : step.isOn id = false) :
    after.tables[id]? = s.tables[id]? := by
  cases h with
  | nothing hdemand hopened h => rw [h.tables_eq]
  | worked id' inner t hstep ht h =>
      have hid : id' ≠ id := by simpa [hstep, Step.isOn] using hother
      rw [h.tables_eq]
      change (s.tables.insert id' _)[id]? = _
      simp [Std.ExtTreeMap.getElem?_insert, hid]
  | opened id' type config t hstep ht h =>
      have hid : id' ≠ id := by
        rintro rfl
        exact hkept (by rw [hstep]; exact ⟨rfl, accept_of_create ht⟩)
      rw [h.tables_eq]
      change (s.tables.insert id' _)[id]? = _
      simp [Std.ExtTreeMap.getElem?_insert, hid]
  | dropped id' t hstep ht h =>
      have hid : id' ≠ id := by
        rintro rfl
        exact hkept (by rw [hstep, Step.Ends])
      rw [h.tables_eq]
      change (s.tables.erase id')[id]? = _
      simp [Std.ExtTreeMap.getElem?_erase, hid]
  | met ref g g' d? hdemand hopened hg hmeet h =>
      rw [h.tables_eq]
      cases ref with
      | named id' => rfl
      | process => rfl
  | replaced id' g hdemand hopened haccept hnew h =>
      rw [h.tables_eq]
      rfl

section Lifetime

variable {s : Session} {steps : List Step} {id : String} {i : Nat} {type : RecordType}
  {config : Config}

/-- While a table lives, what its steps have added is what it takes. -/
theorem sum_addedAt (hlevel : ∀ k ≤ steps.length, ∀ c m,
      s.levelAt steps c m k = s.memory.level c m + s.footprintAt steps c m k)
    (hopen : steps[i]? = some (.openTable id type config)) (haccept : config.accept = .ok ())
    {k : Nat} (hik : i < k) (hk : k ≤ steps.length)
    (hkept : ∀ j, i < j → j < k → ∀ step ∈ steps[j]?, ¬ step.Ends id) :
    ∃ t, (Run.all perform s (steps.take k)).state.tables[id]? = some t ∧
      ∀ c m, ∑ j ∈ Finset.Ico (i + 1) k, s.addedAt steps id c m j = t.footprint c m := by
  induction k, hik using Nat.le_induction with
  | base =>
      obtain ⟨t, ht, hrepresents⟩ := represents_create type haccept
      refine ⟨t, ?_, fun c m => ?_⟩
      · rw [Run.state_all_take_add_one hopen, (sameTables_open id ht).tables_eq]
        exact Std.ExtTreeMap.getElem?_insert_self
      · rw [Finset.Ico_self, Finset.sum_empty, hrepresents.footprint_of_nil]
        rfl
  | succ k hik ih =>
      have hstep := List.getElem?_eq_getElem hk
      have hends := hkept k hik (Nat.lt_succ_self k) _ hstep
      obtain ⟨t, ht, hsum⟩ := ih (Nat.le_of_succ_le hk)
        fun j hij hjk => hkept j hij (Nat.lt_succ_of_lt hjk)
      rw [Run.state_all_take_add_one hstep]
      -- Only a step on the table changes it, and then the counter rises by what the table grows.
      rcases hon : steps[k].isOn id with _ | _
      · have heffect := effect_perform (Run.all perform s (steps.take k)).state steps[k]
        refine ⟨t, (heffect.getElem?_tables hends hon).trans ht, fun c m => ?_⟩
        rw [Finset.sum_Ico_succ_top hik, hsum, addedAt, hstep, Option.any_some, hon,
          if_neg Bool.false_ne_true, Int.add_zero]
      · obtain ⟨inner, hinner⟩ := Step.eq_of_isOn hon
        have hsame := sameTables_work ht inner
        refine ⟨(inner.perform t).state, ?_, fun c m => ?_⟩
        · rw [hinner, hsame.tables_eq]
          exact Std.ExtTreeMap.getElem?_insert_self
        · have hinsert := footprints_insertTable (Run.all perform s (steps.take k)).state c m id
            (inner.perform t).state
          rw [ht, Option.toList_some, footprints_cons, footprints_nil] at hinsert
          rw [Finset.sum_Ico_succ_top hik, hsum, addedAt, hstep, Option.any_some, hon, if_pos rfl,
            hlevel k (Nat.le_of_succ_le hk), hlevel (k + 1) hk,
            s.footprintAt_add_one c m hstep, footprintAt_eq, hinner, tablesLeft_of_none _ rfl,
            footprints_nil, hsame.tablesHeld_eq, tablesHeld_charge]
          push_cast
          omega

/-- What a table gives back in the end is all that its steps have added. -/
theorem levelAt_eq_of_ends (c : Category) (m : Measure)
    (hlevel : ∀ k ≤ steps.length, ∀ c m,
      s.levelAt steps c m k = s.memory.level c m + s.footprintAt steps c m k)
    {k : Nat} {last : Step} (hlast : steps[k]? = some last) (hends : last.Ends id)
    {t : InternTable} (ht : (Run.all perform s (steps.take k)).state.tables[id]? = some t) :
    s.levelAt steps c m k = s.levelAt steps c m (k + 1) + t.footprint c m := by
  have hk : k < steps.length := (List.getElem?_eq_some_iff.mp hlast).1
  have hleft : (Run.all perform s (steps.take k)).state.tablesLeft last = [] := by
    cases last with
    | openTable id' type config => rfl
    | dropTable id' => rfl
    | _ => cases hends
  rw [hlevel k hk.le, hlevel (k + 1) hk, s.footprintAt_add_one c m hlast, footprintAt_eq, hleft,
    footprints_nil]
  cases last with
  | openTable id' type config =>
      obtain ⟨rfl, haccept⟩ := hends
      obtain ⟨new, hnew, hrepresents⟩ := represents_create type haccept
      have hinsert := footprints_insertTable (Run.all perform s (steps.take k)).state c m id' new
      rw [ht, Option.toList_some, footprints_cons, footprints_nil,
        hrepresents.footprint_of_nil] at hinsert
      rw [(sameTables_open id' hnew).tablesHeld_eq, tablesHeld_giveBack]
      omega
  | dropTable id' =>
      obtain rfl := hends
      have herase := footprints_eraseTable (Run.all perform s (steps.take k)).state c m id'
      rw [ht, Option.toList_some, footprints_cons, footprints_nil] at herase
      rw [(sameTables_drop ht).tablesHeld_eq, tablesHeld_giveBack]
      omega
  | _ => cases hends

end Lifetime

theorem Sound.represents_of_mem {s : Session} (h : s.Sound) {t : InternTable}
    (ht : t ∈ s.tablesHeld) : ∃ type config rs, t.Represents type config rs := by
  have hregistry : ∀ ref g, s.registryOf ref = some g → t ∈ g.tables →
      ∃ type config rs, t.Represents type config rs := by
    intro ref g hg hmem
    have hsound := h.registries ref g hg
    obtain ⟨type, rs, hrepresents⟩ :=
      hsound.represents t.shape t (Registry.find?_eq_of_mem hsound.distinct hmem)
    exact ⟨type, g.config, rs, hrepresents⟩
  rw [tablesHeld, List.mem_append, List.mem_append] at ht
  obtain (hown | hnamed) | hprocess := ht
  · obtain ⟨⟨id, t⟩, hmem, rfl⟩ := List.mem_map.mp hown
    exact h.tables id t (Std.ExtTreeMap.mem_toList_iff_getElem?_eq_some.mp hmem)
  · obtain ⟨⟨id, g⟩, hmem, ht⟩ := List.mem_flatMap.mp hnamed
    rw [Std.ExtTreeMap.mem_toList_iff_getElem?_eq_some] at hmem
    exact hregistry (.named id) g ((s.registryOf_named id).trans hmem) ht
  · rcases hg : s.processRegistry with _ | g
    · rw [hg] at hprocess
      cases hprocess
    · rw [hg] at hprocess
      exact hregistry .process g (by rw [registryOf_process, hg, Option.getD_some]) hprocess

theorem Sound.represents_of_mem_tablesLeft {s : Session} (h : s.Sound) {step : Step}
    {t : InternTable} (ht : t ∈ s.tablesLeft step) :
    ∃ type config rs, t.Represents type config rs := by
  rcases hg : step.opened?.bind (s.registries[·]?) with _ | g
  · rw [tablesLeft, hg] at ht
    cases ht
  · rw [tablesLeft, hg] at ht
    obtain ⟨id, -, hid⟩ := Option.bind_eq_some_iff.mp hg
    refine h.represents_of_mem ?_
    rw [tablesHeld, List.mem_append, List.mem_append]
    refine .inl (.inr (List.mem_flatMap.mpr ⟨(id, g), ?_, ht⟩))
    exact Std.ExtTreeMap.mem_toList_iff_getElem?_eq_some.mpr hid

theorem Sound.represents_of_mem_liveTables {s : Session} (h : s.Sound) {steps : List Step}
    {t : InternTable} (ht : t ∈ s.liveTables steps) :
    ∃ type config rs, t.Represents type config rs := by
  rcases List.mem_append.mp ht with hheld | hleft
  · exact (sound_all h steps).represents_of_mem hheld
  · clear ht
    induction steps generalizing s with
    | nil => cases hleft
    | cons step steps ih =>
        rcases List.mem_append.mp hleft with hfirst | hrest
        · exact h.represents_of_mem_tablesLeft hfirst
        · exact ih (sound_perform h step) hrest

structure KeepsAccount (s : Session) (steps : List Step) : Prop where
  level_eq : ∀ k ≤ steps.length, ∀ c m,
    s.levelAt steps c m k = s.memory.level c m + s.footprintAt steps c m k
  /-- A table that is given up gives back what its steps have added, and the counter has it. -/
  given_back : ∀ (id : String) (type : RecordType) (config : Config) (i k : Nat) (last : Step),
    steps[i]? = some (.openTable id type config) → config.accept = .ok () → i < k →
    steps[k]? = some last → last.Ends id →
    (∀ j, i < j → j < k → ∀ step ∈ steps[j]?, ¬ step.Ends id) →
    ∃ t, (Run.all perform s (steps.take k)).state.tables[id]? = some t ∧ ∀ c m,
      ∑ j ∈ Finset.Ico (i + 1) k, s.addedAt steps id c m j = total t.holdings c m ∧
      s.levelAt steps c m k = s.levelAt steps c m (k + 1) + total t.holdings c m
  unit_takes_nothing : ∀ k ≤ steps.length, ∀ t ∈ s.liveTables (steps.take k), t.unit.isSome →
    t.holdings = [] ∧ ∀ step : TableStep, (step.perform t).charges = []
  /-- Records without fields that cannot be built again take items, but no bytes, of blocks. -/
  no_fields : ∀ k ≤ steps.length, ∀ t ∈ s.liveTables (steps.take k), t.unit = none →
    t.shape.arity = 0 → total t.holdings .blocks .items =
        blocksFor t.size t.blockSize * t.blockSize ∧ total t.holdings .blocks .bytes = 0

end Session

/-- The account of a session is exact. In a run that starts without tables, and in which what there
is to count is never beyond the range of a counter, the counters count what the live tables take: all
slots of the blocks that hold their records, and all the room that their indexes have reserved, which
is the least that suffices. -/
theorem account_counts_live_tables (s : Session) (htables : s.tables = ∅)
    (hregistries : s.registries = ∅) (hprocess : s.processRegistry = none) (steps : List Step)
    (hrange : ∀ k ≤ steps.length, ∀ c m,
      s.memory.level c m + s.footprintAt steps c m k ≤ counterMax) :
    s.KeepsAccount steps ∧ reserved 0 = 0 ∧
      ∀ n, 0 < n → IsLeast {room | IsRoom room ∧ n ≤ room} (reserved n) := by
  have hs : s.Sound := sound_of_empty htables hregistries hprocess
  have hempty : s.tablesHeld = [] := by
    rw [tablesHeld, htables, hregistries, hprocess]
    rfl
  have hlevel : ∀ k ≤ steps.length, ∀ c m,
      s.levelAt steps c m k = s.memory.level c m + s.footprintAt steps c m k :=
    fun k hk c m => levelAt_eq hs hempty (fun k hk => hrange k hk c m) hk
  refine ⟨?_, rfl, fun n hn => ⟨⟨isRoom_reserved hn, le_reserved n⟩, ?_⟩⟩
  · constructor
    case level_eq => exact hlevel
    case given_back =>
      intro id type config i k last hopen haccept hik hlast hends hkept
      have hk : k < steps.length := (List.getElem?_eq_some_iff.mp hlast).1
      obtain ⟨t, ht, hsum⟩ := sum_addedAt hlevel hopen haccept hik hk.le hkept
      obtain ⟨_, _, _, hrepresents⟩ := (sound_all hs (steps.take k)).tables id t ht
      refine ⟨t, ht, fun c m => ?_⟩
      rw [hrepresents.total_holdings]
      exact ⟨hsum c m, levelAt_eq_of_ends c m hlevel hlast hends ht⟩
    case unit_takes_nothing =>
      intro k hk t ht hunit
      obtain ⟨_, _, _, hrepresents⟩ := hs.represents_of_mem_liveTables ht
      exact ⟨hrepresents.holdings_of_unit hunit, hrepresents.charges_of_unit hunit⟩
    case no_fields =>
      intro k hk t ht hunit harity
      obtain ⟨_, _, _, hrepresents⟩ := hs.represents_of_mem_liveTables ht
      rw [hrepresents.total_holdings, hrepresents.total_holdings, InternTable.footprint,
        InternTable.footprint, hunit, harity]
      exact ⟨rfl, Nat.mul_zero _⟩
  · rintro room ⟨hroom, hle⟩
    exact reserved_le hroom hle

theorem dropped_pair_gives_back_its_memory :
    let pair : RecordType := { shape := { id := 0, name := "pair", arity := 2 } }
    let config : Config := { blockSize := 2, maxRecords := 1 }
    let s : Session := {}
    let steps : List Step :=
      [.openTable "pairs" pair config, .table (.own "pairs") (.intern [1, 2]),
        .openRegistry "left" config, .registry (.named "left") (.intern pair [3, 4]),
        .table (.own "pairs") (.intern [5, 6]), .dropTable "pairs"]
    s.levelAt steps .index .bytes 5 = 72 ∧ s.levelAt steps .index .bytes 6 = 36 := by
  intro pair config s steps
  have hall : ((List.range 7).all fun k => [Category.blocks, Category.index].all fun c =>
      [Measure.items, Measure.bytes].all fun m =>
        decide (s.footprintAt steps c m k ≤ 72)) = true := by
    cbv
  have hrange : ∀ k ≤ steps.length, ∀ c m,
      s.memory.level c m + s.footprintAt steps c m k ≤ counterMax := by
    intro k hk c m
    have hc : c ∈ [Category.blocks, Category.index] := by cases c <;> decide
    have hm : m ∈ [Measure.items, Measure.bytes] := by cases m <;> decide
    have hk := List.all_eq_true.mp hall k (List.mem_range.mpr (Nat.lt_succ_of_le hk))
    have hle := of_decide_eq_true (List.all_eq_true.mp (List.all_eq_true.mp hk c hc) m hm)
    have hstart : s.memory.level c m = 0 := by cases c <;> cases m <;> rfl
    rw [hstart, counterMax]
    omega
  have hlevel := (account_counts_live_tables s rfl rfl rfl steps hrange).1.level_eq
  constructor
  · rw [hlevel 5 (by decide)]
    cbv
  · rw [hlevel 6 (by decide)]
    cbv

end Interner
