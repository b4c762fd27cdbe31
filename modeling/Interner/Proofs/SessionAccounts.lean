import Interner.Proofs.AccountHistory
import Interner.Proofs.Runs

namespace Interner

open Memory Session

namespace Session

/-- The step on the account that `id` names, if the step is one. -/
def Step.booking? (id : String) : Step → Option AccountStep
  | .account id' inner => if id' = id then some inner else none
  | _ => none

def bookings (id : String) (steps : List Step) : List AccountStep :=
  steps.filterMap (Step.booking? id)

/-- What the reply to a step shows of the account after it. -/
def AccountStep.shown (a : Account) : AccountStep → Answer
  | add c _ _ => .usage (a.usage c)
  | remove c _ _ => .usage (a.usage c)
  | usage c => .usage (a.usage c)
  | touched => .account a

theorem bookings_concat (id : String) (steps : List Step) (step : Step) :
    bookings id (steps ++ [step]) = bookings id steps ++ (step.booking? id).toList := by
  rw [bookings, bookings, List.filterMap_append, List.filterMap_cons]
  rcases step.booking? id with _ | inner
  · rfl
  · rfl

section Accounts

variable (s : Session)

@[simp] theorem accounts_charge (charges : List Charge) :
    (s.charge charges).accounts = s.accounts := rfl

@[simp] theorem accounts_putRegistry (ref : RegistryRef) (g : Registry) :
    (s.putRegistry ref g).accounts = s.accounts := by
  cases ref with
  | named id => rfl
  | process => rfl

@[simp] theorem accounts_write (events : List Event) :
    (s.write events).accounts = s.accounts := by
  rw [write]
  split
  · rfl
  · rfl

theorem accounts_onRegistry (ref : RegistryRef) (inner : RegistryStep) :
    (s.onRegistry ref inner).state.accounts = s.accounts := by
  rw [onRegistry]
  split
  · rfl
  · rfl
  · simp only [after, Run.within, accounts_charge, accounts_putRegistry]

theorem accounts_onTable (source : TableRef) (inner : TableStep) :
    (s.onTable source inner).state.accounts = s.accounts := by
  cases source with
  | own id =>
      rw [onTable]
      split
      · rfl
      · rfl
  | filed ref type => exact s.accounts_onRegistry ref (.table type inner)

theorem accounts_enter (id : String)
    (change : Inventory → Except Fault (Inventory × List Event)) :
    (s.enter id change).state.accounts = s.accounts := by
  rw [enter]
  split
  · rfl
  · split
    · rfl
    · rfl

theorem accounts_openTable (id : String) (type : RecordType) (config : Config) :
    (s.openTable id type config).state.accounts = s.accounts := by
  rw [openTable]
  split
  · rfl
  · rfl
  · rfl

theorem accounts_dropTable (id : String) : (s.dropTable id).state.accounts = s.accounts := by
  rw [dropTable]
  split
  · rfl
  · rfl

theorem accounts_onStore (id : String) (inner : StoreStep) :
    (s.onStore id inner).state.accounts = s.accounts := by
  rw [onStore]
  split
  · rfl
  · rfl

variable {s}

theorem accounts_inventory? {source : InventoryRef} {run : Run Session (Except Fault Inventory)}
    (h : s.inventory? source = some run) : run.state.accounts = s.accounts := by
  cases source with
  | own id =>
      obtain ⟨v, -, rfl⟩ := Option.map_eq_some_iff.mp h
      rfl
  | of ref =>
      obtain ⟨⟨g, events⟩, -, rfl⟩ := Option.map_eq_some_iff.mp h
      dsimp only
      split
      · exact s.accounts_putRegistry ref _
      · exact s.accounts_putRegistry ref _

theorem accounts_source? {source : TableRef} {run : Run Session (Except Fault InternTable)}
    (h : s.source? source = some run) : run.state.accounts = s.accounts := by
  cases source with
  | own id =>
      obtain ⟨t, -, rfl⟩ := Option.map_eq_some_iff.mp h
      rfl
  | filed ref type =>
      obtain ⟨⟨g, events⟩, -, rfl⟩ := Option.map_eq_some_iff.mp h
      dsimp only
      split
      · exact s.accounts_putRegistry ref _
      · exact s.accounts_putRegistry ref _

variable (s)

theorem accounts_copyInventory (source : InventoryRef) (id : String) :
    (s.act (.copyInventory source id)).state.accounts = s.accounts := by
  rw [act]
  split
  · rfl
  · rename_i run hsource
    rw [Run.andThen]
    split
    · exact accounts_inventory? hsource
    · exact accounts_inventory? hsource

theorem accounts_exportTable (id : String) (source : TableRef) :
    (s.act (.exportTable id source)).state.accounts = s.accounts := by
  rw [act]
  split
  · rfl
  · split
    · rfl
    · rename_i run hsource
      rw [Run.andThen]
      split
      · exact accounts_source? hsource
      · exact (accounts_enter _ _ _).trans (accounts_source? hsource)

theorem accounts_act {step : Step} (hopen : ∀ id, step ≠ .openAccount id)
    (hbooking : ∀ id inner, step ≠ .account id inner) :
    (s.act step).state.accounts = s.accounts := by
  cases step with
  | openAccount id => exact absurd rfl (hopen id)
  | account id inner => exact absurd rfl (hbooking id inner)
  | openTable id type config => exact s.accounts_openTable id type config
  | dropTable id => exact s.accounts_dropTable id
  | table source inner => exact s.accounts_onTable source inner
  | memory => rfl
  | openRegistry id config =>
      rw [act]
      split
      · rfl
      · exact s.accounts_putRegistry (.named id) _
  | openUsualRegistry id => exact s.accounts_putRegistry (.named id) _
  | registry ref inner => exact s.accounts_onRegistry ref inner
  | openInventory id => rfl
  | copyInventory source id => exact s.accounts_copyInventory source id
  | addRecord id shape h fields => exact s.accounts_enter id _
  | exportTable id source => exact s.accounts_exportTable id source
  | inventory source query =>
      rw [act]
      split
      · rfl
      · rename_i run hsource
        exact accounts_inventory? hsource
  | openStore id kind blockSize capacity =>
      rw [act]
      split
      · rfl
      · rfl
  | dropStore id =>
      rw [act]
      split
      · rfl
      · rfl
  | store id inner => exact s.accounts_onStore id inner
  | installLogger filter =>
      rw [act]
      split
      · rfl
      · split
        · rfl
        · rfl

end Accounts

variable {s : Session} {id : String} {a : Account}

theorem accounts_onAccount (h : s.accounts[id]? = some a) (inner : AccountStep) :
    (s.onAccount id inner).state.accounts[id]? = some (inner.after a) := by
  cases inner with
  | add c items bytes => simp [onAccount, h, AccountStep.after]
  | remove c items bytes => simp [onAccount, h, AccountStep.after]
  | usage c => simp [onAccount, h, AccountStep.after]
  | touched => simp [onAccount, h, AccountStep.after]

theorem accounts_onAccount_of_ne {id' : String} (hid : id' ≠ id) (inner : AccountStep) :
    (s.onAccount id' inner).state.accounts[id]? = s.accounts[id]? := by
  rw [onAccount]
  split
  · rfl
  · cases inner with
    | add c items bytes => simp [Std.ExtTreeMap.getElem?_insert, hid]
    | remove c items bytes => simp [Std.ExtTreeMap.getElem?_insert, hid]
    | usage c => rfl
    | touched => rfl

/-- An account is changed by a step on it and by no other, unless a new one takes its place. -/
theorem accounts_perform (h : s.accounts[id]? = some a) {step : Step}
    (hkept : step ≠ .openAccount id) : (s.perform step).state.accounts[id]? =
      some ((step.booking? id).toList.foldl AccountStep.after a) := by
  rw [perform, Run.within, accounts_write]
  cases step with
  | account id' inner =>
      by_cases hid : id' = id
      · subst hid
        rw [Step.booking?, if_pos rfl]
        exact accounts_onAccount h inner
      · rw [Step.booking?, if_neg hid]
        exact (accounts_onAccount_of_ne hid inner).trans h
  | openAccount id' =>
      have hid : id' ≠ id := by
        rintro rfl
        exact hkept rfl
      change (s.accounts.insert id' _)[id]? = _
      rw [Std.ExtTreeMap.getElem?_insert]
      simp [hid, h, Step.booking?]
  | _ =>
      rw [accounts_act s (by simp) (by simp), h]
      rfl

theorem accounts_all (h : s.accounts[id]? = some {}) {steps : List Step}
    (hkept : Step.openAccount id ∉ steps) : (Run.all perform s steps).state.accounts[id]? =
      some (Account.ofSteps (bookings id steps)) := by
  induction steps using List.reverseRecOn with
  | nil => exact h
  | append_singleton steps step ih =>
      rw [List.mem_append, not_or, List.mem_singleton] at hkept
      rw [Run.state_all_concat, accounts_perform (ih hkept.1) (Ne.symm hkept.2), bookings_concat,
        Account.ofSteps, Account.ofSteps, List.foldl_append]

theorem answer_account (h : s.accounts[id]? = some a) (inner : AccountStep) :
    (s.perform (.account id inner)).answer = .ok (inner.shown (inner.after a)) := by
  cases inner with
  | _ => simp [perform, act, onAccount, h, Run.within, AccountStep.shown, AccountStep.after]

end Session

open Account AccountStep

/-- Until another account is opened under its name, an account follows the steps on it alone, and
every reply shows the account after the step. Its counters stop at the ends of their range and never
wrap, and each is the balance of the steps for as long as this balance stays in range. -/
theorem account_exact_while_in_range (s : Session) (id : String) (steps : List Step)
    (hkept : Step.openAccount id ∉ steps) :
    let opened := (s.perform (.openAccount id)).state
    let later := (Run.all Session.perform opened steps).state
    let history := Session.bookings id steps
    later.accounts[id]? = some (ofSteps history) ∧ CounterLaw history ∧
      ∀ inner : AccountStep, (later.perform (.account id inner)).answer =
        .ok (inner.shown (ofSteps (history ++ [inner]))) := by
  intro opened later history
  have hopened : opened.accounts[id]? = some {} := by
    simp [opened, Session.perform, Session.act, Run.within]
  have hlater : later.accounts[id]? = some (ofSteps history) := Session.accounts_all hopened hkept
  refine ⟨hlater, counterLaw history, ?_⟩
  intro inner
  rw [ofSteps_concat]
  exact Session.answer_account hlater inner

theorem bytes_emptied_and_items_exact :
    let steps : List Step := [.account "all" (.add .blocks 5 40), .openAccount "other",
      .account "other" (.add .index 1 8), .account "all" (.remove .blocks 2 100),
      .account "all" (.add .blocks 1 7)]
    let early : List AccountStep := [.add .blocks 5 40, .remove .blocks 2 100]
    let last : AccountStep := .add .blocks 1 7
    let opened := (Session.perform {} (.openAccount "all")).state
    let later := (Run.all Session.perform opened steps).state
    (later.perform (.account "all" (.usage .blocks))).answer = .ok (.usage ⟨4, 7⟩) ∧
      (ofSteps (early ++ [last])).level .blocks .items = 4 ∧
      (ofSteps (last :: early)).level .blocks .items = 4 ∧
      (ofSteps (last :: early)).level .blocks .bytes = 0 ∧
      ∀ u, (Category.index, u) ∉ (ofSteps (early ++ [last])).touched := by
  intro steps early last opened later
  obtain ⟨-, hlaw, hanswer⟩ := account_exact_while_in_range {} "all" steps (by simp [steps])
  have hhistory : Session.bookings "all" steps = early ++ [last] := rfl
  rw [hhistory] at hlaw hanswer
  have hitems : (ofSteps (early ++ [last])).level .blocks .items = 4 := by
    have hexact := (hlaw.staysInRange_iff .blocks .items).mp (by decide) _ List.prefix_rfl
    exact Int.ofNat_inj.mp hexact
  have hperm : (last :: early).Perm (early ++ [last]) := (List.perm_append_singleton last early).symm
  refine ⟨?_, hitems, ?_, ?_, ?_⟩
  · rw [hanswer]
    rfl
  · exact (hlaw.level_perm _ hperm .blocks .items (by decide) (by decide)).trans hitems
  · decide
  · intro u hu
    have huntouched : ∀ step ∈ early ++ [last], ¬ step.Touches .index := by decide
    obtain ⟨⟨step, hstep, htouches⟩, -⟩ := (hlaw.mem_touched_iff .index u).mp hu
    exact huntouched step hstep htouches

end Interner
