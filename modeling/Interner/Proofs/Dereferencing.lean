import Interner.Proofs.InterningHistory

/-!
Four ways lead from a handle to its record: to get it, to look it up, to resolve it, and to resolve it
on trust. They agree on every handle and leave the table alone. Where a type has a unit record, the
last two do not look at the handle.
-/

namespace Interner

open Session

namespace InternTable

/-- All four ways lead from the handle to this record. -/
structure LeadsTo (t : InternTable) (h : Handle) (r : Record) : Prop where
  get : (TableStep.get h).perform t = { answer := .ok (.recordIfAny (some r)), state := t }
  lookup : (TableStep.lookup h).perform t = { answer := .ok (.record r), state := t }
  resolve : (TableStep.resolve h).perform t = { answer := .ok (.record r), state := t }
  resolveTrusted :
    (TableStep.resolveTrusted h).perform t = { answer := .ok (.record r), state := t }

/-- The two ways that always look at the handle turn it down. -/
structure TurnsDown (t : InternTable) (h : Handle) : Prop where
  get : (TableStep.get h).perform t = { answer := .ok (.recordIfAny none), state := t }
  lookup : (TableStep.lookup h).perform t =
    { answer := .error (.error (.invalidHandle t.shape.name h t.size)), state := t }

section Ways

variable {t : InternTable} {handle : Handle}

theorem leadsTo_of_get? {r : Record} (hget : t.get? handle = some r) : t.LeadsTo handle r := by
  constructor
  case get => rw [TableStep.perform, hget]
  case lookup =>
    rw [TableStep.perform, lookup_of_get? hget]
    rfl
  case resolve =>
    rw [TableStep.perform, resolve_of_get? hget]
    rfl
  case resolveTrusted =>
    rw [TableStep.perform, resolveTrusted_of_get? hget]
    rfl

theorem lookup_of_get?_eq_none (hget : t.get? handle = none) :
    t.lookup handle = .error (.invalidHandle t.shape.name handle t.size) := by
  rw [lookup, hget]

theorem resolve_of_get?_eq_none (hunit : t.unit = none) (hget : t.get? handle = none) :
    t.resolve handle = .error (.fatal (.invalidHandle t.shape.name handle t.size)) := by
  simp only [resolve, hunit, lookup_of_get?_eq_none hget]
  rfl

theorem turnsDown_of_get?_eq_none (hget : t.get? handle = none) : t.TurnsDown handle := by
  constructor
  case get => rw [TableStep.perform, hget]
  case lookup =>
    rw [TableStep.perform, lookup_of_get?_eq_none hget]
    rfl

theorem perform_resolve_of_unit {unit : Record} (hunit : t.unit = some unit) :
    (TableStep.resolve handle).perform t = { answer := .ok (.record unit), state := t } := by
  simp only [TableStep.perform, resolve, hunit]
  rfl

theorem perform_resolveTrusted_of_unit {unit : Record} (hunit : t.unit = some unit) :
    (TableStep.resolveTrusted handle).perform t =
      { answer := .ok (.record unit), state := t } := by
  simp only [TableStep.perform, resolveTrusted, hunit]
  rfl

end Ways

end InternTable

namespace Session.TableStep

open InternTable

/-- An insertion of the run gave out the handle for the record, whichever step made it. -/
def GivesOut (t : InternTable) (steps : List TableStep) (h : Handle) (r : Record) : Prop :=
  ∃ before more growth, history t.shape steps = before ++ r :: more ∧
    ((t.insertAll before).insert r).1 = .ok { handle := h, growth }

section Fresh

variable {t : InternTable} {type : RecordType} {config : Config} {steps : List TableStep}
  {h : Handle} {r : Record}

theorem givesOut_of_intern (ht : t.Represents type config []) {i : Nat}
    (hstep : steps[i]? = some (.intern r))
    (hanswer : (Run.all perform t steps).answer[i]? = some (.ok (.handle h))) :
    GivesOut t steps h r := by
  have hshape := (represents_all ht (steps.take i)).shape_eq
  rw [Run.answer_all_getElem?, hstep, Option.map_some, Option.some_inj] at hanswer
  obtain ⟨hlength, growth, hinsert⟩ := insert_of_handle hanswer
  rw [state_all ht, ← ht.shape_eq] at hinsert
  rw [hshape, ← ht.shape_eq] at hlength
  exact ⟨_, _, growth, history_split hstep hlength, hinsert⟩

theorem get?_of_givesOut (ht : t.Represents type config []) (hgives : GivesOut t steps h r) :
    (Run.all perform t steps).state.get? h = some r := by
  obtain ⟨before, more, growth, hhistory, hinsert⟩ := hgives
  have hbefore := ht.insertAll before
  have hmem : r ∈ history t.shape steps := by
    rw [hhistory]
    exact List.mem_append_right _ List.mem_cons_self
  have hlength := length_of_mem_history hmem
  rw [ht.shape_eq] at hlength
  have hget := hbefore.get?_of_insert hlength hinsert
  rw [state_all ht, ← ht.shape_eq, hhistory, InternTable.insertAll_append]
  exact (hbefore.insert r).get?_insertAll more hget

end Fresh

structure DereferenceLaw (type : RecordType) (t : InternTable) (steps : List TableStep)
    (after : InternTable) : Prop where
  shape_eq : after.shape = type.shape
  valid : ∀ h : Handle, 1 ≤ h.toInt → h.toInt ≤ after.size → ∃ r, after.LeadsTo h r
  invalid : ∀ h : Handle, ¬ (1 ≤ h.toInt ∧ h.toInt ≤ after.size) → after.TurnsDown h
  fatal : type.unit? = none → ∀ h : Handle, ¬ (1 ≤ h.toInt ∧ h.toInt ≤ after.size) →
    (resolve h).perform after = {
      answer := .error (.fault (.fatal (.invalidHandle type.shape.name h after.size)))
      state := after }
  givenOut : ∀ h r, GivesOut t steps h r → after.LeadsTo h r
  answered : ∀ (i : Nat) (r : Record) (h : Handle), steps[i]? = some (.intern r) →
    (Run.all perform t steps).answer[i]? = some (.ok (.handle h)) → after.LeadsTo h r
  /-- A unit record has one handle, which two of the ways do not ask for. -/
  unit : ∀ u, type.unit? = some u →
    after.size = 1 ∧ after.LeadsTo Handle.unit u ∧ (∀ h, h ≠ Handle.unit → after.TurnsDown h) ∧
      ∀ h, (resolve h).perform after = { answer := .ok (.record u), state := after } ∧
        (resolveTrusted h).perform after = { answer := .ok (.record u), state := after }

theorem dereferenceLaw {t : InternTable} {type : RecordType} {config : Config}
    (ht : t.Represents type config []) (steps : List TableStep) :
    DereferenceLaw type t steps (Run.all perform t steps).state := by
  have hafter := represents_all ht steps
  have hgivesOut : ∀ h r, GivesOut t steps h r →
      (Run.all perform t steps).state.LeadsTo h r := by
    intro h r hgives
    exact leadsTo_of_get? (get?_of_givesOut ht hgives)
  generalize hstate : (Run.all perform t steps).state = after at hafter hgivesOut
  have hnone : ∀ h : Handle, ¬ (1 ≤ h.toInt ∧ h.toInt ≤ after.size) → after.get? h = none := by
    intro h hinvalid
    rw [← hafter.get?_isSome_iff] at hinvalid
    exact Option.not_isSome_iff_eq_none.mp hinvalid
  constructor
  case shape_eq => exact hafter.shape_eq
  case valid =>
    intro h hpos hle
    obtain ⟨r, hget⟩ := Option.isSome_iff_exists.mp ((hafter.get?_isSome_iff h).mpr ⟨hpos, hle⟩)
    exact ⟨r, leadsTo_of_get? hget⟩
  case invalid =>
    intro h hinvalid
    exact turnsDown_of_get?_eq_none (hnone h hinvalid)
  case fatal =>
    intro hunit h hinvalid
    have hresolve := resolve_of_get?_eq_none (hafter.unit_eq.trans hunit) (hnone h hinvalid)
    rw [perform, hresolve, hafter.shape_eq]
    rfl
  case givenOut => exact hgivesOut
  case answered =>
    intro i r h hstep hanswer
    exact hgivesOut h r (givesOut_of_intern ht hstep hanswer)
  case unit =>
    intro u hunit
    have hstored : after.unit = some u := hafter.unit_eq.trans hunit
    have hsize : after.size = 1 := by
      rw [hafter.size_eq, hunit]
      rfl
    refine ⟨hsize, leadsTo_of_get? ?_, ?_, ?_⟩
    · rw [get?, hstored]
      exact if_pos rfl
    · intro h hne
      apply turnsDown_of_get?_eq_none
      rw [get?, hstored]
      exact if_neg hne
    · intro h
      exact ⟨perform_resolve_of_unit hstored, perform_resolveTrusted_of_unit hstored⟩

/-- The four ways from a handle to its record agree after every run on a fresh table. -/
theorem ways_agree_on_every_handle (type : RecordType) (config : Config)
    (haccept : config.accept = .ok ()) :
    ∃ t, InternTable.create type config = .ok t ∧
      (∀ steps, DereferenceLaw type t steps (Run.all perform t steps).state) ∧
      ∀ (h : Handle) (issued : Nat),
        let error : RecordError := .invalidHandle type.shape.name h issued
        (Fault.fatal error).message = error.message ∧
          error.message = "Invalid handle " ++ toString h ++ " for shape " ++ type.shape.name ++
            ": " ++ toString issued ++ " record(s) issued" := by
  obtain ⟨t, hcreate, ht⟩ := represents_create type haccept
  refine ⟨t, hcreate, dereferenceLaw ht, ?_⟩
  intro h issued error
  exact ⟨rfl, rfl⟩

theorem third_handle_of_two_pairs_is_fatal :
    let type : RecordType := { shape := { id := 0, name := "pair", arity := 2 } }
    let config : Config := { blockSize := 2, maxRecords := 4 }
    let steps : List TableStep := [.intern [1, 2], .intern [3, 4], .intern [1, 2]]
    config.accept = .ok () ∧ ∃ t, InternTable.create type config = .ok t ∧
      let after := (Run.all perform t steps).state
      after.LeadsTo 2 [3, 4] ∧ after.TurnsDown 3 ∧ after.TurnsDown Int32.minValue ∧
        ((resolve 3).perform after).answer =
          .error (.fault (.fatal (.invalidHandle "pair" 3 2))) := by
  intro type config steps
  have haccept : config.accept = .ok () := Config.accept_eq_ok_iff.mpr (by decide)
  obtain ⟨t, hcreate, hlaw, -⟩ := ways_agree_on_every_handle type config haccept
  have ht := represents_of_create hcreate
  have hsize : (Run.all perform t steps).state.size = 2 := (historyLaw ht rfl steps).size 3
  obtain ⟨h, hanswer, hint⟩ := (historyLaw ht rfl steps).handle 1 [3, 4] rfl (by decide)
  have htwo : h = 2 := Int32.toInt_inj.mp hint
  have hfatal := (hlaw steps).fatal rfl 3 (by rw [hsize]; decide)
  refine ⟨haccept, t, hcreate, ?_, ?_, ?_, ?_⟩
  · exact htwo ▸ (hlaw steps).answered 1 [3, 4] h rfl hanswer
  · exact (hlaw steps).invalid 3 (by rw [hsize]; decide)
  · exact (hlaw steps).invalid Int32.minValue (by rw [hsize]; decide)
  · rw [hfatal, hsize]

end Session.TableStep

end Interner
