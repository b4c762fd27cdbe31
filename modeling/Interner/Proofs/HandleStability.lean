import Interner.Proofs.Dereferencing
import Interner.Proofs.RegistrySteps

namespace Interner

open Session

theorem Session.Demand.applyTo_intern {t : InternTable} {type : RecordType} {r : Record}
    (h : r.length = t.shape.arity) :
    applyTo ⟨type, some (.intern r)⟩ t = (t.insert r).2 := by
  rw [applyTo]
  simp only [TableStep.perform, TableStep.withRecord_of_length h]
  exact t.state_intern r

namespace InternTable

theorem get?_applyTo {t : InternTable} {config : Config}
    (h : ∃ type rs, t.Represents type config rs) (d : Demand) {handle : Handle} {r : Record}
    (hget : t.get? handle = some r) : (d.applyTo t).get? handle = some r := by
  obtain ⟨type, rs, h⟩ := h
  obtain ⟨history, happly⟩ := Demand.applyTo_eq h d
  rw [happly]
  exact h.get?_of_prefix (h.insertAll history) (prefix_foldl_extend _ _ _) hget

end InternTable

namespace Registry

/-- The registry has a table for the shape, and there the handle stands for the record. -/
def Names (g : Registry) (s : Shape) (h : Handle) (r : Record) : Prop :=
  ∃ t, g.find? s = some t ∧ t.shape = s ∧ t.get? h = some r

theorem Names.unique {g : Registry} {s : Shape} {h : Handle} {r r' : Record}
    (hr : g.Names s h r) (hr' : g.Names s h r') : r = r' := by
  obtain ⟨t, hfind, -, hget⟩ := hr
  obtain ⟨u, hfind', -, hget'⟩ := hr'
  rw [hfind] at hfind'
  cases hfind'
  rw [hget] at hget'
  exact Option.some.inj hget'

theorem Names.of_gives {g : Registry} {s : Shape} {type : RecordType} {h : Handle} {r : Record}
    {t : InternTable} (hname : g.Names s h r) (hgives : g.Gives type t)
    (hid : s.id = type.shape.id) : t.shape = s ∧ t.get? h = some r := by
  obtain ⟨u, hfind, hshape, hget⟩ := hname
  rw [g.find?_congr hid] at hfind
  obtain ⟨-, hfind' | ⟨hnone, -⟩⟩ := hgives
  · rw [hfind] at hfind'
    cases hfind'
    exact ⟨hshape, hget⟩
  · rw [hfind] at hnone
    cases hnone

theorem Names.serve {g : Registry} (hg : g.Sound) {s : Shape} {h : Handle} {r : Record}
    (hname : g.Names s h r) (d : Demand) : (g.serve d).Names s h r := by
  rcases serve_cases hg d with ⟨t, after, events, -, hgives, hfiled⟩ | ⟨t, -, -, -, hserve⟩
  · have ht := hgives.represents hg
    have happly := Demand.shape_applyTo ht d
    by_cases hid : s.id = d.type.shape.id
    · obtain ⟨hshape, hget⟩ := hname.of_gives hgives hid
      refine ⟨d.applyTo t, ?_, happly.trans hshape, InternTable.get?_applyTo ht d hget⟩
      rw [hfiled.find?_eq, if_pos (by rw [happly, hshape])]
    · obtain ⟨u, hfind, hu, hget⟩ := hname
      refine ⟨u, ?_, hu, hget⟩
      rw [hfiled.find?_eq, if_neg (by rwa [happly, hgives.1]), hfind]
  · rw [hserve]
    exact hname

end Registry

namespace Session.RegistryStep

/-- The type and the fields that a step interns, if it interns one record. -/
def interned? : RegistryStep → Option (RecordType × List Int32)
  | .intern type fields | .table type (.intern fields) => some (type, fields)
  | _ => none

theorem names_perform {g : Registry} (hg : g.Sound) {s : Shape} {h : Handle} {r : Record}
    (hname : g.Names s h r) (step : RegistryStep) : (step.perform g).state.Names s h r := by
  have hmeet : (g.meet step.demand?).Names s h r := by
    rcases step.demand? with _ | d
    · exact hname
    · exact hname.serve hg d
  obtain ⟨t, hfind, ht⟩ := hmeet
  refine ⟨t, ?_, ht⟩
  rw [(sameTables_perform hg step).find?_eq, hfind]

theorem demand?_of_answer {g : Registry} {step : RegistryStep} {type : RecordType} {r : Record}
    {h : Handle} (hstep : step.interned? = some (type, r))
    (hanswer : (step.perform g).answer = .ok (.handle h)) :
    step.demand? = some ⟨type, some (.intern r)⟩ := by
  cases step with
  | intern type' fields =>
      cases hstep
      by_cases hlength : r.length = type.shape.arity
      · exact if_pos hlength
      · rw [perform, refusal?, Shape.record, if_neg hlength] at hanswer
        cases hanswer
  | table type' inner =>
      cases inner with
      | intern fields =>
          cases hstep
          rfl
      | _ => cases hstep
  | _ => cases hstep

/-- What a step that interns a record and is given a handle went through: the table it was given
took the record under that handle. -/
theorem insert_of_answer {g : Registry} (hg : g.Sound) {step : RegistryStep} {type : RecordType}
    {r : Record} {h : Handle} (hstep : step.interned? = some (type, r))
    (hanswer : (step.perform g).answer = .ok (.handle h)) :
    r.length = type.shape.arity ∧ ∃ t growth, g.Gives type t ∧
      (t.insert r).1 = .ok { handle := h, growth } ∧
      g.Filed (t.insert r).2 (step.perform g).state := by
  have hdemand := demand?_of_answer hstep hanswer
  have hinsertion := answer_perform_of_demand g hdemand
  rw [hanswer] at hinsertion
  rcases Registry.serve_cases hg ⟨type, some (.intern r)⟩ with
    ⟨t, after, events, hrequest, hgives, hfiled⟩ | ⟨t, -, -, hrequest, -⟩
  · simp only [hrequest] at hinsertion
    obtain ⟨hlength, growth, hinsert⟩ := TableStep.insert_of_handle hinsertion.symm
    rw [Demand.applyTo_intern hlength, ← state_perform_of_demand hg hdemand] at hfiled
    exact ⟨by rw [hlength, hgives.1], t, growth, hgives, hinsert, hfiled⟩
  · simp only [hrequest] at hinsertion
    cases hinsertion

theorem names_of_answer {g : Registry} (hg : g.Sound) {step : RegistryStep} {type : RecordType}
    {r : Record} {h : Handle} (hstep : step.interned? = some (type, r))
    (hanswer : (step.perform g).answer = .ok (.handle h)) :
    (step.perform g).state.Names type.shape h r := by
  obtain ⟨hlength, t, growth, hgives, hinsert, hfiled⟩ := insert_of_answer hg hstep hanswer
  obtain ⟨type', rs, ht⟩ := hgives.represents hg
  have hshape : (t.insert r).2.shape = type.shape := by
    rw [(ht.insert r).shape_eq, ← ht.shape_eq, hgives.1]
  refine ⟨(t.insert r).2, ?_, hshape, ?_⟩
  · rw [hfiled.find?_eq, if_pos (by rw [hshape])]
  · exact ht.get?_of_insert (by rw [hlength, ← hgives.1, ht.shape_eq]) hinsert

theorem answer_of_names {g : Registry} (hg : g.Sound) {step : RegistryStep} {type : RecordType}
    {r : Record} {h h' : Handle} (hname : g.Names type.shape h r)
    (hstep : step.interned? = some (type, r))
    (hanswer : (step.perform g).answer = .ok (.handle h')) : h' = h := by
  obtain ⟨-, t, growth, hgives, hinsert, -⟩ := insert_of_answer hg hstep hanswer
  obtain ⟨type', rs, ht⟩ := hgives.represents hg
  rw [ht.insert_of_get? (hname.of_gives hgives rfl).2] at hinsert
  cases hinsert
  rfl

/-- The four ways to dereference a handle all give the record that it names. -/
theorem dereference_of_names {g : Registry} {type : RecordType} {h : Handle} {r : Record}
    (hname : g.Names type.shape h r) :
    ((resolve type h).perform g).answer = .ok (.record r) ∧
      ((lookup type h).perform g).answer = .ok (.record r) ∧
      ((table type (.get h)).perform g).answer = .ok (.recordIfAny (some r)) ∧
      ((table type (.resolveTrusted h)).perform g).answer = .ok (.record r) := by
  obtain ⟨t, hfind, hshape, hget⟩ := hname
  have hrequest := Registry.request_of_find? hfind hshape
  have hleads := InternTable.leadsTo_of_get? hget
  refine ⟨?_, ?_, ?_, ?_⟩
  · rw [answer_perform_of_demand g rfl]
    simp only [hrequest, hleads.resolve]
  · rw [answer_perform_of_demand g rfl]
    simp only [hrequest, hleads.lookup]
  · rw [answer_perform_of_demand g rfl]
    simp only [hrequest, hleads.get]
  · rw [answer_perform_of_demand g rfl]
    simp only [hrequest, hleads.resolveTrusted]

theorem names_all {g : Registry} (hg : g.Sound) {s : Shape} {h : Handle} {r : Record}
    (hname : g.Names s h r) (steps : List RegistryStep) :
    (Run.all perform g steps).state.Names s h r := by
  induction steps generalizing g with
  | nil => exact hname
  | cons step steps ih => exact ih (sound_perform hg step) (names_perform hg hname step)

theorem names_take {g : Registry} (hg : g.Sound) {steps : List RegistryStep} {i k : Nat}
    (hik : i < k) {type : RecordType} {r : Record} {h : Handle}
    (hstep : steps[i]?.bind interned? = some (type, r))
    (hanswer : (Run.all perform g steps).answer[i]? = some (.ok (.handle h))) :
    (Run.all perform g (steps.take k)).state.Names type.shape h r := by
  obtain ⟨step, hget, hinterned⟩ := Option.bind_eq_some_iff.mp hstep
  have hbefore := sound_all hg (steps.take i)
  rw [Run.answer_all_getElem?, hget, Option.map_some, Option.some_inj] at hanswer
  have hname := names_of_answer hbefore hinterned hanswer
  rw [Run.state_all_take hget hik]
  exact names_all (sound_perform hbefore step) hname _

end Session.RegistryStep

/-- Handles are canonical and permanent in every run of a registry: of two steps that were given a
handle for a record of one type, equal handles mean equal records, and at any time after a step its
handle leads to its record on every way. -/
theorem handles_canonical_and_permanent (config : Config) (g : Registry)
    (hcreate : Registry.create config = .ok g) (steps : List RegistryStep) (type : RecordType)
    (i j : Nat) (hij : i ≤ j) (r r' : Record) (h h' : Handle)
    (hi : steps[i]?.bind RegistryStep.interned? = some (type, r))
    (hanswer : (Run.all RegistryStep.perform g steps).answer[i]? = some (.ok (.handle h)))
    (hj : steps[j]?.bind RegistryStep.interned? = some (type, r'))
    (hanswer' : (Run.all RegistryStep.perform g steps).answer[j]? = some (.ok (.handle h'))) :
    (h = h' ↔ r = r') ∧ ∀ k, i < k →
      let later := (Run.all RegistryStep.perform g (steps.take k)).state
      ((RegistryStep.resolve type h).perform later).answer = .ok (.record r) ∧
        ((RegistryStep.lookup type h).perform later).answer = .ok (.record r) ∧
        ((RegistryStep.table type (.get h)).perform later).answer = .ok (.recordIfAny (some r)) ∧
        ((RegistryStep.table type (.resolveTrusted h)).perform later).answer = .ok (.record r) := by
  have hg := Registry.sound_of_create hcreate
  have hnames : ∀ k, i < k →
      (Run.all RegistryStep.perform g (steps.take k)).state.Names type.shape h r := by
    intro k hik
    exact RegistryStep.names_take hg hik hi hanswer
  refine ⟨⟨?_, ?_⟩, ?_⟩
  · rintro rfl
    have hname := hnames (j + 1) (Nat.lt_succ_of_le hij)
    exact hname.unique (RegistryStep.names_take hg (Nat.lt_succ_self j) hj hanswer')
  · rintro rfl
    rcases Nat.lt_or_eq_of_le hij with hlt | rfl
    · obtain ⟨step, hget, hinterned⟩ := Option.bind_eq_some_iff.mp hj
      rw [Run.answer_all_getElem?, hget, Option.map_some, Option.some_inj] at hanswer'
      exact (RegistryStep.answer_of_names (RegistryStep.sound_all hg (steps.take j))
        (hnames j hlt) hinterned hanswer').symm
    · rw [hanswer] at hanswer'
      cases hanswer'
      rfl
  · intro k hik
    exact RegistryStep.dereference_of_names (hnames k hik)

theorem first_pair_resolved_after_other_steps :
    let pair : RecordType := { shape := { id := 0, name := "pair", arity := 2 } }
    let edge : RecordType := { shape := { id := 1, name := "edge", arity := 2 } }
    let g : Registry := { config := { blockSize := 2, maxRecords := 2 } }
    let steps : List RegistryStep :=
      [.intern pair [1, 2], .intern edge [3, 4], .intern pair [5, 6], .inventory,
        .intern pair [7, 8]]
    let later := (Run.all RegistryStep.perform g steps).state
    ((RegistryStep.resolve pair 1).perform later).answer = .ok (.record [1, 2]) := by
  intro pair edge g steps later
  have hcreate : Registry.create g.config = .ok g :=
    Registry.create_of_accept (Config.accept_eq_ok_iff.mpr (by decide))
  have hfirst : (Run.all RegistryStep.perform g steps).answer[0]? = some (.ok (.handle 1)) := by
    rw [Run.answer_all_getElem?]
    cbv
  have hthird : (Run.all RegistryStep.perform g steps).answer[2]? = some (.ok (.handle 2)) := by
    rw [Run.answer_all_getElem?]
    cbv
  have hstable := handles_canonical_and_permanent g.config g hcreate steps pair 0 2 (by decide)
    [1, 2] [5, 6] 1 2 rfl hfirst rfl hthird
  exact (hstable.2 5 (by decide)).1

end Interner
