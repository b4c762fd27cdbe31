import Interner.Proofs.InterningHistory

namespace Interner

/-- The items of a list without those at dropped positions. -/
def kept {α : Type} (dropped : Nat → Bool) : List α → List α
  | [] => []
  | a :: rest =>
    if dropped 0 then kept (fun k => dropped (k + 1)) rest
    else a :: kept (fun k => dropped (k + 1)) rest

namespace Run

variable {σ ι α : Type} {perform : σ → ι → Run σ α}

/-- A run that gives its answer and does nothing else. -/
def LeavesNoTrace (s : σ) (run : Run σ α) : Prop := run = { answer := run.answer, state := s }

theorem LeavesNoTrace.state_eq {s : σ} {run : Run σ α} (h : run.LeavesNoTrace s) : run.state = s :=
  congrArg state h

theorem map_kept_all_of_dropped {s : σ} {i : ι} {rest : List ι} {dropped : Nat → Bool}
    (hidle : (perform s i).LeavesNoTrace s) (hdropped : dropped 0 = true) :
    (all perform s (i :: rest)).map (kept dropped) =
      (all perform s rest).map (kept fun k => dropped (k + 1)) := by
  rw [all, hidle]
  simp [andThen, map, kept, hdropped]

theorem map_kept_all_of_kept {s : σ} {i : ι} {rest : List ι} {dropped : Nat → Bool}
    (hkept : dropped 0 ≠ true) :
    (all perform s (i :: rest)).map (kept dropped) =
      (perform s i).andThen fun s a =>
        ((all perform s rest).map (kept fun k => dropped (k + 1))).map (a :: ·) := by
  rw [all]
  simp [andThen, map, kept, hkept]

theorem all_kept {s : σ} {steps : List ι} {dropped : Nat → Bool}
    (hidle : ∀ k i, steps[k]? = some i → dropped k = true →
      (perform (all perform s (steps.take k)).state i).LeavesNoTrace
        (all perform s (steps.take k)).state) :
    all perform s (kept dropped steps) = (all perform s steps).map (kept dropped) := by
  induction steps generalizing s dropped with
  | nil => rfl
  | cons i rest ih =>
      have hrest : all perform (perform s i).state (kept (fun k => dropped (k + 1)) rest) =
          (all perform (perform s i).state rest).map (kept fun k => dropped (k + 1)) :=
        ih fun k => hidle (k + 1)
      by_cases hdropped : dropped 0 = true
      · have hfirst : (perform s i).LeavesNoTrace s := hidle 0 i rfl hdropped
        rw [hfirst.state_eq] at hrest
        rw [map_kept_all_of_dropped hfirst hdropped, kept, if_pos hdropped, hrest]
      · rw [map_kept_all_of_kept hdropped, kept, if_neg hdropped, all]
        simp only [andThen, hrest]

end Run

namespace InternTable.Represents

variable {t : InternTable} {type : RecordType} {config : Config} {rs : List Record}

theorem leavesNoTrace_intern_of_get? (h : t.Represents type config rs) {handle : Handle}
    {r : Record} (hget : t.get? handle = some r) : (t.intern r).LeavesNoTrace t := by
  rw [Run.LeavesNoTrace, intern, h.insert_of_get? hget]
  rfl

theorem leavesNoTrace_intern_of_unit (h : t.Represents type config rs)
    (hunit : type.unit?.isSome) (r : Record) : (t.intern r).LeavesNoTrace t := by
  rw [Run.LeavesNoTrace, intern, h.insert_of_unit hunit]
  rfl

theorem leavesNoTrace_intern_of_error (h : t.Represents type config rs) {r : Record}
    {fault : Fault} (herror : (t.insert r).1 = .error fault) : (t.intern r).LeavesNoTrace t := by
  have hstate := h.insert_of_ge (h.ge_of_insert_error ⟨fault, herror⟩) r
  have hinsert : t.insert r = (.error fault, t) := Prod.ext herror hstate
  rw [Run.LeavesNoTrace, intern, hinsert]

end InternTable.Represents

namespace Session.TableStep

/-- Step `k` of a run inserts a record that the table has by then, or one that meets a full table. -/
inductive IsIdle (type : RecordType) (config : Config) (t : InternTable) (steps : List TableStep)
    (k : Nat) : Prop
  | known (r : Record) (h : Handle) (hstep : steps[k]? = some (.intern r))
      (hknown : (Run.all perform t (steps.take k)).state.get? h = some r)
  | exhausted (r : Record) (hstep : steps[k]? = some (.intern r))
      (hanswer : (Run.all perform t steps).answer[k]? =
        some (.error (.fault (exhaustion type config))))

theorem leavesNoTrace_perform_intern {t : InternTable} {r : Record}
    (h : (t.intern r).LeavesNoTrace t) : ((intern r).perform t).LeavesNoTrace t := by
  rw [Run.LeavesNoTrace, perform]
  by_cases hlength : r.length = t.shape.arity
  · rw [withRecord_of_length hlength, h]
    rfl
  · rw [withRecord_of_length_ne hlength]

theorem IsIdle.leavesNoTrace {type : RecordType} {config : Config} {t : InternTable}
    (h : t.Represents type config []) {steps : List TableStep} {k : Nat}
    (hidle : IsIdle type config t steps k) {step : TableStep} (hstep : steps[k]? = some step) :
    (step.perform (Run.all perform t (steps.take k)).state).LeavesNoTrace
      (Run.all perform t (steps.take k)).state := by
  have hbefore := represents_all h (steps.take k)
  cases hidle with
  | known r handle hintern hknown =>
      rw [hstep] at hintern
      cases hintern
      exact leavesNoTrace_perform_intern (hbefore.leavesNoTrace_intern_of_get? hknown)
  | exhausted r hintern hanswer =>
      rw [Run.answer_all_getElem?, hintern] at hanswer
      rw [hstep] at hintern
      cases hintern
      apply leavesNoTrace_perform_intern
      apply hbefore.leavesNoTrace_intern_of_error
      exact (insert_of_fault (Option.some.inj hanswer)).2

/-- Insertions of known records, and insertions that meet a full table, can be left out of a run. -/
theorem idle_insertions_leave_no_trace (type : RecordType) (config : Config)
    (haccept : config.accept = .ok ()) :
    ∃ t, InternTable.create type config = .ok t ∧
      ∀ (steps : List TableStep) (dropped : Nat → Bool),
        (∀ k, dropped k = true → IsIdle type config t steps k) →
        let whole := Run.all perform t steps
        let rest := Run.all perform t (kept dropped steps)
        rest.answer = kept dropped whole.answer ∧ rest.state = whole.state ∧
          rest.charges = whole.charges ∧ rest.events = whole.events ∧
          rest.background = whole.background := by
  obtain ⟨t, hcreate, ht⟩ := InternTable.represents_create type haccept
  refine ⟨t, hcreate, ?_⟩
  intro steps dropped hidle whole rest
  have hrest : rest = whole.map (kept dropped) :=
    Run.all_kept fun k step hstep hdropped => (hidle k hdropped).leavesNoTrace ht hstep
  rw [hrest]
  exact ⟨rfl, rfl, rfl, rfl, rfl⟩

theorem pair_run_without_idle_insertions :
    let type : RecordType := { shape := { id := 0, name := "pair", arity := 2 } }
    let config : Config := { blockSize := 2, maxRecords := 2 }
    let steps : List TableStep :=
      [.intern [1, 2], .intern [1, 2], .intern [3, 4], .intern [5, 6], .size]
    let dropped : Nat → Bool := fun k => k == 1 || k == 3
    config.accept = .ok () ∧ kept dropped steps = [.intern [1, 2], .intern [3, 4], .size] ∧
      ∃ t, InternTable.create type config = .ok t ∧
        (∀ k, dropped k = true → IsIdle type config t steps k) ∧
        let whole := Run.all perform t steps
        let rest := Run.all perform t [.intern [1, 2], .intern [3, 4], .size]
        rest.answer = kept dropped whole.answer ∧ rest.state = whole.state ∧
          rest.charges = whole.charges ∧ rest.events = whole.events := by
  intro type config steps dropped
  have haccept : config.accept = .ok () := Config.accept_eq_ok_iff.mpr (by decide)
  obtain ⟨t, hcreate, hall⟩ := idle_insertions_leave_no_trace type config haccept
  have hlaw := historyLaw (InternTable.represents_of_create hcreate) rfl steps
  have hidle : ∀ k, dropped k = true → IsIdle type config t steps k := by
    intro k hk
    have hcases : k = 1 ∨ k = 3 := by simpa [dropped] using hk
    rcases hcases with rfl | rfl
    · obtain ⟨h, -, hknown⟩ := hlaw.found 1 [1, 2] rfl (by decide)
      exact .known [1, 2] h rfl hknown
    · exact .exhausted [5, 6] rfl ((hlaw.exhausted_iff 3 [5, 6] rfl rfl).mpr (by decide))
  obtain ⟨hanswer, hstate, hcharges, hevents, -⟩ := hall steps dropped hidle
  exact ⟨haccept, rfl, t, hcreate, hidle, hanswer, hstate, hcharges, hevents⟩

end Session.TableStep

end Interner
