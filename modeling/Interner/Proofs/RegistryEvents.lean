import Interner.Proofs.RegistryIndependence
import Interner.Proofs.RegistrySnapshot
import Interner.Proofs.TableEvents

/-!
What a registry reports. It reports a table when a demand for it is met for the first time, what the
steps on the table report, and the inventory that it writes.
-/

namespace Interner

open Session

/-- The event tells of something new: a table, a block or an inventory that was not there before. -/
def Event.isChange : Event → Bool
  | tableCreated .. | blockAllocated .. | snapshotTaken .. => true
  | exportedTwice .. | configRejected .. => false

/-- The events of a run that tell of something new. -/
def Run.changes {σ α : Type} (r : Run σ α) : List Event := r.reported.filter Event.isChange

theorem Session.TableStep.mem_reported {t : InternTable} {type : RecordType} {config : Config}
    {rs : List Record} (h : t.Represents type config rs) {step : TableStep} {e : Event}
    (he : e ∈ (step.perform t).reported) :
    ∃ block, e = .blockAllocated type.shape block config.blockSize.toNat := by
  rw [reported_perform h] at he
  have hblocks := List.mem_append_right
    (Event.allBlocks type.shape config.blockSize.toNat t.records.blockCount) he
  rw [h.allBlocks_reports] at hblocks
  obtain ⟨block, -, rfl⟩ := List.mem_map.mp hblocks
  exact ⟨block, rfl⟩

namespace Registry

/-- What the step of a demand reports, if it makes one, on the table that the demand is for. -/
def reportOn (t : InternTable) (d : Demand) : List Event :=
  (d.step.map fun step => (step.perform t).reported).getD []

/-- What the meeting of a demand reports: a new table, and what the step on the table reports. -/
def reportFor (g : Registry) (d : Demand) : List Event :=
  match g.request d.type with
  | .error _ => []
  | .ok (t, _, events) => events ++ reportOn t d

theorem isChange_of_request {g after : Registry} {type : RecordType} {t : InternTable}
    {events : List Event} (h : g.request type = .ok (t, after, events)) :
    ∀ e ∈ events, e.isChange := by
  rw [request] at h
  split at h
  · split at h
    · cases h
      exact List.forall_mem_nil _
    · cases h
  · rcases hbuild : InternTable.build type g.config with fault | u
    · rw [hbuild] at h
      cases h
    · rw [hbuild] at h
      cases h
      exact List.forall_mem_singleton.mpr rfl

theorem isChange_reportOn {t : InternTable} {type : RecordType} {config : Config}
    {rs : List Record} (h : t.Represents type config rs) (d : Demand) :
    ∀ e ∈ reportOn t d, e.isChange := by
  obtain ⟨_, _ | step⟩ := d
  · exact List.forall_mem_nil _
  · intro e he
    obtain ⟨block, rfl⟩ := TableStep.mem_reported h he
    rfl

theorem isChange_reportFor {g : Registry} (hg : g.Sound) (d : Demand) :
    ∀ e ∈ g.reportFor d, e.isChange := by
  rcases request_cases hg d.type with ⟨t, after, events, hrequest, hgives, -⟩ |
    ⟨t, -, -, hrequest⟩
  · obtain ⟨type, rs, hrepresents⟩ := hgives.represents hg
    simp only [reportFor, hrequest]
    exact List.forall_mem_append.mpr
      ⟨isChange_of_request hrequest, isChange_reportOn hrepresents d⟩
  · simp only [reportFor, hrequest]
    exact List.forall_mem_nil _

/-- The inventory is reported when it is written, and nothing else is then. -/
theorem exists_inventory {g : Registry} (hg : g.Sound) (hregular : g.Regular) :
    ∃ v, g.inventory = .ok (v, { g with snapshot := some v },
      if g.snapshot.isSome then [] else [.snapshotTaken g.tableCount v.size]) := by
  rcases hsnapshot : g.snapshot with _ | v
  · obtain ⟨v, -, hexport⟩ := exists_lists hg hregular
    exact ⟨v, inventory_of_none hsnapshot (hexport _ g.tablesInOrder_perm)⟩
  · have hsame : { g with snapshot := some v } = g := by rw [← hsnapshot]
    exact ⟨v, hsame.symm ▸ inventory_of_some hsnapshot⟩

end Registry

namespace Session.RegistryStep

theorem reported_onTable (g : Registry) (type : RecordType) (step : TableStep) :
    (onTable g type step).reported = g.reportFor ⟨type, some step⟩ := by
  rcases hrequest : g.request type with fault | ⟨t, after, events⟩
  · simp only [onTable, Registry.reportFor, hrequest, Run.reported, List.append_nil]
  · simp only [onTable, Registry.reportFor, Registry.reportOn, hrequest, Run.reported, Run.within,
      Option.map_some, Option.getD_some, List.append_assoc]

theorem reported_requestAgain_of_again {g : Registry} {type : RecordType} {t : InternTable}
    (h : g.request type = .ok (t, g, [])) (times : Nat) :
    (requestAgain g type times).reported = [] := by
  induction times with
  | zero => rfl
  | succ times ih =>
      simp only [requestAgain, h]
      exact ih

theorem reported_requestAgain {g : Registry} (hg : g.Sound) (type : RecordType) (times : Nat) :
    (requestAgain g type (times + 1)).reported = g.reportFor ⟨type, none⟩ := by
  rcases hrequest : g.request type with fault | ⟨t, after, events⟩
  · simp only [requestAgain, Registry.reportFor, hrequest]
    rfl
  -- After the first request the table is on file.
  · have hagain := reported_requestAgain_of_again (serve_requested hg hrequest) times
    rw [Run.reported] at hagain
    simp only [requestAgain, Registry.reportFor, hrequest, Run.reported, Run.map,
      List.append_assoc, hagain]
    rfl

theorem reported_perform_of_demand {g : Registry} (hg : g.Sound) {step : RegistryStep}
    {d : Demand} (h : step.demand? = some d) : (step.perform g).reported = g.reportFor d := by
  cases step with
  | intern type fields =>
      rw [demand?] at h
      split at h
      · rename_i hlength
        cases h
        rw [perform, refusal?, Shape.record, if_pos hlength]
        exact reported_onTable g type _
      · cases h
  | resolve type handle =>
      cases h
      exact reported_onTable g type _
  | lookup type handle =>
      cases h
      exact reported_onTable g type _
  | table type step =>
      cases h
      exact reported_onTable g type _
  | sameTable type =>
      cases h
      exact reported_requestAgain hg type 1
  | sameTableTogether type threads =>
      rw [demand?] at h
      split at h
      · cases h
      · rename_i hthreads
        cases h
        obtain ⟨times, rfl⟩ := Nat.exists_eq_succ_of_ne_zero hthreads
        exact reported_requestAgain hg type times
  | _ => cases h

theorem reported_perform_of_none {g : Registry} {step : RegistryStep} (h : step.demand? = none)
    (hne : step ≠ .inventory) : (step.perform g).reported = [] := by
  cases step with
  | intern type fields =>
      rw [demand?] at h
      split at h
      · cases h
      · rename_i hlength
        rw [perform, refusal?, Shape.record, if_neg hlength]
        rfl
  | sameTableTogether type threads =>
      rw [demand?] at h
      split at h
      · rename_i hthreads
        rw [hthreads]
        rfl
      · cases h
  | inventory => exact absurd rfl hne
  | config => rfl
  | tableCount => rfl
  | shapes => rfl
  | _ => cases h

/-- A registry in good order reports nothing but what is new. -/
theorem isChange_perform {g : Registry} (hg : g.Sound) (hregular : g.Regular)
    (step : RegistryStep) : ∀ e ∈ (step.perform g).reported, e.isChange := by
  rcases hdemand : step.demand? with _ | d
  · by_cases hstep : step = .inventory
    · obtain ⟨v, hinventory⟩ := Registry.exists_inventory hg hregular
      rw [hstep, perform_inventory hinventory, Run.reported, List.append_nil]
      split
      · exact List.forall_mem_nil _
      · exact List.forall_mem_singleton.mpr rfl
    · rw [reported_perform_of_none hdemand hstep]
      exact List.forall_mem_nil _
  · rw [reported_perform_of_demand hg hdemand]
    exact Registry.isChange_reportFor hg d

/-- A registry keeps an inventory as soon as one was asked for. -/
theorem isSome_snapshot_all_iff {g : Registry} (hg : g.Sound) (hregular : g.Regular)
    (hnone : g.snapshot = none) (steps : List RegistryStep) :
    (Run.all perform g steps).state.snapshot.isSome ↔ .inventory ∈ steps := by
  induction steps using List.reverseRecOn with
  | nil => simp [Run.all, hnone]
  | append_singleton steps step ih =>
      obtain ⟨hsound, hregular⟩ := sound_and_regular_all hg hregular steps
      rw [Run.state_all_concat, List.mem_append, List.mem_singleton]
      by_cases hstep : step = .inventory
      · obtain ⟨v, hinventory⟩ := Registry.exists_inventory hsound hregular
        rw [hstep, perform_inventory hinventory]
        simp
      · rw [snapshot_perform hsound hstep, ih]
        simp [Ne.symm hstep]

end Session.RegistryStep

namespace Registry

open Demand

variable {g : Registry} {config : Config} {types : Set RecordType} {ds : List Demand}

theorem Splits.reportFor_eq (h : g.Splits config types ds) {d : Demand} (hd : d.type ∈ types)
    {t : InternTable} (ht : InternTable.build d.type config = .ok t) :
    g.reportFor d =
      (if d.type ∈ ds.map (·.type) then []
        else [.tableCreated d.type.shape config.blockSize.toNat]) ++
      reportOn (Run.all TableStep.perform t (stepsOn d.type ds)).state d := by
  have hfind := h.find?_eq d.type hd t ht
  obtain ⟨t', ht', hrepresents⟩ := h.build_eq d.type
  rw [ht] at ht'
  cases ht'
  rw [reportFor]
  split at hfind
  · rename_i hasked
    have hshape := (TableStep.represents_all hrepresents (stepsOn d.type ds)).shape_eq
    rw [request_of_find? hfind hshape, if_pos hasked]
  · rename_i hnew
    have hblockSize : t.blockSize = config.blockSize.toNat := hrepresents.holds.blockSize_eq
    rw [request_of_none hfind (h.config_eq ▸ ht), if_neg hnew, stepsOn_of_notMem hnew,
      hrepresents.shape_eq, hblockSize]
    rfl

end Registry

end Interner
