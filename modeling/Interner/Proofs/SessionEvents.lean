import Interner.Proofs.RegistryEvents
import Interner.Proofs.SessionMemory

/-!
What a session reports. A step comes to one registry at most, and then to one step on it; what that
reports is what the session reports, with a word in front if the registry is made for it, and with
the fields behind it that an inventory refuses.
-/

namespace Interner

open Session

def Event.isExportedTwice : Event → Bool
  | exportedTwice .. => true
  | _ => false

namespace Inventory

theorem isExportedTwice_of_add {v after : Inventory} {s : Shape} {h : Handle} {fields : Record}
    {events : List Event} (hadd : v.add s h fields = .ok (after, events)) :
    ∀ e ∈ events, e.isExportedTwice := by
  rw [add] at hadd
  split at hadd
  · cases hadd
    split
    · split
      · exact List.forall_mem_nil _
      · exact List.forall_mem_singleton.mpr rfl
    · exact List.forall_mem_nil _
  · cases hadd

theorem isExportedTwice_of_exportTo {t : InternTable} {v after : Inventory} {events : List Event}
    (h : t.exportTo v = .ok (after, events)) : ∀ e ∈ events, e.isExportedTwice := by
  refine of_foldlM (motive := fun (told : Inventory × List Event) =>
    ∀ e ∈ told.2, e.isExportedTwice) (List.forall_mem_nil _) ?_ h
  rintro ⟨v, earlier⟩ ⟨handle, fields⟩ told hearlier hentered
  obtain ⟨⟨_, more⟩, hadd, rfl⟩ := exists_of_map hentered
  exact List.forall_mem_append.mpr ⟨hearlier, isExportedTwice_of_add hadd⟩

end Inventory

namespace Session

theorem SameTables.registry?_eq {s s' : Session} (h : s.SameTables s') (ref : RegistryRef) :
    s.registry? ref = s'.registry? ref :=
  registry?_congr h.environment_eq h.registries_eq h.processRegistry_eq ref

/-- The step on the registry `ref` that a step comes to. To export a table is to ask for it once. -/
def consultation? (s : Session) (ref : RegistryRef) : Step → Option RegistryStep
  | .table (.filed ref' type) step => if ref' = ref then some (.table type step) else none
  | .registry ref' step => if ref' = ref ∧ step.refusal? = none then some step else none
  | .exportTable id (.filed ref' type) =>
    if ref' = ref ∧ (s.inventories[id]?).isSome then some (.sameTableTogether type 1) else none
  | .copyInventory (.of ref') _ => if ref' = ref then some .inventory else none
  | .inventory (.of ref') _ => if ref' = ref then some .inventory else none
  | _ => none

theorem demand?_eq_bind (s : Session) (ref : RegistryRef) (step : Step) :
    s.demand? ref step = (s.consultation? ref step).bind RegistryStep.demand? := by
  cases step with
  | table source inner =>
      cases source with
      | own id => rfl
      | filed ref' type =>
          rw [demand?, consultation?]
          split
          · rfl
          · rfl
  | registry ref' inner =>
      rw [demand?, consultation?]
      by_cases href : ref' = ref
      · rw [if_pos href]
        rcases hrefusal : inner.refusal? with _ | cause
        · rw [if_pos ⟨href, rfl⟩, Option.bind_some]
        · rw [RegistryStep.demand?_of_refusal hrefusal, if_neg (by rintro ⟨-, ⟨⟩⟩),
            Option.bind_none]
      · rw [if_neg href, if_neg (mt And.left href), Option.bind_none]
  | exportTable id source =>
      cases source with
      | own id' => rfl
      | filed ref' type =>
          rw [demand?, consultation?]
          split
          · rfl
          · rfl
  | copyInventory source id =>
      cases source with
      | own id' => rfl
      | of ref' =>
          change none = (if ref' = ref then some RegistryStep.inventory else none).bind _
          split
          · rfl
          · rfl
  | inventory source query =>
      cases source with
      | own id => rfl
      | of ref' =>
          change none = (if ref' = ref then some RegistryStep.inventory else none).bind _
          split
          · rfl
          · rfl
  | _ => rfl

/-- What a step reports, and what it makes of the registries. -/
inductive Report (s : Session) (step : Step) (run : Run Session Reply) : Prop
  | consulted (ref : RegistryRef) (inner : RegistryStep) (g : Registry)
      (prologue exports : List Event)
      (hconsulted : ∀ ref', s.consultation? ref' step = if ref = ref' then some inner else none)
      (hg : s.registry? ref = some (g, prologue))
      (hreported : run.reported = prologue ++ (inner.perform g).reported ++ exports)
      (hexports : ∀ e ∈ exports, e.isExportedTwice)
      (hregistry : ∀ ref', run.state.registry? ref' =
        if ref = ref' then some ((inner.perform g).state, []) else s.registry? ref')
  | worked (id : String) (inner : TableStep) (t : InternTable)
      (hstep : step = .table (.own id) inner) (ht : s.tables[id]? = some t)
      (hreported : run.reported = (inner.perform t).reported)
      (hregistry : ∀ ref, run.state.registry? ref = s.registry? ref)
  | aside
      (hconsulted : ∀ ref g, s.registryOf ref = some g → s.consultation? ref step = none)
      (hreported : ∀ e ∈ run.reported, e.isExportedTwice)
      (hregistry : ∀ ref, ¬ step.Opens ref → run.state.registry? ref = s.registry? ref)

namespace Report

variable {s : Session} {step : Step}

theorem of_sameTables {run : Run Session Reply}
    (hconsulted : ∀ ref, s.consultation? ref step = none) (hreported : run.reported = [])
    (h : run.state.SameTables s) : s.Report step run :=
  .aside (fun ref _ _ => hconsulted ref) (hreported ▸ List.forall_mem_nil _)
    fun ref _ => h.registry?_eq ref

theorem of_registry?_none {ref : RegistryRef} (h : s.registry? ref = none)
    (hconsulted : ∀ ref', ref ≠ ref' → s.consultation? ref' step = none) :
    s.Report step s.unknown := by
  refine .aside (fun ref' g hg => hconsulted ref' ?_) (List.forall_mem_nil _) fun _ _ => rfl
  rintro rfl
  rw [registryOf, h] at hg
  cases hg

end Report

theorem report_onRegistry (s : Session) (ref : RegistryRef) (inner : RegistryStep) {step : Step}
    (hconsulted : ∀ ref', s.consultation? ref' step =
      if ref = ref' ∧ inner.refusal? = none then some inner else none) :
    s.Report step (s.onRegistry ref inner) := by
  rcases hregistry : s.registry? ref with _ | ⟨g, prologue⟩
  · simp only [onRegistry, hregistry]
    refine .of_registry?_none hregistry fun ref' hne => ?_
    rw [hconsulted, if_neg (mt And.left hne)]
  · rcases hrefusal : inner.refusal? with _ | cause
    · refine .consulted ref inner g prologue [] ?_ hregistry ?_ (List.forall_mem_nil _) ?_
      · intro ref'
        rw [hconsulted, hrefusal]
        simp only [and_true]
      · simp only [onRegistry, hregistry, hrefusal, Run.reported, after, Run.within,
          List.append_assoc, List.append_nil]
      · intro ref'
        simp only [onRegistry, hregistry, hrefusal, after, Run.within]
        exact (registry?_congr rfl rfl rfl ref').trans (registry?_putRegistry s ref ref' _)
    · simp only [onRegistry, hregistry, hrefusal]
      refine .of_sameTables (fun ref' => ?_) rfl (.refl s)
      rw [hconsulted, hrefusal, if_neg (by rintro ⟨-, ⟨⟩⟩)]

/-- The run is that of a step on the registry `ref`, and reports what the step does. -/
structure ComesTo {α : Type} (s : Session) (ref : RegistryRef) (g : Registry)
    (prologue : List Event) (inner : RegistryStep) (run : Run Session α) : Prop where
  background_eq : run.background = []
  reported_eq : run.reported = prologue ++ (inner.perform g).reported
  state_eq : run.state = s.putRegistry ref (inner.perform g).state

theorem report_of_comesTo {α : Type} {s : Session} {ref : RegistryRef} {g : Registry}
    {prologue : List Event} {inner : RegistryStep} {before : Run Session α}
    (h : s.ComesTo ref g prologue inner before) (hg : s.registry? ref = some (g, prologue))
    {step : Step}
    (hconsulted : ∀ ref', s.consultation? ref' step = if ref = ref' then some inner else none)
    {next : Session → α → Run Session Reply}
    (hexports : ∀ answer, ∀ e ∈ (next before.state answer).reported, e.isExportedTwice)
    (hsame : ∀ answer, (next before.state answer).state.SameTables before.state) :
    s.Report step (before.andThen next) := by
  refine .consulted ref inner g prologue (next before.state before.answer).reported hconsulted hg
    ?_ (hexports _) ?_
  · rw [← h.reported_eq]
    simp only [Run.andThen, Run.reported, h.background_eq, List.append_nil, List.nil_append,
      List.append_assoc]
  · intro ref'
    refine ((hsame before.answer).registry?_eq ref').trans ?_
    rw [h.state_eq, registry?_putRegistry]

theorem comesTo_inventory {s : Session} {ref : RegistryRef} {g : Registry} {prologue : List Event}
    (h : s.registry? ref = some (g, prologue)) :
    ∃ run, s.inventory? (.of ref) = some run ∧ s.ComesTo ref g prologue .inventory run := by
  rcases hinventory : g.inventory with fault | ⟨v, after, more⟩
  · refine ⟨_, by simp only [inventory?, h, Option.map_some, hinventory]; rfl, rfl, ?_, ?_⟩
    · simp only [RegistryStep.perform, RegistryStep.refusal?, RegistryStep.act, hinventory,
        Run.reported, List.append_nil]
    · simp only [RegistryStep.perform, RegistryStep.refusal?, RegistryStep.act, hinventory]
  · refine ⟨_, by simp only [inventory?, h, Option.map_some, hinventory]; rfl, rfl, ?_, ?_⟩
    · rw [RegistryStep.perform_inventory hinventory]
      simp only [Run.reported, List.append_nil]
    · rw [RegistryStep.perform_inventory hinventory]

theorem comesTo_source {s : Session} {ref : RegistryRef} {g : Registry} {prologue : List Event}
    (h : s.registry? ref = some (g, prologue)) (type : RecordType) :
    ∃ run, s.source? (.filed ref type) = some run ∧
      s.ComesTo ref g prologue (.sameTableTogether type 1) run := by
  rcases hrequest : g.request type with fault | ⟨t, after, more⟩
  · refine ⟨_, by simp only [source?, h, Option.map_some, hrequest]; rfl, rfl, ?_, ?_⟩
    · simp only [RegistryStep.perform, RegistryStep.refusal?, RegistryStep.act,
        RegistryStep.requestAgain, hrequest, Run.reported, Run.map, Run.elsewhere, List.append_nil]
    · simp only [RegistryStep.perform, RegistryStep.refusal?, RegistryStep.act,
        RegistryStep.requestAgain, hrequest, Run.map, Run.elsewhere]
  · refine ⟨_, by simp only [source?, h, Option.map_some, hrequest]; rfl, rfl, ?_, ?_⟩
    · simp only [RegistryStep.perform, RegistryStep.refusal?, RegistryStep.act,
        RegistryStep.requestAgain, hrequest, Run.reported, Run.map, Run.elsewhere, List.append_nil,
        List.nil_append]
    · simp only [RegistryStep.perform, RegistryStep.refusal?, RegistryStep.act,
        RegistryStep.requestAgain, hrequest, Run.map, Run.elsewhere]

theorem report_copyInventory (s : Session) (source : InventoryRef) (id : String) :
    s.Report (.copyInventory source id) (s.act (.copyInventory source id)) := by
  cases source with
  | own id' =>
      rcases hv : s.inventories[id']? with _ | v
      · simp only [act, inventory?, hv, Option.map_none]
        exact .of_sameTables (fun _ => rfl) rfl (.refl s)
      · simp only [act, inventory?, hv, Option.map_some]
        exact .of_sameTables (fun _ => rfl) rfl ⟨rfl, rfl, rfl, rfl, rfl⟩
  | of ref =>
      rcases hregistry : s.registry? ref with _ | ⟨g, prologue⟩
      · simp only [act, inventory?, hregistry, Option.map_none]
        exact .of_registry?_none hregistry fun ref' hne => if_neg hne
      · obtain ⟨before, hbefore, hcomes⟩ := comesTo_inventory hregistry
        simp only [act, hbefore]
        refine report_of_comesTo hcomes hregistry (fun _ => rfl) ?_ ?_
        · rintro (fault | v)
          · exact List.forall_mem_nil _
          · exact List.forall_mem_nil _
        · rintro (fault | v)
          · exact .refl _
          · exact ⟨rfl, rfl, rfl, rfl, rfl⟩

theorem report_inventory (s : Session) (source : InventoryRef) (query : InventoryQuery) :
    s.Report (.inventory source query) (s.act (.inventory source query)) := by
  cases source with
  | own id =>
      rcases hv : s.inventories[id]? with _ | v
      · simp only [act, inventory?, hv, Option.map_none]
        exact .of_sameTables (fun _ => rfl) rfl (.refl s)
      · simp only [act, inventory?, hv, Option.map_some]
        exact .of_sameTables (fun _ => rfl) rfl (.refl s)
  | of ref =>
      rcases hregistry : s.registry? ref with _ | ⟨g, prologue⟩
      · simp only [act, inventory?, hregistry, Option.map_none]
        exact .of_registry?_none hregistry fun ref' hne => if_neg hne
      · obtain ⟨before, hbefore, hcomes⟩ := comesTo_inventory hregistry
        simp only [act, hbefore]
        refine .consulted ref .inventory g prologue [] (fun _ => rfl) hregistry ?_
          (List.forall_mem_nil _) fun ref' => ?_
        · rw [List.append_nil, ← hcomes.reported_eq]
          rfl
        · rw [Run.map, hcomes.state_eq, registry?_putRegistry]

theorem isExportedTwice_of_enter {s : Session} {id : String}
    {change : Inventory → Except Fault (Inventory × List Event)}
    (hchange : ∀ v after events, change v = .ok (after, events) →
      ∀ e ∈ events, e.isExportedTwice) : ∀ e ∈ (s.enter id change).reported, e.isExportedTwice := by
  rw [enter]
  split
  · exact List.forall_mem_nil _
  · split
    · exact List.forall_mem_nil _
    · rename_i after events hafter
      rw [Run.reported, List.append_nil]
      exact hchange _ after events hafter

theorem report_exportTable (s : Session) (id : String) (source : TableRef) :
    s.Report (.exportTable id source) (s.act (.exportTable id source)) := by
  have hexport : ∀ (s : Session) (t : InternTable),
      ∀ e ∈ (s.enter id t.exportTo).reported, e.isExportedTwice := fun _ _ =>
    isExportedTwice_of_enter fun _ _ _ => Inventory.isExportedTwice_of_exportTo
  rcases hv : s.inventories[id]? with _ | v
  · simp only [act, hv, Option.isNone_none, if_true]
    refine .of_sameTables (fun ref => ?_) rfl (.refl s)
    cases source with
    | own id' => rfl
    | filed ref' type => rw [consultation?, hv, if_neg (by rintro ⟨-, ⟨⟩⟩)]
  · cases source with
    | own id' =>
        rcases ht : s.tables[id']? with _ | t
        · simp only [act, hv, source?, ht, Option.isNone_some, Bool.false_eq_true, if_false,
            Option.map_none]
          exact .of_sameTables (fun _ => rfl) rfl (.refl s)
        · simp only [act, hv, source?, ht, Option.isNone_some, Bool.false_eq_true, if_false,
            Option.map_some]
          refine .aside (fun _ _ _ => rfl) (hexport s t) fun ref _ => ?_
          exact (sameTables_enter s id t.exportTo).registry?_eq ref
    | filed ref type =>
        rcases hregistry : s.registry? ref with _ | ⟨g, prologue⟩
        · simp only [act, hv, source?, hregistry, Option.isNone_some, Bool.false_eq_true,
            if_false, Option.map_none]
          refine .of_registry?_none hregistry fun ref' hne => ?_
          rw [consultation?, if_neg (mt And.left hne)]
        · obtain ⟨before, hbefore, hcomes⟩ := comesTo_source hregistry type
          simp only [act, hv, hbefore, Option.isNone_some, Bool.false_eq_true, if_false]
          refine report_of_comesTo hcomes hregistry (fun ref' => ?_) ?_ ?_
          · simp only [consultation?, hv, Option.isSome_some, and_true]
          · rintro (fault | t)
            · exact List.forall_mem_nil _
            · exact hexport _ t
          · rintro (fault | t)
            · exact .refl _
            · exact sameTables_enter _ _ _

theorem report_openTable (s : Session) (id : String) (type : RecordType) (config : Config) :
    s.Report (.openTable id type config) (s.openTable id type config) := by
  rcases hcreate : InternTable.create type config with fault | t
  · rw [openTable, hcreate]
    cases fault with
    | _ => exact .of_sameTables (fun _ => rfl) rfl (.refl s)
  · simp only [openTable, hcreate]
    exact .aside (fun _ _ _ => rfl) (List.forall_mem_nil _)
      fun ref _ => registry?_congr rfl rfl rfl ref

theorem report_openRegistry (s : Session) (id : String) (config : Config) :
    s.Report (.openRegistry id config) (s.act (.openRegistry id config)) := by
  rcases haccept : config.accept with cause | ⟨⟩
  · simp only [act, Registry.create_of_reject haccept]
    exact .of_sameTables (fun _ => rfl) rfl (.refl s)
  · simp only [act, Registry.create_of_accept haccept]
    refine .aside (fun _ _ _ => rfl) (List.forall_mem_nil _) fun ref hkept => ?_
    rw [registry?_putRegistry, if_neg]
    rintro rfl
    exact hkept ⟨rfl, haccept⟩

theorem report_act (s : Session) (step : Step) : s.Report step (s.act step) := by
  cases step with
  | openTable id type config => exact report_openTable s id type config
  | table source inner =>
      cases source with
      | own id =>
          rcases ht : s.tables[id]? with _ | t
          · simp only [act, onTable, ht]
            exact .of_sameTables (fun _ => rfl) rfl (.refl s)
          · simp only [act, onTable, ht]
            exact .worked id inner t rfl ht rfl fun ref => registry?_congr rfl rfl rfl ref
      | filed ref type =>
          refine report_onRegistry s ref (.table type inner) fun ref' => ?_
          simp only [consultation?, RegistryStep.refusal?, and_true]
  | registry ref inner => exact report_onRegistry s ref inner fun _ => rfl
  | copyInventory source id => exact report_copyInventory s source id
  | inventory source query => exact report_inventory s source query
  | exportTable id source => exact report_exportTable s id source
  | openRegistry id config => exact report_openRegistry s id config
  | openUsualRegistry id =>
      refine .aside (fun _ _ _ => rfl) (List.forall_mem_nil _) fun ref hkept => ?_
      rw [act, registry?_putRegistry]
      exact if_neg hkept
  | addRecord id shape handle fields =>
      refine .aside (fun _ _ _ => rfl) ?_ fun ref _ => (sameTables_enter s id _).registry?_eq ref
      exact isExportedTwice_of_enter fun _ _ _ => Inventory.isExportedTwice_of_add
  -- No other step reports anything.
  | dropTable id =>
      rw [act, dropTable]
      split
      · exact .of_sameTables (fun _ => rfl) rfl (.refl s)
      · exact .aside (fun _ _ _ => rfl) (List.forall_mem_nil _)
          fun ref _ => registry?_congr rfl rfl rfl ref
  | memory => exact .of_sameTables (fun _ => rfl) rfl (.refl s)
  | openInventory id => exact .of_sameTables (fun _ => rfl) rfl ⟨rfl, rfl, rfl, rfl, rfl⟩
  | openAccount id => exact .of_sameTables (fun _ => rfl) rfl ⟨rfl, rfl, rfl, rfl, rfl⟩
  | store id inner =>
      refine .of_sameTables (fun _ => rfl) ?_ (sameTables_onStore s id inner)
      rw [act, onStore]
      split
      · rfl
      · rfl
  | account id inner =>
      refine .of_sameTables (fun _ => rfl) ?_ (sameTables_onAccount s id inner)
      rw [act, onAccount]
      split
      · rfl
      · cases inner with
        | _ => rfl
  | openStore id kind blockSize capacity =>
      rw [act]
      split
      · exact .of_sameTables (fun _ => rfl) rfl (.refl s)
      · exact .of_sameTables (fun _ => rfl) rfl ⟨rfl, rfl, rfl, rfl, rfl⟩
  | dropStore id =>
      rw [act]
      split
      · exact .of_sameTables (fun _ => rfl) rfl (.refl s)
      · exact .of_sameTables (fun _ => rfl) rfl ⟨rfl, rfl, rfl, rfl, rfl⟩
  | installLogger filter =>
      rw [act]
      split
      · exact .of_sameTables (fun _ => rfl) rfl (.refl s)
      · split
        · exact .of_sameTables (fun _ => rfl) rfl (.refl s)
        · exact .of_sameTables (fun _ => rfl) rfl ⟨rfl, rfl, rfl, rfl, rfl⟩

theorem registry?_write (s : Session) (events : List Event) (ref : RegistryRef) :
    registry? (s.write events) ref = s.registry? ref :=
  (sameTables_write s events).registry?_eq ref

/-- Every step has one of the reports. To write the events adds none. -/
theorem report_perform (s : Session) (step : Step) : s.Report step (s.perform step) := by
  cases report_act s step with
  | consulted ref inner g prologue exports hconsulted hg hreported hexports hregistry =>
      exact .consulted ref inner g prologue exports hconsulted hg hreported hexports
        fun ref' => (registry?_write _ _ ref').trans (hregistry ref')
  | worked id inner t hstep ht hreported hregistry =>
      exact .worked id inner t hstep ht hreported
        fun ref => (registry?_write _ _ ref).trans (hregistry ref)
  | aside hconsulted hreported hregistry =>
      exact .aside hconsulted hreported
        fun ref hkept => (registry?_write _ _ ref).trans (hregistry ref hkept)

section Consulted

variable {s : Session} {ref : RegistryRef} {g : Registry} {prologue : List Event} {step : Step}

theorem perform_of_consultation (h : s.registry? ref = some (g, prologue)) {inner : RegistryStep}
    (hinner : s.consultation? ref step = some inner) :
    registry? (s.perform step).state ref = some ((inner.perform g).state, []) ∧
      ∃ exports, (∀ e ∈ exports, e.isExportedTwice) ∧
        (s.perform step).reported = prologue ++ (inner.perform g).reported ++ exports := by
  cases report_perform s step with
  | consulted ref' inner' g' prologue' exports hconsulted hg hreported hexports hregistry =>
      rw [hconsulted, Option.ite_none_right_eq_some] at hinner
      obtain ⟨rfl, hinner⟩ := hinner
      cases hinner
      rw [h] at hg
      cases hg
      exact ⟨(hregistry _).trans (if_pos rfl), exports, hexports, hreported⟩
  | worked id inner' t hstep ht hreported hregistry =>
      rw [hstep] at hinner
      cases hinner
  | aside hconsulted hreported hregistry =>
      rw [hconsulted ref g (registryOf_eq_some h)] at hinner
      cases hinner

theorem registry?_perform_of_none (hnone : s.consultation? ref step = none)
    (hkept : ¬ step.Opens ref) : registry? (s.perform step).state ref = s.registry? ref := by
  cases report_perform s step with
  | consulted ref' inner' g' prologue' exports hconsulted hg hreported hexports hregistry =>
      have hother : ref' ≠ ref := by
        rintro rfl
        rw [hconsulted, if_pos rfl] at hnone
        cases hnone
      rw [hregistry, if_neg hother]
  | worked id inner' t hstep ht hreported hregistry => exact hregistry ref
  | aside hconsulted hreported hregistry => exact hregistry ref hkept

/-- A step that comes to no registry and is not on a table of the session reports at most that an
inventory refuses fields. -/
theorem isExportedTwice_of_none
    (hnone : ∀ ref g, s.registryOf ref = some g → s.consultation? ref step = none)
    (hown : ∀ id t, s.tables[id]? = some t → step.isOn id = false) :
    ∀ e ∈ (s.perform step).reported, e.isExportedTwice := by
  cases report_perform s step with
  | consulted ref' inner' g' prologue' exports hconsulted hg hreported hexports hregistry =>
      have hinner := hnone ref' g' (registryOf_eq_some hg)
      rw [hconsulted, if_pos rfl] at hinner
      cases hinner
  | worked id inner' t hstep ht hreported hregistry =>
      have hon := hown id t ht
      rw [hstep] at hon
      simp [Step.isOn] at hon
  | aside hconsulted hreported hregistry => exact hreported

/-- The steps on the registry `ref` that a run comes to. -/
def consulted (s : Session) (ref : RegistryRef) : List Step → List RegistryStep
  | [] => []
  | step :: steps =>
    (s.consultation? ref step).toList ++ (s.perform step).state.consulted ref steps

/-- A registry is what the steps on it that a run comes to make of it. If there was a word to say
when it is made, it is said at the first of them. -/
theorem registry?_all (h : s.registry? ref = some (g, prologue)) {steps : List Step}
    (hkept : ∀ step ∈ steps, ¬ step.Opens ref) :
    registry? (Run.all perform s steps).state ref =
      some ((Run.all RegistryStep.perform g (s.consulted ref steps)).state,
        if s.consulted ref steps = [] then prologue else []) := by
  induction steps generalizing s g prologue with
  | nil => exact h
  | cons step steps ih =>
      obtain ⟨hstep, hsteps⟩ := List.forall_mem_cons.mp hkept
      rw [consulted]
      rcases hinner : s.consultation? ref step with _ | inner
      · have hsame := (registry?_perform_of_none hinner hstep).trans h
        exact ih hsame hsteps
      -- From here on the registry is there, so there is nothing to say of its making.
      · have hafter := ih (perform_of_consultation h hinner).1 hsteps
        rw [ite_self] at hafter
        rw [Option.toList_some, List.singleton_append, if_neg (List.cons_ne_nil _ _)]
        exact hafter

end Consulted

end Session

end Interner
