import Interner.Proofs.SessionEvents
import Interner.Proofs.SessionTables

namespace Interner

open Session

def Event.isConfigRejected : Event → Bool
  | configRejected .. => true
  | _ => false

theorem Event.not_isConfigRejected_of_isChange {e : Event} (h : e.isChange) :
    ¬ e.isConfigRejected := by
  cases e with
  | configRejected reason => cases h
  | _ => nofun

theorem Event.not_isConfigRejected_of_isExportedTwice {e : Event} (h : e.isExportedTwice) :
    ¬ e.isConfigRejected := by
  cases e with
  | configRejected reason => cases h
  | _ => nofun

namespace Registry

theorem isExportedTwice_of_exportAll {tables : List InternTable} {v after : Inventory}
    {events : List Event} (h : exportAll v tables = .ok (after, events)) :
    ∀ e ∈ events, e.isExportedTwice := by
  induction tables generalizing v events with
  | nil =>
      cases h
      exact List.forall_mem_nil _
  | cons t tables ih =>
      obtain ⟨⟨between, first⟩, hfirst, h⟩ := exists_of_bind h
      obtain ⟨⟨_, more⟩, hmore, h⟩ := exists_of_bind h
      cases h
      exact List.forall_mem_append.mpr
        ⟨Inventory.isExportedTwice_of_exportTo hfirst, ih hmore⟩

theorem not_isConfigRejected_of_inventory {g after : Registry} {v : Inventory}
    {events : List Event} (h : g.inventory = .ok (v, after, events)) :
    ∀ e ∈ events, ¬ e.isConfigRejected := by
  rw [inventory] at h
  split at h
  · cases h
    exact List.forall_mem_nil _
  · obtain ⟨⟨_, exports⟩, hexports, h⟩ := exists_of_bind h
    cases h
    refine List.forall_mem_append.mpr ⟨?_, List.forall_mem_singleton.mpr Bool.false_ne_true⟩
    exact fun e he =>
      Event.not_isConfigRejected_of_isExportedTwice (isExportedTwice_of_exportAll hexports e he)

end Registry

namespace Session

theorem RegistryStep.not_isConfigRejected {g : Registry} (hg : g.Sound) (step : RegistryStep) :
    ∀ e ∈ (step.perform g).reported, ¬ e.isConfigRejected := by
  rcases hdemand : step.demand? with _ | d
  · by_cases hstep : step = .inventory
    · rcases hinventory : g.inventory with fault | ⟨v, after, events⟩
      · rw [hstep]
        simp only [perform, refusal?, act, hinventory]
        exact List.forall_mem_nil _
      · rw [hstep, perform_inventory hinventory, Run.reported, List.append_nil]
        exact Registry.not_isConfigRejected_of_inventory hinventory
    · rw [reported_perform_of_none hdemand hstep]
      exact List.forall_mem_nil _
  · rw [reported_perform_of_demand hg hdemand]
    exact fun e he =>
      Event.not_isConfigRejected_of_isChange (Registry.isChange_reportFor hg d e he)

section Warnings

variable {s : Session} {g : Registry} {prologue : List Event}

theorem filter_isConfigRejected_perform (hs : s.Sound)
    (h : s.registry? .process = some (g, prologue)) (hprologue : ∀ e ∈ prologue, e.isConfigRejected)
    (step : Step) : (s.perform step).reported.filter Event.isConfigRejected =
      if (s.consultation? .process step).isSome then prologue else [] := by
  have hexport : ∀ events : List Event, (∀ e ∈ events, e.isExportedTwice) →
      events.filter Event.isConfigRejected = [] := fun events hevents =>
    List.filter_eq_nil_iff.mpr
      fun e he => Event.not_isConfigRejected_of_isExportedTwice (hevents e he)
  cases report_perform s step with
  | consulted ref inner g' prologue' exports hconsulted hg hreported hexports hregistry =>
      have hinside := List.filter_eq_nil_iff.mpr (RegistryStep.not_isConfigRejected
        (hs.registries ref g' (registryOf_eq_some hg)) inner)
      rw [hreported, List.filter_append, List.filter_append, hinside, hexport exports hexports,
        List.append_nil, List.append_nil, hconsulted]
      cases ref with
      -- A registry with a name is never made on the way.
      | named id =>
          obtain ⟨_, -, heq⟩ := Option.map_eq_some_iff.mp hg
          cases heq
          rfl
      | process =>
          rw [h] at hg
          cases hg
          exact List.filter_eq_self.mpr hprologue
  | worked id inner t hstep ht hreported hregistry =>
      obtain ⟨type, config, rs, hrepresents⟩ := hs.tables id t ht
      rw [hreported, hstep]
      refine List.filter_eq_nil_iff.mpr fun e he => ?_
      obtain ⟨block, rfl⟩ := TableStep.mem_reported hrepresents he
      nofun
  | aside hconsulted hreported hregistry =>
      rw [hconsulted .process g (registryOf_eq_some h)]
      exact hexport _ hreported

theorem not_opens_process (step : Step) : ¬ step.Opens .process := by
  cases step with
  | openRegistry id config => rintro ⟨⟨⟩, -⟩
  | openUsualRegistry id => nofun
  | _ => nofun

/-- A run warns of the configuration once, if the registry of the process is used at all. -/
theorem filter_isConfigRejected_reports (hs : s.Sound)
    (h : s.registry? .process = some (g, prologue)) (hprologue : ∀ e ∈ prologue, e.isConfigRejected)
    (steps : List Step) : (Run.reports perform s steps).flatten.filter Event.isConfigRejected =
      if s.consulted .process steps = [] then [] else prologue := by
  induction steps generalizing s g prologue with
  | nil => rfl
  | cons step steps ih =>
      have hafter := sound_perform hs step
      rw [Run.reports, List.flatten_cons, List.filter_append, consulted,
        filter_isConfigRejected_perform hs h hprologue]
      rcases hinner : s.consultation? .process step with _ | inner
      · have hsame := (registry?_perform_of_none hinner (not_opens_process step)).trans h
        exact ih hafter hsame hprologue
      · have hused := (perform_of_consultation h hinner).1
        rw [ih hafter hused (List.forall_mem_nil _), ite_self, List.append_nil]
        rfl

end Warnings

structure ProcessLaw (environment : Config.Environment) (steps : List Step) : Prop where
  configured : ∃ g, (Run.all perform { environment } steps).state.registryOf .process = some g ∧
    g.config.accept = .ok () ∧
    (∀ c, Config.ofEnvironment environment = .ok c → g.config = c) ∧
    ∀ cause, Config.ofEnvironment environment = .error cause → g.config = {}
  quiet : ∀ c, Config.ofEnvironment environment = .ok c →
    (Run.reports perform { environment } steps).flatten.filter Event.isConfigRejected = []
  warned : ∀ cause, Config.ofEnvironment environment = .error cause →
    ∃ text, cause.message? = some text ∧
      (Run.reports perform { environment } steps).flatten.filter Event.isConfigRejected =
        if ({ environment } : Session).consulted .process steps = [] then []
        else [.configRejected text]

theorem processLaw (environment : Config.Environment) (steps : List Step) :
    ProcessLaw environment steps := by
  have hs : ({ environment } : Session).Sound := sound_of_empty rfl rfl rfl
  have hsound := sound_makeProcessRegistry environment
  rcases hmake : makeProcessRegistry environment with ⟨g, prologue⟩
  rw [hmake] at hsound
  have hmade : registry? { environment } .process = some (g, prologue) :=
    congrArg some hmake
  constructor
  case configured =>
    have hall := registry?_all hmade fun step (_ : step ∈ steps) => not_opens_process step
    have hconfig := RegistryStep.config_all hsound
      (({ environment } : Session).consulted .process steps)
    refine ⟨_, registryOf_eq_some hall, hconfig ▸ hsound.accepted, ?_, ?_⟩
    · intro c hload
      rw [makeProcessRegistry, hload] at hmake
      cases hmake
      exact hconfig
    · intro cause hload
      rw [makeProcessRegistry, hload] at hmake
      cases hmake
      exact hconfig
  case quiet =>
    intro c hload
    rw [makeProcessRegistry, hload] at hmake
    cases hmake
    rw [filter_isConfigRejected_reports hs hmade (List.forall_mem_nil _), ite_self]
  case warned =>
    intro cause hload
    obtain ⟨text, htext⟩ := Config.exists_message?_of_ofEnvironment hload
    refine ⟨text, htext, ?_⟩
    simp only [makeProcessRegistry, hload, htext, Option.map_some, Option.toList_some] at hmake
    cases hmake
    exact filter_isConfigRejected_reports hs hmade (List.forall_mem_singleton.mpr rfl) steps

end Session

end Interner
