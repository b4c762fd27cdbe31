import Interner.Proofs.RegistrySteps
import Interner.Session

namespace Interner

open Session

namespace Session

deriving instance DecidableEq for RegistryRef

def registryOf (s : Session) (ref : RegistryRef) : Option Registry :=
  (s.registry? ref).map Prod.fst

/-- The demand that a step makes on the registry that `ref` means. A table is asked for its export
only if there is an inventory to enter it into. -/
def demand? (s : Session) (ref : RegistryRef) : Step → Option Demand
  | .table (.filed ref' type) step => if ref' = ref then some ⟨type, some step⟩ else none
  | .registry ref' step => if ref' = ref then step.demand? else none
  | .exportTable id (.filed ref' type) =>
    if ref' = ref ∧ (s.inventories[id]?).isSome then some ⟨type, none⟩ else none
  | _ => none

/-- The step puts a new registry in the place that `ref` names. -/
def Step.Opens (ref : RegistryRef) : Step → Prop
  | .openRegistry id config => .named id = ref ∧ config.accept = .ok ()
  | .openUsualRegistry id => .named id = ref
  | _ => False

theorem registry?_congr {s s' : Session} (henvironment : s'.environment = s.environment)
    (hregistries : s'.registries = s.registries)
    (hprocess : s'.processRegistry = s.processRegistry) (ref : RegistryRef) :
    s'.registry? ref = s.registry? ref := by
  cases ref with
  | named id => simp only [hregistries, registry?]
  | process => simp only [hprocess, henvironment, registry?]

theorem registryOf_congr {s s' : Session} (henvironment : s'.environment = s.environment)
    (hregistries : s'.registries = s.registries) (hprocess : s'.processRegistry = s.processRegistry)
    (ref : RegistryRef) : s'.registryOf ref = s.registryOf ref :=
  congrArg (Option.map Prod.fst) (registry?_congr henvironment hregistries hprocess ref)

theorem registry?_putRegistry (s : Session) (ref' ref : RegistryRef) (g : Registry) :
    registry? (s.putRegistry ref' g) ref =
      if ref' = ref then some (g, []) else s.registry? ref := by
  cases ref' with
  | process =>
      cases ref with
      | process => rfl
      | named id => rfl
  | named id' =>
      cases ref with
      | process => rfl
      | named id =>
          simp only [putRegistry, registry?, Std.ExtTreeMap.getElem?_insert,
            Std.LawfulEqOrd.compare_eq_iff_eq, RegistryRef.named.injEq]
          split
          · rfl
          · rfl

theorem registryOf_putRegistry (s : Session) (ref' ref : RegistryRef) (g : Registry) :
    (s.putRegistry ref' g).registryOf ref = if ref' = ref then some g else s.registryOf ref := by
  rw [registryOf, registry?_putRegistry, apply_ite (Option.map Prod.fst)]
  rfl

@[simp] theorem registryOf_charge (s : Session) (charges : List Memory.Charge) (ref : RegistryRef) :
    (s.charge charges).registryOf ref = s.registryOf ref :=
  registryOf_congr rfl rfl rfl ref

theorem registryOf_eq_some {s : Session} {ref : RegistryRef} {g : Registry}
    {prologue : List Event} (h : s.registry? ref = some (g, prologue)) :
    s.registryOf ref = some g := by
  rw [registryOf, h, Option.map_some]

theorem registry?_of_registryOf {s : Session} {ref : RegistryRef} {g : Registry}
    (h : s.registryOf ref = some g) : ∃ events, s.registry? ref = some (g, events) := by
  obtain ⟨⟨g', events⟩, hregistry, rfl⟩ := Option.map_eq_some_iff.mp h
  exact ⟨events, hregistry⟩

theorem answer_onRegistry {s : Session} {ref : RegistryRef} {g : Registry}
    (h : s.registryOf ref = some g) (step : RegistryStep) :
    (s.onRegistry ref step).answer = (step.perform g).answer := by
  obtain ⟨events, hregistry⟩ := registry?_of_registryOf h
  rcases hrefusal : step.refusal? with _ | cause
  · simp only [onRegistry, hregistry, hrefusal, after, Run.within]
  · simp only [onRegistry, hregistry, hrefusal, RegistryStep.perform]

theorem onRegistry_of_none {s : Session} {ref : RegistryRef} (h : s.registryOf ref = none)
    (step : RegistryStep) : s.onRegistry ref step = s.unknown := by
  simp only [onRegistry, Option.map_eq_none_iff.mp h]

theorem answer_perform_of_demand {s : Session} {ref : RegistryRef} {g : Registry}
    (h : s.registryOf ref = some g) {step : Step} {type : RecordType} {inner : TableStep}
    (hdemand : s.demand? ref step = some ⟨type, some inner⟩) :
    (s.perform step).answer =
      match g.request type with
      | .error fault => .error (.fault fault)
      | .ok (t, _, _) => (inner.perform t).answer := by
  cases step with
  | table source step =>
      cases source with
      | own id => cases hdemand
      | filed ref' type' =>
          simp only [demand?] at hdemand
          split at hdemand
          · rename_i href
            subst href
            cases hdemand
            exact (answer_onRegistry h (.table type inner)).trans
              (RegistryStep.answer_perform_of_demand g rfl)
          · cases hdemand
  | registry ref' step =>
      simp only [demand?] at hdemand
      split at hdemand
      · rename_i href
        subst href
        exact (answer_onRegistry h step).trans (RegistryStep.answer_perform_of_demand g hdemand)
      · cases hdemand
  | exportTable id source =>
      cases source with
      | own id' => cases hdemand
      | filed ref' type' =>
          simp only [demand?] at hdemand
          split at hdemand
          · cases hdemand
          · cases hdemand
  | _ => cases hdemand

end Session

end Interner
