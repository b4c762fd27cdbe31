import Interner.Proofs.RegistryCharges
import Interner.Proofs.SessionRegistries

/-!
What a step does to the tables of a session and to its memory. It works on one table that the session
has, opens or drops one, has a registry meet one demand, or puts a new registry in the place of
another. Everything else about runs of a session rests on this.
-/

namespace Interner

open Memory Session

theorem Session.RegistryStep.demand?_of_refusal {step : RegistryStep} {cause : RecordError}
    (h : step.refusal? = some cause) : step.demand? = none := by
  cases step with
  | intern type fields =>
      rw [refusal?, Shape.record] at h
      split at h
      · rename_i hrecord
        split at hrecord
        · cases hrecord
        · rename_i hlength
          rw [demand?, if_neg hlength]
      · cases h
  | _ => cases h

namespace Session

/-- Sessions with the same tables, of their own and in registries, and the same memory. -/
structure SameTables (s s' : Session) : Prop where
  environment_eq : s.environment = s'.environment
  tables_eq : s.tables = s'.tables
  registries_eq : s.registries = s'.registries
  processRegistry_eq : s.processRegistry = s'.processRegistry
  memory_eq : s.memory = s'.memory

theorem SameTables.refl (s : Session) : s.SameTables s := ⟨rfl, rfl, rfl, rfl, rfl⟩

theorem SameTables.trans {s s' s'' : Session} (h : s.SameTables s') (h' : s'.SameTables s'') :
    s.SameTables s'' :=
  ⟨h.environment_eq.trans h'.environment_eq, h.tables_eq.trans h'.tables_eq,
    h.registries_eq.trans h'.registries_eq, h.processRegistry_eq.trans h'.processRegistry_eq,
    h.memory_eq.trans h'.memory_eq⟩

theorem SameTables.registryOf_eq {s s' : Session} (h : s.SameTables s') (ref : RegistryRef) :
    s.registryOf ref = s'.registryOf ref :=
  registryOf_congr h.environment_eq h.registries_eq h.processRegistry_eq ref

def Step.opened? : Step → Option String
  | .openRegistry id config => if config.accept.isOk then some id else none
  | .openUsualRegistry id => some id
  | _ => none

theorem Step.opens_of_opened? {step : Step} {id : String} (h : step.opened? = some id) :
    step.Opens (.named id) := by
  cases step with
  | openRegistry id' config =>
      rcases haccept : config.accept with cause | ⟨⟩
      · rw [opened?, haccept] at h
        cases h
      · rw [opened?, haccept] at h
        cases h
        exact ⟨rfl, haccept⟩
  | openUsualRegistry id' =>
      cases h
      exact rfl
  | _ => cases h

/-- What a step does to the tables and the memory of a session, and which demands it makes. -/
inductive Effect (s : Session) (step : Step) (after : Session) : Prop
  | nothing (hdemand : ∀ ref g, s.registryOf ref = some g → s.demand? ref step = none)
      (hopened : step.opened? = none) (h : after.SameTables s)
  | worked (id : String) (inner : TableStep) (t : InternTable)
      (hstep : step = .table (.own id) inner) (ht : s.tables[id]? = some t)
      (h : after.SameTables ({ s with tables := s.tables.insert id (inner.perform t).state }.charge
        (inner.perform t).charges))
  | opened (id : String) (type : RecordType) (config : Config) (t : InternTable)
      (hstep : step = .openTable id type config) (ht : InternTable.create type config = .ok t)
      (h : after.SameTables ({ s with tables := s.tables.insert id t }.giveBack
        (((s.tables[id]?).map InternTable.holdings).getD [])))
  | dropped (id : String) (t : InternTable) (hstep : step = .dropTable id)
      (ht : s.tables[id]? = some t)
      (h : after.SameTables ({ s with tables := s.tables.erase id }.giveBack t.holdings))
  | met (ref : RegistryRef) (g g' : Registry) (d? : Option Demand)
      (hdemand : ∀ ref', s.demand? ref' step = if ref = ref' then d? else none)
      (hopened : step.opened? = none) (hg : s.registryOf ref = some g)
      (hmeet : g.Sound → g'.SameTables (g.meet d?))
      (h : after.SameTables ((s.putRegistry ref g').charge (g.chargesToMeet d?)))
  | replaced (id : String) (g : Registry) (hdemand : ∀ ref, s.demand? ref step = none)
      (hopened : step.opened? = some id) (haccept : g.config.accept = .ok ()) (hnew : g.tables = [])
      (h : after.SameTables (s.putRegistry (.named id) g))

namespace Effect

variable {s after after' : Session} {step : Step}

theorem of_sameTables (h : s.Effect step after) (hsame : after'.SameTables after) :
    s.Effect step after' := by
  cases h with
  | nothing hdemand hopened h => exact .nothing hdemand hopened (hsame.trans h)
  | worked id inner t hstep ht h => exact .worked id inner t hstep ht (hsame.trans h)
  | opened id type config t hstep ht h => exact .opened id type config t hstep ht (hsame.trans h)
  | dropped id t hstep ht h => exact .dropped id t hstep ht (hsame.trans h)
  | met ref g g' d? hdemand hopened hg hmeet h =>
      exact .met ref g g' d? hdemand hopened hg hmeet (hsame.trans h)
  | replaced id g hdemand hopened haccept hnew h =>
      exact .replaced id g hdemand hopened haccept hnew (hsame.trans h)

theorem aside (hdemand : ∀ ref, s.demand? ref step = none) (hopened : step.opened? = none)
    (h : after.SameTables s) : s.Effect step after :=
  .nothing (fun ref _ _ => hdemand ref) hopened h

theorem of_putRegistry {ref : RegistryRef} {g g' : Registry}
    (hdemand : ∀ ref, s.demand? ref step = none) (hopened : step.opened? = none)
    (hg : s.registryOf ref = some g) (hsame : g'.SameTables g) :
    s.Effect step (s.putRegistry ref g') := by
  refine .met ref g g' none (fun ref' => ?_) hopened hg (fun _ => hsame) (.refl _)
  rw [hdemand, ite_self]

end Effect

theorem effect_onRegistry (s : Session) (ref : RegistryRef) (inner : RegistryStep) {step : Step}
    (hdemand : ∀ ref', s.demand? ref' step = if ref = ref' then inner.demand? else none)
    (hopened : step.opened? = none) : s.Effect step (s.onRegistry ref inner).state := by
  rcases hg : s.registryOf ref with _ | g
  · rw [onRegistry_of_none hg]
    refine .nothing (fun ref' g' hg' => ?_) hopened (.refl s)
    rw [hdemand, if_neg]
    rintro rfl
    rw [hg] at hg'
    cases hg'
  · obtain ⟨events, hregistry⟩ := registry?_of_registryOf hg
    rcases hrefusal : inner.refusal? with _ | cause
    · refine .met ref g (inner.perform g).state inner.demand? hdemand hopened hg
        (fun hsound => RegistryStep.sameTables_perform hsound inner) ?_
      simp only [onRegistry, hregistry, hrefusal, after, Run.within,
        RegistryStep.charges_perform]
      exact .refl _
    · simp only [onRegistry, hregistry, hrefusal]
      refine .aside (fun ref' => ?_) hopened (.refl s)
      rw [hdemand, RegistryStep.demand?_of_refusal hrefusal, ite_self]

theorem effect_inventory? {s : Session} {source : InventoryRef}
    {run : Run Session (Except Fault Inventory)} (hrun : s.inventory? source = some run)
    {step : Step} (hdemand : ∀ ref, s.demand? ref step = none) (hopened : step.opened? = none) :
    s.Effect step run.state := by
  cases source with
  | own id =>
      obtain ⟨v, -, rfl⟩ := Option.map_eq_some_iff.mp hrun
      exact .aside hdemand hopened (.refl s)
  | of ref =>
      obtain ⟨⟨g, events⟩, hregistry, rfl⟩ := Option.map_eq_some_iff.mp hrun
      have hg : s.registryOf ref = some g := by rw [registryOf, hregistry, Option.map_some]
      rcases hinventory : g.inventory with fault | ⟨v, g', more⟩
      · simp only [hinventory]
        exact .of_putRegistry hdemand hopened hg (.refl g)
      · simp only [hinventory]
        exact .of_putRegistry hdemand hopened hg (Registry.sameTables_inventory hinventory)

theorem sameTables_enter (s : Session) (id : String)
    (change : Inventory → Except Fault (Inventory × List Event)) :
    (s.enter id change).state.SameTables s := by
  rw [enter]
  split
  · exact .refl s
  · split
    · exact .refl s
    · exact ⟨rfl, rfl, rfl, rfl, rfl⟩

theorem sameTables_write (s : Session) (events : List Event) : (s.write events).SameTables s := by
  rw [write]
  split
  · exact .refl s
  · exact ⟨rfl, rfl, rfl, rfl, rfl⟩

theorem effect_openTable (s : Session) (id : String) (type : RecordType) (config : Config) :
    s.Effect (.openTable id type config) (s.openTable id type config).state := by
  rcases hcreate : InternTable.create type config with fault | t
  · rw [openTable, hcreate]
    cases fault with
    | _ => exact .aside (fun _ => rfl) rfl (.refl s)
  · simp only [openTable, hcreate]
    exact .opened id type config t rfl hcreate (.refl _)

theorem effect_dropTable (s : Session) (id : String) :
    s.Effect (.dropTable id) (s.dropTable id).state := by
  rw [dropTable]
  split
  · exact .aside (fun _ => rfl) rfl (.refl s)
  · rename_i t ht
    exact .dropped id t rfl ht (.refl _)

theorem effect_onTable (s : Session) (source : TableRef) (inner : TableStep) :
    s.Effect (.table source inner) (s.onTable source inner).state := by
  cases source with
  | own id =>
      rw [onTable]
      split
      · exact .aside (fun _ => rfl) rfl (.refl s)
      · rename_i t ht
        exact .worked id inner t rfl ht (.refl _)
  | filed ref type => exact effect_onRegistry s ref (.table type inner) (fun _ => rfl) rfl

theorem effect_openRegistry (s : Session) (id : String) (config : Config) :
    s.Effect (.openRegistry id config) (s.act (.openRegistry id config)).state := by
  rcases haccept : config.accept with cause | ⟨⟩
  · have hopened : (Step.openRegistry id config).opened? = none := by
      rw [Step.opened?, haccept]
      rfl
    refine .aside (fun _ => rfl) hopened ?_
    simp only [act, Registry.create_of_reject haccept]
    exact .refl s
  · have hopened : (Step.openRegistry id config).opened? = some id := by
      rw [Step.opened?, haccept]
      rfl
    refine .replaced id { config } (fun _ => rfl) hopened haccept rfl ?_
    simp only [act, Registry.create_of_accept haccept]
    exact .refl _

theorem effect_copyInventory (s : Session) (source : InventoryRef) (id : String) :
    s.Effect (.copyInventory source id) (s.act (.copyInventory source id)).state := by
  rw [act]
  split
  · exact .aside (fun _ => rfl) rfl (.refl s)
  · rename_i run hsource
    have heffect : s.Effect (.copyInventory source id) run.state :=
      effect_inventory? hsource (fun _ => rfl) rfl
    rw [Run.andThen]
    split
    · exact heffect
    · exact heffect.of_sameTables ⟨rfl, rfl, rfl, rfl, rfl⟩

theorem effect_source? {s : Session} {id : String} {source : TableRef} {v : Inventory}
    (hinventory : s.inventories[id]? = some v) {run : Run Session (Except Fault InternTable)}
    (hrun : s.source? source = some run) : s.Effect (.exportTable id source) run.state := by
  cases source with
  | own id' =>
      obtain ⟨t, -, rfl⟩ := Option.map_eq_some_iff.mp hrun
      exact .aside (fun _ => rfl) rfl (.refl s)
  | filed ref type =>
      obtain ⟨⟨g, events⟩, hregistry, rfl⟩ := Option.map_eq_some_iff.mp hrun
      have hg : s.registryOf ref = some g := by rw [registryOf, hregistry, Option.map_some]
      refine .met ref g (g.serve ⟨type, none⟩) (some ⟨type, none⟩) (fun ref' => ?_) rfl hg
        (fun _ => .refl _) ?_
      · simp only [demand?, hinventory, Option.isSome_some, and_true]
      · rw [Registry.chargesToMeet, RegistryStep.chargesFor_of_request]
        rcases hrequest : g.request type with fault | ⟨t, g', more⟩
        · simp only [hrequest, Registry.serve]
          exact .refl _
        · simp only [hrequest, Registry.serve]
          exact .refl _

theorem demand?_exportTable_of_none {s : Session} {id : String} {source : TableRef}
    (h : s.inventories[id]? = none ∨ s.source? source = none) (ref : RegistryRef) (g : Registry)
    (hg : s.registryOf ref = some g) : s.demand? ref (.exportTable id source) = none := by
  cases source with
  | own id' => rfl
  | filed ref' type =>
      rw [demand?, if_neg]
      rintro ⟨rfl, hinventory⟩
      rcases h with h | h
      · rw [h] at hinventory
        cases hinventory
      · rw [registryOf, Option.map_eq_none_iff.mp h] at hg
        cases hg

theorem effect_exportTable (s : Session) (id : String) (source : TableRef) :
    s.Effect (.exportTable id source) (s.act (.exportTable id source)).state := by
  rw [act]
  rcases hinventory : s.inventories[id]? with _ | v
  · exact .nothing (demand?_exportTable_of_none (.inl hinventory)) rfl (.refl s)
  · rcases hsource : s.source? source with _ | run
    · exact .nothing (demand?_exportTable_of_none (.inr hsource)) rfl (.refl s)
    · have heffect := effect_source? hinventory hsource
      simp only [Option.isNone_some, Bool.false_eq_true, if_false, Run.andThen]
      split
      · exact heffect
      · exact heffect.of_sameTables (sameTables_enter _ _ _)

theorem sameTables_onStore (s : Session) (id : String) (inner : StoreStep) :
    (s.onStore id inner).state.SameTables s := by
  rw [onStore]
  split
  · exact .refl s
  · exact ⟨rfl, rfl, rfl, rfl, rfl⟩

theorem sameTables_onAccount (s : Session) (id : String) (inner : AccountStep) :
    (s.onAccount id inner).state.SameTables s := by
  rw [onAccount]
  split
  · exact .refl s
  · cases inner with
    | _ => exact ⟨rfl, rfl, rfl, rfl, rfl⟩

theorem effect_act (s : Session) (step : Step) : s.Effect step (s.act step).state := by
  cases step with
  | openTable id type config => exact effect_openTable s id type config
  | dropTable id => exact effect_dropTable s id
  | table source inner => exact effect_onTable s source inner
  | registry ref inner => exact effect_onRegistry s ref inner (fun _ => rfl) rfl
  | openRegistry id config => exact effect_openRegistry s id config
  | openUsualRegistry id =>
      have haccept : Registry.usual.config.accept = .ok () :=
        Config.accept_eq_ok_iff.mpr (by decide)
      exact .replaced id Registry.usual (fun _ => rfl) rfl haccept rfl (.refl _)
  | copyInventory source id => exact effect_copyInventory s source id
  | inventory source query =>
      rw [act]
      split
      · exact .aside (fun _ => rfl) rfl (.refl s)
      · rename_i run hsource
        exact effect_inventory? hsource (fun _ => rfl) rfl
  | exportTable id source => exact effect_exportTable s id source
  -- No other step is about the tables.
  | addRecord id shape handle fields =>
      exact .aside (fun _ => rfl) rfl (sameTables_enter s id _)
  | store id inner => exact .aside (fun _ => rfl) rfl (sameTables_onStore s id inner)
  | account id inner => exact .aside (fun _ => rfl) rfl (sameTables_onAccount s id inner)
  | memory => exact .aside (fun _ => rfl) rfl (.refl s)
  | openInventory id => exact .aside (fun _ => rfl) rfl ⟨rfl, rfl, rfl, rfl, rfl⟩
  | openAccount id => exact .aside (fun _ => rfl) rfl ⟨rfl, rfl, rfl, rfl, rfl⟩
  | openStore id kind blockSize capacity =>
      refine .aside (fun _ => rfl) rfl ?_
      rw [act]
      split
      · exact .refl s
      · exact ⟨rfl, rfl, rfl, rfl, rfl⟩
  | dropStore id =>
      refine .aside (fun _ => rfl) rfl ?_
      rw [act]
      split
      · exact .refl s
      · exact ⟨rfl, rfl, rfl, rfl, rfl⟩
  | installLogger filter =>
      refine .aside (fun _ => rfl) rfl ?_
      rw [act]
      split
      · exact .refl s
      · split
        · exact .refl s
        · exact ⟨rfl, rfl, rfl, rfl, rfl⟩

/-- Every step has one of the effects. -/
theorem effect_perform (s : Session) (step : Step) : s.Effect step (s.perform step).state :=
  (effect_act s step).of_sameTables (sameTables_write _ _)

/-- Every step meets its demand on a registry that it does not put another one in the place of. -/
theorem sameTables_perform {s : Session} {ref : RegistryRef} {g : Registry} (hg : g.Sound)
    (h : s.registryOf ref = some g) {step : Step} (hkept : ¬ step.Opens ref) :
    ∃ after, (s.perform step).state.registryOf ref = some after ∧
      after.SameTables (g.meet (s.demand? ref step)) := by
  cases effect_perform s step with
  | nothing hdemand hopened hsame =>
      refine ⟨g, (hsame.registryOf_eq ref).trans h, ?_⟩
      rw [hdemand ref g h]
      exact .refl g
  -- The session's own tables are not in a registry.
  | worked id inner t hstep ht hsame =>
      refine ⟨g, (hsame.registryOf_eq ref).trans ((registryOf_congr rfl rfl rfl ref).trans h), ?_⟩
      rw [hstep]
      exact .refl g
  | opened id type config t hstep ht hsame =>
      refine ⟨g, (hsame.registryOf_eq ref).trans ((registryOf_congr rfl rfl rfl ref).trans h), ?_⟩
      rw [hstep]
      exact .refl g
  | dropped id t hstep ht hsame =>
      refine ⟨g, (hsame.registryOf_eq ref).trans ((registryOf_congr rfl rfl rfl ref).trans h), ?_⟩
      rw [hstep]
      exact .refl g
  | met ref' g' met d? hdemand hopened hg' hmeet hsame =>
      rw [hsame.registryOf_eq, registryOf_charge, registryOf_putRegistry, hdemand]
      by_cases href : ref' = ref
      · rw [href, h, Option.some_inj] at hg'
        rw [if_pos href, if_pos href]
        exact ⟨met, rfl, hg' ▸ hmeet (hg' ▸ hg)⟩
      · rw [if_neg href, if_neg href]
        exact ⟨g, h, .refl g⟩
  | replaced id g' hdemand hopened haccept hnew hsame =>
      have hother : RegistryRef.named id ≠ ref := by
        rintro rfl
        exact hkept (Step.opens_of_opened? hopened)
      rw [hsame.registryOf_eq, registryOf_putRegistry, if_neg hother, hdemand]
      exact ⟨g, h, .refl g⟩

end Session

end Interner
