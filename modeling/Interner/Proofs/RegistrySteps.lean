import Interner.Proofs.TableSteps
import Interner.Session.RegistryStep
import Mathlib.Data.List.Nodup

/-!
Steps on a registry as demands for tables. A step asks for the table of one type at most, and then
performs one step on it at most; every other table stays as it is.
-/

namespace Interner

open Session

namespace Session

/-- What a step asks of a registry: the table of a type, and perhaps a step on that table. -/
structure Demand where
  type : RecordType
  step : Option TableStep

namespace Demand

def applyTo (d : Demand) (t : InternTable) : InternTable :=
  match d.step with
  | none => t
  | some step => (step.perform t).state

theorem applyTo_eq {t : InternTable} {type : RecordType} {config : Config}
    {rs : List Record} (h : t.Represents type config rs) (d : Demand) :
    ∃ history, d.applyTo t = t.insertAll history := by
  obtain ⟨_, _ | step⟩ := d
  · exact ⟨[], rfl⟩
  · exact ⟨_, TableStep.state_perform h step⟩

theorem shape_applyTo {t : InternTable} {config : Config}
    (h : ∃ type rs, t.Represents type config rs) (d : Demand) : (d.applyTo t).shape = t.shape := by
  obtain ⟨type, rs, h⟩ := h
  obtain ⟨history, happly⟩ := applyTo_eq h d
  rw [happly, (h.insertAll history).shape_eq, h.shape_eq]

end Demand

/-- The demand of a step. A record that cannot be built is refused before any table is asked for. -/
def RegistryStep.demand? : RegistryStep → Option Demand
  | .intern type fields =>
    if fields.length = type.shape.arity then some ⟨type, some (.intern fields)⟩ else none
  | .resolve type h => some ⟨type, some (.resolve h)⟩
  | .lookup type h => some ⟨type, some (.lookup h)⟩
  | .table type step => some ⟨type, some step⟩
  | .sameTable type => some ⟨type, none⟩
  | .sameTableTogether type threads => if threads = 0 then none else some ⟨type, none⟩
  | .config | .tableCount | .shapes | .inventory => none

end Session

namespace Registry

def serve (g : Registry) (d : Demand) : Registry :=
  match g.request d.type with
  | .error _ => g
  | .ok (t, g, _) =>
    match d.step with
    | none => g
    | some step => g.store (step.perform t).state

theorem find?_store (g : Registry) (t : InternTable) (s : Shape) :
    (g.store t).find? s =
      (g.find? s).map fun old => if old.shape.id = t.shape.id then t else old := by
  rw [find?, store, List.find?_map, find?]
  congr 2
  funext old
  simp only [Function.comp_apply]
  split
  · rename_i heq
    rw [heq]
  · rfl

theorem request_of_find? {g : Registry} {type : RecordType} {t : InternTable}
    (h : g.find? type.shape = some t) (hshape : t.shape = type.shape) :
    g.request type = .ok (t, g, []) := by
  simp only [request, h, if_pos hshape]

theorem request_of_foreign {g : Registry} {type : RecordType} {t : InternTable}
    (h : g.find? type.shape = some t) (hshape : t.shape ≠ type.shape) :
    g.request type = .error (.foreignTable type.shape) := by
  simp only [request, h, if_neg hshape]

theorem request_of_none {g : Registry} {type : RecordType} {t : InternTable}
    (h : g.find? type.shape = none) (hbuild : InternTable.build type g.config = .ok t) :
    g.request type = .ok (t, { g with tables := g.tables ++ [t] },
      [.tableCreated t.shape t.blockSize]) := by
  simp only [request, h, hbuild]
  rfl

theorem find?_congr (g : Registry) {s s' : Shape} (h : s.id = s'.id) : g.find? s = g.find? s' := by
  rw [find?, find?, h]

theorem id_of_find? {g : Registry} {s : Shape} {t : InternTable} (h : g.find? s = some t) :
    t.shape.id = s.id := by
  simpa using List.find?_some h

theorem mem_of_find? {g : Registry} {s : Shape} {t : InternTable} (h : g.find? s = some t) :
    t ∈ g.tables :=
  List.mem_of_find?_eq_some h

/-- The configuration is accepted, no two tables have one identity, and every table was built with
the configuration and holds what was inserted. -/
structure Sound (g : Registry) : Prop where
  accepted : g.config.accept = .ok ()
  distinct : (g.tables.map (·.shape.id)).Nodup
  represents : ∀ s t, g.find? s = some t → ∃ type rs, t.Represents type g.config rs

/-- Registries with one configuration and the same tables. They may differ in the inventory that
they keep. -/
structure SameTables (g g' : Registry) : Prop where
  config_eq : g.config = g'.config
  tables_eq : g.tables = g'.tables

theorem SameTables.refl (g : Registry) : g.SameTables g := ⟨rfl, rfl⟩

theorem SameTables.find?_eq {g g' : Registry} (h : g.SameTables g') (s : Shape) :
    g.find? s = g'.find? s := by
  rw [find?, find?, h.tables_eq]

theorem SameTables.sound {g g' : Registry} (h : g.SameTables g') (hg : g'.Sound) : g.Sound := by
  refine ⟨h.config_eq ▸ hg.accepted, h.tables_eq ▸ hg.distinct, ?_⟩
  intro s t hfind
  rw [h.find?_eq] at hfind
  rw [h.config_eq]
  exact hg.represents s t hfind

theorem create_of_accept {config : Config} (h : config.accept = .ok ()) :
    create config = .ok { config } := by
  rw [create, h]
  rfl

theorem create_of_reject {config : Config} {cause : ConfigError}
    (h : config.accept = .error cause) : create config = .error cause := by
  rw [create, h]
  rfl

theorem sound_of_create {config : Config} {g : Registry} (h : create config = .ok g) : g.Sound := by
  rcases haccept : config.accept with cause | ⟨⟩
  · rw [create_of_reject haccept] at h
    cases h
  · rw [create_of_accept haccept] at h
    cases h
    exact ⟨haccept, List.nodup_nil, fun s t ht => by cases ht⟩

theorem find?_eq_of_mem {g : Registry} (hg : (g.tables.map (·.shape.id)).Nodup) {t : InternTable}
    (h : t ∈ g.tables) : g.find? t.shape = some t := by
  rcases hfind : g.find? t.shape with _ | u
  · have hid := List.find?_eq_none.mp hfind t h
    simp at hid
  · rw [List.inj_on_of_nodup_map hg (mem_of_find? hfind) h (id_of_find? hfind)]

/-- A registry with the table `t` in the place of the one with the same identity, or as its last. -/
structure Filed (g : Registry) (t : InternTable) (after : Registry) : Prop where
  config_eq : after.config = g.config
  snapshot_eq : after.snapshot = g.snapshot
  distinct : (after.tables.map (·.shape.id)).Nodup
  shapes_eq : after.tables.map (·.shape) =
    if t.shape ∈ g.tables.map (·.shape) then g.tables.map (·.shape)
    else g.tables.map (·.shape) ++ [t.shape]
  find?_eq : ∀ s : Shape, after.find? s = if s.id = t.shape.id then some t else g.find? s

theorem mem_shapes_of_find? {g : Registry} {s : Shape} {t : InternTable} (h : g.find? s = some t) :
    t.shape ∈ g.tables.map (·.shape) :=
  List.mem_map.mpr ⟨t, mem_of_find? h, rfl⟩

theorem filed_store {g : Registry} {t u : InternTable} (hg : g.Sound)
    (h : g.find? t.shape = some u) (hshape : u.shape = t.shape) : g.Filed t (g.store t) := by
  have hshapes : (g.store t).tables.map (·.shape) = g.tables.map (·.shape) := by
    rw [store, List.map_map]
    apply List.map_congr_left
    intro old hold
    simp only [Function.comp_apply]
    split
    · rename_i hid
      have hfound := find?_eq_of_mem hg.distinct hold
      rw [g.find?_congr hid, h, Option.some_inj] at hfound
      rw [← hfound, hshape]
    · rfl
  constructor
  case config_eq => rfl
  case snapshot_eq => rfl
  case distinct =>
    have hids := congrArg (List.map Shape.id) hshapes
    rw [List.map_map, List.map_map] at hids
    exact hids ▸ hg.distinct
  case shapes_eq =>
    rw [hshapes, if_pos (hshape ▸ mem_shapes_of_find? h)]
  case find?_eq =>
    intro s
    rw [find?_store]
    by_cases hs : s.id = t.shape.id
    · rw [if_pos hs, g.find?_congr hs, h, Option.map_some, if_pos (id_of_find? h)]
    · rw [if_neg hs]
      rcases hfind : g.find? s with _ | old
      · rfl
      · rw [Option.map_some, if_neg (by rw [id_of_find? hfind]; exact hs)]

theorem filed_append {g : Registry} {t : InternTable} (hg : g.Sound)
    (h : g.find? t.shape = none) : g.Filed t { g with tables := g.tables ++ [t] } := by
  have hnew : ∀ old ∈ g.tables, old.shape.id ≠ t.shape.id := by
    intro old hold
    simpa using List.find?_eq_none.mp h old hold
  constructor
  case config_eq => rfl
  case snapshot_eq => rfl
  case distinct =>
    rw [List.map_append, List.nodup_append]
    refine ⟨hg.distinct, List.nodup_singleton _, ?_⟩
    intro a ha b hb
    obtain ⟨old, hold, rfl⟩ := List.mem_map.mp ha
    rw [List.mem_singleton.mp hb]
    exact hnew old hold
  case shapes_eq =>
    rw [if_neg, List.map_append]
    · rfl
    · intro hmem
      obtain ⟨old, hold, heq⟩ := List.mem_map.mp hmem
      exact hnew old hold (by rw [heq])
  case find?_eq =>
    intro s
    rw [find?, List.find?_append, ← find?]
    by_cases hs : s.id = t.shape.id
    · rw [if_pos hs, g.find?_congr hs, h]
      simp [hs]
    · rw [if_neg hs]
      simp [Ne.symm hs]

theorem filed_of_find? {g : Registry} {t : InternTable} (hg : g.Sound)
    (h : g.find? t.shape = some t) : g.Filed t g := by
  constructor
  case config_eq => rfl
  case snapshot_eq => rfl
  case distinct => exact hg.distinct
  case shapes_eq => rw [if_pos (mem_shapes_of_find? h)]
  case find?_eq =>
    intro s
    split
    · rename_i hs
      rw [g.find?_congr hs, h]
    · rfl

theorem Filed.sound {g after : Registry} {t : InternTable} (h : g.Filed t after) (hg : g.Sound)
    (ht : ∃ type rs, t.Represents type g.config rs) : after.Sound := by
  refine ⟨h.config_eq ▸ hg.accepted, h.distinct, ?_⟩
  intro s u hu
  rw [h.find?_eq] at hu
  rw [h.config_eq]
  split at hu
  · cases hu
    exact ht
  · exact hg.represents s u hu

theorem Filed.trans {g before after : Registry} {t u : InternTable} (h : g.Filed t before)
    (hmore : before.Filed u after) (hshape : u.shape = t.shape) : g.Filed u after := by
  constructor
  case config_eq => rw [hmore.config_eq, h.config_eq]
  case snapshot_eq => rw [hmore.snapshot_eq, h.snapshot_eq]
  case distinct => exact hmore.distinct
  case shapes_eq =>
    have hmem : t.shape ∈ before.tables.map (·.shape) := by
      rw [h.shapes_eq]
      split
      · assumption
      · exact List.mem_append_right _ (List.mem_singleton_self _)
    rw [hmore.shapes_eq, hshape, if_pos hmem, h.shapes_eq]
  case find?_eq =>
    intro s
    rw [hmore.find?_eq, h.find?_eq, hshape]
    split <;> rfl

/-- The table that a request for `type` gives: the one on file, or else a new one. -/
def Gives (g : Registry) (type : RecordType) (t : InternTable) : Prop :=
  t.shape = type.shape ∧
    (g.find? type.shape = some t ∨
      g.find? type.shape = none ∧ InternTable.build type g.config = .ok t)

theorem Gives.represents {g : Registry} {type : RecordType} {t : InternTable}
    (h : g.Gives type t) (hg : g.Sound) : ∃ type' rs, t.Represents type' g.config rs := by
  obtain ⟨-, hfind | ⟨-, hbuild⟩⟩ := h
  · exact hg.represents _ t hfind
  · obtain ⟨u, hu, hrepresents⟩ := InternTable.represents_build type hg.accepted
    rw [hbuild] at hu
    cases hu
    exact ⟨type, [], hrepresents⟩

/-- A request gives the table of the type and files it, unless another type has the identity. -/
theorem request_cases {g : Registry} (hg : g.Sound) (type : RecordType) :
    (∃ t after events, g.request type = .ok (t, after, events) ∧ g.Gives type t ∧
      g.Filed t after) ∨
    (∃ t, g.find? type.shape = some t ∧ t.shape ≠ type.shape ∧
      g.request type = .error (.foreignTable type.shape)) := by
  rcases hfind : g.find? type.shape with _ | t
  · obtain ⟨t, hbuild, ht⟩ := InternTable.represents_build type hg.accepted
    have hnone : g.find? t.shape = none := by rw [ht.shape_eq, hfind]
    exact .inl ⟨t, _, _, request_of_none hfind hbuild,
      ⟨ht.shape_eq, .inr ⟨hfind, hbuild⟩⟩, filed_append hg hnone⟩
  · by_cases hshape : t.shape = type.shape
    · have hsome : g.find? t.shape = some t := by rw [hshape, hfind]
      exact .inl ⟨t, g, [], request_of_find? hfind hshape, ⟨hshape, .inl hfind⟩,
        filed_of_find? hg hsome⟩
    · exact .inr ⟨t, rfl, hshape, request_of_foreign hfind hshape⟩

/-- To meet a demand is to file the table of its type after the step on it. -/
theorem serve_cases {g : Registry} (hg : g.Sound) (d : Demand) :
    (∃ t after events, g.request d.type = .ok (t, after, events) ∧ g.Gives d.type t ∧
      g.Filed (d.applyTo t) (g.serve d)) ∨
    (∃ t, g.find? d.type.shape = some t ∧ t.shape ≠ d.type.shape ∧
      g.request d.type = .error (.foreignTable d.type.shape) ∧ g.serve d = g) := by
  rcases request_cases hg d.type with ⟨t, after, events, hrequest, hgives, hfiled⟩ | hforeign
  · refine .inl ⟨t, after, events, hrequest, hgives, ?_⟩
    have ht := hgives.represents hg
    have hshape := Demand.shape_applyTo ht d
    have hafter := hfiled.sound hg ht
    obtain ⟨type, _ | step⟩ := d
    · simp only [serve, hrequest]
      exact hfiled
    · have hfind : after.find? (step.perform t).state.shape = some t := by
        rw [hfiled.find?_eq]
        exact if_pos (congrArg Shape.id hshape)
      simp only [serve, hrequest]
      exact hfiled.trans (filed_store hafter hfind hshape.symm) hshape
  · obtain ⟨t, hfind, hshape, hrequest⟩ := hforeign
    refine .inr ⟨t, hfind, hshape, hrequest, ?_⟩
    simp only [serve, hrequest]

theorem sound_serve {g : Registry} (hg : g.Sound) (d : Demand) : (g.serve d).Sound := by
  rcases serve_cases hg d with ⟨t, after, events, -, hgives, hfiled⟩ | ⟨t, -, -, -, hserve⟩
  · obtain ⟨type, rs, ht⟩ := hgives.represents hg
    obtain ⟨history, happly⟩ := Demand.applyTo_eq ht d
    exact hfiled.sound hg ⟨type, _, happly ▸ ht.insertAll history⟩
  · rw [hserve]
    exact hg

theorem config_serve {g : Registry} (hg : g.Sound) (d : Demand) :
    (g.serve d).config = g.config := by
  rcases serve_cases hg d with ⟨t, after, events, -, -, hfiled⟩ | ⟨t, -, -, -, hserve⟩
  · exact hfiled.config_eq
  · rw [hserve]

def meet (g : Registry) : Option Demand → Registry
  | none => g
  | some d => g.serve d

theorem sound_meet {g : Registry} (hg : g.Sound) (d? : Option Demand) : (g.meet d?).Sound := by
  rcases d? with _ | d
  · exact hg
  · exact sound_serve hg d

theorem config_meet {g : Registry} (hg : g.Sound) (d? : Option Demand) :
    (g.meet d?).config = g.config := by
  rcases d? with _ | d
  · rfl
  · exact config_serve hg d

theorem sameTables_inventory {g after : Registry} {v : Inventory} {events : List Event}
    (h : g.inventory = .ok (v, after, events)) : after.SameTables g := by
  rcases hsnapshot : g.snapshot with _ | snapshot
  · rcases hexport : exportAll {} g.tablesInOrder with fault | ⟨w, more⟩
    · simp only [inventory, hsnapshot, hexport] at h
      cases h
    · simp only [inventory, hsnapshot, hexport] at h
      cases h
      exact ⟨rfl, rfl⟩
  · simp only [inventory, hsnapshot] at h
    cases h
    exact ⟨rfl, rfl⟩

end Registry

namespace Session.RegistryStep

theorem state_onTable (g : Registry) (type : RecordType) (step : TableStep) :
    (onTable g type step).state = g.serve ⟨type, some step⟩ := by
  rcases hrequest : g.request type with fault | ⟨t, after, events⟩
  · simp only [onTable, Registry.serve, hrequest]
  · simp only [onTable, Registry.serve, hrequest, Run.within]

theorem serve_requested {g after : Registry} {type : RecordType} {t : InternTable}
    {events : List Event} (hg : g.Sound) (h : g.request type = .ok (t, after, events)) :
    after.request type = .ok (t, after, []) := by
  rcases Registry.request_cases hg type with ⟨u, _, _, hrequest, hgives, hfiled⟩ | ⟨u, -, -, herror⟩
  · rw [h] at hrequest
    cases hrequest
    refine Registry.request_of_find? ?_ hgives.1
    rw [hfiled.find?_eq, if_pos (by rw [hgives.1])]
  · rw [h] at herror
    cases herror

theorem state_requestAgain {g : Registry} (hg : g.Sound) (type : RecordType) (times : Nat) :
    (requestAgain g type (times + 1)).state = g.serve ⟨type, none⟩ := by
  induction times generalizing g with
  | zero =>
      rcases hrequest : g.request type with fault | ⟨t, after, events⟩
      · simp only [requestAgain, Registry.serve, hrequest]
      · simp only [requestAgain, Registry.serve, hrequest, Run.map]
  | succ times ih =>
      rcases hrequest : g.request type with fault | ⟨t, after, events⟩
      · simp only [requestAgain, Registry.serve, hrequest]
      · have hafter : after.Sound := by
          have hserve := Registry.sound_serve hg ⟨type, none⟩
          simp only [Registry.serve, hrequest] at hserve
          exact hserve
        have hagain := ih hafter
        simp only [Registry.serve, serve_requested hg hrequest] at hagain
        rw [requestAgain]
        simp only [Registry.serve, hrequest]
        exact hagain

theorem state_perform_of_demand {g : Registry} (hg : g.Sound) {step : RegistryStep} {d : Demand}
    (h : step.demand? = some d) : (step.perform g).state = g.serve d := by
  cases step with
  | intern type fields =>
      rw [demand?] at h
      split at h
      · rename_i hlength
        cases h
        rw [perform, refusal?, Shape.record, if_pos hlength]
        exact state_onTable g type _
      · cases h
  | resolve type handle =>
      cases h
      exact state_onTable g type _
  | lookup type handle =>
      cases h
      exact state_onTable g type _
  | table type step =>
      cases h
      exact state_onTable g type _
  | sameTable type =>
      cases h
      exact state_requestAgain hg type 1
  | sameTableTogether type threads =>
      rw [demand?] at h
      split at h
      · cases h
      · rename_i hthreads
        cases h
        obtain ⟨times, rfl⟩ := Nat.exists_eq_succ_of_ne_zero hthreads
        exact state_requestAgain hg type times
  | _ => cases h

theorem answer_onTable (g : Registry) (type : RecordType) (step : TableStep) :
    (onTable g type step).answer =
      match g.request type with
      | .error fault => .error (.fault fault)
      | .ok (t, _, _) => (step.perform t).answer := by
  rcases hrequest : g.request type with fault | ⟨t, after, events⟩
  · simp only [onTable, hrequest]
  · simp only [onTable, hrequest, Run.within]

theorem answer_perform_of_demand (g : Registry) {step : RegistryStep} {type : RecordType}
    {inner : TableStep} (h : step.demand? = some ⟨type, some inner⟩) :
    (step.perform g).answer =
      match g.request type with
      | .error fault => .error (.fault fault)
      | .ok (t, _, _) => (inner.perform t).answer := by
  cases step with
  | intern type fields =>
      rw [demand?] at h
      split at h
      · rename_i hlength
        cases h
        rw [perform, refusal?, Shape.record, if_pos hlength]
        exact answer_onTable g type _
      · cases h
  | resolve type handle =>
      cases h
      exact answer_onTable g type _
  | lookup type handle =>
      cases h
      exact answer_onTable g type _
  | table type step =>
      cases h
      exact answer_onTable g type _
  | sameTableTogether type threads =>
      rw [demand?] at h
      split at h
      · cases h
      · cases h
  | _ => cases h

theorem sameTables_perform_of_none {g : Registry} {step : RegistryStep}
    (h : step.demand? = none) : (step.perform g).state.SameTables g := by
  cases step with
  | intern type fields =>
      rw [demand?] at h
      split at h
      · cases h
      · rename_i hlength
        rw [perform, refusal?, Shape.record, if_neg hlength]
        exact .refl g
  | sameTableTogether type threads =>
      rw [demand?] at h
      split at h
      · rename_i hthreads
        rw [hthreads]
        exact .refl g
      · cases h
  | inventory =>
      simp only [perform, refusal?, act]
      rcases hinventory : g.inventory with fault | ⟨v, after, events⟩
      · exact .refl g
      · exact Registry.sameTables_inventory hinventory
  | config => exact .refl g
  | tableCount => exact .refl g
  | shapes => exact .refl g
  | _ => cases h

/-- Every step leaves the tables that the meeting of its demand leaves. -/
theorem sameTables_perform {g : Registry} (hg : g.Sound) (step : RegistryStep) :
    (step.perform g).state.SameTables (g.meet step.demand?) := by
  rcases hdemand : step.demand? with _ | d
  · exact sameTables_perform_of_none hdemand
  · rw [state_perform_of_demand hg hdemand]
    exact .refl _

theorem sound_perform {g : Registry} (hg : g.Sound) (step : RegistryStep) :
    (step.perform g).state.Sound :=
  (sameTables_perform hg step).sound (Registry.sound_meet hg step.demand?)

theorem sound_all {g : Registry} (hg : g.Sound) (steps : List RegistryStep) :
    (Run.all perform g steps).state.Sound :=
  Run.all_induction (motive := fun _ (g : Registry) => g.Sound) hg
    (fun _ _ step hbefore => sound_perform hbefore step) steps

theorem config_perform {g : Registry} (hg : g.Sound) (step : RegistryStep) :
    (step.perform g).state.config = g.config :=
  (sameTables_perform hg step).config_eq.trans (Registry.config_meet hg step.demand?)

theorem config_all {g : Registry} (hg : g.Sound) (steps : List RegistryStep) :
    (Run.all perform g steps).state.config = g.config := by
  induction steps generalizing g with
  | nil => rfl
  | cons step steps ih => exact (ih (sound_perform hg step)).trans (config_perform hg step)

end Session.RegistryStep

end Interner
