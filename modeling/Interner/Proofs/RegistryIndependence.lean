import Interner.Proofs.SessionSteps
import Interner.Proofs.ShapeOrder
import Mathlib.Data.Set.Function

/-!
A registry is a family of tables that know nothing of each other. What a session is told about one
type of one of its registries is what a table of that type alone would tell.
-/

namespace Interner

open Session

namespace Session.Demand

/-- The step that a demand makes on the table of `type`, if it makes one. -/
def stepOn? (type : RecordType) (d : Demand) : Option TableStep :=
  if d.type = type then d.step else none

def stepsOn (type : RecordType) (ds : List Demand) : List TableStep := ds.filterMap (stepOn? type)

def shapesOf (ds : List Demand) : List Shape := (ds.map (·.type.shape)).eraseDups

theorem stepsOn_concat (type : RecordType) (ds : List Demand) (d : Demand) :
    stepsOn type (ds ++ [d]) = stepsOn type ds ++ (d.stepOn? type).toList := by
  rw [stepsOn, List.filterMap_append, ← stepsOn]
  rcases hstep : d.stepOn? type with _ | step
  · simp [hstep]
  · simp [hstep]

theorem stepsOn_of_notMem {type : RecordType} {ds : List Demand} (h : type ∉ ds.map (·.type)) :
    stepsOn type ds = [] := by
  rw [stepsOn, List.filterMap_eq_nil_iff]
  intro d hd
  exact if_neg fun heq => h (List.mem_map.mpr ⟨d, hd, heq⟩)

end Session.Demand

namespace Registry

open Demand

/-- The registry holds exactly the tables that demands asked for. The table of a type is the one
that the steps on it alone would leave. -/
structure Splits (g : Registry) (config : Config) (types : Set RecordType)
    (ds : List Demand) : Prop where
  sound : g.Sound
  config_eq : g.config = config
  shapes_eq : g.tables.map (·.shape) = shapesOf ds
  find?_eq : ∀ type ∈ types, ∀ t, InternTable.build type config = .ok t → g.find? type.shape =
    if type ∈ ds.map (·.type) then some (Run.all TableStep.perform t (stepsOn type ds)).state
    else none

variable {g : Registry} {config : Config} {types : Set RecordType} {ds : List Demand}

theorem splits_nil (h : create config = .ok g) : g.Splits config types [] := by
  have hsound := sound_of_create h
  rcases haccept : config.accept with cause | ⟨⟩
  · rw [create_of_reject haccept] at h
    cases h
  · rw [create_of_accept haccept] at h
    cases h
    exact ⟨hsound, rfl, rfl, fun type _ t _ => rfl⟩

theorem Splits.of_sameTables {after : Registry} (h : g.Splits config types ds)
    (hsame : after.SameTables g) : after.Splits config types ds := by
  constructor
  case sound => exact hsame.sound h.sound
  case config_eq => rw [hsame.config_eq, h.config_eq]
  case shapes_eq => rw [hsame.tables_eq, h.shapes_eq]
  case find?_eq =>
    intro type htype t ht
    rw [hsame.find?_eq, h.find?_eq type htype t ht]

theorem Splits.build_eq (h : g.Splits config types ds) (type : RecordType) :
    ∃ t, InternTable.build type config = .ok t ∧ t.Represents type config [] :=
  InternTable.represents_build type (h.config_eq ▸ h.sound.accepted)

/-- Every request is met with the table that the steps on it alone would leave. -/
theorem Splits.request_eq (h : g.Splits config types ds) {type : RecordType} (htype : type ∈ types)
    {t : InternTable} (ht : InternTable.build type config = .ok t) :
    ∃ after events, g.request type =
      .ok ((Run.all TableStep.perform t (stepsOn type ds)).state, after, events) := by
  have hfind := h.find?_eq type htype t ht
  obtain ⟨t', ht', hrepresents⟩ := h.build_eq type
  rw [ht] at ht'
  cases ht'
  split at hfind
  · have hshape := (TableStep.represents_all hrepresents (stepsOn type ds)).shape_eq
    exact ⟨g, [], request_of_find? hfind hshape⟩
  · rename_i hnew
    rw [stepsOn_of_notMem hnew]
    exact ⟨_, _, request_of_none hfind (h.config_eq ▸ ht)⟩

theorem applyTo_eq_state_all {type : RecordType} (t : InternTable) (steps : List TableStep)
    {d : Demand} (hd : d.type = type) :
    d.applyTo (Run.all TableStep.perform t steps).state =
      (Run.all TableStep.perform t (steps ++ (d.stepOn? type).toList)).state := by
  rw [stepOn?, if_pos hd]
  obtain ⟨_, _ | step⟩ := d
  · rw [Option.toList_none, List.append_nil]
    rfl
  · rw [Option.toList_some, Run.state_all_concat]
    rfl

theorem splits_serve (hids : types.InjOn (·.shape.id)) (h : g.Splits config types ds) {d : Demand}
    (hd : d.type ∈ types) : (g.serve d).Splits config types (ds ++ [d]) := by
  obtain ⟨fresh, hbuild, -⟩ := h.build_eq d.type
  obtain ⟨_, _, hserved⟩ := h.request_eq hd hbuild
  rcases serve_cases h.sound d with ⟨t, after, events, hrequest, hgives, hfiled⟩ |
    ⟨t, -, -, hrequest, -⟩
  · rw [hrequest] at hserved
    cases hserved
    have hshape := (shape_applyTo (hgives.represents h.sound) d).trans hgives.1
    constructor
    case sound => exact sound_serve h.sound d
    case config_eq => rw [hfiled.config_eq, h.config_eq]
    case shapes_eq =>
      rw [hfiled.shapes_eq, h.shapes_eq, hshape, shapesOf, shapesOf, List.map_append]
      simp only [List.map_cons, List.map_nil, eraseDups_concat, List.mem_eraseDups]
    case find?_eq =>
      intro type htype t ht
      rw [hfiled.find?_eq, hshape, stepsOn_concat]
      by_cases heq : d.type = type
      · subst heq
        rw [hbuild] at ht
        cases ht
        rw [if_pos rfl, if_pos (by simp), applyTo_eq_state_all _ _ rfl]
      · have hid : type.shape.id ≠ d.type.shape.id := by
          intro hid
          exact heq (hids hd htype hid.symm)
        rw [if_neg hid, h.find?_eq type htype t ht, stepOn?, if_neg heq, Option.toList_none,
          List.append_nil, List.map_append]
        simp [Ne.symm heq]
  · rw [hrequest] at hserved
    cases hserved

theorem splits_meet (hids : types.InjOn (·.shape.id)) (h : g.Splits config types ds)
    {d? : Option Demand} (hd : ∀ d ∈ d?, d.type ∈ types) :
    (g.meet d?).Splits config types (ds ++ d?.toList) := by
  rcases d? with _ | d
  · rw [Option.toList_none, List.append_nil]
    exact h
  · exact splits_serve hids h (hd d rfl)

end Registry

namespace Session

open Demand

namespace RegistryStep

theorem length_events_of_request {g after : Registry} {type : RecordType} {t : InternTable}
    {events : List Event} (h : g.request type = .ok (t, after, events)) : events.length ≤ 1 := by
  rw [Registry.request] at h
  split at h
  · split at h
    · cases h
      exact Nat.zero_le 1
    · cases h
  · rcases hbuild : InternTable.build type g.config with fault | u
    · rw [hbuild] at h
      cases h
    · rw [hbuild] at h
      cases h
      exact Nat.le_refl 1

theorem answer_requestAgain_of_again {g : Registry} {type : RecordType} {t : InternTable}
    (h : g.request type = .ok (t, g, [])) (times : Nat) :
    (requestAgain g type times).answer = .ok 0 := by
  induction times with
  | zero => rfl
  | succ times ih =>
      simp only [requestAgain, h, Run.map, ih]
      rfl

theorem answer_requestAgain {g after : Registry} (hg : g.Sound) {type : RecordType}
    {t : InternTable} {events : List Event} (h : g.request type = .ok (t, after, events))
    (times : Nat) : ∃ made ≤ 1, (requestAgain g type times).answer = .ok made := by
  rcases times with _ | times
  · exact ⟨0, Nat.zero_le 1, rfl⟩
  · refine ⟨0 + events.length, by have hlength := length_events_of_request h; omega, ?_⟩
    simp only [requestAgain, h, Run.map,
      answer_requestAgain_of_again (serve_requested hg h) times]
    rfl

theorem answer_sameTable {g after : Registry} (hg : g.Sound) {type : RecordType}
    {t : InternTable} {events : List Event} (h : g.request type = .ok (t, after, events)) :
    ((sameTable type).perform g).answer = .ok (.flag true) ∧
      ∀ threads, ((sameTableTogether type threads).perform g).answer = .ok (.flag true) := by
  constructor
  · obtain ⟨made, hmade, hanswer⟩ := answer_requestAgain hg h 2
    simp only [perform, refusal?, act, Run.map, hanswer, Reply.ofStopped, decide_eq_true hmade]
  · intro threads
    obtain ⟨made, hmade, hanswer⟩ := answer_requestAgain hg h threads
    simp only [perform, refusal?, act, Run.map, Run.elsewhere, hanswer, Reply.ofStopped,
      decide_eq_true hmade]

end RegistryStep

/-- What each step of a run demands of the registry `ref`, in the state that the step meets. -/
def demands (s : Session) (ref : RegistryRef) : List Step → List (Option Demand)
  | [] => []
  | step :: steps => s.demand? ref step :: (s.perform step).state.demands ref steps

/-- All demands that a run makes on the registry `ref`. -/
def demanded (s : Session) (ref : RegistryRef) (steps : List Step) : List Demand :=
  (s.demands ref steps).reduceOption

/-- The steps of a run on the table that the registry `ref` has for `type`, each with the answer
that the session gave to it. -/
def exchanges (s : Session) (ref : RegistryRef) (type : RecordType) (steps : List Step) :
    List (TableStep × Reply) :=
  ((s.demands ref steps).zip (Run.all perform s steps).answer).filterMap fun (d?, answer) =>
    (d?.bind (stepOn? type)).map (·, answer)

theorem demanded_nil (s : Session) (ref : RegistryRef) : s.demanded ref [] = [] := rfl

theorem demanded_cons (s : Session) (ref : RegistryRef) (step : Step) (steps : List Step) :
    s.demanded ref (step :: steps) =
      (s.demand? ref step).toList ++ (s.perform step).state.demanded ref steps := by
  rw [demanded, demands, demanded]
  rcases s.demand? ref step with _ | d
  · rfl
  · rfl

theorem exchanges_cons (s : Session) (ref : RegistryRef) (type : RecordType) (step : Step)
    (steps : List Step) : s.exchanges ref type (step :: steps) =
      (((s.demand? ref step).bind (stepOn? type)).map (·, (s.perform step).answer)).toList ++
        (s.perform step).state.exchanges ref type steps := by
  change List.filterMap _ ((s.demand? ref step, (s.perform step).answer) ::
    ((s.perform step).state.demands ref steps).zip _) = _
  rcases hstep : (s.demand? ref step).bind (stepOn? type) with _ | inner
  · simp only [List.filterMap_cons, hstep]
    rfl
  · simp only [List.filterMap_cons, hstep]
    rfl

theorem map_fst_exchanges (s : Session) (ref : RegistryRef) (type : RecordType)
    (steps : List Step) :
    (s.exchanges ref type steps).map Prod.fst = stepsOn type (s.demanded ref steps) := by
  induction steps generalizing s with
  | nil => rfl
  | cons step steps ih =>
      rw [exchanges_cons, demanded_cons, List.map_append, ih, stepsOn, stepsOn,
        List.filterMap_append]
      congr 1
      rcases s.demand? ref step with _ | d
      · rfl
      · rw [Option.bind_some, Option.toList_some]
        rcases hstep : d.stepOn? type with _ | inner
        · simp [hstep]
        · simp [hstep]

theorem stepsOn_append_toList (type : RecordType) (ds : List Demand) (d? : Option Demand) :
    stepsOn type (ds ++ d?.toList) = stepsOn type ds ++ (d?.bind (stepOn? type)).toList := by
  rcases d? with _ | d
  · rw [Option.toList_none, List.append_nil, Option.bind_none, Option.toList_none, List.append_nil]
  · exact stepsOn_concat type ds d

variable {s : Session} {ref : RegistryRef} {g : Registry} {config : Config}
  {types : Set RecordType} {ds : List Demand}

theorem splits_perform (hids : types.InjOn (·.shape.id)) (hg : g.Splits config types ds)
    (h : s.registryOf ref = some g) {step : Step} (hkept : ¬ step.Opens ref)
    (htypes : ∀ d ∈ s.demand? ref step, d.type ∈ types) :
    ∃ after, (s.perform step).state.registryOf ref = some after ∧
      after.Splits config types (ds ++ (s.demand? ref step).toList) := by
  obtain ⟨after, hafter, hsame⟩ := sameTables_perform hg.sound h hkept
  exact ⟨after, hafter, (Registry.splits_meet hids hg htypes).of_sameTables hsame⟩

theorem splits_all (hids : types.InjOn (·.shape.id)) (hg : g.Splits config types ds)
    (h : s.registryOf ref = some g) {steps : List Step} (hkept : ∀ step ∈ steps, ¬ step.Opens ref)
    (htypes : ∀ d ∈ s.demanded ref steps, d.type ∈ types) :
    ∃ after, (Run.all perform s steps).state.registryOf ref = some after ∧
      after.Splits config types (ds ++ s.demanded ref steps) := by
  induction steps generalizing s g ds with
  | nil => exact ⟨g, h, by rwa [demanded_nil, List.append_nil]⟩
  | cons step steps ih =>
      obtain ⟨hstep, hsteps⟩ := List.forall_mem_cons.mp hkept
      rw [demanded_cons, List.forall_mem_append] at htypes
      obtain ⟨between, hbetween, hsplits⟩ :=
        splits_perform hids hg h hstep (by simpa using htypes.1)
      rw [demanded_cons, ← List.append_assoc]
      exact ih hsplits hbetween hsteps htypes.2

theorem answer_of_splits (hg : g.Splits config types ds) (h : s.registryOf ref = some g)
    {type : RecordType} (htype : type ∈ types) {t : InternTable}
    (ht : InternTable.build type config = .ok t) {step : Step} {inner : TableStep}
    (hstep : (s.demand? ref step).bind (stepOn? type) = some inner) :
    (s.perform step).answer =
      (inner.perform (Run.all TableStep.perform t (stepsOn type ds)).state).answer := by
  obtain ⟨d, hdemand, hinner⟩ := Option.bind_eq_some_iff.mp hstep
  obtain ⟨after, events, hrequest⟩ := hg.request_eq htype ht
  rw [stepOn?, Option.ite_none_right_eq_some] at hinner
  obtain ⟨rfl, hinner⟩ := hinner
  obtain ⟨type, _⟩ := d
  cases hinner
  rw [answer_perform_of_demand h hdemand]
  simp only [hrequest]

theorem map_snd_exchanges (hids : types.InjOn (·.shape.id)) (hg : g.Splits config types ds)
    (h : s.registryOf ref = some g) {steps : List Step} (hkept : ∀ step ∈ steps, ¬ step.Opens ref)
    (htypes : ∀ d ∈ s.demanded ref steps, d.type ∈ types) {type : RecordType}
    (htype : type ∈ types) {t : InternTable} (ht : InternTable.build type config = .ok t) :
    (s.exchanges ref type steps).map Prod.snd =
      (Run.all TableStep.perform (Run.all TableStep.perform t (stepsOn type ds)).state
        ((s.exchanges ref type steps).map Prod.fst)).answer := by
  induction steps generalizing s g ds with
  | nil => rfl
  | cons step steps ih =>
      obtain ⟨hstep, hsteps⟩ := List.forall_mem_cons.mp hkept
      rw [demanded_cons, List.forall_mem_append] at htypes
      obtain ⟨between, hbetween, hsplits⟩ :=
        splits_perform hids hg h hstep (by simpa using htypes.1)
      have hrest := ih hsplits hbetween hsteps htypes.2
      rw [stepsOn_append_toList] at hrest
      rw [exchanges_cons]
      rcases hinner : (s.demand? ref step).bind (stepOn? type) with _ | inner
      · rw [hinner, Option.toList_none, List.append_nil] at hrest
        exact hrest
      · rw [hinner, Option.toList_some, Run.state_all_concat] at hrest
        exact congrArg₂ List.cons (answer_of_splits hg h htype ht hinner) hrest

/-- The run of a table that gets the steps on the table of `type`, and no others. -/
def alone (s : Session) (ref : RegistryRef) (type : RecordType) (steps : List Step)
    (t : InternTable) : Run InternTable (List Reply) :=
  Run.all TableStep.perform t ((s.exchanges ref type steps).map Prod.fst)

/-- After `steps` the registry `ref`, which is now `g`, is a family of tables for `types` that do
not know of each other. Each started as `fresh` says. -/
structure Family (s : Session) (ref : RegistryRef) (types : Set RecordType)
    (fresh : RecordType → InternTable) (steps : List Step) (g : Registry) : Prop where
  answers : ∀ type ∈ types,
    (s.exchanges ref type steps).map Prod.snd = (s.alone ref type steps (fresh type)).answer
  filed : ∀ type ∈ types, g.find? type.shape =
    if type ∈ (s.demanded ref steps).map (·.type) then
      some (s.alone ref type steps (fresh type)).state
    else none
  /-- A request is met with that table, and never with one that was filed for another type. -/
  requested : ∀ type ∈ types, ∃ after events,
    g.request type = .ok ((s.alone ref type steps (fresh type)).state, after, events)
  agreed : ∀ type ∈ types, ((RegistryStep.sameTable type).perform g).answer = .ok (.flag true) ∧
    ∀ threads, ((RegistryStep.sameTableTogether type threads).perform g).answer = .ok (.flag true)
  tableCount : g.tableCount = (shapesOf (s.demanded ref steps)).length
  shapes_perm : g.shapes.Perm (shapesOf (s.demanded ref steps))
  shapes_sorted : g.shapes.Pairwise fun a b =>
    a.arity < b.arity ∨ a.arity = b.arity ∧ a.name ≤ b.name

theorem family_of_splits (hids : types.InjOn (·.shape.id)) (hg : g.Splits config types [])
    (h : s.registryOf ref = some g) {fresh : RecordType → InternTable}
    (hfresh : ∀ type, InternTable.build type config = .ok (fresh type)) {steps : List Step}
    (hkept : ∀ step ∈ steps, ¬ step.Opens ref)
    (htypes : ∀ d ∈ s.demanded ref steps, d.type ∈ types) :
    ∃ after, (Run.all perform s steps).state.registryOf ref = some after ∧
      s.Family ref types fresh steps after := by
  obtain ⟨after, hafter, hsplits⟩ := splits_all hids hg h hkept htypes
  rw [List.nil_append] at hsplits
  have hrequest : ∀ type ∈ types, ∃ more events,
      after.request type = .ok ((s.alone ref type steps (fresh type)).state, more, events) := by
    intro type htype
    rw [alone, map_fst_exchanges]
    exact hsplits.request_eq htype (hfresh type)
  refine ⟨after, hafter, ?_⟩
  constructor
  case answers =>
    intro type htype
    exact map_snd_exchanges hids hg h hkept htypes htype (hfresh type)
  case filed =>
    intro type htype
    rw [alone, map_fst_exchanges]
    exact hsplits.find?_eq type htype _ (hfresh type)
  case requested => exact hrequest
  case agreed =>
    intro type htype
    obtain ⟨more, events, hrequested⟩ := hrequest type htype
    exact RegistryStep.answer_sameTable hsplits.sound hrequested
  case tableCount =>
    rw [← hsplits.shapes_eq, List.length_map]
    rfl
  case shapes_perm =>
    rw [← hsplits.shapes_eq]
    exact Shape.sort_perm _
  case shapes_sorted => exact Shape.pairwise_sort _

end Session

/-- A registry is a family of independent tables. Whatever a session does with its other objects, it
treats a registry that it has just been given, and that no step replaces, as one table for each of
`types`. The types are told apart by their identities. -/
theorem registry_is_family_of_tables (config : Config) (g : Registry)
    (hcreate : Registry.create config = .ok g) (s : Session) (ref : RegistryRef)
    (hgiven : s.registryOf ref = some g) (types : Set RecordType)
    (hids : types.InjOn (·.shape.id)) (steps : List Step)
    (hkept : ∀ step ∈ steps, ¬ step.Opens ref)
    (htypes : ∀ d ∈ s.demanded ref steps, d.type ∈ types) :
    ∃ fresh : RecordType → InternTable,
      (∀ type, InternTable.create type config = .ok (fresh type) ∧
        (fresh type).index.size = 0 ∧ (fresh type).records.size = 0) ∧
      ∃ after, (Run.all Session.perform s steps).state.registryOf ref = some after ∧
        s.Family ref types fresh steps after := by
  have hsplits : g.Splits config types [] := Registry.splits_nil hcreate
  have haccept : config.accept = .ok () := hsplits.config_eq ▸ hsplits.sound.accepted
  choose fresh hbuild hfresh using fun type => InternTable.represents_build type haccept
  refine ⟨fresh, fun type => ⟨?_, ?_, ?_⟩, ?_⟩
  · rw [InternTable.create, haccept]
    exact hbuild type
  · exact (hfresh type).index_size
  · exact (hfresh type).holds.size_eq
  · exact family_of_splits hids hsplits hgiven hbuild hkept htypes

theorem two_types_in_one_registry :
    let pair : RecordType := { shape := { id := 0, name := "pair", arity := 2 } }
    let edge : RecordType := { shape := { id := 1, name := "edge", arity := 2 } }
    let config : Config := { blockSize := 2, maxRecords := 2 }
    let ref : RegistryRef := .named "left"
    let s := ({} : Session).putRegistry ref { config }
    let steps : List Step :=
      [.openUsualRegistry "right", .registry ref (.intern pair [1, 2]),
        .registry (.named "right") (.intern pair [3, 4]), .registry ref (.resolve edge 1),
        .table (.filed ref pair) (.intern [3, 4]), .registry ref .inventory,
        .registry ref (.intern edge [1, 2])]
    ∃ t after, InternTable.create pair config = .ok t ∧
      (Run.all Session.perform s steps).state.registryOf ref = some after ∧ after.tableCount = 2 ∧
      (s.exchanges ref pair steps).map Prod.snd =
        (Run.all TableStep.perform t [.intern [1, 2], .intern [3, 4]]).answer := by
  intro pair edge config ref s steps
  have haccept : config.accept = .ok () := Config.accept_eq_ok_iff.mpr (by decide)
  have hdemanded : s.demanded ref steps =
      [⟨pair, some (.intern [1, 2])⟩, ⟨edge, some (.resolve 1)⟩, ⟨pair, some (.intern [3, 4])⟩,
        ⟨edge, some (.intern [1, 2])⟩] := rfl
  have hids : ({pair, edge} : Set RecordType).InjOn (·.shape.id) := by
    rintro type (rfl | rfl) type' (rfl | rfl) hid
    · rfl
    · cases hid
    · cases hid
    · rfl
  have hkept : ∀ step ∈ steps, ¬ step.Opens ref := by
    simp [steps, Step.Opens, ref]
  have htypes : ∀ d ∈ s.demanded ref steps, d.type ∈ ({pair, edge} : Set RecordType) := by
    rw [hdemanded]
    simp
  obtain ⟨fresh, hfresh, after, hafter, hfamily⟩ := registry_is_family_of_tables config { config }
    (Registry.create_of_accept haccept) s ref
    (by rw [registryOf_putRegistry, if_pos rfl]) {pair, edge} hids steps hkept htypes
  have hanswers := hfamily.answers pair (.inl rfl)
  refine ⟨fresh pair, after, (hfresh pair).1, hafter, ?_, ?_⟩
  · rw [hfamily.tableCount, hdemanded]
    decide
  · rw [hanswers, alone, map_fst_exchanges, hdemanded]
    rfl

end Interner
