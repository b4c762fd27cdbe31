import Interner.Proofs.InventoryContents
import Interner.Proofs.RegistrySteps
import Mathlib.Data.List.Permutation

namespace Interner

open Session

namespace Registry

def Regular (g : Registry) : Prop := ∀ t ∈ g.tables, t.Regular

theorem represents_of_mem {g : Registry} (hg : g.Sound) {t : InternTable} (ht : t ∈ g.tables) :
    ∃ type rs, t.Represents type g.config rs :=
  hg.represents _ t (find?_eq_of_mem hg.distinct ht)

theorem sound_of_mem {g : Registry} (hg : g.Sound) (hregular : g.Regular) {t : InternTable}
    (ht : t ∈ g.tables) : t.Sound := by
  obtain ⟨type, rs, hrepresents⟩ := represents_of_mem hg ht
  exact ⟨hregular t ht, type, g.config, rs, hrepresents⟩

theorem nodup_shapes {g : Registry} (hg : g.Sound) : (g.tables.map (·.shape)).Nodup := by
  refine List.Nodup.of_map Shape.id ?_
  rw [List.map_map]
  exact hg.distinct

theorem eq_of_shape_eq {g : Registry} (hg : g.Sound) {t u : InternTable} (ht : t ∈ g.tables)
    (hu : u ∈ g.tables) (h : t.shape = u.shape) : t = u :=
  List.inj_on_of_nodup_map (nodup_shapes hg) ht hu h

theorem Gives.regular {g : Registry} {type : RecordType} {t : InternTable} (h : g.Gives type t)
    (hg : g.Sound) (hregular : g.Regular) : t.Regular := by
  obtain ⟨-, hfind | ⟨-, hbuild⟩⟩ := h
  · exact hregular t (mem_of_find? hfind)
  · obtain ⟨u, hu, hrepresents⟩ := InternTable.represents_build type hg.accepted
    rw [hbuild] at hu
    cases hu
    exact hrepresents.regular_of_forall (List.forall_mem_nil _)

theorem regular_applyTo {t : InternTable} {config : Config}
    (h : ∃ type rs, t.Represents type config rs) (hregular : t.Regular) (d : Demand) :
    (d.applyTo t).Regular := by
  obtain ⟨type, rs, h⟩ := h
  obtain ⟨_, _ | step⟩ := d
  · exact hregular
  · exact TableStep.regular_perform h hregular step

theorem regular_serve {g : Registry} (hg : g.Sound) (hregular : g.Regular) (d : Demand) :
    (g.serve d).Regular := by
  rcases serve_cases hg d with ⟨t, after, events, -, hgives, hfiled⟩ | ⟨t, -, -, -, hserve⟩
  · intro u hu
    have hfind := find?_eq_of_mem hfiled.distinct hu
    rw [hfiled.find?_eq] at hfind
    split at hfind
    · rw [← Option.some.inj hfind]
      exact regular_applyTo (hgives.represents hg) (hgives.regular hg hregular) d
    · exact hregular u (mem_of_find? hfind)
  · rw [hserve]
    exact hregular

theorem snapshot_serve {g : Registry} (hg : g.Sound) (d : Demand) :
    (g.serve d).snapshot = g.snapshot := by
  rcases serve_cases hg d with ⟨t, after, events, -, -, hfiled⟩ | ⟨t, -, -, -, hserve⟩
  · exact hfiled.snapshot_eq
  · rw [hserve]

theorem inventory_of_some {g : Registry} {v : Inventory} (h : g.snapshot = some v) :
    g.inventory = .ok (v, g, []) := by
  simp only [inventory, h]

/-- The first inventory lists all tables, in whatever order they are gone through. -/
theorem exists_lists {g : Registry} (hg : g.Sound) (hregular : g.Regular) :
    ∃ v : Inventory, v.Lists g.tables ∧
      ∀ tables, tables.Perm g.tables → exportAll {} tables = .ok (v, []) := by
  have hsound : ∀ t ∈ g.tables, t.Sound := fun t => sound_of_mem hg hregular
  have hcovers : ∀ t ∈ g.tables, t.Covers {} :=
    fun t _ => InternTable.covers_of_new (Inventory.records?_empty t.shape)
  obtain ⟨v, hexport, hlists⟩ := exportAll_lists hsound (nodup_shapes hg)
  refine ⟨v, hlists, ?_⟩
  intro tables hperm
  rw [exportAll_perm hperm hsound hcovers fun t ht u => eq_of_shape_eq hg ht, hexport]

theorem inventory_of_none {g : Registry} (h : g.snapshot = none) {v : Inventory}
    (hexport : exportAll {} g.tablesInOrder = .ok (v, [])) :
    g.inventory = .ok (v, { g with snapshot := some v }, [.snapshotTaken g.tableCount v.size]) := by
  simp only [inventory, h, hexport]
  rfl

theorem tablesInOrder_perm (g : Registry) : g.tablesInOrder.Perm g.tables :=
  List.mergeSort_perm g.tables _

structure Snapshot (g : Registry) (v : Inventory) : Prop where
  fields : ∀ t ∈ g.tables, ∀ h, v.get? t.shape h = t.get? h
  handles : ∀ t ∈ g.tables, ∀ h, (v.get? t.shape h).isSome ↔ 1 ≤ h.toInt ∧ h.toInt ≤ t.size
  /-- The only record of a type without fields is listed from the request for its table on. -/
  unit : ∀ t ∈ g.tables, t.unit.isSome →
    ∀ h, v.get? t.shape h = if h = Handle.unit then some [] else none
  absent : ∀ s, v.records? s = none ↔ ∀ t ∈ g.tables, t.shape = s → t.size = 0

theorem records?_of_mem {g : Registry} (hg : g.Sound) {v : Inventory} (hv : v.Lists g.tables)
    {t : InternTable} (ht : t ∈ g.tables) :
    v.records? t.shape = if t.size = 0 then none else some t.listing := by
  split
  · rename_i hsize
    refine hv.records?_eq_none_iff.mpr fun u hu hshape => ?_
    rw [eq_of_shape_eq hg hu ht hshape, hsize]
  · rename_i hsize
    exact (hv _ _).mpr ⟨t, ht, rfl, hsize, rfl⟩

theorem snapshot_of_lists {g : Registry} (hg : g.Sound) {v : Inventory} (hv : v.Lists g.tables) :
    g.Snapshot v := by
  have hfields : ∀ t ∈ g.tables, ∀ h, v.get? t.shape h = t.get? h := by
    intro t ht h
    obtain ⟨type, rs, hrepresents⟩ := represents_of_mem hg ht
    rw [Inventory.get?, records?_of_mem hg hv ht]
    split
    · rename_i hsize
      have hvalid := hrepresents.get?_isSome_iff h
      rw [hsize] at hvalid
      rw [Option.bind_none, eq_comm, ← Option.not_isSome_iff_eq_none, hvalid]
      omega
    · exact hrepresents.getElem?_listing h
  constructor
  case fields => exact hfields
  case handles =>
    intro t ht h
    obtain ⟨type, rs, hrepresents⟩ := represents_of_mem hg ht
    rw [hfields t ht]
    exact hrepresents.get?_isSome_iff h
  case unit =>
    intro t ht hunit h
    obtain ⟨type, rs, hrepresents⟩ := represents_of_mem hg ht
    obtain ⟨unit, heq⟩ := Option.isSome_iff_exists.mp hunit
    obtain ⟨-, rfl⟩ := RecordType.unit?_eq_some (hrepresents.unit_eq ▸ heq)
    rw [hfields t ht, InternTable.get?, heq]
  case absent => exact fun s => hv.records?_eq_none_iff

end Registry

namespace Session.RegistryStep

theorem regular_perform {g : Registry} (hg : g.Sound) (hregular : g.Regular)
    (step : RegistryStep) : (step.perform g).state.Regular := by
  have hmeet : (g.meet step.demand?).Regular := by
    rcases step.demand? with _ | d
    · exact hregular
    · exact Registry.regular_serve hg hregular d
  rw [Registry.Regular, (sameTables_perform hg step).tables_eq]
  exact hmeet

theorem sound_and_regular_all {g : Registry} (hg : g.Sound) (hregular : g.Regular)
    (steps : List RegistryStep) :
    (Run.all perform g steps).state.Sound ∧ (Run.all perform g steps).state.Regular :=
  Run.all_induction (motive := fun _ (g : Registry) => g.Sound ∧ g.Regular) ⟨hg, hregular⟩
    (fun _ _ step h => ⟨sound_perform h.1 step, regular_perform h.1 h.2 step⟩) steps

theorem snapshot_perform {g : Registry} (hg : g.Sound) {step : RegistryStep}
    (h : step ≠ .inventory) : (step.perform g).state.snapshot = g.snapshot := by
  rcases hdemand : step.demand? with _ | d
  · cases step with
    | intern type fields =>
        rw [demand?] at hdemand
        split at hdemand
        · cases hdemand
        · rename_i hlength
          rw [perform, refusal?, Shape.record, if_neg hlength]
    | sameTableTogether type threads =>
        rw [demand?] at hdemand
        split at hdemand
        · rename_i hthreads
          rw [hthreads]
          rfl
        · cases hdemand
    | inventory => exact absurd rfl h
    | config => rfl
    | tableCount => rfl
    | shapes => rfl
    | _ => cases hdemand
  · rw [state_perform_of_demand hg hdemand, Registry.snapshot_serve hg]

theorem perform_inventory {g after : Registry} {v : Inventory} {events : List Event}
    (h : g.inventory = .ok (v, after, events)) :
    inventory.perform g = { answer := .ok (.rows v.rows), state := after, events := events } := by
  simp only [perform, refusal?, act, h]

theorem snapshot_perform_of_some {g : Registry} (hg : g.Sound) {v : Inventory}
    (h : g.snapshot = some v) (step : RegistryStep) :
    (step.perform g).state.snapshot = some v := by
  cases step with
  | inventory => rw [perform_inventory (Registry.inventory_of_some h), h]
  | _ => rw [snapshot_perform hg (by rintro ⟨⟩), h]

theorem snapshot_all_of_notMem {g : Registry} (hg : g.Sound) {steps : List RegistryStep}
    (h : .inventory ∉ steps) : (Run.all perform g steps).state.snapshot = g.snapshot := by
  induction steps generalizing g with
  | nil => rfl
  | cons step steps ih =>
      obtain ⟨hstep, hrest⟩ := not_or.mp (mt List.mem_cons.mpr h)
      refine (ih (sound_perform hg step) hrest).trans ?_
      exact snapshot_perform hg (Ne.symm hstep)

theorem snapshot_all_of_some {g : Registry} (hg : g.Sound) {v : Inventory}
    (h : g.snapshot = some v) (steps : List RegistryStep) :
    (Run.all perform g steps).state.snapshot = some v := by
  induction steps generalizing g with
  | nil => exact h
  | cons step steps ih => exact ih (sound_perform hg step) (snapshot_perform_of_some hg h step)

/-- Every request for the inventory in a run is answered from the state of the first, or of a later
one. -/
theorem answer_all_inventory {g : Registry} {v : Inventory} {earlier later : List RegistryStep}
    (hfirst : .inventory ∉ earlier)
    (hbefore : (inventory.perform (Run.all perform g earlier).state).answer = .ok (.rows v.rows))
    (hafter : ∀ more, (Run.all perform g (earlier ++ .inventory :: more)).state.snapshot = some v)
    {k : Nat} (hk : (earlier ++ .inventory :: later)[k]? = some .inventory) :
    (Run.all perform g (earlier ++ .inventory :: later)).answer[k]? =
      some (.ok (.rows v.rows)) := by
  have hlength : earlier.length ≤ k := by
    by_contra hlt
    rw [List.getElem?_append_left (Nat.lt_of_not_le hlt)] at hk
    exact hfirst (List.mem_of_getElem? hk)
  obtain ⟨m, rfl⟩ := Nat.exists_eq_add_of_le hlength
  rw [Run.answer_all_getElem?, hk, Option.map_some, List.take_length_add_append]
  rcases m with _ | m
  · rw [List.take_zero, List.append_nil, hbefore]
  · rw [List.take_succ_cons, perform_inventory (Registry.inventory_of_some (hafter _))]

end Session.RegistryStep

/-- The first inventory of a registry is complete and final. It is what the tables hold at that time,
whatever the order in which they were made or are gone through; to write it changes no table and
reports nothing but itself; and every later request is answered with it. -/
theorem first_inventory_complete_and_final (config : Config) (g : Registry)
    (hcreate : Registry.create config = .ok g) (earlier : List RegistryStep)
    (hfirst : .inventory ∉ earlier) :
    let before := (Run.all RegistryStep.perform g earlier).state
    ∃ v : Inventory, before.Snapshot v ∧
      before.inventory = .ok (v, { before with snapshot := some v },
        [.snapshotTaken before.tableCount v.size]) ∧
      (∀ tables, tables.Perm before.tables → Registry.exportAll {} tables = .ok (v, []) ∧
        Registry.inventory { before with tables } =
          .ok (v, { before with tables, snapshot := some v },
            [.snapshotTaken before.tableCount v.size])) ∧
      ∀ later : List RegistryStep,
        let steps := earlier ++ .inventory :: later
        let run := Run.all RegistryStep.perform g steps
        run.state.inventory = .ok (v, run.state, []) ∧
          ∀ k : Nat, steps[k]? = some .inventory →
            run.answer[k]? = some (.ok (.rows v.rows)) := by
  intro before
  have hg := Registry.sound_of_create hcreate
  have hempty : g = { config } := by
    rcases haccept : config.accept with cause | ⟨⟩
    · rw [Registry.create_of_reject haccept] at hcreate
      cases hcreate
    · rw [Registry.create_of_accept haccept] at hcreate
      exact (Except.ok.inj hcreate).symm
  have hregular : g.Regular := by
    rw [hempty]
    exact List.forall_mem_nil _
  obtain ⟨hsound, hregular⟩ := RegistryStep.sound_and_regular_all hg hregular earlier
  have hnone : before.snapshot = none := by
    rw [RegistryStep.snapshot_all_of_notMem hg hfirst, hempty]
  obtain ⟨v, hlists, hexport⟩ := Registry.exists_lists hsound hregular
  have hinventory : before.inventory = .ok (v, { before with snapshot := some v },
      [.snapshotTaken before.tableCount v.size]) :=
    Registry.inventory_of_none hnone (hexport _ before.tablesInOrder_perm)
  have hwritten : (RegistryStep.inventory.perform before).state.snapshot = some v := by
    rw [RegistryStep.perform_inventory hinventory]
  have hlater : ∀ more, (Run.all RegistryStep.perform g
      (earlier ++ .inventory :: more)).state.snapshot = some v := by
    intro more
    rw [List.append_cons, Run.state_all_append, Run.state_all_concat]
    exact RegistryStep.snapshot_all_of_some (RegistryStep.sound_perform hsound _) hwritten more
  refine ⟨v, Registry.snapshot_of_lists hsound hlists, hinventory, ?_, ?_⟩
  · intro tables hperm
    refine ⟨hexport tables hperm, ?_⟩
    have hother := Registry.inventory_of_none (g := { before with tables }) hnone
      (hexport _ ((Registry.tablesInOrder_perm _).trans hperm))
    rw [hother, Registry.tableCount, hperm.length_eq, Registry.tableCount]
  · intro later steps run
    refine ⟨Registry.inventory_of_some (hlater later), ?_⟩
    intro k hk
    refine RegistryStep.answer_all_inventory hfirst ?_ hlater hk
    rw [RegistryStep.perform_inventory hinventory]

theorem inventory_of_four_shapes :
    let pair : RecordType := { shape := { id := 0, name := "pair", arity := 2 } }
    let edge : RecordType := { shape := { id := 1, name := "edge", arity := 2 } }
    let single : RecordType := { shape := { id := 2, name := "single", arity := 1 } }
    let nil : RecordType := { shape := { id := 3, name := "nil", arity := 0 } }
    let g : Registry := { config := { blockSize := 2, maxRecords := 2 } }
    let earlier : List RegistryStep :=
      [.intern pair [1, 2], .intern edge [3, 4], .resolve single 1, .lookup nil 7,
        .intern pair [5, 6]]
    let later : List RegistryStep := [.intern pair [7, 8], .intern single [9], .inventory]
    let run := Run.all RegistryStep.perform g (earlier ++ .inventory :: later)
    Registry.create g.config = .ok g ∧ .inventory ∉ earlier ∧
      ∃ v : Inventory, v.get? pair.shape 2 = some [5, 6] ∧ v.get? nil.shape 1 = some [] ∧
        v.records? single.shape = none ∧ run.answer[5]? = some (.ok (.rows v.rows)) ∧
        run.answer[8]? = some (.ok (.rows v.rows)) := by
  intro pair edge single nil g earlier later run
  have hcreate : Registry.create g.config = .ok g :=
    Registry.create_of_accept (Config.accept_eq_ok_iff.mpr (by decide))
  have hfirst : .inventory ∉ earlier := by simp [earlier]
  obtain ⟨v, hv, -, -, hlater⟩ :=
    first_inventory_complete_and_final g.config g hcreate earlier hfirst
  have htables : (Run.all RegistryStep.perform g earlier).state.tables.map
      (fun t => (t.shape, t.unit, t.size, t.get? 2)) =
      [(pair.shape, none, 2, some [5, 6]), (edge.shape, none, 1, none),
        (single.shape, none, 0, none), (nil.shape, some [], 1, none)] := by
    cbv
  obtain ⟨t, ht, hpair⟩ : ∃ t ∈ (Run.all RegistryStep.perform g earlier).state.tables,
      (t.shape, t.unit, t.size, t.get? 2) = (pair.shape, none, 2, some [5, 6]) :=
    List.mem_map.mp (htables ▸ by simp)
  obtain ⟨u, hu, hnil⟩ : ∃ u ∈ (Run.all RegistryStep.perform g earlier).state.tables,
      (u.shape, u.unit, u.size, u.get? 2) = (nil.shape, some [], 1, none) :=
    List.mem_map.mp (htables ▸ by simp)
  simp only [Prod.mk.injEq] at hpair hnil
  refine ⟨hcreate, hfirst, v, ?_, ?_, ?_, (hlater later).2 5 rfl, (hlater later).2 8 rfl⟩
  · rw [← hpair.1, hv.fields t ht, hpair.2.2.2]
  · rw [← hnil.1, hv.unit u hu (by rw [hnil.2.1]; rfl)]
    rfl
  · refine (hv.absent single.shape).mpr fun w hw hshape => ?_
    have hmem := List.mem_map_of_mem (f := fun t => (t.shape, t.unit, t.size, t.get? 2)) hw
    rw [htables] at hmem
    simp only [hshape, List.mem_cons, Prod.mk.injEq, List.not_mem_nil, or_false] at hmem
    rcases hmem with hmem | hmem | hmem | hmem
    · cases hmem.1
    · cases hmem.1
    · exact hmem.2.2.1
    · cases hmem.1

end Interner
