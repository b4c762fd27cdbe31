import Interner.Proofs.SessionEvents

/-!
The events and the changes that they tell of. In any run a registry reports each of its tables once,
when the first demand for it is met, and its inventory once, when it is first asked for; a table, in
a registry or not, reports its blocks one after the other, each when its first handle is given out;
and nothing else reports a change.
-/

namespace Interner

open Session

def Event.isBlockOf (s : Shape) : Event → Bool
  | blockAllocated shape .. => shape = s
  | _ => false

theorem Event.isChange_of_isBlockOf {s : Shape} {e : Event} (h : e.isBlockOf s) : e.isChange := by
  cases e with
  | blockAllocated shape block slots => rfl
  | _ => cases h

theorem Event.not_isChange_of_isExportedTwice {e : Event} (h : e.isExportedTwice) : ¬ e.isChange := by
  cases e with
  | exportedTwice shape handle => nofun
  | _ => cases h

namespace Session

open Demand

/-- What the steps of a run report that are about something. -/
def toldBy (about : Session → Step → Bool) (s : Session) : List Step → List Event
  | [] => []
  | step :: steps =>
    (if about s step then (s.perform step).reported else []) ++
      (s.perform step).state.toldBy about steps

/-- What the steps report that come to the registry `ref`. -/
def toldOf (s : Session) (ref : RegistryRef) (steps : List Step) : List Event :=
  s.toldBy (fun s step => (s.consultation? ref step).isSome) steps

theorem toldBy_concat (about : Session → Step → Bool) (s : Session) (steps : List Step)
    (step : Step) : s.toldBy about (steps ++ [step]) = s.toldBy about steps ++
      (if about (Run.all perform s steps).state step then
        ((Run.all perform s steps).state.perform step).reported else []) := by
  induction steps generalizing s with
  | nil => exact List.append_nil _
  | cons first steps ih =>
      rw [List.cons_append, toldBy, toldBy, ih, List.append_assoc]
      rfl

theorem demanded_append (s : Session) (ref : RegistryRef) (steps more : List Step) :
    s.demanded ref (steps ++ more) =
      s.demanded ref steps ++ (Run.all perform s steps).state.demanded ref more := by
  induction steps generalizing s with
  | nil => rfl
  | cons step steps ih =>
      rw [List.cons_append, demanded_cons, demanded_cons, ih, List.append_assoc]
      rfl

theorem mem_demanded {s : Session} {ref : RegistryRef} {steps : List Step} {k : Nat} {step : Step}
    (hk : steps[k]? = some step) {d : Demand}
    (hd : (Run.all perform s (steps.take k)).state.demand? ref step = some d) :
    d ∈ s.demanded ref steps := by
  obtain ⟨hlt, rfl⟩ := List.getElem?_eq_some_iff.mp hk
  have hsplit : steps = steps.take k ++ steps[k] :: steps.drop (k + 1) := by
    rw [List.cons_getElem_drop_succ, List.take_append_drop]
  rw [hsplit, demanded_append, demanded_cons, hd]
  exact List.mem_append_right _ (List.mem_append_left _ (List.mem_singleton_self d))

section Changes

variable {s : Session} {ref : RegistryRef} {g : Registry} {prologue : List Event} {step : Step}

theorem not_isChange_of_prologue (h : s.registry? ref = some (g, prologue)) :
    ∀ e ∈ prologue, ¬ e.isChange := by
  cases ref with
  | named id =>
      obtain ⟨_, -, heq⟩ := Option.map_eq_some_iff.mp h
      cases heq
      exact List.forall_mem_nil _
  | process =>
      rcases hprocess : s.processRegistry with _ | made
      · simp only [hprocess, registry?, Option.some_inj] at h
        rw [makeProcessRegistry] at h
        split at h
        · cases h
          exact List.forall_mem_nil _
        · cases h
          intro e he
          obtain ⟨text, -, rfl⟩ := Option.map_eq_some_iff.mp (Option.mem_toList.mp he)
          exact Bool.false_ne_true
      · simp only [hprocess, registry?] at h
        cases h
        exact List.forall_mem_nil _

/-- The changes that a step reports are those that the step on the registry reports. -/
theorem changes_perform (h : s.registry? ref = some (g, prologue)) (hg : g.Sound)
    (hregular : g.Regular) {inner : RegistryStep} (hinner : s.consultation? ref step = some inner) :
    (s.perform step).changes = (inner.perform g).reported := by
  obtain ⟨-, exports, hexports, hreported⟩ := perform_of_consultation h hinner
  have hfirst := List.filter_eq_nil_iff.mpr (not_isChange_of_prologue h)
  have hinside := List.filter_eq_self.mpr (RegistryStep.isChange_perform hg hregular inner)
  have hlast := List.filter_eq_nil_iff.mpr
    fun e he => Event.not_isChange_of_isExportedTwice (hexports e he)
  rw [Run.changes, hreported, List.filter_append, List.filter_append, hfirst, hinside, hlast,
    List.nil_append, List.append_nil]

theorem changes_perform_of_none
    (hnone : ∀ ref g, s.registryOf ref = some g → s.consultation? ref step = none)
    (hown : ∀ id t, s.tables[id]? = some t → step.isOn id = false) :
    (s.perform step).changes = [] :=
  List.filter_eq_nil_iff.mpr
    fun e he => Event.not_isChange_of_isExportedTwice (isExportedTwice_of_none hnone hown e he)

theorem filter_isBlockOf_changes {α : Type} (r : Run Session α) (shape : Shape) :
    r.changes.filter (Event.isBlockOf shape) = r.reported.filter (Event.isBlockOf shape) := by
  rw [Run.changes, List.filter_filter]
  refine List.filter_congr fun e _ => ?_
  rcases hblock : e.isBlockOf shape with _ | _
  · rfl
  · exact Event.isChange_of_isBlockOf hblock

end Changes

/-- The registry `ref` after a run, with what is known of it. -/
theorem exists_registry_all {s : Session} {ref : RegistryRef} {g : Registry} {config : Config}
    {types : Set RecordType} (hids : types.InjOn (·.shape.id))
    (hcreate : Registry.create config = .ok g) (hgiven : s.registryOf ref = some g)
    {steps : List Step} (hkept : ∀ step ∈ steps, ¬ step.Opens ref)
    (htypes : ∀ d ∈ s.demanded ref steps, d.type ∈ types) :
    ∃ after prologue, registry? (Run.all perform s steps).state ref = some (after, prologue) ∧
      after.Splits config types (s.demanded ref steps) ∧ after.Regular ∧
      (after.snapshot.isSome ↔ .inventory ∈ s.consulted ref steps) := by
  have hsplits : g.Splits config types [] := Registry.splits_nil hcreate
  have hempty : g = { config } := by
    rw [Registry.create_of_accept (hsplits.config_eq ▸ hsplits.sound.accepted)] at hcreate
    exact (Except.ok.inj hcreate).symm
  have hregular : g.Regular := hempty ▸ List.forall_mem_nil _
  have hnone : g.snapshot = none := hempty ▸ rfl
  obtain ⟨prologue, hregistry⟩ := registry?_of_registryOf hgiven
  have hall := registry?_all hregistry hkept
  obtain ⟨after, hafter, hsplit⟩ := splits_all hids hsplits hgiven hkept htypes
  rw [registryOf, hall, Option.map_some, Option.some_inj] at hafter
  subst hafter
  exact ⟨_, _, hall, hsplit, (RegistryStep.sound_and_regular_all hsplits.sound hregular _).2,
    RegistryStep.isSome_snapshot_all_iff hsplits.sound hregular hnone _⟩

/-- What a run reports of the registry `ref`, which was made with `config`. The steps on the table
of a type alone start from `fresh`. -/
structure RegistryAccount (s : Session) (ref : RegistryRef) (config : Config)
    (types : Set RecordType) (fresh : RecordType → InternTable) (steps : List Step) : Prop where
  /-- The first step that demands a table reports it. Beside that a demand reports what the table
  does. -/
  demanding : ∀ (k : Nat) (step : Step) (d : Demand), steps[k]? = some step →
    let earlier := steps.take k
    let before := (Run.all perform s earlier).state
    before.demand? ref step = some d →
      (before.perform step).changes =
        (if d.type ∈ (s.demanded ref earlier).map (·.type) then []
          else [.tableCreated d.type.shape config.blockSize.toNat]) ++
        Registry.reportOn (s.alone ref d.type earlier (fresh d.type)).state d
  writing : ∀ (k : Nat) (step : Step), steps[k]? = some step →
    let earlier := steps.take k
    let before := (Run.all perform s earlier).state
    before.consultation? ref step = some .inventory →
      ∃ g v after events, before.registryOf ref = some g ∧ g.inventory = .ok (v, after, events) ∧
        (.inventory ∉ s.consulted ref earlier →
          (before.perform step).changes = [.snapshotTaken g.tableCount v.size]) ∧
        (.inventory ∈ s.consulted ref earlier → (before.perform step).changes = [])
  asking : ∀ (k : Nat) (step : Step) (inner : RegistryStep), steps[k]? = some step →
    let before := (Run.all perform s (steps.take k)).state
    before.consultation? ref step = some inner → inner.demand? = none → inner ≠ .inventory →
      (before.perform step).changes = []
  /-- At any time the blocks of a table are those that were reported, in order. -/
  counted : ∀ k : Nat, ∃ g, (Run.all perform s (steps.take k)).state.registryOf ref = some g ∧
    ∀ type ∈ types, (s.toldOf ref (steps.take k)).filter (Event.isBlockOf type.shape) =
      Event.allBlocks type.shape config.blockSize.toNat
        (((g.find? type.shape).map (·.records.blockCount)).getD 0)
  blocks : ∀ (k : Nat), ∀ type ∈ types, TableStep.BlockLaw type config (fresh type)
    ((s.exchanges ref type (steps.take k)).map Prod.fst)

section Registry

variable {s : Session} {ref : RegistryRef} {g : Registry} {prologue : List Event}
  {config : Config} {types : Set RecordType} {ds : List Demand}

theorem changes_of_demand (hg : g.Splits config types ds) (hregular : g.Regular)
    (h : s.registry? ref = some (g, prologue)) {step : Step} {d : Demand}
    (hdemand : s.demand? ref step = some d) (hd : d.type ∈ types) {t : InternTable}
    (ht : InternTable.build d.type config = .ok t) : (s.perform step).changes =
      (if d.type ∈ ds.map (·.type) then []
        else [.tableCreated d.type.shape config.blockSize.toNat]) ++
      Registry.reportOn (Run.all TableStep.perform t (stepsOn d.type ds)).state d := by
  rw [demand?_eq_bind] at hdemand
  obtain ⟨inner, hinner, hdemand⟩ := Option.bind_eq_some_iff.mp hdemand
  rw [changes_perform h hg.sound hregular hinner,
    RegistryStep.reported_perform_of_demand hg.sound hdemand, hg.reportFor_eq hd ht]

theorem changes_of_no_demand (hg : g.Sound) (hregular : g.Regular)
    (h : s.registry? ref = some (g, prologue)) {step : Step} {inner : RegistryStep}
    (hinner : s.consultation? ref step = some inner) (hnone : inner.demand? = none)
    (hne : inner ≠ .inventory) : (s.perform step).changes = [] := by
  rw [changes_perform h hg hregular hinner, RegistryStep.reported_perform_of_none hnone hne]

theorem changes_of_inventory (hg : g.Sound) (hregular : g.Regular)
    (h : s.registry? ref = some (g, prologue)) {step : Step}
    (hinner : s.consultation? ref step = some .inventory) :
    ∃ v after events, g.inventory = .ok (v, after, events) ∧ (s.perform step).changes =
      if g.snapshot.isSome then [] else [.snapshotTaken g.tableCount v.size] := by
  obtain ⟨v, hinventory⟩ := Registry.exists_inventory hg hregular
  refine ⟨v, _, _, hinventory, ?_⟩
  rw [changes_perform h hg hregular hinner, RegistryStep.perform_inventory hinventory,
    Run.reported, List.append_nil]

theorem filter_isBlockOf_reportOn {t : InternTable} {type : RecordType} {rs : List Record}
    (h : t.Represents type config rs) (d : Demand) (shape : Shape) :
    (Registry.reportOn t d).filter (Event.isBlockOf shape) =
      if type.shape = shape then Registry.reportOn t d else [] := by
  have hblock : ∀ e ∈ Registry.reportOn t d, e.isBlockOf shape = decide (type.shape = shape) := by
    obtain ⟨_, _ | step⟩ := d
    · exact List.forall_mem_nil _
    · intro e he
      obtain ⟨block, rfl⟩ := TableStep.mem_reported h he
      rfl
  rw [List.filter_congr hblock]
  split
  · rename_i heq
    simp [heq]
  · rename_i hne
    simp [hne]

theorem filter_isBlockOf_perform (hids : types.InjOn (·.shape.id)) (hg : g.Splits config types ds)
    (hregular : g.Regular) (h : s.registry? ref = some (g, prologue)) {step : Step}
    (htypes : ∀ d ∈ s.demand? ref step, d.type ∈ types) {type : RecordType} (htype : type ∈ types)
    {t : InternTable} (ht : InternTable.build type config = .ok t) :
    (if (s.consultation? ref step).isSome then (s.perform step).reported else []).filter
        (Event.isBlockOf type.shape) =
      (Run.reports TableStep.perform (Run.all TableStep.perform t (stepsOn type ds)).state
        ((s.demand? ref step).bind (stepOn? type)).toList).flatten := by
  rcases hinner : s.consultation? ref step with _ | inner
  · rw [demand?_eq_bind, hinner]
    rfl
  rw [Option.isSome_some, if_pos rfl, ← filter_isBlockOf_changes]
  rcases hdemand : s.demand? ref step with _ | d
  · have hnone : inner.demand? = none := by
      rwa [demand?_eq_bind, hinner, Option.bind_some] at hdemand
    by_cases hinventory : inner = .inventory
    · subst hinventory
      obtain ⟨v, -, -, -, hchanges⟩ := changes_of_inventory hg.sound hregular h hinner
      rw [hchanges]
      split
      · rfl
      · rfl
    · rw [changes_of_no_demand hg.sound hregular h hinner hnone hinventory]
      rfl
  · obtain ⟨fresh, hbuild, hfresh⟩ := hg.build_eq d.type
    have hd := htypes d hdemand
    have hcreated : (if d.type ∈ ds.map (·.type) then []
        else [Event.tableCreated d.type.shape config.blockSize.toNat]).filter
          (Event.isBlockOf type.shape) = [] := by
      split
      · rfl
      · rfl
    rw [changes_of_demand hg hregular h hdemand hd hbuild, List.filter_append, hcreated,
      List.nil_append, filter_isBlockOf_reportOn (TableStep.represents_all hfresh _),
      Option.bind_some, stepOn?]
    by_cases htypeEq : d.type = type
    · subst htypeEq
      rw [ht] at hbuild
      cases hbuild
      rw [if_pos rfl, if_pos rfl, Registry.reportOn]
      rcases d.step with _ | step
      · rfl
      · exact (List.append_nil _).symm
    -- One shape would be one identity.
    · have hshape : d.type.shape ≠ type.shape :=
        fun hshape => htypeEq (hids hd htype (congrArg Shape.id hshape))
      rw [if_neg hshape, if_neg htypeEq]
      rfl

end Registry

section Run

variable {s : Session} {ref : RegistryRef} {g : Registry} {config : Config}
  {types : Set RecordType} {fresh : RecordType → InternTable} {steps : List Step}

/-- The blocks that a run reports of one table are those that the steps on it alone report. -/
theorem filter_isBlockOf_toldOf (hids : types.InjOn (·.shape.id))
    (hcreate : Registry.create config = .ok g) (hgiven : s.registryOf ref = some g)
    {type : RecordType} (htype : type ∈ types) {t : InternTable}
    (ht : InternTable.build type config = .ok t) (hkept : ∀ step ∈ steps, ¬ step.Opens ref)
    (htypes : ∀ d ∈ s.demanded ref steps, d.type ∈ types) :
    (s.toldOf ref steps).filter (Event.isBlockOf type.shape) =
      (Run.reports TableStep.perform t (stepsOn type (s.demanded ref steps))).flatten := by
  -- From the end: the last step meets the registry as the steps before it leave it.
  induction steps using List.reverseRecOn with
  | nil => rfl
  | append_singleton steps step ih =>
      obtain ⟨hkept, -⟩ := List.forall_mem_append.mp hkept
      have hlast : ∀ s : Session, s.demanded ref [step] = (s.demand? ref step).toList := by
        intro s
        rw [demanded_cons, demanded_nil, List.append_nil]
      rw [demanded_append, hlast, List.forall_mem_append] at htypes
      obtain ⟨before, prologue, hbefore, hsplits, hregular, -⟩ :=
        exists_registry_all hids hcreate hgiven hkept htypes.1
      have hstep := filter_isBlockOf_perform hids hsplits hregular hbefore
        (by simpa using htypes.2) htype ht
      rw [demanded_append, hlast, stepsOn_append_toList, Run.reports_append, List.flatten_append,
        ← ih hkept htypes.1, ← hstep, toldOf, toldBy_concat, List.filter_append]
      rfl

theorem registryAccount (hids : types.InjOn (·.shape.id))
    (hcreate : Registry.create config = .ok g) (hgiven : s.registryOf ref = some g)
    (hfresh : ∀ type, InternTable.build type config = .ok (fresh type))
    (hkept : ∀ step ∈ steps, ¬ step.Opens ref)
    (htypes : ∀ d ∈ s.demanded ref steps, d.type ∈ types) :
    s.RegistryAccount ref config types fresh steps := by
  have hearlier : ∀ k : Nat, ∀ d ∈ s.demanded ref (steps.take k), d.type ∈ types := by
    intro k d hd
    refine htypes d ?_
    rw [← List.take_append_drop k steps, demanded_append]
    exact List.mem_append_left _ hd
  have hmoment := fun k : Nat => exists_registry_all hids hcreate hgiven
    (fun step hstep => hkept step (List.mem_of_mem_take hstep)) (hearlier k)
  have haccept : config.accept = .ok () := by
    obtain ⟨_, _, -, hsplits, -⟩ := hmoment 0
    exact hsplits.config_eq ▸ hsplits.sound.accepted
  have hrepresents : ∀ type, (fresh type).Represents type config [] := by
    intro type
    obtain ⟨t, ht, h⟩ := InternTable.represents_build type haccept
    rw [hfresh] at ht
    exact Except.ok.inj ht ▸ h
  constructor
  case demanding =>
    intro k step d hk earlier before hdemand
    obtain ⟨_, _, hbefore, hsplits, hregular, -⟩ := hmoment k
    rw [alone, map_fst_exchanges]
    exact changes_of_demand hsplits hregular hbefore hdemand (htypes d (mem_demanded hk hdemand))
      (hfresh d.type)
  case writing =>
    intro k step hk earlier before hinner
    obtain ⟨g', _, hbefore, hsplits, hregular, hsnapshot⟩ := hmoment k
    obtain ⟨v, after, events, hinventory, hchanges⟩ :=
      changes_of_inventory hsplits.sound hregular hbefore hinner
    refine ⟨g', v, after, events, registryOf_eq_some hbefore, hinventory, ?_, ?_⟩
    · intro hfirst
      rw [hchanges, if_neg (mt hsnapshot.mp hfirst)]
    · intro hagain
      rw [hchanges, if_pos (hsnapshot.mpr hagain)]
  case asking =>
    intro k step inner hk before hinner hnone hne
    obtain ⟨_, _, hbefore, hsplits, hregular, -⟩ := hmoment k
    exact changes_of_no_demand hsplits.sound hregular hbefore hinner hnone hne
  case counted =>
    intro k
    obtain ⟨g', _, hbefore, hsplits, -⟩ := hmoment k
    refine ⟨g', registryOf_eq_some hbefore, fun type htype => ?_⟩
    rw [filter_isBlockOf_toldOf hids hcreate hgiven htype (hfresh type)
      (fun step hstep => hkept step (List.mem_of_mem_take hstep)) (hearlier k),
      hsplits.find?_eq type htype _ (hfresh type)]
    rw [TableStep.reports_eq_allBlocks (hrepresents type)]
    split
    · rfl
    -- A table that nothing asked for is not there, and a fresh one has no blocks either.
    · rename_i hnew
      have hpos := (hrepresents type).holds.blockSize_pos
      have hzero : (fresh type).records.blockCount = 0 :=
        (hrepresents type).blockCount_eq.trans (blocksFor_zero hpos)
      rw [stepsOn_of_notMem hnew]
      exact congrArg (Event.allBlocks type.shape config.blockSize.toNat) hzero
  case blocks =>
    intro k type _
    exact TableStep.blockLaw (hrepresents type) _

end Run

/-- The step on the table that `id` names, if the step is one. -/
def Step.work? (id : String) : Step → Option TableStep
  | .table (.own id') inner => if id' = id then some inner else none
  | _ => none

def worksOn (id : String) (steps : List Step) : List TableStep := steps.filterMap (Step.work? id)

structure TableAccount (s : Session) (id : String) (type : RecordType) (config : Config)
    (t : InternTable) (steps : List Step) : Prop where
  kept : ∀ k : Nat, (Run.all perform s (steps.take k)).state.tables[id]? =
    some (Run.all TableStep.perform t (worksOn id (steps.take k))).state
  reported : ∀ (k : Nat) (inner : TableStep), steps[k]? = some (.table (.own id) inner) →
    let earlier := steps.take k
    ((Run.all perform s earlier).state.perform (.table (.own id) inner)).reported =
      (inner.perform (Run.all TableStep.perform t (worksOn id earlier)).state).reported
  counted : ∀ k : Nat, s.toldBy (fun _ step => step.isOn id) (steps.take k) =
    Event.allBlocks type.shape config.blockSize.toNat
      (Run.all TableStep.perform t (worksOn id (steps.take k))).state.records.blockCount
  blocks : ∀ k : Nat, TableStep.BlockLaw type config t (worksOn id (steps.take k))

section Own

variable {s : Session} {id : String} {t : InternTable} {step : Step} {steps : List Step}

theorem Step.eq_of_work? {inner : TableStep} (h : step.work? id = some inner) :
    step = .table (.own id) inner := by
  cases step with
  | table source inner' =>
      cases source with
      | own id' =>
          rw [work?, Option.ite_none_right_eq_some, Option.some_inj] at h
          rw [h.1, h.2]
      | filed ref type => cases h
  | _ => cases h

theorem Step.isOn_eq (id : String) (step : Step) : step.isOn id = (step.work? id).isSome := by
  cases step with
  | table source inner =>
      cases source with
      | own id' =>
          rw [isOn, work?]
          by_cases hid : id' = id
          · simp [hid]
          · simp [hid]
      | filed ref type => rfl
  | _ => rfl

theorem reported_work (ht : s.tables[id]? = some t) (inner : TableStep) :
    (s.perform (.table (.own id) inner)).reported = (inner.perform t).reported := by
  simp only [perform, act, onTable, ht]
  rfl

theorem tables_perform (ht : s.tables[id]? = some t) (hkept : ¬ step.Ends id) :
    (s.perform step).state.tables[id]? =
      some (Run.all TableStep.perform t (step.work? id).toList).state := by
  rcases hwork : step.work? id with _ | inner
  · have hother : step.isOn id = false := by rw [Step.isOn_eq, hwork, Option.isSome_none]
    exact ((effect_perform s step).getElem?_tables hkept hother).trans ht
  · rw [Step.eq_of_work? hwork, (sameTables_work ht inner).tables_eq]
    exact Std.ExtTreeMap.getElem?_insert_self

theorem worksOn_cons (id : String) (step : Step) (steps : List Step) :
    worksOn id (step :: steps) = (step.work? id).toList ++ worksOn id steps := by
  rw [worksOn, worksOn, List.filterMap_cons]
  rcases step.work? id with _ | inner
  · rfl
  · rfl

theorem tables_all (ht : s.tables[id]? = some t) (hkept : ∀ step ∈ steps, ¬ step.Ends id) :
    (Run.all perform s steps).state.tables[id]? =
      some (Run.all TableStep.perform t (worksOn id steps)).state := by
  induction steps generalizing s t with
  | nil => exact ht
  | cons step steps ih =>
      obtain ⟨hstep, hsteps⟩ := List.forall_mem_cons.mp hkept
      rw [worksOn_cons, Run.state_all_append]
      exact ih (tables_perform ht hstep) hsteps

/-- The steps on a table of the session report what the table does. -/
theorem toldBy_isOn (ht : s.tables[id]? = some t) (hkept : ∀ step ∈ steps, ¬ step.Ends id) :
    s.toldBy (fun _ step => step.isOn id) steps =
      (Run.reports TableStep.perform t (worksOn id steps)).flatten := by
  induction steps generalizing s t with
  | nil => rfl
  | cons step steps ih =>
      obtain ⟨hstep, hsteps⟩ := List.forall_mem_cons.mp hkept
      have hrest := ih (tables_perform ht hstep) hsteps
      rw [toldBy, worksOn_cons, Run.reports_append, List.flatten_append, hrest, Step.isOn_eq]
      rcases hwork : step.work? id with _ | inner
      · rfl
      · rw [Option.isSome_some, if_pos rfl, Step.eq_of_work? hwork, reported_work ht]
        exact congrArg (· ++ _) (List.append_nil _).symm

theorem tableAccount {type : RecordType} {config : Config} (ht : s.tables[id]? = some t)
    (hcreate : InternTable.create type config = .ok t) (hkept : ∀ step ∈ steps, ¬ step.Ends id) :
    s.TableAccount id type config t steps := by
  have hrepresents := InternTable.represents_of_create hcreate
  have hearlier := fun k : Nat => fun step (hstep : step ∈ steps.take k) =>
    hkept step (List.mem_of_mem_take hstep)
  constructor
  case kept => exact fun k => tables_all ht (hearlier k)
  case reported => exact fun k inner _ => reported_work (tables_all ht (hearlier k)) inner
  case counted =>
    intro k
    rw [toldBy_isOn ht (hearlier k), TableStep.reports_eq_allBlocks hrepresents]
  case blocks => exact fun k => TableStep.blockLaw hrepresents _

end Own

end Session

/-- Events tell of exactly the changes that a run makes: those of a registry that was just given,
and that no step replaces, those of a table that was just opened, and no others. -/
theorem events_tell_changes (config : Config) (g : Registry)
    (hcreate : Registry.create config = .ok g) (s : Session) (ref : RegistryRef)
    (hgiven : s.registryOf ref = some g) (types : Set RecordType)
    (hids : types.InjOn (·.shape.id)) (steps : List Step)
    (hkept : ∀ step ∈ steps, ¬ step.Opens ref)
    (htypes : ∀ d ∈ s.demanded ref steps, d.type ∈ types) :
    (∃ fresh : RecordType → InternTable,
      (∀ type, InternTable.create type config = .ok (fresh type)) ∧
        s.RegistryAccount ref config types fresh steps) ∧
    (∀ id type config' t, s.tables[id]? = some t → InternTable.create type config' = .ok t →
      (∀ step ∈ steps, ¬ step.Ends id) → s.TableAccount id type config' t steps) ∧
    ∀ (k : Nat) (step : Step), steps[k]? = some step →
      let before := (Run.all Session.perform s (steps.take k)).state
      (∀ ref g, before.registryOf ref = some g → before.consultation? ref step = none) →
        (∀ id t, before.tables[id]? = some t → step.isOn id = false) →
          (before.perform step).changes = [] := by
  refine ⟨?_, fun id type config' t ht hopen hends => tableAccount ht hopen hends,
    fun _ _ _ => changes_perform_of_none⟩
  have hsplits : g.Splits config types [] := Registry.splits_nil hcreate
  have haccept : config.accept = .ok () := hsplits.config_eq ▸ hsplits.sound.accepted
  choose fresh hbuild hfresh using fun type => InternTable.represents_build type haccept
  refine ⟨fresh, fun type => ?_, registryAccount hids hcreate hgiven hbuild hkept htypes⟩
  rw [InternTable.create, haccept]
  exact hbuild type

theorem events_of_two_tables :
    let pair : RecordType := { shape := { id := 0, name := "pair", arity := 2 } }
    let config : Config := { blockSize := 2, maxRecords := 4 }
    let ref : RegistryRef := .named "left"
    let opened := (({} : Session).perform (.openTable "pairs" pair config)).state
    let s := opened.putRegistry ref { config }
    let steps : List Step :=
      [.registry ref (.resolve pair 1), .table (.own "pairs") (.intern [1, 2]),
        .registry ref (.intern pair [1, 2]), .registry ref (.intern pair [3, 4]),
        .registry ref (.intern pair [5, 6]), .registry ref .inventory]
    (s.perform (.registry ref (.resolve pair 1))).changes = [.tableCreated pair.shape 2] ∧
      (s.toldOf ref steps).filter (Event.isBlockOf pair.shape) =
        [.blockAllocated pair.shape 0 2, .blockAllocated pair.shape 1 2] ∧
      s.toldBy (fun _ step => step.isOn "pairs") steps = [.blockAllocated pair.shape 0 2] := by
  intro pair config ref opened s steps
  have haccept : config.accept = .ok () := Config.accept_eq_ok_iff.mpr (by decide)
  have hdemanded : s.demanded ref steps =
      [⟨pair, some (.resolve 1)⟩, ⟨pair, some (.intern [1, 2])⟩, ⟨pair, some (.intern [3, 4])⟩,
        ⟨pair, some (.intern [5, 6])⟩] := rfl
  have hkept : ∀ step ∈ steps, ¬ step.Opens ref := by
    simp [steps, Step.Opens]
  have hends : ∀ step ∈ steps, ¬ step.Ends "pairs" := by
    simp [steps, Step.Ends]
  obtain ⟨⟨fresh, hfresh, haccount⟩, htables, -⟩ := events_tell_changes config { config }
    (Registry.create_of_accept haccept) s ref (by rw [registryOf_putRegistry, if_pos rfl]) {pair}
    (Set.injOn_singleton _ _) steps hkept (by rw [hdemanded]; simp)
  obtain ⟨t, hbuild, -⟩ := InternTable.represents_build pair haccept
  have hcreate : InternTable.create pair config = .ok t := by
    rw [InternTable.create, haccept]
    exact hbuild
  have ht : s.tables["pairs"]? = some t := by
    change opened.tables["pairs"]? = some t
    rw [(sameTables_open "pairs" hcreate).tables_eq]
    exact Std.ExtTreeMap.getElem?_insert_self
  refine ⟨haccount.demanding 0 _ ⟨pair, some (.resolve 1)⟩ rfl rfl, ?_, ?_⟩
  · obtain ⟨g, hg, hblocks⟩ := haccount.counted steps.length
    have hcount : ((Run.all Session.perform s (steps.take steps.length)).state.registryOf ref).map
        (fun g => (g.find? pair.shape).map (·.records.blockCount)) = some (some 2) := by
      dsimp only [s, opened]
      cbv
    rw [hg, Option.map_some, Option.some_inj] at hcount
    have hall := hblocks pair rfl
    rw [hcount, List.take_length] at hall
    exact hall
  · have hall := (htables "pairs" pair config t ht hcreate hends).counted steps.length
    have hcount : ((Run.all Session.perform s (steps.take steps.length)).state.tables["pairs"]?).map
        (·.records.blockCount) = some 1 := by
      dsimp only [s, opened]
      cbv
    rw [(htables "pairs" pair config t ht hcreate hends).kept, Option.map_some,
      Option.some_inj] at hcount
    rw [hcount, List.take_length] at hall
    exact hall

end Interner
