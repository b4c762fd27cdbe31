import Interner.Proofs.TableRoom

namespace Interner

open Session

theorem RecordType.capacity_mono (type : RecordType) {config config' : Config}
    (h : config.maxRecords ≤ config'.maxRecords) :
    type.capacity config ≤ type.capacity config' := by
  rw [capacity, capacity]
  split
  · exact le_rfl
  · exact UInt64.le_iff_toNat_le.mp h

namespace Session.TableStep

open InternTable

variable {type : RecordType} {config config' : Config} {t u : InternTable}

theorem exists_trails_all (ht : t.Represents type config []) (hu : u.Represents type config' [])
    (hcapacity : type.capacity config ≤ type.capacity config') (steps : List TableStep) :
    ∃ lead, Trails type config config' lead (Run.all perform t steps).state
      (Run.all perform u steps).state := by
  have hless := represents_all ht steps
  have hmore := represents_all hu steps
  refine ⟨_, hcapacity, _, ?_, hmore, Nat.le_add_left _ _⟩
  rw [firstOccurrences, List.take_take, Nat.min_eq_left hcapacity]
  exact hless

theorem trails_all_of_eq (ht : t.Represents type config []) (hu : u.Represents type config' [])
    (hcapacity : type.capacity config = type.capacity config') (steps : List TableStep) :
    Trails type config config' 0 (Run.all perform t steps).state
      (Run.all perform u steps).state := by
  have hless := represents_all ht steps
  rw [hcapacity] at hless
  exact trails_of_represents hcapacity.le hless (represents_all hu steps)

/-- Two runs that nobody can tell apart who does not ask for the size of a block. -/
structure SameAnswers (steps : List TableStep) (t u : InternTable) : Prop where
  answer : ∀ i : Nat, steps[i]? ≠ some blockSize →
    (Run.all perform u steps).answer[i]? = (Run.all perform t steps).answer[i]?
  exported : ∀ (k : Nat) (v : Inventory), (Run.all perform u (steps.take k)).state.exportTo v =
    (Run.all perform t (steps.take k)).state.exportTo v

/-- What a run on `t` says about the same run on a table `u` with more room. -/
structure MoreRoom (type : RecordType) (config config' : Config) (steps : List TableStep)
    (t u : InternTable) : Prop where
  inserted : ∀ (i : Nat) (step : TableStep) (a : Answer), steps[i]? = some step → step.interns →
    (Run.all perform t steps).answer[i]? = some (.ok a) →
    (Run.all perform u steps).answer[i]? = some (.ok a)
  dereferenced : ∀ (k : Nat) (h : Handle) (r : Record),
    (Run.all perform t (steps.take k)).state.get? h = some r →
    let after := (Run.all perform u (steps.take k)).state
    after.get? h = some r ∧ after.lookup h = .ok r ∧ after.resolve h = .ok r ∧
      after.resolveTrusted h = .ok r
  /-- A record that finds `t` full finds `u` full, or is given a handle beyond those of `t`. -/
  exhausted : ∀ (i : Nat) (r : Record) (fault : Fault), steps[i]? = some (.intern r) →
    (Run.all perform t steps).answer[i]? = some (.error (.fault fault)) →
    (Run.all perform u steps).answer[i]? = some (.error (.fault (exhaustion type config'))) ∨
      ∃ h : Handle, (Run.all perform u steps).answer[i]? = some (.ok (.handle h)) ∧
        config.maxRecords.toNat < h.toInt

theorem answer_eq_of_trails (h : Trails type config config' 0 t u)
    (h' : Trails type config' config 0 u t) (hmax : config.maxRecords = config'.maxRecords)
    {step : TableStep} (hblock : step ≠ blockSize) :
    (step.perform u).answer = (step.perform t).answer := by
  cases hinterns : step.interns with
  | false => exact answer_of_looks h.agree hinterns hblock
  | true =>
      rcases parallel_of_interns h hinterns with hfull | ⟨hanswer, -⟩
      · rcases parallel_of_interns h' hinterns with hfull' | ⟨hanswer, -⟩
        · rw [hfull, hfull', exhaustion, exhaustion, hmax]
        · exact hanswer.symm
      · exact hanswer

theorem sameAnswers (ht : t.Represents type config []) (hu : u.Represents type config' [])
    (hmax : config.maxRecords = config'.maxRecords) (steps : List TableStep) :
    SameAnswers steps t u := by
  have hcapacity : type.capacity config = type.capacity config' := by
    rw [RecordType.capacity, RecordType.capacity, hmax]
  have htake := fun k => trails_all_of_eq ht hu hcapacity (steps.take k)
  have htake' := fun k => trails_all_of_eq hu ht hcapacity.symm (steps.take k)
  constructor
  case answer =>
    intro i hblock
    rw [Run.answer_all_getElem?, Run.answer_all_getElem?]
    rcases hstep : steps[i]? with _ | step
    · rfl
    · apply congrArg some
      apply answer_eq_of_trails (htake i) (htake' i) hmax
      rintro rfl
      exact hblock hstep
  case exported =>
    intro k v
    rw [(htake k).agree.exportTo_eq]

theorem exhausted_of_trails {lead : Nat} (h : Trails type config config' lead t u) {r : Record}
    {fault : Fault} (hfull : ((intern r).perform t).answer = .error (.fault fault)) :
    ((intern r).perform u).answer = .error (.fault (exhaustion type config')) ∨
      ∃ handle : Handle, ((intern r).perform u).answer = .ok (.handle handle) ∧
        config.maxRecords.toNat < handle.toInt := by
  obtain ⟨hlength, herror⟩ := insert_of_fault hfull
  rw [answer_intern_of_length (h.shape_eq ▸ hlength)]
  rcases h.insert_of_error herror with hfull' | ⟨insertion, hfound, hbeyond⟩
  · exact .inl (by rw [hfull']; rfl)
  · exact .inr ⟨insertion.handle, by rw [hfound]; rfl, hbeyond⟩

theorem moreRoom (ht : t.Represents type config []) (hu : u.Represents type config' [])
    (hmax : config.maxRecords ≤ config'.maxRecords) (steps : List TableStep) :
    MoreRoom type config config' steps t u := by
  have htake := fun k => exists_trails_all ht hu (type.capacity_mono hmax) (steps.take k)
  constructor
  case inserted =>
    intro i step a hstep hinterns hanswer
    obtain ⟨lead, htrails⟩ := htake i
    rw [Run.answer_all_getElem?, hstep, Option.map_some, Option.some_inj] at hanswer ⊢
    rcases parallel_of_interns htrails hinterns with hfull | ⟨hsame, -⟩
    · rw [hanswer] at hfull
      cases hfull
    · rw [hsame, hanswer]
  case dereferenced =>
    intro k handle r hget after
    obtain ⟨lead, htrails⟩ := htake k
    have hfound := htrails.get?_of_get? hget
    exact ⟨hfound, lookup_of_get? hfound, resolve_of_get? hfound, resolveTrusted_of_get? hfound⟩
  case exhausted =>
    intro i r fault hstep hanswer
    obtain ⟨lead, htrails⟩ := htake i
    rw [Run.answer_all_getElem?, hstep, Option.map_some, Option.some_inj] at hanswer
    simp only [Run.answer_all_getElem?, hstep, Option.map_some, Option.some_inj]
    exact exhausted_of_trails htrails hanswer

/-- Block size and room do not change what a table means. -/
theorem configuration_keeps_meaning (type : RecordType) (config config' : Config)
    (haccept : config.accept = .ok ()) (haccept' : config'.accept = .ok ()) :
    ∃ t u, InternTable.create type config = .ok t ∧ InternTable.create type config' = .ok u ∧
      ∀ steps,
        (config.maxRecords = config'.maxRecords → SameAnswers steps t u) ∧
        (config.maxRecords ≤ config'.maxRecords → MoreRoom type config config' steps t u) := by
  obtain ⟨t, hcreate, ht⟩ := represents_create type haccept
  obtain ⟨u, hcreate', hu⟩ := represents_create type haccept'
  refine ⟨t, u, hcreate, hcreate', fun steps => ⟨?_, ?_⟩⟩
  · intro hmax
    exact sameAnswers ht hu hmax steps
  · intro hmax
    exact moreRoom ht hu hmax steps

theorem third_pair_has_handle_where_there_is_room :
    let type : RecordType := { shape := { id := 0, name := "pair", arity := 2 } }
    let config : Config := { blockSize := 2, maxRecords := 2 }
    let wide : Config := { blockSize := 4, maxRecords := 2 }
    let roomy : Config := { blockSize := 1, maxRecords := 3 }
    let steps : List TableStep := [.intern [1, 2], .intern [3, 4], .intern [5, 6], .get 2]
    config.accept = .ok () ∧ wide.accept = .ok () ∧ roomy.accept = .ok () ∧
      (∃ t u, InternTable.create type config = .ok t ∧ InternTable.create type wide = .ok u ∧
        SameAnswers steps t u) ∧
      ∃ t u, InternTable.create type config = .ok t ∧ InternTable.create type roomy = .ok u ∧
        MoreRoom type config roomy steps t u ∧
        (Run.all perform t steps).answer[2]? = some (.error (.fault (exhaustion type config))) ∧
        ∃ h, (Run.all perform u steps).answer[2]? = some (.ok (.handle h)) ∧ h.toInt = 3 := by
  intro type config wide roomy steps
  have haccept : config.accept = .ok () := Config.accept_eq_ok_iff.mpr (by decide)
  have hwide : wide.accept = .ok () := Config.accept_eq_ok_iff.mpr (by decide)
  have hroomy : roomy.accept = .ok () := Config.accept_eq_ok_iff.mpr (by decide)
  refine ⟨haccept, hwide, hroomy, ?_, ?_⟩
  · obtain ⟨t, u, hcreate, hcreate', hall⟩ :=
      configuration_keeps_meaning type config wide haccept hwide
    exact ⟨t, u, hcreate, hcreate', (hall steps).1 rfl⟩
  · obtain ⟨t, u, hcreate, hcreate', hall⟩ :=
      configuration_keeps_meaning type config roomy haccept hroomy
    have ht := represents_of_create hcreate
    have hu := represents_of_create hcreate'
    refine ⟨t, u, hcreate, hcreate', (hall steps).2 (by decide), ?_, ?_⟩
    · exact ((historyLaw ht rfl steps).exhausted_iff 2 [5, 6] rfl rfl).mpr (by decide)
    · exact (historyLaw hu rfl steps).handle 2 [5, 6] rfl (by decide)

end Session.TableStep

end Interner
