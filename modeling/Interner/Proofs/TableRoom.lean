import Interner.Proofs.InterningHistory
import Interner.Proofs.TableAgreement

/-!
Two tables of one type with the same history. The one with more room does what the other does until
the other is full, also where many records are interned at a time.
-/

namespace Interner

open Session

namespace InternTable

/-- Tables of one type after the same insertions. `t` is built with `config` and has all the records
that it has room for; `u` has room for as many or more and holds at most `lead` records more. -/
structure Trails (type : RecordType) (config config' : Config) (lead : Nat) (t u : InternTable) :
    Prop where
  capacity_le : type.capacity config ≤ type.capacity config'
  records : ∃ rs, t.Represents type config (rs.take (type.capacity config)) ∧
    u.Represents type config' rs ∧ rs.length ≤ type.capacity config + lead

/-- An operation on both tables: the first is full, or both find the same and stay together. -/
inductive Matched (type : RecordType) (config config' : Config) (lead : Nat) {α : Type}
    (found found' : Except Fault α) (t u : InternTable) : Prop
  | full (hfound : found = .error (TableStep.exhaustion type config))
  | alike (a : α) (hfound : found = .ok a) (hfound' : found' = .ok a)
      (htrails : Trails type config config' lead t u)

variable {type : RecordType} {config config' : Config} {lead : Nat} {t u : InternTable}

theorem trails_of_represents {rs : List Record}
    (hcapacity : type.capacity config ≤ type.capacity config')
    (ht : t.Represents type config rs) (hu : u.Represents type config' rs) :
    Trails type config config' 0 t u := by
  have hle := ht.length_le
  refine ⟨hcapacity, rs, ?_, hu, hle⟩
  rwa [List.take_of_length_le hle]

theorem Matched.map {α β : Type} {found found' : Except Fault α}
    (h : Matched type config config' lead found found' t u) (f : α → β) :
    Matched type config config' lead (found.map f) (found'.map f) t u := by
  cases h with
  | full hfound => exact .full (by rw [hfound]; rfl)
  | alike a hfound hfound' htrails =>
      exact .alike (f a) (by rw [hfound]; rfl) (by rw [hfound']; rfl) htrails

theorem result_internAll_of_error {r : Record} {records : List Record} {fault : Fault}
    (h : (t.intern r).answer = .error fault) :
    (t.internAll (r :: records)).answer.result = .error fault := by
  simp [internAll, Run.andThen, h, Interned.result]

theorem result_internAll_of_ok {r : Record} {records : List Record} {handle : Handle}
    (h : (t.intern r).answer = .ok handle) :
    (t.internAll (r :: records)).answer.result =
      ((t.intern r).state.internAll records).answer.result.map (handle :: ·) := by
  simp only [internAll, Run.andThen, Run.map, h, Interned.result]
  split
  · rfl
  · rfl

theorem state_internAll_of_ok {r : Record} {records : List Record} {handle : Handle}
    (h : (t.intern r).answer = .ok handle) :
    (t.internAll (r :: records)).state = ((t.intern r).state.internAll records).state := by
  simp only [internAll, Run.andThen, Run.map, h]

theorem mapM_internThreads_cons (t : InternTable) (records : List Record)
    (lists : List (List Record)) :
    (t.internThreads (records :: lists)).answer.mapM Interned.result =
      (t.internAll records).answer.result >>= fun first =>
        (((t.internAll records).state.internThreads lists).answer.mapM Interned.result).map
          (first :: ·) := by
  simp only [internThreads, Run.andThen, Run.map, List.mapM_cons]
  rfl

theorem answer_internFrom_of_error {p : Progression} {i : Int} {fault : Fault}
    (h : (t.insert (p.fields i)).1 = .error fault) (tally : Tally) (count : Nat) :
    (internFrom p tally i (count + 1) t).answer = .error fault := by
  rw [internFrom]
  rcases hinsert : t.insert (p.fields i) with ⟨cause | insertion, after⟩
  · rw [hinsert] at h
    cases h
    rfl
  · rw [hinsert] at h
    cases h

theorem internFrom_of_ok {p : Progression} {i : Int} {insertion : Insertion}
    (h : (t.insert (p.fields i)).1 = .ok insertion) (tally : Tally) (count : Nat) :
    internFrom p tally i (count + 1) t =
      internFrom p (tally.add (t.insert (p.fields i)).2 insertion) (i + 1) count
        (t.insert (p.fields i)).2 := by
  rw [internFrom]
  rcases hinsert : t.insert (p.fields i) with ⟨cause | found, after⟩
  · rw [hinsert] at h
    cases h
  · rw [hinsert] at h
    cases h
    rfl

namespace Trails

theorem agree (h : Trails type config config' 0 t u) : t.Agree u := by
  obtain ⟨rs, ht, hu, hle⟩ := h.records
  rw [Nat.add_zero] at hle
  rw [List.take_of_length_le hle] at ht
  exact ht.agree hu

theorem shape_eq (h : Trails type config config' lead t u) : u.shape = t.shape := by
  obtain ⟨rs, ht, hu, -⟩ := h.records
  rw [hu.shape_eq, ht.shape_eq]

theorem get?_of_get? (h : Trails type config config' lead t u) {handle : Handle} {r : Record}
    (hget : t.get? handle = some r) : u.get? handle = some r := by
  obtain ⟨rs, ht, hu, -⟩ := h.records
  exact ht.get?_of_prefix hu (List.take_prefix _ rs) hget

theorem insert (h : Trails type config config' lead t u) (r : Record) :
    (t.insert r).1 = .error (TableStep.exhaustion type config) ∨
      ∃ insertion insertion', (t.insert r).1 = .ok insertion ∧ (u.insert r).1 = .ok insertion' ∧
        insertion'.handle = insertion.handle ∧
        Trails type config config' lead (t.insert r).2 (u.insert r).2 := by
  obtain ⟨rs, ht, hu, hlead⟩ := h.records
  have hcapacity := h.capacity_le
  rcases hunit : type.unit? with _ | unit
  · by_cases hr : r ∈ rs.take (type.capacity config)
    · have hinitial := List.take_prefix (type.capacity config) rs
      rw [ht.insert_of_mem hunit hr, hu.insert_of_mem hunit (hinitial.mem hr),
        idxOf_eq_of_prefix hinitial hr]
      exact .inr ⟨_, _, rfl, rfl, rfl, h⟩
    · rcases Nat.lt_or_ge (rs.take (type.capacity config)).length (type.capacity config)
        with hroom | hfull
      · have hshort : rs.length < type.capacity config := by
          rw [List.length_take] at hroom
          omega
        -- With room left in `t`, no record has met a full table yet: both hold the same.
        rw [List.take_of_length_le hshort.le] at ht hr hroom
        obtain ⟨growth, after, hinsert, hafter⟩ := ht.insert_of_room hunit hr hroom
        obtain ⟨growth', after', hinsert', hafter'⟩ :=
          hu.insert_of_room hunit hr (hshort.trans_le hcapacity)
        have hlength : (rs ++ [r]).length ≤ type.capacity config := by
          rw [List.length_append]
          exact hshort
        rw [hinsert, hinsert']
        refine .inr ⟨_, _, rfl, rfl, rfl, hcapacity, rs ++ [r], ?_, hafter', ?_⟩
        · rwa [List.take_of_length_le hlength]
        · omega
      · rw [ht.insert_of_full hunit hr hfull, RecordType.capacity_of_none hunit]
        exact .inl rfl
  · have hsome : type.unit?.isSome := by rw [hunit, Option.isSome_some]
    rw [ht.insert_of_unit hsome, hu.insert_of_unit hsome]
    exact .inr ⟨_, _, rfl, rfl, rfl, h⟩

/-- A record for which the table with less room has no handle left. -/
theorem insert_of_error (h : Trails type config config' lead t u) {r : Record} {fault : Fault}
    (herror : (t.insert r).1 = .error fault) :
    (u.insert r).1 = .error (TableStep.exhaustion type config') ∨
      ∃ insertion, (u.insert r).1 = .ok insertion ∧
        config.maxRecords.toNat < insertion.handle.toInt := by
  obtain ⟨rs, ht, hu, -⟩ := h.records
  have hfull := ht.ge_of_insert_error ⟨fault, herror⟩
  rw [List.length_take] at hfull
  rcases hunit : type.unit? with _ | unit
  · have hcapacity := RecordType.capacity_of_none hunit config
    by_cases hr : r ∈ rs
    · have hbeyond : type.capacity config ≤ rs.idxOf r := by
        by_contra hwithin
        have hold : (rs.take (type.capacity config))[rs.idxOf r]? = some r := by
          rw [List.getElem?_take_of_lt (Nat.lt_of_not_le hwithin), List.getElem?_idxOf hr]
        rw [ht.insert_of_mem hunit (List.mem_of_getElem? hold)] at herror
        cases herror
      rw [hu.insert_of_mem hunit hr]
      refine .inr ⟨_, rfl, ?_⟩
      rw [Handle.toInt_ofIndex (hu.lt_handleRange (List.idxOf_lt_length_of_mem hr))]
      omega
    · rcases Nat.lt_or_ge rs.length (type.capacity config') with hroom | hfull'
      · obtain ⟨growth, after, hinsert, -⟩ := hu.insert_of_room hunit hr hroom
        rw [hinsert]
        refine .inr ⟨_, rfl, ?_⟩
        rw [Handle.toInt_ofIndex (hroom.trans_le hu.capacity_le)]
        omega
      · rw [hu.insert_of_full hunit hr hfull', RecordType.capacity_of_none hunit]
        exact .inl rfl
  · rw [ht.insert_of_unit (by rw [hunit, Option.isSome_some])] at herror
    cases herror

theorem intern (h : Trails type config config' lead t u) (r : Record) :
    Matched type config config' lead (t.intern r).answer (u.intern r).answer (t.intern r).state
      (u.intern r).state := by
  rw [answer_intern, answer_intern, state_intern, state_intern]
  rcases h.insert r with hfull | ⟨insertion, insertion', hfound, hfound', hhandle, hafter⟩
  · exact .full (by rw [hfull]; rfl)
  · exact .alike insertion.handle (by rw [hfound]; rfl) (by rw [hfound', ← hhandle]; rfl) hafter

theorem internAll (h : Trails type config config' lead t u) (records : List Record) :
    Matched type config config' lead (t.internAll records).answer.result
      (u.internAll records).answer.result (t.internAll records).state
      (u.internAll records).state := by
  induction records generalizing t u with
  | nil => exact .alike [] rfl rfl h
  | cons r records ih =>
      cases h.intern r with
      | full hfound => exact .full (result_internAll_of_error hfound)
      | alike handle hfound hfound' hafter =>
          rw [result_internAll_of_ok hfound, result_internAll_of_ok hfound',
            state_internAll_of_ok hfound, state_internAll_of_ok hfound']
          exact (ih hafter).map (handle :: ·)

theorem internThreads (h : Trails type config config' lead t u) (lists : List (List Record)) :
    Matched type config config' lead ((t.internThreads lists).answer.mapM Interned.result)
      ((u.internThreads lists).answer.mapM Interned.result) (t.internThreads lists).state
      (u.internThreads lists).state := by
  induction lists generalizing t u with
  | nil => exact .alike [] rfl rfl h
  | cons records lists ih =>
      rw [mapM_internThreads_cons, mapM_internThreads_cons]
      cases h.internAll records with
      | full hfound => exact .full (by rw [hfound]; rfl)
      | alike first hfound hfound' hafter =>
          rw [hfound, hfound']
          exact (ih hafter).map (first :: ·)

/-- The tallies may differ in the memory and the events that they count. -/
theorem internFrom (h : Trails type config config' lead t u) (p : Progression)
    {tally tally' : Tally} (hruns : tally'.runs = tally.runs) (i : Int) (count : Nat) :
    Matched type config config' lead (internFrom p tally i count t).answer
      (internFrom p tally' i count u).answer (internFrom p tally i count t).state
      (internFrom p tally' i count u).state := by
  induction count generalizing t u tally tally' i with
  | zero => exact .alike tally.runs.reverse rfl (by rw [← hruns]; rfl) h
  | succ count ih =>
      rcases h.insert (p.fields i) with
        hfull | ⟨insertion, insertion', hfound, hfound', hhandle, hafter⟩
      · exact .full (answer_internFrom_of_error hfull tally count)
      · rw [internFrom_of_ok hfound, internFrom_of_ok hfound']
        apply ih hafter
        rw [Tally.add, Tally.add, hruns, hhandle]

end Trails

theorem exists_of_internAll_cons {r : Record} {records : List Record} {handles : List Handle}
    (h : (t.internAll (r :: records)).answer.result = .ok handles) :
    ∃ first rest, (t.intern r).answer = .ok first ∧
      ((t.intern r).state.internAll records).answer.result = .ok rest ∧
      first :: rest = handles := by
  rcases hfirst : (t.intern r).answer with fault | first
  · rw [result_internAll_of_error hfirst] at h
    cases h
  · rw [result_internAll_of_ok hfirst] at h
    obtain ⟨rest, hrest, hhandles⟩ := exists_of_map h
    exact ⟨first, rest, rfl, hrest, hhandles⟩

namespace Represents

variable {rs : List Record}

theorem isSome_get?_intern (h : t.Represents type config rs) {r : Record} {handle : Handle}
    (hanswer : (t.intern r).answer = .ok handle) :
    ((t.intern r).state.get? handle).isSome := by
  rw [answer_intern] at hanswer
  rw [state_intern]
  obtain ⟨insertion, hinsert, rfl⟩ := exists_of_map hanswer
  rcases hunit : type.unit? with _ | unit
  · rw [h.get?_of_insert_of_none hunit hinsert, Option.isSome_some]
  · rw [h.insert_of_unit (by rw [hunit, Option.isSome_some])] at hinsert ⊢
    cases hinsert
    simp [get?, h.unit_eq, hunit]

theorem isSome_get?_insertAll (h : t.Represents type config rs) (history : List Record)
    {handle : Handle} (hvalid : (t.get? handle).isSome) :
    ((t.insertAll history).get? handle).isSome := by
  obtain ⟨r, hget⟩ := Option.isSome_iff_exists.mp hvalid
  rw [h.get?_insertAll history hget, Option.isSome_some]

theorem isSome_get?_internAll (h : t.Represents type config rs) {records : List Record}
    {handles : List Handle} (hresult : (t.internAll records).answer.result = .ok handles)
    {handle : Handle} (hmem : handle ∈ handles) :
    ((t.internAll records).state.get? handle).isSome := by
  induction records generalizing t rs handles with
  | nil =>
      cases hresult
      cases hmem
  | cons r records ih =>
      have hafter := h.insert r
      rw [← state_intern] at hafter
      obtain ⟨first, rest, hfirst, hrest, rfl⟩ := exists_of_internAll_cons hresult
      rw [state_internAll_of_ok hfirst]
      rcases List.mem_cons.mp hmem with rfl | hmem
      · rw [hafter.state_internAll]
        exact hafter.isSome_get?_insertAll records (h.isSome_get?_intern hfirst)
      · exact ih hafter hrest hmem

theorem isSome_get?_internThreads (h : t.Represents type config rs) {lists : List (List Record)}
    {found : List (List Handle)}
    (hresult : (t.internThreads lists).answer.mapM Interned.result = .ok found) {handle : Handle}
    (hmem : handle ∈ found.headD []) : ((t.internThreads lists).state.get? handle).isSome := by
  cases lists with
  | nil =>
      cases hresult
      cases hmem
  | cons records lists =>
      have hafter := h.insertAll records
      rw [← h.state_internAll] at hafter
      have hstate : (t.internThreads (records :: lists)).state =
          ((t.internAll records).state.internThreads lists).state := rfl
      rw [mapM_internThreads_cons] at hresult
      obtain ⟨first, hfirst, hresult⟩ := exists_of_bind hresult
      obtain ⟨rest, -, rfl⟩ := exists_of_map hresult
      rw [hstate, hafter.state_internThreads]
      apply hafter.isSome_get?_insertAll
      exact h.isSome_get?_internAll hfirst hmem

end Represents

end InternTable

namespace Session.TableStep

open InternTable

variable {type : RecordType} {config config' : Config} {lead : Nat} {t u : InternTable}

/-- A step on both tables: the first is full, or both give the same answer and stay together. -/
def Parallel (type : RecordType) (config config' : Config) (lead : Nat)
    (run run' : Run InternTable Reply) : Prop :=
  run.answer = .error (.fault (exhaustion type config)) ∨
    run'.answer = run.answer ∧ Trails type config config' lead run.state run'.state

theorem parallel_of_matched {α : Type} {found found' : Except Fault α}
    {run run' : Run InternTable Reply} {answer answer' : α → Answer}
    (h : Matched type config config' lead found found' run.state run'.state)
    (hanswer : run.answer = Reply.ofStopped answer found)
    (hanswer' : run'.answer = Reply.ofStopped answer' found')
    (hsame : ∀ a, found = .ok a → Trails type config config' lead run.state run'.state →
      answer' a = answer a) :
    Parallel type config config' lead run run' := by
  cases h with
  | full hfound => exact .inl (by rw [hanswer, hfound]; rfl)
  | alike a hfound hfound' htrails =>
      refine .inr ⟨?_, htrails⟩
      rw [hanswer, hanswer', hfound, hfound', Reply.ofStopped, Reply.ofStopped,
        hsame a hfound htrails]

theorem parallel_withRecord (h : Trails type config config' lead t u) (fields : List Int32)
    {use use' : Record → Run InternTable Reply}
    (hused : Parallel type config config' lead (use fields) (use' fields)) :
    Parallel type config config' lead (withRecord t fields use) (withRecord u fields use') := by
  by_cases hlength : fields.length = t.shape.arity
  · rw [withRecord_of_length hlength, withRecord_of_length (h.shape_eq ▸ hlength)]
    exact hused
  · rw [withRecord_of_length_ne hlength, withRecord_of_length_ne (h.shape_eq ▸ hlength), h.shape_eq]
    exact .inr ⟨rfl, h⟩

theorem parallel_withRecords (h : Trails type config config' lead t u) (records : List (List Int32))
    {use use' : List Record → Run InternTable Reply}
    (hused : Parallel type config config' lead (use records) (use' records)) :
    Parallel type config config' lead (withRecords t records use) (withRecords u records use') := by
  rw [withRecords, withRecords, h.shape_eq]
  by_cases hlengths : ∀ fields ∈ records, fields.length = t.shape.arity
  · rw [mapM_record_of_forall hlengths]
    exact hused
  · obtain ⟨cause, hcause⟩ := mapM_record_of_not_forall hlengths
    rw [hcause]
    exact .inr ⟨rfl, h⟩

/-- Whether handles lead back to the records that they were given for is the same on both tables. -/
theorem agreement_eq (h : Trails type config config' lead t u) (records : List Record)
    {found : List (List Handle)}
    (hvalid : ∀ handle ∈ found.headD [], (t.get? handle).isSome) :
    agreement u records found = agreement t records found := by
  simp only [agreement, Agreement.mk.injEq, true_and, and_true]
  rw [Bool.eq_iff_iff, List.all_eq_true, List.all_eq_true]
  apply forall₂_congr
  rintro ⟨handle, r⟩ hmem
  obtain ⟨q, hget⟩ := Option.isSome_iff_exists.mp (hvalid handle (List.of_mem_zip hmem).1)
  simp only [hget, h.get?_of_get? hget]

theorem parallel_of_interns (h : Trails type config config' lead t u) {step : TableStep}
    (hinterns : step.interns = true) :
    Parallel type config config' lead (step.perform t) (step.perform u) := by
  cases step with
  | intern fields =>
      apply parallel_withRecord h
      exact parallel_of_matched (h.intern fields) rfl rfl fun _ _ _ => rfl
  | internProgression p =>
      rw [perform, perform]
      split
      · exact .inr ⟨rfl, h⟩
      · apply parallel_withRecord h
        exact parallel_of_matched (h.internFrom p rfl p.first p.count) rfl rfl fun _ _ _ => rfl
  | internTogether fields threads =>
      apply parallel_withRecord h
      exact parallel_of_matched (h.internThreads _) rfl rfl fun _ _ _ => rfl
  | internAllTogether records threads =>
      apply parallel_withRecords h
      refine parallel_of_matched (h.internThreads _) rfl rfl ?_
      intro found hfound hafter
      obtain ⟨rs, ht, -⟩ := h.records
      apply congrArg Answer.agreement
      apply agreement_eq hafter
      intro handle hmem
      exact ht.isSome_get?_internThreads hfound hmem
  | _ => cases hinterns

/-- A step keeps tables alike unless it finds the first one full. Only what they answer about their
blocks may differ. -/
theorem perform_of_room (h : Trails type config config' 0 t u) {step : TableStep}
    (hroom : (step.perform t).answer ≠ .error (.fault (exhaustion type config))) :
    Trails type config config' 0 (step.perform t).state (step.perform u).state ∧
      (step ≠ blockSize → (step.perform u).answer = (step.perform t).answer) := by
  cases hinterns : step.interns with
  | false =>
      rw [state_of_looks hinterns, state_of_looks hinterns]
      exact ⟨h, answer_of_looks h.agree hinterns⟩
  | true =>
      rcases parallel_of_interns h hinterns with hfull | ⟨hanswer, hafter⟩
      · exact absurd hfull hroom
      · exact ⟨hafter, fun _ => hanswer⟩

theorem answer_all_of_room (h : Trails type config config' 0 t u) {steps : List TableStep}
    (hroom : .error (.fault (exhaustion type config)) ∉ (Run.all perform t steps).answer) {i : Nat}
    (hblock : steps[i]? ≠ some blockSize) :
    (Run.all perform u steps).answer[i]? = (Run.all perform t steps).answer[i]? := by
  induction steps generalizing t u i with
  | nil => rfl
  | cons step steps ih =>
      obtain ⟨hfirst, hrest⟩ := not_or.mp (mt List.mem_cons.mpr hroom)
      obtain ⟨hafter, hanswer⟩ := perform_of_room h (Ne.symm hfirst)
      cases i with
      | zero =>
          apply congrArg some
          apply hanswer
          rintro rfl
          exact hblock rfl
      | succ i => exact ih hafter hrest hblock

end Session.TableStep

end Interner
