import Interner.Proofs.Runs
import Interner.Proofs.TableContents
import Interner.Session.TableStep

/-!
Steps on an intern table as insertions. Every step inserts a list of records that can be read off
the step, one after the other; a step that only looks inserts none. So a run leaves a table that
holds the first occurrences of all records that its steps insert.
-/

namespace Interner

open Session

def Progression.recordsFrom (p : Progression) (i : Int) : Nat → List Record
  | 0 => []
  | count + 1 => p.fields i :: p.recordsFrom (i + 1) count

namespace InternTable

/-- The table after records were inserted one after the other, whatever each insertion met. -/
def insertAll (t : InternTable) (history : List Record) : InternTable :=
  history.foldl (fun t r => (t.insert r).2) t

theorem insertAll_cons (t : InternTable) (r : Record) (history : List Record) :
    t.insertAll (r :: history) = (t.insert r).2.insertAll history := rfl

theorem insertAll_append (t : InternTable) (history more : List Record) :
    t.insertAll (history ++ more) = (t.insertAll history).insertAll more :=
  List.foldl_append

theorem state_intern (t : InternTable) (r : Record) : (t.intern r).state = (t.insert r).2 := by
  rcases hinsert : t.insert r with ⟨_ | _, after⟩
  · rw [intern, hinsert]
  · rw [intern, hinsert]

theorem state_all_intern (t : InternTable) (history : List Record) :
    (Run.all intern t history).state = t.insertAll history := by
  rw [Run.state_all, insertAll]
  congr 1
  funext t r
  exact t.state_intern r

theorem answer_intern (t : InternTable) (r : Record) :
    (t.intern r).answer = (t.insert r).1.map Insertion.handle := by
  rcases hinsert : t.insert r with ⟨_ | _, after⟩
  · simp only [intern, hinsert]
    rfl
  · simp only [intern, hinsert]
    rfl

namespace Represents

variable {t : InternTable} {type : RecordType} {config : Config} {rs : List Record}

theorem insertAll (h : t.Represents type config rs) (history : List Record) :
    (t.insertAll history).Represents type config
      (history.foldl (extend (type.capacity config)) rs) := by
  induction history generalizing t rs with
  | nil => exact h
  | cons r history ih => exact ih (h.insert r)

theorem get?_insertAll (h : t.Represents type config rs) (history : List Record)
    {handle : Handle} {r : Record} (hget : t.get? handle = some r) :
    (t.insertAll history).get? handle = some r :=
  h.get?_of_prefix (h.insertAll history) (prefix_foldl_extend _ _ _) hget

theorem insert_of_ge (h : t.Represents type config rs)
    (hfull : type.capacity config ≤ rs.length) (r : Record) : (t.insert r).2 = t := by
  rcases hunit : type.unit? with _ | unit
  · by_cases hr : r ∈ rs
    · rw [h.insert_of_mem hunit hr]
    · rw [h.insert_of_full hunit hr hfull]
  · rw [h.insert_of_unit (by rw [hunit, Option.isSome_some])]

theorem insertAll_of_ge (h : t.Represents type config rs)
    (hfull : type.capacity config ≤ rs.length) (history : List Record) :
    t.insertAll history = t := by
  induction history with
  | nil => rfl
  | cons r history ih => rw [insertAll_cons, h.insert_of_ge hfull, ih]

theorem ge_of_insert_error (h : t.Represents type config rs) {r : Record}
    (herror : ∃ fault, (t.insert r).1 = .error fault) : type.capacity config ≤ rs.length := by
  obtain ⟨fault, herror⟩ := herror
  by_contra hroom
  rcases hunit : type.unit? with _ | unit
  · by_cases hr : r ∈ rs
    · rw [h.insert_of_mem hunit hr] at herror
      cases herror
    · obtain ⟨growth, after, hinsert, -⟩ := h.insert_of_room hunit hr (Nat.lt_of_not_le hroom)
      rw [hinsert] at herror
      cases herror
  · rw [h.insert_of_unit (by rw [hunit, Option.isSome_some])] at herror
    cases herror

theorem exhausted_of_insert_error (h : t.Represents type config rs) {r : Record} {fault : Fault}
    (herror : (t.insert r).1 = .error fault) :
    fault = .fatal (.exhausted type.shape.name config.maxRecords.toNat) := by
  have hfull := h.ge_of_insert_error ⟨fault, herror⟩
  rcases hunit : type.unit? with _ | unit
  · by_cases hr : r ∈ rs
    · rw [h.insert_of_mem hunit hr] at herror
      cases herror
    · rw [h.insert_of_full hunit hr hfull, RecordType.capacity_of_none hunit] at herror
      cases herror
      rfl
  · rw [h.insert_of_unit (by rw [hunit, Option.isSome_some])] at herror
    cases herror

theorem insertAll_of_insert_error (h : t.Represents type config rs) {r : Record}
    (herror : ∃ fault, (t.insert r).1 = .error fault) (history : List Record) :
    (t.insert r).2.insertAll history = (t.insert r).2 := by
  have hfull := h.ge_of_insert_error herror
  rw [h.insert_of_ge hfull, h.insertAll_of_ge hfull]

/-- To stop at the first fault leaves the table that all insertions leave. -/
theorem state_internAll (h : t.Represents type config rs) (history : List Record) :
    (t.internAll history).state = t.insertAll history := by
  induction history generalizing t rs with
  | nil => rfl
  | cons r history ih =>
      have hafter := h.insert r
      have hstop := h.insertAll_of_insert_error (r := r)
      rw [insertAll_cons, internAll, intern]
      rcases hinsert : t.insert r with ⟨fault | insertion, after⟩
      · rw [hinsert] at hstop
        exact (hstop ⟨fault, rfl⟩ history).symm
      · rw [hinsert] at hafter
        exact ih hafter

theorem state_internThreads (h : t.Represents type config rs) (lists : List (List Record)) :
    (t.internThreads lists).state = t.insertAll lists.flatten := by
  induction lists generalizing t rs with
  | nil => rfl
  | cons records lists ih =>
      have hfirst := h.state_internAll records
      have hafter := h.insertAll records
      rw [List.flatten_cons, insertAll_append, ← ih hafter, internThreads, ← hfirst]
      rfl

theorem state_internFrom (h : t.Represents type config rs) (p : Progression) (tally : Tally)
    (i : Int) (count : Nat) :
    (internFrom p tally i count t).state = t.insertAll (p.recordsFrom i count) := by
  induction count generalizing t rs tally i with
  | zero => rfl
  | succ count ih =>
      have hafter := h.insert (p.fields i)
      have hstop := h.insertAll_of_insert_error (r := p.fields i)
      rw [Progression.recordsFrom, insertAll_cons, internFrom]
      rcases hinsert : t.insert (p.fields i) with ⟨fault | insertion, after⟩
      · rw [hinsert] at hstop
        exact (hstop ⟨fault, rfl⟩ _).symm
      · rw [hinsert] at hafter
        exact ih hafter _ _

end Represents

end InternTable

namespace Session.TableStep

/-- The fields of every record that a step is to insert, in order. -/
def offered : TableStep → List (List Int32)
  | intern fields => [fields]
  | internProgression p => p.recordsFrom p.first p.count
  | internTogether fields threads => List.replicate threads fields
  | internAllTogether records threads => (List.replicate threads records).flatten
  | _ => []

/-- The records that a step inserts: those on offer, unless they are not records of this shape. -/
def interned (s : Shape) (step : TableStep) : List Record :=
  if ∀ fields ∈ step.offered, fields.length = s.arity then step.offered else []

theorem interned_of_forall {s : Shape} {step : TableStep}
    (h : ∀ fields ∈ step.offered, fields.length = s.arity) : step.interned s = step.offered :=
  if_pos h

theorem interned_eq_nil {s : Shape} {step : TableStep}
    (h : step.offered ≠ [] → ∃ fields ∈ step.offered, fields.length ≠ s.arity) :
    step.interned s = [] := by
  rw [interned]
  split
  · rename_i hall
    by_contra hoffered
    obtain ⟨fields, hmem, hlength⟩ := h hoffered
    exact hlength (hall fields hmem)
  · rfl

theorem length_of_mem_interned {s : Shape} {step : TableStep} {r : Record}
    (h : r ∈ step.interned s) : r.length = s.arity := by
  rw [interned] at h
  split at h
  · rename_i hall
    exact hall r h
  · cases h

theorem interned_intern {s : Shape} {fields : List Int32} (h : fields.length = s.arity) :
    (intern fields).interned s = [fields] :=
  if_pos fun r hr => by rw [List.mem_singleton.mp hr, h]

theorem length_of_mem_recordsFrom {p : Progression} {i : Int} {count : Nat} {fields : Record}
    (h : fields ∈ p.recordsFrom i count) (j : Int) : fields.length = (p.fields j).length := by
  induction count generalizing i with
  | zero => cases h
  | succ count ih =>
      rcases List.mem_cons.mp h with rfl | hrest
      · simp [Progression.fields]
      · exact ih hrest

theorem withRecord_of_length {t : InternTable} {fields : List Int32}
    (h : fields.length = t.shape.arity) (use : Record → Run InternTable Reply) :
    withRecord t fields use = use fields := by
  rw [withRecord, Shape.record, if_pos h]

theorem withRecord_of_length_ne {t : InternTable} {fields : List Int32}
    (h : fields.length ≠ t.shape.arity) (use : Record → Run InternTable Reply) :
    withRecord t fields use =
      { answer := .error (.error (.arityMismatch t.shape.arity fields.length)), state := t } := by
  rw [withRecord, Shape.record, if_neg h]

theorem mapM_record_of_forall {s : Shape} {records : List (List Int32)}
    (h : ∀ fields ∈ records, fields.length = s.arity) : records.mapM s.record = .ok records := by
  induction records with
  | nil => rfl
  | cons fields records ih =>
      obtain ⟨hfields, hrest⟩ := List.forall_mem_cons.mp h
      rw [List.mapM_cons, Shape.record, if_pos hfields, ih hrest]
      rfl

theorem mapM_record_of_not_forall {s : Shape} {records : List (List Int32)}
    (h : ¬ ∀ fields ∈ records, fields.length = s.arity) :
    ∃ cause, records.mapM s.record = .error cause := by
  induction records with
  | nil => exact absurd (List.forall_mem_nil _) h
  | cons fields records ih =>
      rw [List.mapM_cons, Shape.record]
      by_cases hfields : fields.length = s.arity
      · obtain ⟨cause, hcause⟩ := ih fun hrest => h (List.forall_mem_cons.mpr ⟨hfields, hrest⟩)
        rw [if_pos hfields, hcause]
        exact ⟨cause, rfl⟩
      · rw [if_neg hfields]
        exact ⟨_, rfl⟩

theorem withRecords_of_forall {t : InternTable} {records : List (List Int32)}
    (h : ∀ fields ∈ records, fields.length = t.shape.arity)
    (use : List Record → Run InternTable Reply) : withRecords t records use = use records := by
  rw [withRecords, mapM_record_of_forall h]

theorem withRecords_of_not_forall {t : InternTable} {records : List (List Int32)}
    (h : ¬ ∀ fields ∈ records, fields.length = t.shape.arity)
    (use : List Record → Run InternTable Reply) :
    ∃ cause, withRecords t records use = { answer := .error (.error cause), state := t } := by
  obtain ⟨cause, hcause⟩ := mapM_record_of_not_forall h
  exact ⟨cause, by rw [withRecords, hcause]⟩

theorem mem_offered_internTogether {fields r : Record} {threads : Nat} :
    r ∈ (internTogether fields threads).offered ↔ threads ≠ 0 ∧ r = fields :=
  List.mem_replicate

theorem mem_offered_internAllTogether {records : List Record} {r : Record} {threads : Nat} :
    r ∈ (internAllTogether records threads).offered ↔ threads ≠ 0 ∧ r ∈ records := by
  simp only [offered, List.mem_flatten, List.mem_replicate]
  constructor
  · rintro ⟨list, ⟨hthreads, rfl⟩, hr⟩
    exact ⟨hthreads, hr⟩
  · rintro ⟨hthreads, hr⟩
    exact ⟨records, ⟨hthreads, rfl⟩, hr⟩

/-- How a step works on a table. It interns nothing and leaves the table as it is, or it interns a
record, a progression, or the records of several threads. -/
inductive Work (t : InternTable) (step : TableStep) (run : Run InternTable Reply) : Prop
  | nothing (hinterned : step.interned t.shape = []) (hstate : run.state = t)
      (hcharges : run.charges = []) (hreported : run.reported = [])
  | record (r : Record) (hinterned : step.interned t.shape = [r])
      (hstate : run.state = (t.intern r).state) (hcharges : run.charges = (t.intern r).charges)
      (hreported : run.reported = (t.intern r).reported)
  | progression (p : Progression)
      (hinterned : step.interned t.shape = p.recordsFrom p.first p.count)
      (hstate : run.state = (InternTable.internFrom p {} p.first p.count t).state)
      (hcharges : run.charges = (InternTable.internFrom p {} p.first p.count t).charges)
      (hreported : run.reported = (InternTable.internFrom p {} p.first p.count t).reported)
  | threads (lists : List (List Record)) (hinterned : step.interned t.shape = lists.flatten)
      (hstate : run.state = (t.internThreads lists).state)
      (hcharges : run.charges = (t.internThreads lists).charges)
      (hreported : run.reported = (t.internThreads lists).reported)

theorem work_intern (t : InternTable) (fields : List Int32) :
    (intern fields).Work t ((intern fields).perform t) := by
  rw [perform]
  by_cases hlength : fields.length = t.shape.arity
  · rw [withRecord_of_length hlength]
    exact .record fields (interned_intern hlength) rfl rfl rfl
  · rw [withRecord_of_length_ne hlength]
    refine .nothing (interned_eq_nil fun _ => ?_) rfl rfl rfl
    exact ⟨fields, List.mem_singleton_self fields, hlength⟩

theorem work_internProgression (t : InternTable) (p : Progression) :
    (internProgression p).Work t ((internProgression p).perform t) := by
  rw [perform]
  by_cases hcount : p.count = 0
  · rw [if_pos hcount]
    refine .nothing (interned_eq_nil fun hoffered => absurd ?_ hoffered) rfl rfl rfl
    rw [offered, hcount, Progression.recordsFrom]
  · rw [if_neg hcount]
    by_cases hlength : (p.fields p.first).length = t.shape.arity
    · rw [withRecord_of_length hlength]
      refine .progression p (interned_of_forall fun fields hfields => ?_) rfl rfl rfl
      exact (length_of_mem_recordsFrom hfields p.first).trans hlength
    · rw [withRecord_of_length_ne hlength]
      refine .nothing (interned_eq_nil fun _ => ⟨p.fields p.first, ?_, hlength⟩) rfl rfl rfl
      obtain ⟨count, hsucc⟩ := Nat.exists_eq_succ_of_ne_zero hcount
      rw [offered, hsucc]
      exact List.mem_cons_self

theorem work_internTogether (t : InternTable) (fields : List Int32) (threads : Nat) :
    (internTogether fields threads).Work t ((internTogether fields threads).perform t) := by
  rw [perform]
  by_cases hlength : fields.length = t.shape.arity
  · rw [withRecord_of_length hlength]
    refine .threads (List.replicate threads [fields]) ?_ rfl rfl rfl
    rw [interned_of_forall, List.flatten_replicate_singleton, offered]
    intro r hr
    rw [(mem_offered_internTogether.mp hr).2, hlength]
  · rw [withRecord_of_length_ne hlength]
    refine .nothing (interned_eq_nil fun hoffered => ?_) rfl rfl rfl
    have hthreads : threads ≠ 0 := by
      rintro rfl
      exact hoffered rfl
    exact ⟨fields, mem_offered_internTogether.mpr ⟨hthreads, rfl⟩, hlength⟩

theorem work_internAllTogether (t : InternTable) (records : List (List Int32)) (threads : Nat) :
    (internAllTogether records threads).Work t ((internAllTogether records threads).perform t) := by
  rw [perform]
  by_cases hlengths : ∀ fields ∈ records, fields.length = t.shape.arity
  · rw [withRecords_of_forall hlengths]
    refine .threads (List.replicate threads records) (interned_of_forall ?_) rfl rfl rfl
    intro r hr
    exact hlengths r (mem_offered_internAllTogether.mp hr).2
  · obtain ⟨cause, hrefused⟩ := withRecords_of_not_forall hlengths _
    rw [hrefused]
    refine .nothing (interned_eq_nil fun hoffered => ?_) rfl rfl rfl
    have hthreads : threads ≠ 0 := by
      rintro rfl
      exact hoffered rfl
    push Not at hlengths
    obtain ⟨fields, hmem, hlength⟩ := hlengths
    exact ⟨fields, mem_offered_internAllTogether.mpr ⟨hthreads, hmem⟩, hlength⟩

theorem work_perform (t : InternTable) (step : TableStep) : step.Work t (step.perform t) := by
  cases step with
  | intern fields => exact work_intern t fields
  | internProgression p => exact work_internProgression t p
  | internTogether fields threads => exact work_internTogether t fields threads
  | internAllTogether records threads => exact work_internAllTogether t records threads
  | _ => exact .nothing rfl rfl rfl rfl

/-- Every step leaves the table as the insertion of its records does. -/
theorem state_perform {t : InternTable} {type : RecordType} {config : Config} {rs : List Record}
    (h : t.Represents type config rs) (step : TableStep) :
    (step.perform t).state = t.insertAll (step.interned t.shape) := by
  cases step.work_perform t with
  | nothing hinterned hstate => rw [hinterned, hstate, InternTable.insertAll, List.foldl_nil]
  | record r hinterned hstate =>
      rw [hinterned, hstate, InternTable.state_intern]
      rfl
  | progression p hinterned hstate => rw [hinterned, hstate, h.state_internFrom]
  | threads lists hinterned hstate => rw [hinterned, hstate, h.state_internThreads]

theorem answer_intern_of_length_ne {t : InternTable} {r : Record}
    (h : r.length ≠ t.shape.arity) :
    ((intern r).perform t).answer = .error (.error (.arityMismatch t.shape.arity r.length)) := by
  rw [perform, withRecord_of_length_ne h]

theorem answer_intern_of_length {t : InternTable} {r : Record} (h : r.length = t.shape.arity) :
    ((intern r).perform t).answer =
      Reply.ofStopped .handle ((t.insert r).1.map InternTable.Insertion.handle) := by
  rw [perform, withRecord_of_length h, ← InternTable.answer_intern]
  rfl

theorem insert_of_fault {t : InternTable} {r : Record} {fault : Fault}
    (h : ((intern r).perform t).answer = .error (.fault fault)) :
    r.length = t.shape.arity ∧ (t.insert r).1 = .error fault := by
  by_cases hlength : r.length = t.shape.arity
  · rw [answer_intern_of_length hlength] at h
    rcases hinsert : (t.insert r).1 with cause | insertion
    · rw [hinsert] at h
      cases h
      exact ⟨hlength, rfl⟩
    · rw [hinsert] at h
      cases h
  · rw [answer_intern_of_length_ne hlength] at h
    cases h

theorem insert_of_handle {t : InternTable} {r : Record} {handle : Handle}
    (h : ((intern r).perform t).answer = .ok (.handle handle)) :
    r.length = t.shape.arity ∧ ∃ growth, (t.insert r).1 = .ok { handle, growth } := by
  by_cases hlength : r.length = t.shape.arity
  · rw [answer_intern_of_length hlength] at h
    rcases hinsert : (t.insert r).1 with cause | insertion
    · rw [hinsert] at h
      cases h
    · rw [hinsert] at h
      cases h
      exact ⟨hlength, insertion.growth, rfl⟩
  · rw [answer_intern_of_length_ne hlength] at h
    cases h

/-- What the steps of a run insert, one step after the other. -/
def history (s : Shape) (steps : List TableStep) : List Record :=
  steps.flatMap (interned s)

theorem history_cons (s : Shape) (step : TableStep) (steps : List TableStep) :
    history s (step :: steps) = step.interned s ++ history s steps :=
  List.flatMap_cons

theorem history_append (s : Shape) (steps more : List TableStep) :
    history s (steps ++ more) = history s steps ++ history s more :=
  List.flatMap_append

/-- The history of a run, seen from a step of it that interns one record. -/
theorem history_split {s : Shape} {steps : List TableStep} {i : Nat} {r : Record}
    (hstep : steps[i]? = some (.intern r)) (hlength : r.length = s.arity) :
    history s steps = history s (steps.take i) ++ r :: history s (steps.drop (i + 1)) := by
  obtain ⟨hi, hget⟩ := List.getElem?_eq_some_iff.mp hstep
  have hsplit : steps = steps.take i ++ intern r :: steps.drop (i + 1) := by
    rw [← hget, List.getElem_cons_drop, List.take_append_drop]
  conv_lhs => rw [hsplit]
  rw [history_append, history_cons, interned_intern hlength]
  rfl

theorem length_of_mem_history {s : Shape} {steps : List TableStep} {r : Record}
    (h : r ∈ history s steps) : r.length = s.arity := by
  obtain ⟨step, -, hmem⟩ := List.mem_flatMap.mp h
  exact length_of_mem_interned hmem

theorem length_of_mem_firstOccurrences {s : Shape} {steps : List TableStep} {capacity : Nat}
    {r : Record} (h : r ∈ firstOccurrences capacity (history s steps)) : r.length = s.arity :=
  length_of_mem_history (List.mem_eraseDups.mp (List.mem_of_mem_take h))

theorem state_all {t : InternTable} {type : RecordType} {config : Config} {rs : List Record}
    (h : t.Represents type config rs) (steps : List TableStep) :
    (Run.all perform t steps).state = t.insertAll (history type.shape steps) := by
  induction steps generalizing t rs with
  | nil => rfl
  | cons step steps ih =>
      have hstep := state_perform h step
      have hafter := h.insertAll (step.interned type.shape)
      rw [h.shape_eq] at hstep
      rw [history_cons, InternTable.insertAll_append, ← ih hafter, ← hstep]
      rfl

theorem represents_all {t : InternTable} {type : RecordType} {config : Config}
    (h : t.Represents type config []) (steps : List TableStep) :
    (Run.all perform t steps).state.Represents type config
      (firstOccurrences (type.capacity config) (history type.shape steps)) := by
  rw [state_all h, ← foldl_extend_eq]
  exact h.insertAll _

end Session.TableStep

end Interner
