import Interner.Proofs.AccountLevels
import Interner.Proofs.TableCharges
import Interner.Proofs.TableListings
import Mathlib.Logic.Equiv.Defs

/-!
Threads that intern into one table. Each insertion is one step, and a schedule is any order of the
steps of all threads that keeps the order of each. Schedules differ in the handles that they give to
the new records, and in nothing else.
-/

namespace Interner

open Memory Session

/-- A schedule of threads, each with the items it has left to deal with in order. At every turn some
thread that has items left deals with its first. -/
inductive Interleaving {α : Type} : List (List α) → List (Nat × α) → Prop
  | done {threads : List (List α)} (hdone : ∀ left ∈ threads, left = []) : Interleaving threads []
  | turn {threads : List (List α)} {thread : Nat} {a : α} {left : List α}
      {schedule : List (Nat × α)} (hthread : threads[thread]? = some (a :: left))
      (hrest : Interleaving (threads.set thread left) schedule) :
      Interleaving threads ((thread, a) :: schedule)

theorem Interleaving.perm {α : Type} {threads : List (List α)} {schedule : List (Nat × α)}
    (h : Interleaving threads schedule) : (schedule.map Prod.snd).Perm threads.flatten := by
  induction h with
  | done hdone => rw [List.map_nil, List.flatten_eq_nil_iff.mpr hdone]
  | @turn threads thread a left schedule hthread hrest ih =>
      obtain ⟨hlt, hget⟩ := List.getElem?_eq_some_iff.mp hthread
      have hsplit : threads = threads.take thread ++ (a :: left) :: threads.drop (thread + 1) := by
        rw [← hget, List.getElem_cons_drop, List.take_append_drop]
      rw [List.set_eq_take_append_cons_drop, if_pos hlt, List.flatten_append,
        List.flatten_cons] at ih
      rw [hsplit, List.flatten_append, List.flatten_cons, List.map_cons, List.cons_append]
      exact (ih.cons a).trans List.perm_middle.symm

namespace InternTable

def stored (t : InternTable) : List Record := t.entries.map Prod.snd

/-- Those of the records that the table does not have yet, each of them once. -/
def newRecords (t : InternTable) (records : List Record) : List Record :=
  (records.filter (· ∉ t.stored)).eraseDups

/-- The records are of the type, and the table has room for those of them that are new. -/
structure Fits (t : InternTable) (type : RecordType) (records : List Record) : Prop where
  length_eq : ∀ r ∈ records, r.length = type.shape.arity
  room : t.records.size + (t.newRecords records).length ≤ t.records.capacity

def scheduled (t : InternTable) (schedule : List (Nat × Record)) :
    Run InternTable (List (Except Fault Handle)) :=
  Run.all intern t (schedule.map Prod.snd)

theorem length_newRecords_perm (t : InternTable) {records records' : List Record}
    (h : records.Perm records') :
    (t.newRecords records).length = (t.newRecords records').length := by
  refine List.Perm.length_eq ((List.perm_ext_iff_of_nodup ?_ ?_).mpr ?_)
  · exact nodup_eraseDups _
  · exact nodup_eraseDups _
  · intro r
    rw [newRecords, newRecords, List.mem_eraseDups, List.mem_eraseDups]
    exact (h.filter _).mem_iff

theorem Fits.of_perm {t : InternTable} {type : RecordType} {records records' : List Record}
    (h : t.Fits type records) (hperm : records.Perm records') : t.Fits type records' := by
  refine ⟨fun r hr => h.length_eq r (hperm.mem_iff.mpr hr), ?_⟩
  rw [← t.length_newRecords_perm hperm]
  exact h.room

namespace Represents

variable {t : InternTable} {type : RecordType} {config : Config} {rs : List Record}

theorem mem_stored_iff (h : t.Represents type config rs) {r : Record} :
    r ∈ t.stored ↔ ∃ handle, t.get? handle = some r := by
  rw [stored, List.mem_map]
  constructor
  · rintro ⟨⟨handle, _⟩, hmem, rfl⟩
    exact ⟨handle, h.mem_entries_iff.mp hmem⟩
  · rintro ⟨handle, hget⟩
    exact ⟨(handle, r), h.mem_entries_iff.mpr hget, rfl⟩

theorem stored_of_unit (h : t.Represents type config rs) {unit : Record}
    (hunit : type.unit? = some unit) : t.stored = [unit] := by
  rw [stored, h.entries_of_unit hunit, List.map_singleton]

theorem stored_of_none (h : t.Represents type config rs) (hunit : type.unit? = none) :
    t.stored = rs := by
  rw [stored, h.entries_of_none hunit, List.map_map]
  exact List.zipIdx_map_fst 0 rs

theorem index_eq_some_iff (h : t.Represents type config rs) {handle : Handle} {r : Record} :
    t.index[r]? = some handle ↔ type.unit? = none ∧ t.get? handle = some r := by
  rw [h.index_eq]
  rcases hunit : type.unit? with _ | unit
  · simp only [true_and]
    constructor
    · intro hindex
      split at hindex
      · rename_i hr
        rw [← Option.some.inj hindex]
        exact h.get?_idxOf hr
      · cases hindex
    · intro hget
      obtain ⟨hr, hhandle⟩ := h.mem_of_get? hunit hget
      rw [if_pos hr, hhandle]
  · rw [h.eq_nil_of_unit (by rw [hunit, Option.isSome_some])]
    simp

theorem foldl_extend_eq_append (h : t.Represents type config rs) (hunit : type.unit? = none)
    {history : List Record} (hfits : t.Fits type history) :
    history.foldl (extend (type.capacity config)) rs = rs ++ t.newRecords history := by
  have hroom := hfits.room
  rw [newRecords, h.stored_of_none hunit, h.holds.size_eq, h.holds.capacity_eq] at hroom
  rw [newRecords, h.stored_of_none hunit]
  exact foldl_extend_of_room hroom

theorem newRecords_of_unit (h : t.Represents type config rs) {unit : Record}
    (hunit : type.unit? = some unit) {history : List Record}
    (hlength : ∀ r ∈ history, r.length = type.shape.arity) : t.newRecords history = [] := by
  obtain ⟨harity, rfl⟩ := RecordType.unit?_eq_some hunit
  have hnone : history.filter (· ∉ t.stored) = [] := by
    rw [List.filter_eq_nil_iff]
    intro r hr
    have hnil : r = [] := List.eq_nil_of_length_eq_zero ((hlength r hr).trans harity)
    simp [h.stored_of_unit hunit, hnil]
  rw [newRecords, hnone]
  rfl

theorem size_insertAll (h : t.Represents type config rs) {history : List Record}
    (hfits : t.Fits type history) :
    (t.insertAll history).size = t.size + (t.newRecords history).length := by
  rw [(h.insertAll history).size_eq, h.size_eq]
  rcases hunit : type.unit? with _ | unit
  · rw [h.foldl_extend_eq_append hunit hfits, List.length_append]
    rfl
  · rw [h.newRecords_of_unit hunit hfits.length_eq]
    rfl

theorem mem_stored_insertAll_iff (h : t.Represents type config rs) {history : List Record}
    (hfits : t.Fits type history) (r : Record) :
    r ∈ (t.insertAll history).stored ↔ r ∈ t.stored ∨ r ∈ history := by
  have hafter := h.insertAll history
  rcases hunit : type.unit? with _ | unit
  · rw [hafter.stored_of_none hunit, h.foldl_extend_eq_append hunit hfits, List.mem_append,
      newRecords, List.mem_eraseDups, List.mem_filter, h.stored_of_none hunit]
    by_cases hr : r ∈ rs
    · simp [hr]
    · simp [hr]
  · obtain ⟨harity, rfl⟩ := RecordType.unit?_eq_some hunit
    rw [hafter.stored_of_unit hunit, h.stored_of_unit hunit]
    refine ⟨.inl, ?_⟩
    rintro (hold | hnew)
    · exact hold
    · rw [List.mem_singleton]
      exact List.eq_nil_of_length_eq_zero ((hfits.length_eq r hnew).trans harity)

/-- With room for all new records every insertion on the way succeeds. -/
theorem insert_of_fits (h : t.Represents type config rs) {history : List Record}
    (hfits : t.Fits type history) {r : Record} (hr : r ∈ history) (i : Nat) :
    ∃ insertion, ((t.insertAll (history.take i)).insert r).1 = .ok insertion := by
  have hbefore := h.insertAll (history.take i)
  rcases hinsert : ((t.insertAll (history.take i)).insert r).1 with fault | insertion
  · exfalso
    have hfull := hbefore.ge_of_insert_error ⟨fault, hinsert⟩
    rcases hunit : type.unit? with _ | unit
    · have hmem := (h.mem_stored_insertAll_iff hfits r).mpr (.inr hr)
      rw [(h.insertAll history).stored_of_none hunit, ← List.take_append_drop i history,
        List.foldl_append, foldl_extend_of_ge hfull] at hmem
      rw [hbefore.insert_of_mem hunit hmem] at hinsert
      cases hinsert
    · rw [hbefore.insert_of_unit (by rw [hunit, Option.isSome_some])] at hinsert
      cases hinsert
  · exact ⟨insertion, rfl⟩

/-- Every record is given a handle, which leads to it from then on. -/
theorem answer_all_intern (h : t.Represents type config rs) {history : List Record}
    (hfits : t.Fits type history) {i : Nat} {r : Record} (hi : history[i]? = some r) :
    ∃ handle, (Run.all intern t history).answer[i]? = some (.ok handle) ∧
      ∀ j, i < j → (Run.all intern t (history.take j)).state.get? handle = some r := by
  have hr : r ∈ history := List.mem_of_getElem? hi
  have hbefore := h.insertAll (history.take i)
  obtain ⟨insertion, hinsert⟩ := h.insert_of_fits hfits hr i
  refine ⟨insertion.handle, ?_, ?_⟩
  · rw [Run.answer_all_getElem?, hi, Option.map_some, state_all_intern, intern]
    rcases hpair : (t.insertAll (history.take i)).insert r with ⟨answer, after⟩
    rw [hpair] at hinsert
    cases hinsert
    rfl
  · intro j hij
    rw [Run.state_all_take hi hij, state_all_intern, state_all_intern, state_intern]
    exact (hbefore.insert r).get?_insertAll _
      (hbefore.get?_of_insert (hfits.length_eq r hr) hinsert)

theorem get?_of_answer (h : t.Represents type config rs) {history : List Record}
    (hfits : t.Fits type history) {i : Nat} {handle : Handle} {r : Record}
    (hi : history[i]? = some r)
    (hanswer : (Run.all intern t history).answer[i]? = some (.ok handle)) :
    (t.insertAll history).get? handle = some r := by
  obtain ⟨handle', hanswer', hlater⟩ := h.answer_all_intern hfits hi
  rw [hanswer] at hanswer'
  cases hanswer'
  have hget := hlater history.length (List.getElem?_eq_some_iff.mp hi).1
  rwa [List.take_length, state_all_intern] at hget

theorem mem_answer_iff (h : t.Represents type config rs) {history : List Record}
    (hfits : t.Fits type history) (handle : Handle) :
    (.ok handle ∈ (Run.all intern t history).answer ∧ t.get? handle = none) ↔
      t.size + 1 ≤ handle.toInt ∧ handle.toInt ≤ t.size + (t.newRecords history).length := by
  have hafter := h.insertAll history
  have hbefore := h.get?_isSome_iff handle
  have hvalid := hafter.get?_isSome_iff handle
  rw [h.size_insertAll hfits] at hvalid
  constructor
  · rintro ⟨hmem, hnone⟩
    obtain ⟨i, hi⟩ := List.mem_iff_getElem?.mp hmem
    have hanswer := hi
    rw [Run.answer_all_getElem?] at hi
    obtain ⟨r, hr, -⟩ := Option.map_eq_some_iff.mp hi
    rw [h.get?_of_answer hfits hr hanswer] at hvalid
    rw [hnone] at hbefore
    have hin := hvalid.mp rfl
    have hout := mt hbefore.mpr Bool.false_ne_true
    omega
  · rintro ⟨hlow, hhigh⟩
    obtain ⟨r, hget⟩ := Option.isSome_iff_exists.mp (hvalid.mpr ⟨by omega, by omega⟩)
    have hnone : t.get? handle = none := by
      rw [← Option.not_isSome_iff_eq_none, hbefore]
      omega
    refine ⟨?_, hnone⟩
    have hstored := hafter.mem_stored_iff.mpr ⟨handle, hget⟩
    rcases (h.mem_stored_insertAll_iff hfits r).mp hstored with hold | hnew
    · obtain ⟨handle', hget'⟩ := h.mem_stored_iff.mp hold
      rw [hafter.handle_unique (h.get?_insertAll _ hget') hget, hnone] at hget'
      cases hget'
    · obtain ⟨i, hi⟩ := List.mem_iff_getElem?.mp hnew
      obtain ⟨handle', hanswer, -⟩ := h.answer_all_intern hfits hi
      rw [hafter.handle_unique hget (h.get?_of_answer hfits hi hanswer)]
      exact List.mem_of_getElem? hanswer

end Represents

structure ScheduleLaw (t : InternTable) (schedule : List (Nat × Record)) (count : Nat) : Prop where
  answered : ∀ (i thread : Nat) (r : Record), schedule[i]? = some (thread, r) →
    ∃ h, (t.scheduled schedule).answer[i]? = some (.ok h) ∧
      ∀ j, i < j → (t.scheduled (schedule.take j)).state.resolve h = .ok r
  canonical : ∀ (i i' thread thread' : Nat) (r r' : Record) (h h' : Handle),
    schedule[i]? = some (thread, r) → schedule[i']? = some (thread', r') →
    (t.scheduled schedule).answer[i]? = some (.ok h) →
    (t.scheduled schedule).answer[i']? = some (.ok h') → (h = h' ↔ r = r')
  /-- The handles given out that were not valid before are the next ones, without a gap. -/
  issued_iff : ∀ h : Handle, (.ok h ∈ (t.scheduled schedule).answer ∧ t.get? h = none) ↔
    t.size + 1 ≤ h.toInt ∧ h.toInt ≤ t.size + count
  size_eq : (t.scheduled schedule).state.size = t.size + count

theorem getElem?_map_snd {schedule : List (Nat × Record)} {i thread : Nat} {r : Record}
    (hi : schedule[i]? = some (thread, r)) : (schedule.map Prod.snd)[i]? = some r := by
  rw [List.getElem?_map, hi]
  rfl

theorem scheduleLaw {t : InternTable} {type : RecordType} {config : Config} {rs : List Record}
    (h : t.Represents type config rs) {schedule : List (Nat × Record)}
    (hfits : t.Fits type (schedule.map Prod.snd)) :
    t.ScheduleLaw schedule (t.newRecords (schedule.map Prod.snd)).length := by
  constructor
  case answered =>
    intro i thread r hi
    obtain ⟨handle, hanswer, hlater⟩ := h.answer_all_intern hfits (getElem?_map_snd hi)
    refine ⟨handle, hanswer, fun j hij => ?_⟩
    rw [scheduled, List.map_take]
    exact resolve_of_get? (hlater j hij)
  case canonical =>
    intro i i' thread thread' r r' handle handle' hi hi' hanswer hanswer'
    have hget := h.get?_of_answer hfits (getElem?_map_snd hi) hanswer
    have hget' := h.get?_of_answer hfits (getElem?_map_snd hi') hanswer'
    constructor
    · rintro rfl
      rw [hget] at hget'
      exact Option.some.inj hget'
    · rintro rfl
      exact (h.insertAll _).handle_unique hget hget'
  case issued_iff => exact h.mem_answer_iff hfits
  case size_eq => rw [scheduled, state_all_intern, h.size_insertAll hfits]

/-- Tables with the same valid handles and the same records, each of them once, are the same but for
the names of the records. -/
theorem exists_renaming {t u : InternTable}
    (hvalid : ∀ h, t.get? h = none ↔ u.get? h = none)
    (hstored : ∀ r, (∃ h, t.get? h = some r) ↔ ∃ h, u.get? h = some r)
    (ht : ∀ h h' r, t.get? h = some r → t.get? h' = some r → h = h')
    (hu : ∀ h h' r, u.get? h = some r → u.get? h' = some r → h = h') :
    ∃ σ : Equiv.Perm Handle, (∀ h, u.get? (σ h) = t.get? h) ∧
      ∀ h, u.get? h = t.get? h → σ h = h := by
  -- A valid handle goes to the other table's handle of its record, any other handle to itself.
  have hforth : ∀ h, ∃ h', u.get? h' = t.get? h ∧ (t.get? h = none → h' = h) := by
    intro h
    rcases hget : t.get? h with _ | r
    · exact ⟨h, (hvalid h).mp hget, fun _ => rfl⟩
    · obtain ⟨h', hget'⟩ := (hstored r).mp ⟨h, hget⟩
      exact ⟨h', hget', fun hnone => by cases hnone⟩
  have hback : ∀ h, ∃ h', t.get? h' = u.get? h ∧ (u.get? h = none → h' = h) := by
    intro h
    rcases hget : u.get? h with _ | r
    · exact ⟨h, (hvalid h).mpr hget, fun _ => rfl⟩
    · obtain ⟨h', hget'⟩ := (hstored r).mpr ⟨h, hget⟩
      exact ⟨h', hget', fun hnone => by cases hnone⟩
  choose forth hforth hforth_none using hforth
  choose back hback hback_none using hback
  refine ⟨⟨forth, back, ?_, ?_⟩, hforth, ?_⟩
  · intro h
    rcases hget : t.get? h with _ | r
    · rw [hforth_none h hget, hback_none h ((hvalid h).mp hget)]
    · exact ht _ _ r (by rw [hback, hforth, hget]) hget
  · intro h
    rcases hget : u.get? h with _ | r
    · rw [hback_none h hget, hforth_none h ((hvalid h).mpr hget)]
    · exact hu _ _ r (by rw [hforth, hback, hget]) hget
  · intro h heq
    rcases hget : t.get? h with _ | r
    · exact hforth_none h hget
    · exact hu _ _ r ((hforth h).trans hget) (heq.trans hget)

/-- Two runs on a table with `size` records that bring `count` new ones end alike, but for the order
of the new records. -/
structure AlikeButForOrder (size count : Nat)
    (one other : Run InternTable (List (Except Fault Handle))) : Prop where
  size_eq : one.state.size = other.state.size
  blockCount_eq : one.state.records.blockCount = other.state.records.blockCount
  account_eq : ∀ (a : Account) (charges charges' : List Charge), charges.Perm one.charges →
    charges'.Perm other.charges → charges.foldl Account.take a = charges'.foldl Account.take a
  stored_iff : ∀ r, r ∈ one.state.stored ↔ r ∈ other.state.stored
  fixed : one.state.shape = other.state.shape ∧ one.state.unit = other.state.unit ∧
    one.state.blockSize = other.state.blockSize ∧
    one.state.records.capacity = other.state.records.capacity
  /-- One table is the other with the new handles permuted, in the slots and in the index. -/
  renamed : ∃ σ : Equiv.Perm Handle,
    (∀ h : Handle, ¬ (size + 1 ≤ h.toInt ∧ h.toInt ≤ size + count) → σ h = h) ∧
      (∀ h, other.state.get? (σ h) = one.state.get? h) ∧
      ∀ r : Record, other.state.index[r]? = (one.state.index[r]?).map σ

namespace Represents

variable {t : InternTable} {type : RecordType} {config : Config} {rs : List Record}
  {history history' : List Record}

theorem length_foldl_extend_of_perm (h : t.Represents type config rs)
    (hfits : t.Fits type history) (hperm : history.Perm history') :
    (history.foldl (extend (type.capacity config)) rs).length =
      (history'.foldl (extend (type.capacity config)) rs).length := by
  rcases hunit : type.unit? with _ | unit
  · rw [h.foldl_extend_eq_append hunit hfits, h.foldl_extend_eq_append hunit (hfits.of_perm hperm),
      List.length_append, List.length_append, t.length_newRecords_perm hperm]
  · have hsome : type.unit?.isSome := by rw [hunit, Option.isSome_some]
    rw [(h.insertAll history).eq_nil_of_unit hsome, (h.insertAll history').eq_nil_of_unit hsome]

theorem size_insertAll_of_perm (h : t.Represents type config rs) (hfits : t.Fits type history)
    (hperm : history.Perm history') : (t.insertAll history).size = (t.insertAll history').size := by
  rw [h.size_insertAll hfits, h.size_insertAll (hfits.of_perm hperm),
    t.length_newRecords_perm hperm]

theorem mem_stored_insertAll_of_perm (h : t.Represents type config rs)
    (hfits : t.Fits type history) (hperm : history.Perm history') (r : Record) :
    r ∈ (t.insertAll history).stored ↔ r ∈ (t.insertAll history').stored := by
  rw [h.mem_stored_insertAll_iff hfits, h.mem_stored_insertAll_iff (hfits.of_perm hperm),
    hperm.mem_iff]

theorem get?_eq_none_iff_of_perm (h : t.Represents type config rs) (hfits : t.Fits type history)
    (hperm : history.Perm history') (handle : Handle) :
    (t.insertAll history).get? handle = none ↔ (t.insertAll history').get? handle = none := by
  rw [← Option.not_isSome_iff_eq_none, ← Option.not_isSome_iff_eq_none,
    (h.insertAll history).get?_isSome_iff, (h.insertAll history').get?_isSome_iff,
    h.size_insertAll_of_perm hfits hperm]

/-- A handle that is not one of the new ones means the same after both histories. -/
theorem get?_insertAll_of_old (h : t.Represents type config rs) (hfits : t.Fits type history)
    (hperm : history.Perm history') {handle : Handle}
    (hold : ¬ (t.size + 1 ≤ handle.toInt ∧
      handle.toInt ≤ t.size + (t.newRecords history).length)) :
    (t.insertAll history').get? handle = (t.insertAll history).get? handle := by
  rcases hget : t.get? handle with _ | r
  · have hbefore := h.get?_isSome_iff handle
    rw [hget] at hbefore
    have hout := mt hbefore.mpr Bool.false_ne_true
    have hnone : (t.insertAll history).get? handle = none := by
      rw [← Option.not_isSome_iff_eq_none, (h.insertAll history).get?_isSome_iff,
        h.size_insertAll hfits]
      omega
    rw [hnone, (h.get?_eq_none_iff_of_perm hfits hperm handle).mp hnone]
  · rw [h.get?_insertAll _ hget, h.get?_insertAll _ hget]

/-- After both histories the tables are the same but for a permutation of the new handles. -/
theorem exists_renaming_of_perm (h : t.Represents type config rs) (hfits : t.Fits type history)
    (hperm : history.Perm history') :
    ∃ σ : Equiv.Perm Handle,
      (∀ handle : Handle, ¬ (t.size + 1 ≤ handle.toInt ∧
          handle.toInt ≤ t.size + (t.newRecords history).length) → σ handle = handle) ∧
        (∀ handle, (t.insertAll history').get? (σ handle) = (t.insertAll history).get? handle) ∧
        ∀ r : Record, (t.insertAll history').index[r]? = ((t.insertAll history).index[r]?).map σ := by
  have hone := h.insertAll history
  have hother := h.insertAll history'
  obtain ⟨σ, hσ, hfixed⟩ := exists_renaming (h.get?_eq_none_iff_of_perm hfits hperm)
    (fun r => by
      rw [← hone.mem_stored_iff, ← hother.mem_stored_iff,
        h.mem_stored_insertAll_of_perm hfits hperm])
    (fun _ _ _ => hone.handle_unique) (fun _ _ _ => hother.handle_unique)
  refine ⟨σ, fun handle hold => hfixed handle (h.get?_insertAll_of_old hfits hperm hold), hσ, ?_⟩
  intro r
  refine Option.ext fun handle => ?_
  rw [hother.index_eq_some_iff, Option.map_eq_some_iff]
  constructor
  · rintro ⟨hunit, hget⟩
    refine ⟨σ.symm handle, hone.index_eq_some_iff.mpr ⟨hunit, ?_⟩, σ.apply_symm_apply handle⟩
    rw [← hσ, σ.apply_symm_apply, hget]
  · rintro ⟨handle', hindex, rfl⟩
    obtain ⟨hunit, hget⟩ := hone.index_eq_some_iff.mp hindex
    exact ⟨hunit, by rw [hσ, hget]⟩

theorem fits_of_size_le (h : t.Represents type config rs)
    (hlength : ∀ r ∈ history, r.length = type.shape.arity)
    (hroom : t.size + (t.newRecords history).length ≤ config.maxRecords.toNat) :
    t.Fits type history := by
  refine ⟨hlength, ?_⟩
  rcases hunit : type.unit? with _ | unit
  · rw [h.size_eq, hunit] at hroom
    rw [h.holds.size_eq, h.holds.capacity_eq, RecordType.capacity_of_none hunit]
    exact hroom
  · rw [h.newRecords_of_unit hunit hlength, h.holds.size_eq, h.holds.capacity_eq]
    exact h.length_le

end Represents

theorem alikeButForOrder {t : InternTable} {type : RecordType} {config : Config}
    {rs : List Record} (h : t.Represents type config rs)
    {schedule schedule' : List (Nat × Record)}
    (hperm : (schedule.map Prod.snd).Perm (schedule'.map Prod.snd))
    (hfits : t.Fits type (schedule.map Prod.snd)) :
    AlikeButForOrder t.size (t.newRecords (schedule.map Prod.snd)).length
      (t.scheduled schedule) (t.scheduled schedule') := by
  have hone := h.insertAll (schedule.map Prod.snd)
  have hother := h.insertAll (schedule'.map Prod.snd)
  have hheld := h.length_foldl_extend_of_perm hfits hperm
  constructor
  case size_eq =>
    rw [scheduled, scheduled, state_all_intern, state_all_intern,
      h.size_insertAll_of_perm hfits hperm]
  case blockCount_eq =>
    rw [scheduled, scheduled, state_all_intern, state_all_intern, hone.holds.blockCount_eq,
      hother.holds.blockCount_eq, hheld]
  case account_eq =>
    intro a charges charges' hcharges hcharges'
    rw [scheduled, h.charges_all_intern] at hcharges hcharges'
    rw [hheld] at hcharges
    exact Account.foldl_take_perm (hcharges.trans hcharges'.symm) a
  case stored_iff =>
    intro r
    rw [scheduled, scheduled, state_all_intern, state_all_intern,
      h.mem_stored_insertAll_of_perm hfits hperm]
  case fixed =>
    rw [scheduled, scheduled, state_all_intern, state_all_intern, blockSize, blockSize,
      hone.holds.blockSize_eq, hother.holds.blockSize_eq, hone.shape_eq, hother.shape_eq,
      hone.unit_eq, hother.unit_eq, hone.holds.capacity_eq, hother.holds.capacity_eq]
    exact ⟨rfl, rfl, rfl, rfl⟩
  case renamed =>
    rw [scheduled, scheduled, state_all_intern, state_all_intern]
    exact h.exists_renaming_of_perm hfits hperm

end InternTable

/-- Threads that intern into a table find the same whatever their schedule, as long as there is room
for all records that are new: each thread gets the right handles, the new handles are the next ones,
and two schedules end alike but for the order of the new records. -/
theorem concurrent_interning_independent_of_schedule (type : RecordType) (config : Config)
    (haccept : config.accept = .ok ()) :
    ∃ fresh, InternTable.create type config = .ok fresh ∧
      ∀ (steps : List TableStep) (threads : List (List Record)),
        let t := (Run.all TableStep.perform fresh steps).state
        let count := (t.newRecords threads.flatten).length
        (∀ r ∈ threads.flatten, r.length = type.shape.arity) →
        t.size + count ≤ config.maxRecords.toNat →
        (∀ schedule, Interleaving threads schedule → t.ScheduleLaw schedule count) ∧
        ∀ schedule schedule', Interleaving threads schedule → Interleaving threads schedule' →
          InternTable.AlikeButForOrder t.size count (t.scheduled schedule)
            (t.scheduled schedule') := by
  obtain ⟨fresh, hcreate, hfresh⟩ := InternTable.represents_create type haccept
  refine ⟨fresh, hcreate, ?_⟩
  intro steps threads t count hlength hroom
  have ht := TableStep.represents_all hfresh steps
  have hscheduled : ∀ schedule, Interleaving threads schedule →
      (t.newRecords (schedule.map Prod.snd)).length = count ∧
        t.Fits type (schedule.map Prod.snd) := by
    intro schedule hschedule
    exact ⟨t.length_newRecords_perm hschedule.perm,
      (ht.fits_of_size_le hlength hroom).of_perm hschedule.perm.symm⟩
  constructor
  · intro schedule hschedule
    obtain ⟨hcount, hfits⟩ := hscheduled schedule hschedule
    rw [← hcount]
    exact InternTable.scheduleLaw ht hfits
  · intro schedule schedule' hschedule hschedule'
    obtain ⟨hcount, hfits⟩ := hscheduled schedule hschedule
    rw [← hcount]
    exact InternTable.alikeButForOrder ht (hschedule.perm.trans hschedule'.perm.symm) hfits

theorem two_schedules_of_two_threads :
    let type : RecordType := { shape := { id := 0, name := "pair", arity := 2 } }
    let config : Config := { blockSize := 2, maxRecords := 4 }
    let threads : List (List Record) := [[[1, 2], [3, 4]], [[3, 4], [5, 6], [9, 9]]]
    let schedule : List (Nat × Record) :=
      [(0, [1, 2]), (1, [3, 4]), (1, [5, 6]), (0, [3, 4]), (1, [9, 9])]
    let schedule' : List (Nat × Record) :=
      [(1, [3, 4]), (1, [5, 6]), (1, [9, 9]), (0, [1, 2]), (0, [3, 4])]
    config.accept = .ok () ∧ Interleaving threads schedule ∧ Interleaving threads schedule' ∧
      ∃ fresh, InternTable.create type config = .ok fresh ∧
        let t := (Run.all TableStep.perform fresh [.intern [9, 9]]).state
        t.size = 1 ∧ t.ScheduleLaw schedule 3 ∧
          InternTable.AlikeButForOrder 1 3 (t.scheduled schedule) (t.scheduled schedule') := by
  intro type config threads schedule schedule'
  have haccept : config.accept = .ok () := Config.accept_eq_ok_iff.mpr (by decide)
  have hschedule : Interleaving threads schedule :=
    .turn rfl (.turn rfl (.turn rfl (.turn rfl (.turn rfl (.done (by decide))))))
  have hschedule' : Interleaving threads schedule' :=
    .turn rfl (.turn rfl (.turn rfl (.turn rfl (.turn rfl (.done (by decide))))))
  obtain ⟨fresh, hcreate, hall⟩ := concurrent_interning_independent_of_schedule type config haccept
  obtain ⟨fresh', hcreate', hfresh⟩ := InternTable.represents_create type haccept
  rw [hcreate] at hcreate'
  cases hcreate'
  have ht := TableStep.represents_all hfresh [.intern [9, 9]]
  have hsize : (Run.all TableStep.perform fresh [.intern [9, 9]]).state.size = 1 := by
    rw [ht.size_eq]
    decide
  have hcount : ((Run.all TableStep.perform fresh [.intern [9, 9]]).state.newRecords
      threads.flatten).length = 3 := by
    rw [InternTable.newRecords, ht.stored_of_none rfl]
    decide
  obtain ⟨hlaw, halike⟩ := hall [.intern [9, 9]] threads (by decide) (by rw [hsize, hcount]; decide)
  rw [hcount] at hlaw halike
  rw [hsize] at halike
  exact ⟨haccept, hschedule, hschedule', fresh, hcreate, hsize, hlaw schedule hschedule,
    halike schedule schedule' hschedule hschedule'⟩

end Interner
