import Interner.Proofs.IdleInsertions
import Mathlib.Order.Monotone.Basic

/-!
Threads that intern the same records in the same order. Whoever comes first to a record decides what
all others find there, and that is what a thread alone would find. So all of them get the handles of
one thread alone, and leave the table that it leaves.
-/

namespace Interner

open Session

namespace InternTable.Represents

variable {t : InternTable} {type : RecordType} {config : Config} {rs : List Record}

/-- Whatever comes after a record, to intern it again finds the same and leaves no trace. -/
theorem intern_again (h : t.Represents type config rs) (r : Record) (history : List Record) :
    ((t.intern r).state.insertAll history).intern r =
      { answer := (t.intern r).answer, state := (t.intern r).state.insertAll history } := by
  have hafter := h.insert r
  have hlater := hafter.insertAll history
  rw [← state_intern] at hafter hlater
  have hanswer : (((t.intern r).state.insertAll history).intern r).answer = (t.intern r).answer ∧
      (((t.intern r).state.insertAll history).intern r).LeavesNoTrace
        ((t.intern r).state.insertAll history) := by
    rcases hunit : type.unit? with _ | unit
    · rcases hinsert : (t.insert r).1 with fault | insertion
      · have hstop := h.insertAll_of_insert_error ⟨fault, hinsert⟩ history
        have hidle := h.leavesNoTrace_intern_of_error hinsert
        rw [← state_intern, hidle.state_eq] at hstop
        rw [hidle.state_eq, hstop]
        exact ⟨rfl, hidle⟩
      · have hget := h.get?_of_insert_of_none hunit hinsert
        rw [← state_intern] at hget
        have hfound := hafter.get?_insertAll history hget
        refine ⟨?_, hlater.leavesNoTrace_intern_of_get? hfound⟩
        rw [answer_intern, answer_intern, hlater.insert_of_get? hfound, hinsert]
        rfl
    · have hsome : type.unit?.isSome := by rw [hunit, Option.isSome_some]
      refine ⟨?_, hlater.leavesNoTrace_intern_of_unit hsome r⟩
      rw [answer_intern, answer_intern, hlater.insert_of_unit hsome, h.insert_of_unit hsome]
  rw [hanswer.2, hanswer.1]

end InternTable.Represents

/-- A thread that interns records in order and gives up at the first fault: what it has left to do,
and what it has found. -/
structure Worker where
  left : List Record
  found : InternTable.Interned
deriving DecidableEq

namespace Worker

/-- A thread on a table takes its turn: it interns one record, if it has any left. -/
def turn : InternTable × Worker → InternTable × Worker
  | (t, ⟨[], found⟩) => (t, ⟨[], found⟩)
  | (t, ⟨r :: left, found⟩) =>
    ((t.intern r).state,
      match (t.intern r).answer with
      | .ok h => ⟨left, { found with handles := found.handles ++ [h] }⟩
      | .error fault => ⟨[], { found with stopped := some fault }⟩)

theorem turn_of_done {p : InternTable × Worker} (h : p.2.left = []) : turn p = p := by
  obtain ⟨t, left, found⟩ := p
  subst h
  rfl

theorem iterate_turn_of_done {p : InternTable × Worker} (h : p.2.left = []) (n : Nat) :
    turn^[n] p = p :=
  Function.iterate_fixed (turn_of_done h) n

theorem exists_insertAll_turn (p : InternTable × Worker) :
    ∃ history, (turn p).1 = p.1.insertAll history := by
  obtain ⟨t, left, found⟩ := p
  cases left with
  | nil => exact ⟨[], rfl⟩
  | cons r left => exact ⟨[r], t.state_intern r⟩

theorem exists_insertAll_iterate (p : InternTable × Worker) (n : Nat) :
    ∃ history, (turn^[n] p).1 = p.1.insertAll history := by
  induction n with
  | zero => exact ⟨[], rfl⟩
  | succ n ih =>
      obtain ⟨history, hhistory⟩ := ih
      obtain ⟨more, hmore⟩ := exists_insertAll_turn (turn^[n] p)
      refine ⟨history ++ more, ?_⟩
      rw [Function.iterate_succ_apply', hmore, hhistory, InternTable.insertAll_append]

theorem length_left_turn (p : InternTable × Worker) :
    (turn p).2.left.length ≤ p.2.left.length - 1 := by
  obtain ⟨t, left, found⟩ := p
  cases left with
  | nil => exact le_rfl
  | cons r left =>
      rw [turn]
      cases (t.intern r).answer with
      | ok h => exact le_rfl
      | error fault => exact Nat.zero_le _

theorem iterate_turn_eq {t : InternTable} {records : List Record} {handles : List Handle}
    {n : Nat} (hdone : (turn^[n] (t, ⟨records, ⟨handles, none⟩⟩)).2.left = []) :
    turn^[n] (t, ⟨records, ⟨handles, none⟩⟩) = ((t.internAll records).state,
      ⟨[], ⟨handles ++ (t.internAll records).answer.handles,
        (t.internAll records).answer.stopped⟩⟩) := by
  induction records generalizing t handles n with
  | nil =>
      rw [iterate_turn_of_done rfl]
      simp [InternTable.internAll]
  | cons r records ih =>
      cases n with
      | zero => cases hdone
      | succ n =>
          rw [Function.iterate_succ_apply, turn] at hdone ⊢
          rw [InternTable.internAll]
          rcases hanswer : (t.intern r).answer with fault | h
          · simp only [hanswer] at hdone ⊢
            rw [iterate_turn_of_done rfl]
            simp [Run.andThen, hanswer]
          · simp only [hanswer] at hdone ⊢
            rw [ih hdone]
            simp [Run.andThen, Run.map, hanswer]

section Behind

variable {t : InternTable} {type : RecordType} {config : Config} {rs : List Record}

/-- A thread finds at a record what it would have found there at any earlier time. -/
theorem turn_later (h : t.Represents type config rs) (w : Worker) (history : List Record) :
    turn ((turn (t, w)).1.insertAll history, w) =
      ((turn (t, w)).1.insertAll history, (turn (t, w)).2) := by
  obtain ⟨left, found⟩ := w
  cases left with
  | nil => rfl
  | cons r left => simp only [turn, h.intern_again r history]

/-- A thread takes its turn on the table of one that does the same and is ahead. -/
theorem turn_behind (h : t.Represents type config rs) (w : Worker) {n lead : Nat}
    (hbehind : n < lead) :
    turn ((turn^[lead] (t, w)).1, (turn^[n] (t, w)).2) =
      ((turn^[lead] (t, w)).1, (turn^[n + 1] (t, w)).2) := by
  obtain ⟨more, rfl⟩ := Nat.exists_eq_add_of_lt hbehind
  obtain ⟨before, hbefore⟩ := exists_insertAll_iterate (t, w) n
  obtain ⟨history, hahead⟩ := exists_insertAll_iterate (turn^[n + 1] (t, w)) more
  have hnow := h.insertAll before
  rw [← Function.iterate_add_apply, Nat.add_comm, Nat.add_right_comm] at hahead
  rw [hahead, Function.iterate_succ_apply']
  rw [← hbefore] at hnow
  exact turn_later hnow _ history

end Behind

end Worker

structure Crew where
  table : InternTable
  workers : List Worker

namespace Crew

/-- So many threads that have not begun, all with the same records. -/
def ready (t : InternTable) (records : List Record) (count : Nat) : Crew :=
  ⟨t, List.replicate count ⟨records, ⟨[], none⟩⟩⟩

def turn (c : Crew) (i : Nat) : Crew :=
  match c.workers[i]? with
  | none => c
  | some w =>
    let (table, w) := Worker.turn (c.table, w)
    ⟨table, c.workers.set i w⟩

theorem turn_of_none {c : Crew} {i : Nat} (h : c.workers[i]? = none) : c.turn i = c := by
  rw [turn, h]

theorem turn_of_getElem? {c : Crew} {i : Nat} {w : Worker} (h : c.workers[i]? = some w) :
    c.turn i =
      ⟨(Worker.turn (c.table, w)).1, c.workers.set i (Worker.turn (c.table, w)).2⟩ := by
  rw [turn, h]

/-- The threads take their turns in the order of a schedule. -/
def run (c : Crew) (schedule : List Nat) : Crew := schedule.foldl turn c

def IsDone (c : Crew) : Prop := ∀ w ∈ c.workers, w.left = []

/-- The table is that of a thread alone after `lead` turns, and every thread is like it was after as
many turns or fewer. -/
structure Follows (c : Crew) (alone : InternTable × Worker) (lead : Nat) : Prop where
  table_eq : c.table = (Worker.turn^[lead] alone).1
  behind : ∀ w ∈ c.workers, ∃ n ≤ lead, w = (Worker.turn^[n] alone).2

section Follows

variable {c : Crew} {t : InternTable} {w : Worker} {type : RecordType} {config : Config}
  {rs : List Record} {lead : Nat}

theorem Follows.set (h : c.Follows (t, w) lead) {i n : Nat} {table : InternTable} {lead' : Nat}
    (hlead : lead ≤ lead') (htable : table = (Worker.turn^[lead'] (t, w)).1) (hn : n ≤ lead') :
    Follows ⟨table, c.workers.set i (Worker.turn^[n] (t, w)).2⟩ (t, w) lead' := by
  refine ⟨htable, ?_⟩
  intro worker hworker
  rcases List.mem_or_eq_of_mem_set hworker with hold | rfl
  · obtain ⟨m, hm, rfl⟩ := h.behind worker hold
    exact ⟨m, hm.trans hlead, rfl⟩
  · exact ⟨n, hn, rfl⟩

theorem Follows.turn (ht : t.Represents type config rs) (h : c.Follows (t, w) lead) (i : Nat) :
    ∃ lead', (c.turn i).Follows (t, w) lead' := by
  rcases hworker : c.workers[i]? with _ | worker
  · exact ⟨lead, by rwa [turn_of_none hworker]⟩
  · obtain ⟨n, hn, rfl⟩ := h.behind worker (List.mem_of_getElem? hworker)
    rw [turn_of_getElem? hworker, h.table_eq]
    rcases Nat.lt_or_eq_of_le hn with hbehind | rfl
    · rw [Worker.turn_behind ht w hbehind]
      exact ⟨lead, h.set le_rfl rfl hbehind⟩
    · rw [Prod.mk.eta, ← Function.iterate_succ_apply' Worker.turn n (t, w)]
      exact ⟨n + 1, h.set (Nat.le_succ n) rfl le_rfl⟩

theorem Follows.run (ht : t.Represents type config rs) (h : c.Follows (t, w) lead)
    (schedule : List Nat) : ∃ lead', (c.run schedule).Follows (t, w) lead' := by
  induction schedule generalizing c lead with
  | nil => exact ⟨lead, h⟩
  | cons i schedule ih =>
      obtain ⟨lead', hturn⟩ := h.turn ht i
      exact ih hturn

/-- A thread at its end was there when it took its last turn, and whoever is ahead of it no longer
moves. -/
theorem Follows.eq_of_done (h : c.Follows (t, w) lead) {worker : Worker}
    (hworker : worker ∈ c.workers) (hdone : worker.left = []) :
    Worker.turn^[lead] (t, w) = (c.table, worker) := by
  obtain ⟨n, hn, rfl⟩ := h.behind worker hworker
  obtain ⟨more, rfl⟩ := Nat.exists_eq_add_of_le hn
  rw [h.table_eq, Nat.add_comm, Function.iterate_add_apply, Worker.iterate_turn_of_done hdone]

end Follows

theorem follows_ready (t : InternTable) (records : List Record) (count : Nat) :
    (ready t records count).Follows (t, ⟨records, ⟨[], none⟩⟩) 0 := by
  refine ⟨rfl, ?_⟩
  intro w hw
  exact ⟨0, le_rfl, List.eq_of_mem_replicate hw⟩

theorem length_workers_run (c : Crew) (schedule : List Nat) :
    (c.run schedule).workers.length = c.workers.length := by
  induction schedule generalizing c with
  | nil => rfl
  | cons i schedule ih =>
      refine (ih (c.turn i)).trans ?_
      rcases hworker : c.workers[i]? with _ | w
      · rw [turn_of_none hworker]
      · rw [turn_of_getElem? hworker, List.length_set]

theorem length_left_crew_turn {c : Crew} {i j : Nat} {w : Worker}
    (h : (c.turn i).workers[j]? = some w) : ∃ before, c.workers[j]? = some before ∧
      w.left.length ≤ before.left.length - if i = j then 1 else 0 := by
  rcases hworker : c.workers[i]? with _ | worker
  · rw [turn_of_none hworker] at h
    have hne : i ≠ j := by
      rintro rfl
      rw [hworker] at h
      cases h
    exact ⟨w, h, by simp [hne]⟩
  · simp only [turn_of_getElem? hworker, List.getElem?_set] at h
    by_cases hij : i = j
    · subst hij
      obtain ⟨hlt, -⟩ := List.getElem?_eq_some_iff.mp hworker
      simp only [if_true, hlt, Option.some.injEq] at h
      refine ⟨worker, hworker, ?_⟩
      rw [← h, if_pos rfl]
      exact Worker.length_left_turn (c.table, worker)
    · rw [if_neg hij] at h
      exact ⟨w, h, by simp [hij]⟩

theorem length_left_run {c : Crew} {schedule : List Nat} {j : Nat} {w : Worker}
    (h : (c.run schedule).workers[j]? = some w) : ∃ before, c.workers[j]? = some before ∧
      w.left.length ≤ before.left.length - schedule.count j := by
  induction schedule generalizing c with
  | nil => exact ⟨w, h, le_rfl⟩
  | cons i schedule ih =>
      obtain ⟨between, hbetween, hle⟩ := ih h
      obtain ⟨before, hbefore, hturn⟩ := length_left_crew_turn hbetween
      refine ⟨before, hbefore, ?_⟩
      rw [List.count_cons]
      simp only [beq_iff_eq]
      omega

/-- A schedule that gives every thread as many turns as it has records brings all to their end. -/
theorem isDone_of_count {t : InternTable} {records : List Record} {count : Nat}
    {schedule : List Nat} (h : ∀ i < count, records.length ≤ schedule.count i) :
    ((ready t records count).run schedule).IsDone := by
  intro w hw
  obtain ⟨j, hj⟩ := List.mem_iff_getElem?.mp hw
  obtain ⟨before, hbefore, hle⟩ := length_left_run hj
  rw [ready, List.getElem?_replicate] at hbefore
  split at hbefore
  · rename_i hlt
    cases hbefore
    have hturns := h j hlt
    have hleft : w.left.length ≤ records.length - schedule.count j := hle
    apply List.eq_nil_of_length_eq_zero
    omega
  · cases hbefore

theorem eq_of_done {t : InternTable} {type : RecordType} {config : Config} {rs : List Record}
    (ht : t.Represents type config rs) (records : List Record) (count : Nat) (schedule : List Nat)
    (hdone : ((ready t records count).run schedule).IsDone) {w : Worker}
    (hw : w ∈ ((ready t records count).run schedule).workers) :
    w.found = (t.internAll records).answer ∧
      ((ready t records count).run schedule).table = (t.internAll records).state := by
  obtain ⟨lead, hfollows⟩ := (follows_ready t records count).run ht schedule
  have hend := hfollows.eq_of_done hw (hdone w hw)
  have halone := Worker.iterate_turn_eq (congrArg (fun p => p.2.left) hend |>.trans (hdone w hw))
  rw [hend, Prod.mk.injEq] at halone
  obtain ⟨htable, rfl⟩ := halone
  exact ⟨rfl, htable⟩

end Crew

/-- Threads that intern the same records in the same order all find what one thread alone finds, and
leave the table that it leaves, whatever the schedule that brings them to their end. -/
theorem threads_with_same_records_agree (type : RecordType) (config : Config)
    (haccept : config.accept = .ok ()) :
    ∃ fresh, InternTable.create type config = .ok fresh ∧
      ∀ (steps : List TableStep) (records : List Record) (count : Nat) (schedule : List Nat),
        let t := (Run.all TableStep.perform fresh steps).state
        let crew := (Crew.ready t records count).run schedule
        0 < count → crew.IsDone →
        crew.workers = List.replicate count ⟨[], (t.internAll records).answer⟩ ∧
          crew.table = (t.internAll records).state := by
  obtain ⟨fresh, hcreate, hfresh⟩ := InternTable.represents_create type haccept
  refine ⟨fresh, hcreate, ?_⟩
  intro steps records count schedule t crew hcount hdone
  have ht : t.Represents type config _ := TableStep.represents_all hfresh steps
  have hlength : crew.workers.length = count := by
    rw [Crew.length_workers_run, Crew.ready, List.length_replicate]
  constructor
  · rw [List.eq_replicate_iff]
    refine ⟨hlength, ?_⟩
    rintro ⟨left, found⟩ hw
    have hleft : left = [] := hdone _ hw
    have hfound : found = (t.internAll records).answer :=
      (Crew.eq_of_done ht records count schedule hdone hw).1
    rw [hleft, hfound]
  · obtain ⟨w, hw⟩ := List.exists_mem_of_length_pos (hlength.symm ▸ hcount)
    exact (Crew.eq_of_done ht records count schedule hdone hw).2

theorem two_threads_with_same_pairs :
    let type : RecordType := { shape := { id := 0, name := "pair", arity := 2 } }
    let config : Config := { blockSize := 2, maxRecords := 3 }
    let records : List Record := [[1, 2], [9, 9], [3, 4], [5, 6], [1, 2]]
    let schedule : List Nat := [0, 1, 1, 1, 0, 1, 0, 0, 1, 0]
    config.accept = .ok () ∧ ∃ fresh, InternTable.create type config = .ok fresh ∧
      let t := (Run.all TableStep.perform fresh [.intern [9, 9]]).state
      let crew := (Crew.ready t records 2).run schedule
      -- Both meet the full table at their fourth record.
      crew.IsDone ∧ crew.workers = List.replicate 2
          ⟨[], { handles := [2, 1, 3], stopped := some (.fatal (.exhausted "pair" 3)) }⟩ ∧
        crew.table.size = 3 := by
  intro type config records schedule
  have haccept : config.accept = .ok () := Config.accept_eq_ok_iff.mpr (by decide)
  obtain ⟨fresh, hcreate, hall⟩ := threads_with_same_records_agree type config haccept
  have hdone : ((Crew.ready (Run.all TableStep.perform fresh [.intern [9, 9]]).state records
      2).run schedule).IsDone := Crew.isDone_of_count (by decide)
  obtain ⟨hworkers, htable⟩ := hall [.intern [9, 9]] records 2 schedule (by decide) hdone
  have halone : (InternTable.create type config).map (fun fresh =>
      let alone := (Run.all TableStep.perform fresh [.intern [9, 9]]).state.internAll records
      (alone.answer, alone.state.size)) =
      .ok ({ handles := [2, 1, 3], stopped := some (.fatal (.exhausted "pair" 3)) }, 3) := by
    cbv
  rw [hcreate] at halone
  simp only [Except.map, Except.ok.injEq, Prod.mk.injEq] at halone
  obtain ⟨hanswer, hsize⟩ := halone
  refine ⟨haccept, fresh, hcreate, hdone, ?_, ?_⟩
  · rw [hworkers, hanswer]
  · rw [htable, hsize]

end Interner
