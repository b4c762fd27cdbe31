import Interner.Proofs.TableSteps

/-!
What a table reports. It reports the blocks that it allocates, one after the other and each when it is
allocated, so at any time the events tell how many blocks there are. A block is reported by the
interning that gives out the first handle in it, and by nothing else.
-/

namespace Interner

open Session

/-- The events that report the first `n` blocks of a table of a shape. -/
def Event.allBlocks (s : Shape) (blockSize n : Nat) : List Event :=
  (List.range n).map fun block => .blockAllocated s block blockSize

namespace InternTable

/-- Interning a record gives out a handle that was not valid before. -/
def Issues (t : InternTable) (r : Record) (h : Handle) : Prop :=
  (t.intern r).answer = .ok h ∧ t.get? h = none

namespace Represents

variable {t : InternTable} {type : RecordType} {config : Config} {rs : List Record}

theorem blockCount_eq (h : t.Represents type config rs) :
    t.records.blockCount = blocksFor rs.length config.blockSize.toNat :=
  h.holds.blockCount_eq

theorem intern_of_unit (h : t.Represents type config rs) (hunit : type.unit?.isSome) (r : Record) :
    t.intern r = { answer := .ok Handle.unit, state := t } := by
  rw [intern, h.insert_of_unit hunit]
  rfl

theorem intern_of_mem (h : t.Represents type config rs) (hunit : type.unit? = none) {r : Record}
    (hr : r ∈ rs) :
    t.intern r = { answer := .ok (Handle.ofIndex (rs.idxOf r)), state := t } := by
  rw [intern, h.insert_of_mem hunit hr]
  rfl

theorem intern_of_full (h : t.Represents type config rs) (hunit : type.unit? = none) {r : Record}
    (hr : r ∉ rs) (hfull : type.capacity config ≤ rs.length) : ∃ fault,
    t.intern r = { answer := .error fault, state := t } := by
  rw [intern, h.insert_of_full hunit hr hfull]
  exact ⟨_, rfl⟩

theorem intern_of_room (h : t.Represents type config rs) (hunit : type.unit? = none) {r : Record}
    (hr : r ∉ rs) (hroom : rs.length < type.capacity config) :
    (t.intern r).answer = .ok (Handle.ofIndex rs.length) ∧
      (t.intern r).state.Represents type config (rs ++ [r]) ∧
      (t.intern r).reported = if rs.length % config.blockSize.toNat = 0 then
        [.blockAllocated type.shape (rs.length / config.blockSize.toNat) config.blockSize.toNat]
      else [] := by
  obtain ⟨after, hinsert, hafter⟩ := h.insertNew_of_lt hr hroom
  have hblockSize : after.blockSize = config.blockSize.toNat := hafter.holds.blockSize_eq
  rw [intern, h.insert_of_notMem hunit hr, hinsert]
  refine ⟨rfl, hafter, ?_⟩
  by_cases hstart : rs.length % config.blockSize.toNat = 0
  · simp only [if_pos hstart, Run.reported, events, hafter.shape_eq, hblockSize, List.append_nil]
  · simp only [if_neg hstart, Run.reported, events, List.append_nil]

theorem div_eq_blockCount (h : t.Represents type config rs)
    (hstart : rs.length % config.blockSize.toNat = 0) :
    rs.length / config.blockSize.toNat = t.records.blockCount := by
  have hpos := h.holds.blockSize_pos
  obtain ⟨n, hn⟩ := Nat.dvd_of_mod_eq_zero hstart
  rw [h.blockCount_eq, hn, Nat.mul_div_cancel_left n hpos]
  refine eq_of_forall_lt_iff fun block => ?_
  rw [lt_blocksFor_iff hpos, Nat.mul_comm, Nat.mul_lt_mul_left hpos]

/-- The blocks reported so far and those that one more record has reported are all blocks then. -/
theorem allBlocks_intern (h : t.Represents type config rs) (r : Record) :
    Event.allBlocks type.shape config.blockSize.toNat t.records.blockCount ++
        (t.intern r).reported =
      Event.allBlocks type.shape config.blockSize.toNat (t.intern r).state.records.blockCount := by
  rcases hunit : type.unit? with _ | unit
  · by_cases hr : r ∈ rs
    · rw [h.intern_of_mem hunit hr]
      exact List.append_nil _
    · rcases Nat.lt_or_ge rs.length (type.capacity config) with hroom | hfull
      · obtain ⟨-, hafter, hreported⟩ := h.intern_of_room hunit hr hroom
        rw [hreported, hafter.blockCount_eq, List.length_append, List.length_singleton,
          blocksFor_succ h.holds.blockSize_pos, ← h.blockCount_eq]
        by_cases hstart : rs.length % config.blockSize.toNat = 0
        · rw [if_pos hstart, if_pos hstart, h.div_eq_blockCount hstart, Event.allBlocks,
            Event.allBlocks, List.range_succ, List.map_append, List.map_singleton]
        · rw [if_neg hstart, if_neg hstart, List.append_nil, Nat.add_zero]
      · obtain ⟨fault, hintern⟩ := h.intern_of_full hunit hr hfull
        rw [hintern]
        exact List.append_nil _
  · rw [h.intern_of_unit (by rw [hunit, Option.isSome_some])]
    exact List.append_nil _

/-- The blocks reported are those that the table has, whatever it is to intern. -/
theorem allBlocks_reports (h : t.Represents type config rs) (history : List Record) :
    Event.allBlocks type.shape config.blockSize.toNat t.records.blockCount ++
        (Run.reports intern t history).flatten =
      Event.allBlocks type.shape config.blockSize.toNat
        (t.insertAll history).records.blockCount := by
  induction history generalizing t rs with
  | nil => exact List.append_nil _
  | cons r history ih =>
      have hafter := h.insert r
      rw [← state_intern] at hafter
      rw [Run.reports, List.flatten_cons, ← List.append_assoc, h.allBlocks_intern, ih hafter,
        state_intern, insertAll_cons]

theorem reports_of_ge (h : t.Represents type config rs)
    (hfull : type.capacity config ≤ rs.length) (history : List Record) :
    (Run.reports intern t history).flatten = [] := by
  have hblocks := h.allBlocks_reports history
  rw [h.insertAll_of_ge hfull] at hblocks
  exact List.append_right_eq_self.mp hblocks

theorem reports_of_insert_error (h : t.Represents type config rs) {r : Record}
    (herror : ∃ fault, (t.insert r).1 = .error fault) (history : List Record) :
    (Run.reports intern t (r :: history)).flatten = [] :=
  h.reports_of_ge (h.ge_of_insert_error herror) _

/-- To stop at the first fault makes no difference: a table that is full reports nothing. -/
theorem reported_internAll (h : t.Represents type config rs) (history : List Record) :
    (t.internAll history).reported = (Run.reports intern t history).flatten ∧
      (t.internAll history).background = [] := by
  induction history generalizing t rs with
  | nil => exact ⟨rfl, rfl⟩
  | cons r history ih =>
      have hafter := h.insert r
      have hstop := h.reports_of_insert_error (r := r)
      rcases hinsert : t.insert r with ⟨fault | insertion, after⟩
      -- What is left is not interned, but a full table would not report it either.
      · rw [hinsert] at hstop
        rw [hstop ⟨fault, rfl⟩, internAll, intern, hinsert]
        exact ⟨rfl, rfl⟩
      · rw [hinsert] at hafter
        obtain ⟨hreported, hbackground⟩ := ih hafter
        rw [Run.reported, hbackground, List.append_nil] at hreported
        simp only [internAll, Run.reports, intern, hinsert, Run.andThen, Run.map, Run.reported,
          hbackground, hreported, List.append_nil, List.flatten_cons, and_self]

theorem reported_internThreads (h : t.Represents type config rs) (lists : List (List Record)) :
    (t.internThreads lists).reported = (Run.reports intern t lists.flatten).flatten ∧
      (t.internThreads lists).background = [] := by
  induction lists generalizing t rs with
  | nil => exact ⟨rfl, rfl⟩
  | cons records lists ih =>
      have hafter := h.insertAll records
      have hstate := h.state_internAll records
      obtain ⟨hfirst, hnone⟩ := h.reported_internAll records
      obtain ⟨hrest, hbackground⟩ := ih hafter
      rw [Run.reported, hnone, List.append_nil] at hfirst
      rw [Run.reported, hbackground, List.append_nil, ← hstate] at hrest
      rw [← hstate] at hbackground
      rw [List.flatten_cons, Run.reports_append, List.flatten_append, ← hfirst, state_all_intern,
        ← hstate, ← hrest]
      simp only [internThreads, Run.andThen, Run.map, Run.reported, hnone, hbackground,
        List.append_nil, and_self]

theorem reported_internFrom (h : t.Represents type config rs) (p : Progression) (tally : Tally)
    (i : Int) (count : Nat) :
    (internFrom p tally i count t).reported = tally.events.reverse ++
      (Run.reports intern t (p.recordsFrom i count)).flatten := by
  induction count generalizing t rs tally i with
  | zero => rfl
  | succ count ih =>
      have hafter := h.insert (p.fields i)
      have hstop := h.reports_of_insert_error (r := p.fields i)
      rw [Progression.recordsFrom, internFrom]
      rcases hinsert : t.insert (p.fields i) with ⟨fault | insertion, after⟩
      · rw [hinsert] at hstop
        rw [hstop ⟨fault, rfl⟩]
        rfl
      · rw [hinsert] at hafter
        refine (ih hafter _ _).trans ?_
        rw [Tally.add, List.reverse_append, List.reverse_reverse, List.append_assoc]
        simp only [Run.reports, intern, hinsert, Run.reported, List.append_nil, List.flatten_cons]

/-- A block is reported by the interning that gives out its first handle. -/
theorem mem_reported_intern_iff (h : t.Represents type config rs) (r : Record) (block : Nat) :
    .blockAllocated type.shape block config.blockSize.toNat ∈ (t.intern r).reported ↔
      ∃ handle, t.Issues r handle ∧ handle.toInt = block * config.blockSize.toNat + 1 := by
  -- Whoever finds a handle issues none, and whoever stops issues none.
  have hnothing : ∀ answer, t.intern r = { answer, state := t } →
      (∀ handle, answer = .ok handle → (t.get? handle).isSome) →
      (.blockAllocated type.shape block config.blockSize.toNat ∈ (t.intern r).reported ↔
        ∃ handle, t.Issues r handle ∧ handle.toInt = block * config.blockSize.toNat + 1) := by
    intro answer hintern hvalid
    constructor
    · intro hmem
      rw [hintern] at hmem
      cases hmem
    · rintro ⟨handle, ⟨hanswer, hget⟩, -⟩
      rw [hintern] at hanswer
      have hsome := hvalid handle hanswer
      rw [hget] at hsome
      cases hsome
  rcases hunit : type.unit? with _ | unit
  · by_cases hr : r ∈ rs
    · refine hnothing _ (h.intern_of_mem hunit hr) ?_
      rintro _ ⟨⟩
      rw [h.get?_idxOf hr, Option.isSome_some]
    · rcases Nat.lt_or_ge rs.length (type.capacity config) with hroom | hfull
      · obtain ⟨hanswer, hafter, hreported⟩ := h.intern_of_room hunit hr hroom
        have hrange : rs.length < handleRange := Nat.lt_of_lt_of_le hroom h.capacity_le
        have hnew : t.get? (Handle.ofIndex rs.length) = none := by
          rw [h.get?_eq hunit, Handle.index?_ofIndex hrange, Option.bind_some,
            List.getElem?_eq_none (Nat.le_refl _)]
        have hpos := h.holds.blockSize_pos
        rw [hreported]
        constructor
        · intro hmem
          split at hmem
          · rename_i hstart
            injection List.mem_singleton.mp hmem with _ hblock
            have hlength : rs.length = block * config.blockSize.toNat := by
              rw [hblock, Nat.div_mul_cancel (Nat.dvd_of_mod_eq_zero hstart)]
            refine ⟨_, ⟨hanswer, hnew⟩, ?_⟩
            rw [Handle.toInt_ofIndex hrange, hlength, Int.natCast_mul]
          · cases hmem
        · rintro ⟨handle, ⟨hissued, -⟩, hint⟩
          rw [hanswer] at hissued
          rw [← Except.ok.inj hissued, Handle.toInt_ofIndex hrange] at hint
          have hlength : rs.length = block * config.blockSize.toNat := by
            exact_mod_cast add_right_cancel hint
          rw [hlength, if_pos (Nat.mul_mod_left _ _), Nat.mul_div_cancel _ hpos]
          exact List.mem_singleton_self _
      · obtain ⟨fault, hintern⟩ := h.intern_of_full hunit hr hfull
        refine hnothing _ hintern ?_
        rintro _ ⟨⟩
  · refine hnothing _ (h.intern_of_unit (by rw [hunit, Option.isSome_some]) r) ?_
    rintro _ ⟨⟩
    rw [get?, h.unit_eq, hunit]
    rfl

theorem reported_intern_of_get? (h : t.Represents type config rs) {r : Record} {handle : Handle}
    (hget : t.get? handle = some r) : (t.intern r).reported = [] := by
  rw [intern, h.insert_of_get? hget]
  rfl

theorem reported_intern_of_error {t : InternTable} {r : Record} {fault : Fault}
    (herror : (t.intern r).answer = .error fault) : (t.intern r).reported = [] := by
  rcases hinsert : t.insert r with ⟨cause | insertion, after⟩
  · rw [intern, hinsert]
    rfl
  · rw [intern, hinsert] at herror
    cases herror

end Represents

end InternTable

namespace Session.TableStep

variable {t : InternTable} {type : RecordType} {config : Config} {rs : List Record}

theorem reported_perform (h : t.Represents type config rs) (step : TableStep) :
    (step.perform t).reported =
      (Run.reports InternTable.intern t (step.interned type.shape)).flatten := by
  rw [← h.shape_eq]
  cases step.work_perform t with
  | nothing hinterned hstate hcharges hreported => rw [hinterned, hreported]; rfl
  | record r hinterned hstate hcharges hreported =>
      rw [hinterned, hreported, Run.reports, Run.reports, List.flatten_singleton]
  | progression p hinterned hstate hcharges hreported =>
      rw [hinterned, hreported, h.reported_internFrom]
      rfl
  | threads lists hinterned hstate hcharges hreported =>
      rw [hinterned, hreported, (h.reported_internThreads lists).1]

theorem reports_eq (h : t.Represents type config rs) (steps : List TableStep) :
    (Run.reports perform t steps).flatten =
      (Run.reports InternTable.intern t (history type.shape steps)).flatten := by
  induction steps generalizing t rs with
  | nil => rfl
  | cons step steps ih =>
      have hafter := h.insertAll (step.interned type.shape)
      have hstate := state_perform h step
      rw [h.shape_eq] at hstate
      rw [history_cons, Run.reports_append, List.flatten_append, InternTable.state_all_intern,
        Run.reports, List.flatten_cons, reported_perform h, hstate, ih hafter]

/-- The blocks that a table has are those that it has reported. -/
theorem reports_eq_allBlocks (h : t.Represents type config []) (steps : List TableStep) :
    (Run.reports perform t steps).flatten =
      Event.allBlocks type.shape config.blockSize.toNat
        (Run.all perform t steps).state.records.blockCount := by
  have hblocks := h.allBlocks_reports (history type.shape steps)
  rw [h.blockCount_eq, List.length_nil, blocksFor_zero h.holds.blockSize_pos] at hblocks
  rw [reports_eq h, state_all h, ← hblocks]
  rfl

structure BlockLaw (type : RecordType) (config : Config) (t : InternTable)
    (steps : List TableStep) : Prop where
  in_order : ∀ k : Nat, (Run.reports perform t (steps.take k)).flatten =
    Event.allBlocks type.shape config.blockSize.toNat
      (Run.all perform t (steps.take k)).state.records.blockCount
  by_records : ∀ (k : Nat) (step : TableStep), steps[k]? = some step →
    let before := (Run.all perform t (steps.take k)).state
    (step.perform before).reported =
      (Run.reports InternTable.intern before (step.interned type.shape)).flatten
  /-- A block is reported by exactly the interning that gives out its first handle, also when a step
  has come as far as the records `earlier`. -/
  by_first_handle : ∀ (k : Nat) (earlier : List Record) (r : Record) (block : Nat),
    let before := (Run.all perform t (steps.take k)).state.insertAll earlier
    .blockAllocated type.shape block config.blockSize.toNat ∈ (before.intern r).reported ↔
      ∃ h, before.Issues r h ∧ h.toInt = block * config.blockSize.toNat + 1
  known : ∀ (k : Nat) (earlier : List Record) (r : Record) (h : Handle),
    let before := (Run.all perform t (steps.take k)).state.insertAll earlier
    before.get? h = some r → (before.intern r).reported = []
  stopped : ∀ (k : Nat) (earlier : List Record) (r : Record) (fault : Fault),
    let before := (Run.all perform t (steps.take k)).state.insertAll earlier
    (before.intern r).answer = .error fault → (before.intern r).reported = []
  looking : ∀ (k : Nat) (step : TableStep), steps[k]? = some step → step.offered = [] →
    (step.perform (Run.all perform t (steps.take k)).state).reported = []

theorem blockLaw (h : t.Represents type config []) (steps : List TableStep) :
    BlockLaw type config t steps := by
  have htake := fun k => represents_all h (steps.take k)
  constructor
  case in_order => exact fun k => reports_eq_allBlocks h (steps.take k)
  case by_records =>
    intro k step _
    exact reported_perform (htake k) step
  case by_first_handle =>
    intro k earlier r block
    exact ((htake k).insertAll earlier).mem_reported_intern_iff r block
  case known =>
    intro k earlier r handle _ hget
    exact ((htake k).insertAll earlier).reported_intern_of_get? hget
  case stopped =>
    intro k earlier r fault _ herror
    exact InternTable.Represents.reported_intern_of_error herror
  case looking =>
    intro k step _ hoffered
    have hinterned : step.interned type.shape = [] := interned_eq_nil (absurd hoffered)
    rw [reported_perform (htake k), hinterned]
    rfl

end Session.TableStep

end Interner
