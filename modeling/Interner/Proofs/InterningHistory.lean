import Interner.Proofs.TableSteps

/-!
Interning as a law about histories. What a table answers to the record of a step is decided by the
first occurrences in the history of the whole run: a record among them has the handle of its place,
any other meets a full table.
-/

namespace Interner.Session.TableStep

open InternTable

/-- The records that a run on a fresh table of `type` gives handles to, in the order of the
handles. -/
def issued (type : RecordType) (config : Config) (steps : List TableStep) : List Record :=
  firstOccurrences config.maxRecords.toNat (history type.shape steps)

/-- The fault that meets a new record when `config.maxRecords` handles are issued. -/
def exhaustion (type : RecordType) (config : Config) : Fault :=
  .fatal (.exhausted type.shape.name config.maxRecords.toNat)

theorem issued_split {type : RecordType} {steps : List TableStep} {i : Nat} {r : Record}
    (config : Config) (hstep : steps[i]? = some (.intern r))
    (hlength : r.length = type.shape.arity) :
    issued type config steps =
      (history type.shape (steps.drop (i + 1))).foldl (extend config.maxRecords.toNat)
        (extend config.maxRecords.toNat (issued type config (steps.take i)) r) := by
  rw [issued, history_split hstep hlength, firstOccurrences_append]
  rfl

theorem extend_prefix_issued {type : RecordType} {steps : List TableStep} {i : Nat} {r : Record}
    (config : Config) (hstep : steps[i]? = some (.intern r))
    (hlength : r.length = type.shape.arity) :
    extend config.maxRecords.toNat (issued type config (steps.take i)) r <+:
      issued type config steps := by
  rw [issued_split config hstep hlength]
  exact prefix_foldl_extend _ _ _

theorem represents_take {t : InternTable} {type : RecordType} {config : Config}
    (h : t.Represents type config []) (hunit : type.unit? = none) (steps : List TableStep) :
    (Run.all perform t steps).state.Represents type config (issued type config steps) := by
  have hall := represents_all h steps
  rw [RecordType.capacity_of_none hunit] at hall
  exact hall

theorem answer_intern_eq {t : InternTable} {type : RecordType} {config : Config} {rs : List Record}
    (h : t.Represents type config rs) (hunit : type.unit? = none) {r : Record}
    (hlength : r.length = type.shape.arity) :
    ((intern r).perform t).answer =
      if r ∈ rs then .ok (.handle (Handle.ofIndex (rs.idxOf r)))
      else if config.maxRecords.toNat ≤ rs.length then .error (.fault (exhaustion type config))
      else .ok (.handle (Handle.ofIndex rs.length)) := by
  have hcapacity := RecordType.capacity_of_none hunit config
  rw [answer_intern_of_length (h.shape_eq ▸ hlength)]
  by_cases hr : r ∈ rs
  · rw [if_pos hr, h.insert_of_mem hunit hr]
    rfl
  · rw [if_neg hr]
    rcases Nat.lt_or_ge rs.length (type.capacity config) with hroom | hfull
    · obtain ⟨growth, after, hinsert, -⟩ := h.insert_of_room hunit hr hroom
      rw [if_neg (by omega), hinsert]
      rfl
    · rw [if_pos (by omega), h.insert_of_full hunit hr hfull, hcapacity]
      rfl

/-- Looking at the first occurrences of the whole run is enough to know an answer. -/
theorem answer_all_intern {t : InternTable} {type : RecordType} {config : Config}
    (h : t.Represents type config []) (hunit : type.unit? = none) {steps : List TableStep}
    {i : Nat} {r : Record} (hstep : steps[i]? = some (.intern r))
    (hlength : r.length = type.shape.arity) :
    (Run.all perform t steps).answer[i]? = some (
      if r ∈ issued type config steps then
        .ok (.handle (Handle.ofIndex ((issued type config steps).idxOf r)))
      else .error (.fault (exhaustion type config))) := by
  have hbefore := represents_take h hunit (steps.take i)
  have hsplit := issued_split config hstep hlength
  have hinitial := extend_prefix_issued config hstep hlength
  generalize issued type config (steps.take i) = known at hbefore hsplit hinitial
  rw [Run.answer_all_getElem?, hstep, Option.map_some, answer_intern_eq hbefore hunit hlength]
  by_cases hr : r ∈ known
  · rw [extend_of_mem hr] at hinitial
    rw [if_pos hr, if_pos (hinitial.mem hr), idxOf_eq_of_prefix hinitial hr]
  · rw [if_neg hr]
    by_cases hfull : config.maxRecords.toNat ≤ known.length
    · rw [extend_of_ge hfull, foldl_extend_of_ge hfull] at hsplit
      rw [if_pos hfull, hsplit, if_neg hr]
    · rw [extend_of_lt hr (Nat.lt_of_not_le hfull)] at hinitial
      have hmem : r ∈ known ++ [r] := List.mem_append_right _ (List.mem_singleton_self r)
      rw [if_neg hfull, if_pos (hinitial.mem hmem), idxOf_eq_of_prefix hinitial hmem,
        List.idxOf_append_of_notMem hr]
      simp

structure HistoryLaw (type : RecordType) (config : Config) (t : InternTable)
    (steps : List TableStep) : Prop where
  handle : ∀ (i : Nat) (r : Record), steps[i]? = some (.intern r) → r ∈ issued type config steps →
    ∃ h, (Run.all perform t steps).answer[i]? = some (.ok (.handle h)) ∧
      h.toInt = 1 + (issued type config steps).idxOf r
  exhausted_iff : ∀ (i : Nat) (r : Record), steps[i]? = some (.intern r) →
    r.length = type.shape.arity →
    ((Run.all perform t steps).answer[i]? = some (.error (.fault (exhaustion type config))) ↔
      r ∉ issued type config steps)
  /-- They are the records that are new when all handles are issued. -/
  new_and_full_iff : ∀ (i : Nat) (r : Record), steps[i]? = some (.intern r) →
    r.length = type.shape.arity →
    (r ∉ issued type config steps ↔ r ∉ issued type config (steps.take i) ∧
      (Run.all perform t (steps.take i)).state.size = config.maxRecords.toNat)
  found : ∀ (i : Nat) (r : Record), steps[i]? = some (.intern r) →
    r ∈ issued type config (steps.take i) →
    ∃ h, (Run.all perform t steps).answer[i]? = some (.ok (.handle h)) ∧
      (Run.all perform t (steps.take i)).state.get? h = some r
  size : ∀ k : Nat, (Run.all perform t (steps.take k)).state.size =
    (issued type config (steps.take k)).length
  valid_iff : ∀ (k : Nat) (h : Handle), ((Run.all perform t (steps.take k)).state.get? h).isSome ↔
    1 ≤ h.toInt ∧ h.toInt ≤ (Run.all perform t (steps.take k)).state.size
  /-- Neither the null handle nor the largest one is ever given out. -/
  reserved : ∀ (i : Nat) (r : Record) (h : Handle), steps[i]? = some (.intern r) →
    (Run.all perform t steps).answer[i]? = some (.ok (.handle h)) →
      h ≠ Handle.null ∧ h ≠ Int32.maxValue

theorem historyLaw {t : InternTable} {type : RecordType} {config : Config}
    (h : t.Represents type config []) (hunit : type.unit? = none) (steps : List TableStep) :
    HistoryLaw type config t steps := by
  have htake := fun k => represents_take h hunit (steps.take k)
  have hrange : ∀ {r}, r ∈ issued type config steps →
      (issued type config steps).idxOf r < handleRange := by
    intro r hr
    exact (represents_take h hunit steps).lt_handleRange (List.idxOf_lt_length_of_mem hr)
  constructor
  case handle =>
    intro i r hstep hr
    have hanswer := answer_all_intern h hunit hstep (length_of_mem_firstOccurrences hr)
    rw [if_pos hr] at hanswer
    refine ⟨_, hanswer, ?_⟩
    rw [Handle.toInt_ofIndex (hrange hr), add_comm]
  case exhausted_iff =>
    intro i r hstep hlength
    rw [answer_all_intern h hunit hstep hlength]
    by_cases hr : r ∈ issued type config steps
    · simp [hr]
    · simp [hr]
  case new_and_full_iff =>
    intro i r hstep hlength
    have hsplit := issued_split config hstep hlength
    have hinitial := extend_prefix_issued config hstep hlength
    have hsize := (htake i).size_eq
    have hroom := (htake i).length_le
    rw [RecordType.capacity_of_none hunit] at hroom
    rw [hunit] at hsize
    rw [hsize]
    constructor
    · intro hr
      have hknown : r ∉ issued type config (steps.take i) := by
        intro hmem
        exact hr (((prefix_extend _ _ r).trans hinitial).mem hmem)
      refine ⟨hknown, Nat.le_antisymm hroom (Nat.le_of_not_lt fun hlt => hr ?_)⟩
      rw [extend_of_lt hknown hlt] at hinitial
      exact hinitial.mem (List.mem_append_right _ (List.mem_singleton_self r))
    · rintro ⟨hknown, hfull⟩
      rw [hsplit, extend_of_ge hfull.ge, foldl_extend_of_ge hfull.ge]
      exact hknown
  case found =>
    intro i r hstep hr
    have hlength := length_of_mem_firstOccurrences hr
    have hinitial := (prefix_extend _ _ r).trans (extend_prefix_issued config hstep hlength)
    have hanswer := answer_all_intern h hunit hstep hlength
    rw [if_pos (hinitial.mem hr), idxOf_eq_of_prefix hinitial hr] at hanswer
    exact ⟨_, hanswer, (htake i).get?_idxOf hr⟩
  case size =>
    intro k
    rw [(htake k).size_eq, hunit]
    rfl
  case valid_iff =>
    intro k handle
    exact (htake k).get?_isSome_iff handle
  case reserved =>
    intro i r handle hstep hanswer
    by_cases hlength : r.length = type.shape.arity
    · rw [answer_all_intern h hunit hstep hlength] at hanswer
      split at hanswer
      · rename_i hr
        injection hanswer with hanswer
        injection hanswer with hanswer
        injection hanswer with hanswer
        rw [← hanswer]
        exact ⟨Handle.ofIndex_ne_null (hrange hr), Handle.ofIndex_ne_maxValue (hrange hr)⟩
      · cases hanswer
    · rw [Run.answer_all_getElem?, hstep, Option.map_some,
        answer_intern_of_length_ne ((htake i).shape_eq ▸ hlength)] at hanswer
      cases hanswer

/-- Interning follows the first occurrences of the history, in every run on a fresh table of a type
without a unit record. -/
theorem interning_follows_history (type : RecordType) (config : Config)
    (haccept : config.accept = .ok ()) (hunit : type.unit? = none) :
    ∃ t, InternTable.create type config = .ok t ∧
      (∀ steps, HistoryLaw type config t steps) ∧
      (exhaustion type config).message =
        "Handle space exhausted for shape " ++ type.shape.name ++ ": capacity is " ++
          toString config.maxRecords.toNat ++ " record(s)" := by
  obtain ⟨t, hcreate, ht⟩ := represents_create type haccept
  refine ⟨t, hcreate, historyLaw ht hunit, ?_⟩
  rfl

theorem third_pair_meets_full_table :
    let type : RecordType := { shape := { id := 0, name := "pair", arity := 2 } }
    let config : Config := { blockSize := 2, maxRecords := 2 }
    let steps : List TableStep :=
      [.intern [1, 2], .intern [3, 4], .intern [5, 6], .size, .intern [1, 2]]
    config.accept = .ok () ∧ type.unit? = none ∧ issued type config steps = [[1, 2], [3, 4]] ∧
      ∃ t, InternTable.create type config = .ok t ∧
        (Run.all perform t steps).answer[2]? = some (.error (.fault (exhaustion type config))) ∧
        ∃ h, (Run.all perform t steps).answer[4]? = some (.ok (.handle h)) ∧ h.toInt = 1 := by
  intro type config steps
  have haccept : config.accept = .ok () := Config.accept_eq_ok_iff.mpr (by decide)
  obtain ⟨t, hcreate, hlaw, -⟩ := interning_follows_history type config haccept rfl
  refine ⟨haccept, rfl, by decide, t, hcreate, ?_, ?_⟩
  · exact ((hlaw steps).exhausted_iff 2 [5, 6] rfl rfl).mpr (by decide)
  · exact (hlaw steps).handle 4 [1, 2] rfl (by decide)

end Interner.Session.TableStep
