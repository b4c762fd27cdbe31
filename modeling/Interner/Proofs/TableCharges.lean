import Interner.Proofs.TableSteps

/-!
What a table charges for. A charge falls due with the number of records that the table holds,
whichever records they are and whatever step brought them. So a step charges for the numbers that it
went through, and the charges of a run are those of one long step.
-/

namespace Interner

open Memory Session

/-- What a table that holds `size` records charges when one more comes in. -/
def RecordType.chargesAt (type : RecordType) (config : Config) (size : Nat) : List Charge :=
  (if size % config.blockSize.toNat = 0 then
    [⟨.blocks, config.blockSize.toNat, config.blockSize.toNat * (4 * type.shape.arity)⟩]
  else []) ++
  (if reserved (size + 1) - reserved size = 0 then []
  else [⟨.index, reserved (size + 1) - reserved size,
    (reserved (size + 1) - reserved size) * (4 * type.shape.arity + 4)⟩])

/-- What a table charges while it grows from one number of records to another. -/
def RecordType.chargesBetween (type : RecordType) (config : Config) (before after : Nat) :
    List Charge :=
  (List.range' before (after - before)).flatMap (type.chargesAt config)

section ChargesBetween

variable (type : RecordType) (config : Config)

theorem RecordType.chargesBetween_self (size : Nat) : type.chargesBetween config size size = [] := by
  rw [chargesBetween, Nat.sub_self]
  rfl

theorem RecordType.chargesBetween_succ (size : Nat) :
    type.chargesBetween config size (size + 1) = type.chargesAt config size := by
  rw [chargesBetween, Nat.add_sub_cancel_left]
  exact List.append_nil _

theorem RecordType.chargesBetween_append {before between after : Nat} (h : before ≤ between)
    (h' : between ≤ after) :
    type.chargesBetween config before between ++ type.chargesBetween config between after =
      type.chargesBetween config before after := by
  obtain ⟨n, rfl⟩ := Nat.exists_eq_add_of_le h
  obtain ⟨m, rfl⟩ := Nat.exists_eq_add_of_le h'
  rw [chargesBetween, chargesBetween, chargesBetween, ← List.flatMap_append,
    Nat.add_sub_cancel_left, Nat.add_sub_cancel_left, List.range'_append_1, Nat.add_assoc,
    Nat.add_sub_cancel_left]

end ChargesBetween

namespace InternTable.Represents

variable {t : InternTable} {type : RecordType} {config : Config} {rs : List Record}

theorem charges_of_growth (h : t.Represents type config rs) (size : Nat) :
    t.charges {
      block := if size % config.blockSize.toNat = 0 then
        some (size / config.blockSize.toNat) else none
      entries := reserved (size + 1) - reserved size } = type.chargesAt config size := by
  have hblockSize : t.blockSize = config.blockSize.toNat := h.holds.blockSize_eq
  rw [charges, RecordType.chargesAt, hblockSize, recordBytes, entryBytes, h.shape_eq]
  congr 1
  split
  · rename_i hblock
    split at hblock
    · rename_i hstart
      rw [if_pos hstart]
    · cases hblock
  · rename_i hblock
    split at hblock
    · cases hblock
    · rename_i hinside
      rw [if_neg hinside]

theorem charges_intern (h : t.Represents type config rs) (r : Record) :
    (t.intern r).charges = type.chargesBetween config rs.length
      (extend (type.capacity config) rs r).length := by
  rcases hunit : type.unit? with _ | unit
  · by_cases hr : r ∈ rs
    · rw [extend_of_mem hr, type.chargesBetween_self]
      simp only [intern, h.insert_of_mem hunit hr]
      rfl
    · rcases Nat.lt_or_ge rs.length (type.capacity config) with hroom | hfull
      · obtain ⟨after, hinsert, hafter⟩ := h.insertNew_of_lt hr hroom
        rw [extend_of_lt hr hroom, List.length_append, List.length_singleton,
          type.chargesBetween_succ]
        simp only [intern, h.insert_of_notMem hunit hr, hinsert]
        exact hafter.charges_of_growth rs.length
      · rw [extend_of_ge hfull, type.chargesBetween_self]
        simp only [intern, h.insert_of_full hunit hr hfull]
  · have hsome : type.unit?.isSome := by rw [hunit, Option.isSome_some]
    have hfull : type.capacity config ≤ rs.length := by
      rw [RecordType.capacity_of_some hsome]
      exact Nat.zero_le _
    rw [extend_of_ge hfull, type.chargesBetween_self]
    simp only [intern, h.insert_of_unit hsome]
    rfl

theorem length_le_foldl_extend (capacity : Nat) (known history : List Record) :
    known.length ≤ (history.foldl (extend capacity) known).length :=
  (prefix_foldl_extend capacity known history).length_le

/-- Whatever comes after an insertion that met a fault, nothing is charged for it. -/
theorem chargesBetween_of_insert_error (h : t.Represents type config rs) {r : Record}
    (herror : ∃ fault, (t.insert r).1 = .error fault) (history : List Record) :
    type.chargesBetween config rs.length
      ((r :: history).foldl (extend (type.capacity config)) rs).length = [] := by
  rw [foldl_extend_of_ge (h.ge_of_insert_error herror), type.chargesBetween_self]

theorem charges_cons (h : t.Represents type config rs) (r : Record) (history : List Record) :
    (t.intern r).charges ++ type.chargesBetween config
        (extend (type.capacity config) rs r).length
        (history.foldl (extend (type.capacity config)) (extend (type.capacity config) rs r)).length =
      type.chargesBetween config rs.length
        ((r :: history).foldl (extend (type.capacity config)) rs).length := by
  rw [h.charges_intern, type.chargesBetween_append]
  · rfl
  · exact (prefix_extend _ _ _).length_le
  · exact length_le_foldl_extend _ _ _

/-- Records interned one after the other, whatever each of them meets. -/
theorem charges_all_intern (h : t.Represents type config rs) (history : List Record) :
    (Run.all intern t history).charges = type.chargesBetween config rs.length
      (history.foldl (extend (type.capacity config)) rs).length := by
  induction history generalizing t rs with
  | nil => exact (type.chargesBetween_self config _).symm
  | cons r history ih =>
      have hafter := h.insert r
      rw [← state_intern] at hafter
      rw [← h.charges_cons, ← ih hafter]
      rfl

theorem charges_internAll (h : t.Represents type config rs) (history : List Record) :
    (t.internAll history).charges = type.chargesBetween config rs.length
      (history.foldl (extend (type.capacity config)) rs).length := by
  induction history generalizing t rs with
  | nil => exact (type.chargesBetween_self config _).symm
  | cons r history ih =>
      have hafter := h.insert r
      have hcharges := h.charges_cons r history
      have hstop := h.chargesBetween_of_insert_error (r := r)
      rw [internAll, ← hcharges]
      -- A fault means that the table is full, so the records after it would charge nothing either.
      rw [intern] at hcharges ⊢
      rcases hinsert : t.insert r with ⟨fault | insertion, after⟩
      · rw [hinsert] at hstop hcharges
        rw [hcharges, hstop ⟨fault, rfl⟩]
        rfl
      · rw [hinsert] at hafter
        rw [← ih hafter]
        rfl

theorem charges_internThreads (h : t.Represents type config rs) (lists : List (List Record)) :
    (t.internThreads lists).charges = type.chargesBetween config rs.length
      (lists.flatten.foldl (extend (type.capacity config)) rs).length := by
  induction lists generalizing t rs with
  | nil => exact (type.chargesBetween_self config _).symm
  | cons records lists ih =>
      have hafter := h.insertAll records
      rw [← h.state_internAll] at hafter
      rw [List.flatten_cons, List.foldl_append, ← type.chargesBetween_append config
        (length_le_foldl_extend _ _ records) (length_le_foldl_extend _ _ _), ← ih hafter,
        ← h.charges_internAll]
      rfl

theorem charges_internFrom (h : t.Represents type config rs) (p : Progression) (tally : Tally)
    (i : Int) (count : Nat) :
    (internFrom p tally i count t).charges = tally.charges.reverse ++
      type.chargesBetween config rs.length
        ((p.recordsFrom i count).foldl (extend (type.capacity config)) rs).length := by
  induction count generalizing t rs tally i with
  | zero =>
      rw [Progression.recordsFrom, List.foldl_nil, type.chargesBetween_self, List.append_nil]
      rfl
  | succ count ih =>
      have hafter := h.insert (p.fields i)
      have hcharges := h.charges_cons (p.fields i) (p.recordsFrom (i + 1) count)
      have hstop := h.chargesBetween_of_insert_error (r := p.fields i)
      rw [Progression.recordsFrom, internFrom]
      rw [intern] at hcharges
      rcases hinsert : t.insert (p.fields i) with ⟨fault | insertion, after⟩
      · rw [hinsert] at hstop
        rw [hstop ⟨fault, rfl⟩, List.append_nil]
        rfl
      · rw [hinsert] at hafter hcharges
        rw [← hcharges]
        refine (ih hafter _ _).trans ?_
        rw [Tally.add, List.reverse_append, List.reverse_reverse, List.append_assoc]

end InternTable.Represents

namespace Session.TableStep

/-- Every step charges for the numbers of records that it takes the table through. -/
theorem charges_perform {t : InternTable} {type : RecordType} {config : Config} {rs : List Record}
    (h : t.Represents type config rs) (step : TableStep) :
    (step.perform t).charges = type.chargesBetween config rs.length
      ((step.interned type.shape).foldl (extend (type.capacity config)) rs).length := by
  rw [← h.shape_eq]
  cases step.work_perform t with
  | nothing hinterned hstate hcharges =>
      rw [hinterned, hcharges, List.foldl_nil, type.chargesBetween_self]
  | record r hinterned hstate hcharges =>
      rw [hinterned, hcharges]
      exact h.charges_intern r
  | progression p hinterned hstate hcharges =>
      rw [hinterned, hcharges]
      exact h.charges_internFrom p {} p.first p.count
  | threads lists hinterned hstate hcharges => rw [hinterned, hcharges, h.charges_internThreads]

end Session.TableStep

end Interner
