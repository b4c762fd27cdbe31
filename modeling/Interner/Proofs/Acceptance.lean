import Interner.Proofs.RegistrySteps
import Mathlib.Order.Bounds.Defs

namespace Interner

open Session

theorem isLeast_blocksFor {blockSize : Nat} (hpos : 0 < blockSize) (items : Nat) :
    IsLeast {n | items ≤ n * blockSize} (blocksFor items blockSize) :=
  ⟨(blocksFor_le_iff hpos).mp le_rfl, fun _ hn => (blocksFor_le_iff hpos).mpr hn⟩

theorem blocksFor_eq_div_add {blockSize : Nat} (hpos : 0 < blockSize) (items : Nat) :
    blocksFor items blockSize =
      items / blockSize + if items % blockSize = 0 then 0 else 1 := by
  have hmod := Nat.mod_lt items hpos
  rw [blocksFor]
  conv_lhs => rw [← Nat.div_add_mod items blockSize, Nat.add_assoc, Nat.mul_add_div hpos]
  congr 1
  split
  · apply Nat.div_eq_of_lt
    omega
  · apply Nat.div_eq_of_lt_le
    · omega
    · omega

/-- Rounded up in 64-bit arithmetic, the quotient is not beyond its range. -/
theorem toNat_div_add_eq_blocksFor {blockSize : UInt64} (h : blockSize ≠ 0) (items : UInt64) :
    (items / blockSize + if items % blockSize = 0 then 0 else 1).toNat =
      blocksFor items.toNat blockSize.toNat := by
  have hpos : 0 < blockSize.toNat := Nat.pos_of_ne_zero fun hzero => h (UInt64.toNat_inj.mp hzero)
  have hle : blocksFor items.toNat blockSize.toNat ≤ items.toNat :=
    (blocksFor_le_iff hpos).mpr (Nat.le_mul_of_pos_right _ hpos)
  have hone : (if items % blockSize = 0 then 0 else 1 : UInt64).toNat =
      if items.toNat % blockSize.toNat = 0 then 0 else 1 := by
    simp only [← UInt64.toNat_inj, UInt64.toNat_mod, UInt64.toNat_zero]
    split <;> rfl
  rw [UInt64.toNat_add, UInt64.toNat_div, hone, ← blocksFor_eq_div_add hpos]
  exact Nat.mod_eq_of_lt (Nat.lt_of_le_of_lt hle items.toNat_lt)

namespace Config

/-- The rules for a configuration, one after the other. The last one has the blocks counted that are
needed, which cannot be done for blocks without slots. -/
def verdict (c : Config) : Except Fault (Except ConfigError Unit) :=
  let blockSize := c.blockSize.toNat
  let maxRecords := c.maxRecords.toNat
  if blockSize = 0 then .ok (.error .zeroBlockSize)
  else if !isPowerOfTwo blockSize then .ok (.error (.blockSizeNotPowerOfTwo blockSize))
  else if maxRecords = 0 then .ok (.error .zeroCapacity)
  else if handleRange < maxRecords then .ok (.error (.capacityBeyondHandles maxRecords))
  else c.blocksNeeded.map fun blocks =>
    if blockLimit < blocks then .error (.tooManyBlocks blockSize blocks maxRecords) else .ok ()

theorem blocksNeeded_of_ne_zero {c : Config} (h : c.blockSize ≠ 0) :
    c.blocksNeeded = .ok (blocksFor c.maxRecords.toNat c.blockSize.toNat) :=
  if_neg h

theorem verdict_eq (c : Config) : c.verdict = .ok c.accept := by
  by_cases hzero : c.blockSize = 0
  · have hblockSize : c.blockSize.toNat = 0 := by rw [hzero, UInt64.toNat_zero]
    simp only [verdict, accept, if_pos hblockSize]
  · simp only [verdict, accept, blocksNeeded_of_ne_zero hzero, Except.map]
    split_ifs <;> rfl

theorem accept_iff (c : Config) :
    c.accept = .ok () ↔ (∃ k ≤ 63, c.blockSize.toNat = 2 ^ k) ∧ 1 ≤ c.maxRecords.toNat ∧
      c.maxRecords.toNat ≤ 2 ^ 31 - 2 ∧ c.maxRecords.toNat ≤ 65536 * c.blockSize.toNat := by
  rw [accept_eq_ok_iff, handleRange, blockLimit]
  constructor
  · rintro ⟨hne, hpower, hsome, hhandles, hblocks⟩
    have hpow := isPowerOfTwo_iff.mp hpower
    have hlog : c.blockSize.toNat.log2 < 64 := (Nat.log2_lt hne).mpr c.blockSize.toNat_lt
    refine ⟨⟨_, Nat.le_of_lt_succ hlog, hpow⟩, Nat.pos_of_ne_zero hsome, hhandles, ?_⟩
    exact (blocksFor_le_iff (Nat.pos_of_ne_zero hne)).mp hblocks
  · rintro ⟨⟨k, -, hpow⟩, hsome, hhandles, hblocks⟩
    have hpos : 0 < c.blockSize.toNat := hpow ▸ Nat.two_pow_pos k
    refine ⟨hpos.ne', ?_, Nat.ne_of_gt hsome, hhandles, (blocksFor_le_iff hpos).mpr hblocks⟩
    rw [hpow, isPowerOfTwo_two_pow]

theorem blockSize_ne_zero_of_accept {c : Config} (h : c.accept = .ok ()) : c.blockSize ≠ 0 := by
  intro hzero
  apply (accept_eq_ok_iff.mp h).1
  rw [hzero, UInt64.toNat_zero]

structure AcceptanceLaw (c : Config) : Prop where
  verdict_eq : c.verdict = .ok c.accept
  accept_iff : c.accept = .ok () ↔
    (∃ k ≤ 63, c.blockSize.toNat = 2 ^ k) ∧ 1 ≤ c.maxRecords.toNat ∧
      c.maxRecords.toNat ≤ 2 ^ 31 - 2 ∧ c.maxRecords.toNat ≤ 65536 * c.blockSize.toNat
  rejected : c.accept ≠ .ok () → ∃ cause, c.accept = .error cause ∧
    (∀ type, InternTable.create type c = .error (.fatal (.config cause))) ∧
      Registry.create c = .error cause
  /-- The blocks needed are the fewest that hold all records. Quotient and remainder give their
  number in 64-bit arithmetic. -/
  blocksNeeded : c.blockSize ≠ 0 → ∃ blocks : UInt64, c.blocksNeeded = .ok blocks.toNat ∧
    IsLeast {n | c.maxRecords.toNat ≤ n * c.blockSize.toNat} blocks.toNat ∧
      blocks = c.maxRecords / c.blockSize + if c.maxRecords % c.blockSize = 0 then 0 else 1

theorem acceptanceLaw (c : Config) : c.AcceptanceLaw := by
  constructor
  case verdict_eq => exact c.verdict_eq
  case accept_iff => exact c.accept_iff
  case rejected =>
    intro hreject
    rcases haccept : c.accept with cause | ⟨⟩
    · refine ⟨cause, rfl, ?_, Registry.create_of_reject haccept⟩
      intro type
      rw [InternTable.create, haccept]
    · exact absurd haccept hreject
  case blocksNeeded =>
    intro hne
    have hpos : 0 < c.blockSize.toNat :=
      Nat.pos_of_ne_zero fun hzero => hne (UInt64.toNat_inj.mp hzero)
    refine ⟨_, ?_, ?_, rfl⟩
    · rw [toNat_div_add_eq_blocksFor hne, blocksNeeded_of_ne_zero hne]
    · rw [toNat_div_add_eq_blocksFor hne]
      exact isLeast_blocksFor hpos _

end Config

namespace InternTable

/-- The directory of a table of `type` has a place for each block that the records of the
configuration can need, and no other. A unit record needs none. -/
structure HasRoom (t : InternTable) (type : RecordType) (c : Config) : Prop where
  shape_eq : t.shape = type.shape
  blocksNeeded : type.unit? = none → c.blocksNeeded = .ok t.records.directory
  directory_le : t.records.directory ≤ 65536
  slot_lt : type.unit? = none → ∀ index < c.maxRecords.toNat,
    (t.records.slot index).1 < t.records.directory
  directory_of_unit : type.unit?.isSome → t.records.directory = 0

theorem Represents.hasRoom {t : InternTable} {type : RecordType} {c : Config} {rs : List Record}
    (h : t.Represents type c rs) (haccept : c.accept = .ok ()) : t.HasRoom type c := by
  have hpos := h.holds.blockSize_pos
  have hdirectory := h.holds.directory_eq
  have hlimit : blocksFor c.maxRecords.toNat c.blockSize.toNat ≤ blockLimit :=
    (Config.accept_eq_ok_iff.mp haccept).2.2.2.2
  constructor
  case shape_eq => exact h.shape_eq
  case blocksNeeded =>
    intro hunit
    rw [hdirectory, RecordType.capacity_of_none hunit,
      Config.blocksNeeded_of_ne_zero (Config.blockSize_ne_zero_of_accept haccept)]
  case directory_le =>
    rw [hdirectory, RecordType.capacity]
    split
    · rw [blocksFor_zero hpos]
      exact Nat.zero_le _
    · exact hlimit
  case slot_lt =>
    intro hunit index hindex
    rw [h.holds.slot_eq, hdirectory, RecordType.capacity_of_none hunit, lt_blocksFor_iff hpos]
    exact Nat.lt_of_le_of_lt (Nat.div_mul_le_self _ _) hindex
  case directory_of_unit =>
    intro hunit
    rw [hdirectory, RecordType.capacity_of_some hunit, blocksFor_zero hpos]

end InternTable

/-- The rules for a configuration are exact, and to meet them is enough: tables and registries can be
made, and whatever happens to them, every table has room for the records of the configuration. -/
theorem acceptance_exact_and_sufficient (c : Config) :
    c.AcceptanceLaw ∧ (c.accept = .ok () →
      (∀ type, ∃ t, InternTable.create type c = .ok t ∧ ∀ steps : List TableStep,
        (Run.all TableStep.perform t steps).state.HasRoom type c) ∧
      ∃ g, Registry.create c = .ok g ∧ ∀ (steps : List RegistryStep) (type : RecordType),
        let later := (Run.all RegistryStep.perform g steps).state
        later.find? type.shape = none →
          ∃ t after events, later.request type = .ok (t, after, events) ∧ t.HasRoom type c) := by
  refine ⟨c.acceptanceLaw, fun haccept => ⟨?_, ?_⟩⟩
  · intro type
    obtain ⟨t, hcreate, ht⟩ := InternTable.represents_create type haccept
    exact ⟨t, hcreate, fun steps => (TableStep.represents_all ht steps).hasRoom haccept⟩
  · have hcreate := Registry.create_of_accept haccept
    refine ⟨_, hcreate, ?_⟩
    intro steps type later hnone
    have hg := Registry.sound_of_create hcreate
    have hlater := RegistryStep.sound_all hg steps
    have hconfig : later.config = c := RegistryStep.config_all hg steps
    obtain ⟨t, hbuild, ht⟩ := InternTable.represents_build type hlater.accepted
    rw [hconfig] at ht
    exact ⟨t, _, _, Registry.request_of_none hnone hbuild, ht.hasRoom haccept⟩

theorem three_pairs_need_two_blocks :
    let type : RecordType := { shape := { id := 0, name := "pair", arity := 2 } }
    let config : Config := { blockSize := 2, maxRecords := 3 }
    config.accept = .ok () ∧ config.blocksNeeded = .ok 2 ∧
      (∃ t, InternTable.create type config = .ok t ∧ t.records.directory = 2 ∧
        (t.records.slot 2).1 < t.records.directory) ∧
      ∃ g, Registry.create config = .ok g ∧
        ∃ t after events, g.request type = .ok (t, after, events) ∧ t.records.directory = 2 := by
  intro type config
  have haccept : config.accept = .ok () := Config.accept_eq_ok_iff.mpr (by decide)
  have hneeded : config.blocksNeeded = .ok 2 := by decide
  obtain ⟨-, hsufficient⟩ := acceptance_exact_and_sufficient config
  obtain ⟨htables, g, hg, hregistry⟩ := hsufficient haccept
  have hnone : g.find? type.shape = none := by
    have hempty := hg
    rw [Registry.create_of_accept haccept] at hempty
    cases hempty
    rfl
  obtain ⟨t, ht, hroom⟩ := htables type
  obtain ⟨u, after, events, hrequest, hu⟩ := hregistry [] type hnone
  have hdirectory := (hroom []).blocksNeeded rfl
  have hdirectory' := hu.blocksNeeded rfl
  rw [hneeded] at hdirectory hdirectory'
  refine ⟨haccept, hneeded, ⟨t, ht, ?_, (hroom []).slot_lt rfl 2 (by decide)⟩, g, hg, u, after,
    events, hrequest, ?_⟩
  · exact (Except.ok.inj hdirectory).symm
  · exact (Except.ok.inj hdirectory').symm

end Interner
