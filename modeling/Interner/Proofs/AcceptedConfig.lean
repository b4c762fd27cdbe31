import Interner.Config
import Mathlib.Algebra.Order.Group.Nat

namespace Interner

theorem lt_blocksFor_iff {items blockSize block : Nat} (hpos : 0 < blockSize) :
    block < blocksFor items blockSize ↔ block * blockSize < items := by
  rw [blocksFor, Nat.lt_div_iff_mul_lt hpos]
  omega

theorem blocksFor_le_iff {items blockSize n : Nat} (hpos : 0 < blockSize) :
    blocksFor items blockSize ≤ n ↔ items ≤ n * blockSize := by
  rw [← Nat.not_lt, lt_blocksFor_iff hpos, Nat.not_lt]

theorem blocksFor_zero {blockSize : Nat} (hpos : 0 < blockSize) : blocksFor 0 blockSize = 0 := by
  rw [blocksFor, Nat.div_eq_of_lt]
  omega

theorem blocksFor_succ {blockSize : Nat} (hpos : 0 < blockSize) (size : Nat) :
    blocksFor (size + 1) blockSize =
      blocksFor size blockSize + if size % blockSize = 0 then 1 else 0 := by
  have hnext : size + 1 + (blockSize - 1) = size + (blockSize - 1) + 1 := by omega
  have hstart : blockSize ∣ size + (blockSize - 1) + 1 ↔ size % blockSize = 0 := by
    have hsum : size + (blockSize - 1) + 1 = size + blockSize := by omega
    rw [hsum, Nat.dvd_add_self_right, Nat.dvd_iff_mod_eq_zero]
  rw [blocksFor, hnext, Nat.succ_div, blocksFor]
  simp only [hstart]

theorem isPowerOfTwo_iff {n : Nat} : isPowerOfTwo n = true ↔ n = 2 ^ n.log2 := by
  rw [isPowerOfTwo, beq_iff_eq, Nat.one_shiftLeft]

theorem isPowerOfTwo_two_pow (k : Nat) : isPowerOfTwo (2 ^ k) = true := by
  rw [isPowerOfTwo_iff, Nat.log2_two_pow]

namespace Config

def fieldNames : List String := ["block_size", "max_records"]

theorem accept_eq_ok_iff {c : Config} :
    c.accept = .ok () ↔
      c.blockSize.toNat ≠ 0 ∧ isPowerOfTwo c.blockSize.toNat = true ∧ c.maxRecords.toNat ≠ 0 ∧
        c.maxRecords.toNat ≤ handleRange ∧
        blocksFor c.maxRecords.toNat c.blockSize.toNat ≤ blockLimit := by
  simp only [accept]
  split_ifs <;> simp_all

theorem isPowerOfTwo_of_accept {c : Config} (h : c.accept = .ok ()) :
    isPowerOfTwo c.blockSize.toNat = true :=
  (accept_eq_ok_iff.mp h).2.1

theorem maxRecords_le_of_accept {c : Config} (h : c.accept = .ok ()) :
    c.maxRecords.toNat ≤ handleRange :=
  (accept_eq_ok_iff.mp h).2.2.2.1

end Config

end Interner
