import Interner.Memory.Account

/-!
How the index of an intern table reserves room: never less than its entries need, and in steps that
double.
-/

namespace Interner.Memory

/-- The rooms that an index may have reserved: 3, 7, 14, 28, … -/
def IsRoom (room : Nat) : Prop := room = 3 ∨ ∃ k, room = 7 <<< k

/-- How an index reserves room for its entries: none for no entries, else the least room that is large
enough. -/
structure Reserve where
  room : Nat → Nat
  room_zero : room 0 = 0
  isRoom : ∀ n, 0 < n → IsRoom (room n)
  le_room : ∀ n, n ≤ room n
  room_le : ∀ n r, IsRoom r → n ≤ r → room n ≤ r

/-- The room that an index of `n` entries has reserved. -/
def reserved (n : Nat) : Nat :=
  if n = 0 then 0
  else if n ≤ 3 then 3
  else if n ≤ 7 then 7
  else 7 <<< (((n - 1) / 7).log2 + 1)

theorem isRoom_reserved {n : Nat} (h : 0 < n) : IsRoom (reserved n) := by
  rw [reserved, if_neg (Nat.ne_of_gt h)]
  split
  · exact .inl rfl
  · split
    · exact .inr ⟨0, rfl⟩
    · exact .inr ⟨_, rfl⟩

theorem le_reserved (n : Nat) : n ≤ reserved n := by
  rw [reserved]
  split
  · omega
  · split
    · assumption
    · split
      · assumption
      · rename_i hlarge
        have hlog : (n - 1) / 7 < 2 ^ (((n - 1) / 7).log2 + 1) := Nat.lt_log2_self
        rw [Nat.shiftLeft_eq]
        omega

theorem reserved_le {n room : Nat} (hroom : IsRoom room) (h : n ≤ room) : reserved n ≤ room := by
  have hshift : ∀ k, 7 <<< k = 7 * 2 ^ k := fun k => Nat.shiftLeft_eq 7 k
  rw [reserved]
  split
  · exact Nat.zero_le _
  · split
    · rcases hroom with rfl | ⟨k, rfl⟩
      · exact Nat.le_refl _
      · have hpow := Nat.one_le_two_pow (n := k)
        rw [hshift]
        omega
    · split
      · rcases hroom with rfl | ⟨k, rfl⟩
        · omega
        · have hpow := Nat.one_le_two_pow (n := k)
          rw [hshift]
          omega
      · rename_i hlarge
        rcases hroom with rfl | ⟨k, rfl⟩
        · omega
        · rw [hshift] at h ⊢
          have hlog : 2 ^ ((n - 1) / 7).log2 ≤ (n - 1) / 7 := Nat.log2_self_le (by omega)
          have hpow : 2 ^ ((n - 1) / 7).log2 < 2 ^ k := by omega
          have hk := (Nat.pow_lt_pow_iff_right (by decide)).mp hpow
          rw [hshift]
          exact Nat.mul_le_mul_left 7 (Nat.pow_le_pow_right (by decide) hk)

namespace Reserve

/-- Room that doubles from one step to the next, once there are more than three entries. -/
def doubling : Reserve where
  room := reserved
  room_zero := rfl
  isRoom := fun _ => isRoom_reserved
  le_room := le_reserved
  room_le := fun _ _ => reserved_le

@[simp] theorem room_eq (reserve : Reserve) (n : Nat) : reserve.room n = reserved n := by
  rcases Nat.eq_zero_or_pos n with rfl | hpos
  · exact reserve.room_zero
  · exact Nat.le_antisymm (reserve.room_le n _ (isRoom_reserved hpos) (le_reserved n))
      (reserved_le (reserve.isRoom n hpos) (reserve.le_room n))

instance : Subsingleton Reserve where
  allEq := by
    rintro ⟨room, zero, is, le, least⟩ ⟨room', zero', is', le', least'⟩
    have hroom : room = room' := funext fun n =>
      (room_eq ⟨room, zero, is, le, least⟩ n).trans (room_eq ⟨room', zero', is', le', least'⟩ n).symm
    subst hroom
    rfl

instance : DecidableEq Reserve := fun reserve reserve' => isTrue (Subsingleton.elim reserve reserve')

end Reserve

structure Charge where
  category : Category
  items : Nat
  bytes : Nat
deriving DecidableEq

namespace Account

def take (a : Account) (c : Charge) : Account :=
  a.add c.category (counter c.items) (counter c.bytes)

def giveBack (a : Account) (c : Charge) : Account :=
  a.remove c.category (counter c.items) (counter c.bytes)

end Account

end Interner.Memory
