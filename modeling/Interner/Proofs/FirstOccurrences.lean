import Mathlib.Data.List.Basic
import Mathlib.Data.List.Induction
import Mathlib.Data.List.Nodup

namespace Interner

variable {α : Type} [BEq α] [LawfulBEq α]

/-- The first `capacity` distinct items of a history, in the order in which they first occur. -/
def firstOccurrences (capacity : Nat) (history : List α) : List α :=
  history.eraseDups.take capacity

/-- The list after one more item: a new one is added while there is room. -/
def extend (capacity : Nat) (known : List α) (a : α) : List α :=
  if a ∈ known ∨ capacity ≤ known.length then known else known ++ [a]

theorem extend_of_mem {capacity : Nat} {known : List α} {a : α} (h : a ∈ known) :
    extend capacity known a = known :=
  if_pos (.inl h)

theorem extend_of_ge {capacity : Nat} {known : List α} (h : capacity ≤ known.length) (a : α) :
    extend capacity known a = known :=
  if_pos (.inr h)

theorem extend_of_lt {capacity : Nat} {known : List α} {a : α} (hnew : a ∉ known)
    (hroom : known.length < capacity) : extend capacity known a = known ++ [a] :=
  if_neg (not_or.mpr ⟨hnew, Nat.not_le.mpr hroom⟩)

theorem prefix_extend (capacity : Nat) (known : List α) (a : α) :
    known <+: extend capacity known a := by
  rw [extend]
  split
  · exact List.prefix_rfl
  · exact List.prefix_append known [a]

theorem prefix_foldl_extend (capacity : Nat) (known history : List α) :
    known <+: history.foldl (extend capacity) known := by
  induction history generalizing known with
  | nil => exact List.prefix_rfl
  | cons a history ih => exact (prefix_extend capacity known a).trans (ih _)

theorem idxOf_eq_of_prefix {known more : List α} {a : α} (h : known <+: more) (ha : a ∈ known) :
    more.idxOf a = known.idxOf a := by
  obtain ⟨rest, rfl⟩ := h
  exact List.idxOf_append_of_mem ha

theorem mem_or_mem_of_mem_foldl_extend {capacity : Nat} {known history : List α} {a : α}
    (h : a ∈ history.foldl (extend capacity) known) : a ∈ known ∨ a ∈ history := by
  induction history generalizing known with
  | nil => exact .inl h
  | cons b history ih =>
      rcases ih h with hextended | hrest
      · rw [extend] at hextended
        split at hextended
        · exact .inl hextended
        · rcases List.mem_append.mp hextended with hknown | hnew
          · exact .inl hknown
          · exact .inr (List.mem_cons.mpr (.inl (List.mem_singleton.mp hnew)))
      · exact .inr (List.mem_cons_of_mem b hrest)

theorem foldl_extend_of_ge {capacity : Nat} {known : List α} (h : capacity ≤ known.length)
    (history : List α) : history.foldl (extend capacity) known = known := by
  induction history with
  | nil => rfl
  | cons a history ih => rw [List.foldl_cons, extend_of_ge h, ih]

theorem eraseDups_concat (history : List α) (a : α) :
    (history ++ [a]).eraseDups =
      if a ∈ history then history.eraseDups else history.eraseDups ++ [a] := by
  rw [List.eraseDups_append]
  split
  · rename_i hmem
    simp [List.removeAll, hmem]
  · rename_i hnew
    simp [List.removeAll, hnew, List.eraseDups_cons]

theorem nodup_eraseDups (history : List α) : history.eraseDups.Nodup := by
  induction history using List.reverseRecOn with
  | nil => exact List.nodup_nil
  | append_singleton history a ih =>
      rw [eraseDups_concat]
      split
      · exact ih
      · rename_i hnew
        refine List.nodup_append.mpr ⟨ih, List.nodup_singleton a, ?_⟩
        rintro b hb c hc rfl
        rw [List.mem_singleton.mp hc, List.mem_eraseDups] at hb
        exact hnew hb

theorem firstOccurrences_concat (capacity : Nat) (history : List α) (a : α) :
    firstOccurrences capacity (history ++ [a]) =
      extend capacity (firstOccurrences capacity history) a := by
  rw [firstOccurrences, firstOccurrences, eraseDups_concat]
  by_cases hroom : history.eraseDups.length < capacity
  · have hall : history.eraseDups.take capacity = history.eraseDups :=
      List.take_of_length_le (Nat.le_of_lt hroom)
    rw [hall]
    split
    · rename_i hmem
      rw [hall, extend_of_mem (by simpa using hmem)]
    · rename_i hnew
      have hlength : (history.eraseDups ++ [a]).length ≤ capacity := by
        rw [List.length_append]
        exact hroom
      rw [extend_of_lt (by simpa using hnew) hroom, List.take_of_length_le hlength]
  · have hfull : capacity ≤ (history.eraseDups.take capacity).length := by
      rw [List.length_take]
      omega
    rw [extend_of_ge hfull]
    split
    · rfl
    · exact List.take_append_of_le_length (Nat.le_of_not_lt hroom)

theorem foldl_extend_of_room {capacity : Nat} {known history : List α}
    (hroom : known.length + (history.filter (· ∉ known)).eraseDups.length ≤ capacity) :
    history.foldl (extend capacity) known =
      known ++ (history.filter (· ∉ known)).eraseDups := by
  induction history using List.reverseRecOn with
  | nil => simp
  | append_singleton history a ih =>
      by_cases hknown : a ∈ known
      · have hfilter : (history ++ [a]).filter (· ∉ known) = history.filter (· ∉ known) := by
          simp [List.filter_append, hknown]
        rw [hfilter] at hroom ⊢
        rw [List.foldl_append, ih hroom]
        exact extend_of_mem (List.mem_append_left _ hknown)
      · have hfilter : (history ++ [a]).filter (· ∉ known) =
            history.filter (· ∉ known) ++ [a] := by
          simp [List.filter_append, hknown]
        rw [hfilter, eraseDups_concat] at hroom ⊢
        rw [List.foldl_append]
        split at hroom
        · rename_i hmem
          rw [if_pos hmem, ih hroom]
          exact extend_of_mem (List.mem_append_right _ (List.mem_eraseDups.mpr hmem))
        · rename_i hnew
          rw [List.length_append, List.length_singleton] at hroom
          rw [if_neg hnew, ih (by omega), ← List.append_assoc]
          refine extend_of_lt ?_ (by rw [List.length_append]; omega)
          rw [List.mem_append, List.mem_eraseDups]
          exact not_or.mpr ⟨hknown, hnew⟩

/-- Adding the items of a history one by one gives its first occurrences. -/
theorem foldl_extend_eq (capacity : Nat) (history : List α) :
    history.foldl (extend capacity) [] = firstOccurrences capacity history := by
  induction history using List.reverseRecOn with
  | nil => simp [firstOccurrences]
  | append_singleton history a ih =>
      rw [List.foldl_append, ih, firstOccurrences_concat]
      rfl

theorem firstOccurrences_append (capacity : Nat) (history more : List α) :
    firstOccurrences capacity (history ++ more) =
      more.foldl (extend capacity) (firstOccurrences capacity history) := by
  rw [← foldl_extend_eq, ← foldl_extend_eq, List.foldl_append]

end Interner
