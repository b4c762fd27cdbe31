import Interner.Run
import Mathlib.Data.List.Induction

/-!
Runs of many steps: the state that a run leaves, the answer of each step and what it reports from the
state that the steps before it left, and what every step preserves. Before them, what a success says
of its parts.
-/

namespace Interner

section Success

variable {ε α β : Type} {x : Except ε α} {b : β}

theorem exists_of_bind {f : α → Except ε β} (h : x >>= f = .ok b) :
    ∃ a, x = .ok a ∧ f a = .ok b := by
  cases x with
  | error cause => cases h
  | ok a => exact ⟨a, rfl, h⟩

theorem exists_of_map {f : α → β} (h : x.map f = .ok b) : ∃ a, x = .ok a ∧ f a = b := by
  cases x with
  | error cause => cases h
  | ok a => exact ⟨a, rfl, Except.ok.inj h⟩

theorem of_foldlM {motive : β → Prop} {f : β → α → Except ε β} (start : motive b)
    (step : ∀ b a c, motive b → f b a = .ok c → motive c) {as : List α} {c : β}
    (h : as.foldlM f b = .ok c) : motive c := by
  induction as generalizing b with
  | nil => exact Except.ok.inj h ▸ start
  | cons a as ih =>
      rw [List.foldlM_cons] at h
      obtain ⟨between, hfirst, hrest⟩ := exists_of_bind h
      exact ih (step b a between start hfirst) hrest

end Success

namespace Run

variable {σ ι α : Type} {perform : σ → ι → Run σ α}

/-- All events of a run, those of the caller first. -/
def reported (r : Run σ α) : List Event := r.events ++ r.background

def reports (perform : σ → ι → Run σ α) (s : σ) : List ι → List (List Event)
  | [] => []
  | i :: rest => (perform s i).reported :: reports perform (perform s i).state rest

theorem state_all (s : σ) (steps : List ι) :
    (all perform s steps).state = steps.foldl (fun s i => (perform s i).state) s := by
  induction steps generalizing s with
  | nil => rfl
  | cons i rest ih => exact ih _

theorem state_all_append (s : σ) (steps more : List ι) :
    (all perform s (steps ++ more)).state =
      (all perform (all perform s steps).state more).state := by
  rw [state_all, state_all, state_all, List.foldl_append]

theorem state_all_concat (s : σ) (steps : List ι) (i : ι) :
    (all perform s (steps ++ [i])).state = (perform (all perform s steps).state i).state :=
  state_all_append s steps [i]

theorem answer_all_getElem? (s : σ) (steps : List ι) (k : Nat) :
    (all perform s steps).answer[k]? =
      steps[k]?.map fun i => (perform (all perform s (steps.take k)).state i).answer := by
  induction steps generalizing s k with
  | nil => rfl
  | cons i rest ih =>
      cases k with
      | zero => rfl
      | succ k => exact ih _ k

theorem reports_append (s : σ) (steps more : List ι) :
    reports perform s (steps ++ more) =
      reports perform s steps ++ reports perform (all perform s steps).state more := by
  induction steps generalizing s with
  | nil => rfl
  | cons i rest ih => exact congrArg (List.cons _) (ih _)

theorem take_add_one_of_getElem? {steps : List ι} {k : Nat} {step : ι}
    (hk : steps[k]? = some step) : steps.take (k + 1) = steps.take k ++ [step] := by
  rw [List.take_add_one, hk, Option.toList_some]

theorem state_all_take_add_one {s : σ} {steps : List ι} {k : Nat} {step : ι}
    (hk : steps[k]? = some step) : (all perform s (steps.take (k + 1))).state =
      (perform (all perform s (steps.take k)).state step).state := by
  rw [take_add_one_of_getElem? hk, state_all_concat]

/-- A run of the first `k` steps, seen from a step among them. -/
theorem state_all_take {s : σ} {steps : List ι} {i k : Nat} {step : ι} (hi : steps[i]? = some step)
    (hik : i < k) : (all perform s (steps.take k)).state =
      (all perform (perform (all perform s (steps.take i)).state step).state
        ((steps.take k).drop (i + 1))).state := by
  have htake : (steps.take k).take (i + 1) = steps.take (i + 1) := by
    rw [List.take_take, Nat.min_eq_left hik]
  rw [← state_all_take_add_one hi, ← htake, ← state_all_append, List.take_append_drop]

theorem all_induction {motive : List ι → σ → Prop} {s : σ} (start : motive [] s)
    (step : ∀ steps s i, motive steps s → motive (steps ++ [i]) (perform s i).state)
    (steps : List ι) : motive steps (all perform s steps).state := by
  induction steps using List.reverseRecOn with
  | nil => exact start
  | append_singleton steps i ih =>
      rw [state_all_concat]
      exact step steps _ i ih

end Run

end Interner
