import Interner.Event
import Interner.Memory.Growth

namespace Interner

/-- The outcome of an operation on a state: the answer, the state afterwards, the memory taken, and the
events reported by the caller and by threads that worked for it. -/
structure Run (σ α : Type) where
  answer : α
  state : σ
  charges : List Memory.Charge := []
  events : List Event := []
  background : List Event := []

namespace Run

variable {σ τ α β : Type}

/-- The same run with its answer put differently. -/
def map (f : α → β) (r : Run σ α) : Run σ β := { r with answer := f r.answer }

/-- The same run seen as one of a larger state. -/
def within (f : σ → τ) (r : Run σ α) : Run τ α := { r with state := f r.state }

/-- A second operation after the first, from the state and the answer it left. -/
def andThen (r : Run σ α) (f : σ → α → Run σ β) : Run σ β :=
  let next := f r.state r.answer
  { next with
    charges := r.charges ++ next.charges
    events := r.events ++ next.events
    background := r.background ++ next.background }

/-- Operations one after the other, with all their answers. -/
def all {ι : Type} (perform : σ → ι → Run σ α) (s : σ) : List ι → Run σ (List α)
  | [] => { answer := [], state := s }
  | i :: rest => (perform s i).andThen fun s a => (all perform s rest).map (a :: ·)

/-- The same run, done by another thread: the caller reports nothing. -/
def elsewhere (r : Run σ α) : Run σ α :=
  { r with events := [], background := r.events ++ r.background }

end Run

end Interner
