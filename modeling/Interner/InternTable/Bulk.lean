import Interner.InternTable
import Interner.Run

/-!
Many records at a time: interning and resolving whole lists, threads that intern their lists, and
short accounts of long answers.
-/

namespace Interner

namespace InternTable

def intern (t : InternTable) (r : Record) : Run InternTable (Except Fault Handle) :=
  match t.insert r with
  | (.error fault, t) => { answer := .error fault, state := t }
  | (.ok insertion, t) => {
      answer := .ok insertion.handle
      state := t
      charges := t.charges insertion.growth
      events := t.events insertion.growth }

structure Interned where
  handles : List Handle
  stopped : Option Fault := none
deriving DecidableEq

/-- All handles, or the fault that stopped the records. -/
def Interned.result (i : Interned) : Except Fault (List Handle) :=
  match i.stopped with
  | some fault => .error fault
  | none => .ok i.handles

def internAll (t : InternTable) : List Record → Run InternTable Interned
  | [] => { answer := ⟨[], none⟩, state := t }
  | r :: rest =>
    (t.intern r).andThen fun t answer =>
      match answer with
      | .error fault => { answer := ⟨[], some fault⟩, state := t }
      | .ok handle => (t.internAll rest).map fun more => { more with handles := handle :: more.handles }

/-- Threads that each intern a list, one thread after the other. -/
def internThreads (t : InternTable) : List (List Record) → Run InternTable (List Interned)
  | [] => { answer := [], state := t }
  | records :: rest =>
    (t.internAll records).andThen fun t first =>
      (t.internThreads rest).map (first :: ·)

end InternTable

/-- Records in arithmetic progression: field `j` of record `i` is `i * factors[j] + offsets[j]`, in
32-bit arithmetic that wraps. -/
structure Progression where
  first : Int
  /-- The first number that no longer counts. -/
  limit : Int
  factors : List Int32
  offsets : List Int32
deriving DecidableEq

namespace Progression

def fields (p : Progression) (i : Int) : Record :=
  List.zipWith (fun factor offset => Int32.ofInt i * factor + offset) p.factors p.offsets

def count (p : Progression) : Nat := (p.limit - p.first).toNat

end Progression

namespace Handle

/-- Runs of consecutive handles as their first handle and their length, the last run first; a handle
lengthens the last run if it is the next one. -/
def addToRuns (runs : List (Handle × Nat)) (h : Handle) : List (Handle × Nat) :=
  match runs with
  | (first, length) :: before =>
    if h.toInt = first.toInt + (length : Int) then (first, length + 1) :: before
    else (h, 1) :: runs
  | [] => [(h, 1)]

end Handle

/-- What interning a progression has come to so far, each list with the last first. -/
structure Tally where
  runs : List (Handle × Nat) := []
  charges : List Memory.Charge := []
  events : List Event := []

namespace Tally

/-- Takes in what interning one more record found. -/
def add (tally : Tally) (t : InternTable) (insertion : InternTable.Insertion) : Tally where
  runs := Handle.addToRuns tally.runs insertion.handle
  charges := (t.charges insertion.growth).reverse ++ tally.charges
  events := (t.events insertion.growth).reverse ++ tally.events

def run (tally : Tally) (t : InternTable) (fault : Option Fault) :
    Run InternTable (Except Fault (List (Handle × Nat))) where
  answer := match fault with
    | some fault => .error fault
    | none => .ok tally.runs.reverse
  state := t
  charges := tally.charges.reverse
  events := tally.events.reverse

end Tally

namespace InternTable

/-- Interns `count` records of a progression from number `i` on, after those tallied, and stops at
the first fault. -/
def internFrom (p : Progression) (tally : Tally) (i : Int) :
    Nat → InternTable → Run InternTable (Except Fault (List (Handle × Nat)))
  | 0, t => tally.run t none
  | count + 1, t =>
    match t.insert (p.fields i) with
    | (.error fault, t) => tally.run t (some fault)
    | (.ok insertion, t) => internFrom p (tally.add t insertion) (i + 1) count t

def internProgression (t : InternTable) (p : Progression) :
    Run InternTable (Except Fault (List (Handle × Nat))) :=
  internFrom p {} p.first p.count t

/-- Adds the fields of a record to one digest per column, in 64-bit arithmetic that wraps. -/
def addToDigests (digests : List Int64) (r : Record) : List Int64 :=
  List.zipWith (fun digest field => digest * 31 + field.toInt64) digests r

/-- Adds `count` records to digests, from the one with handle `h` on, and stops at the first
fault. -/
def digestFrom (t : InternTable) (digests : List Int64) (h : Int) : Nat → Except Fault (List Int64)
  | 0 => .ok digests
  | count + 1 =>
    match t.resolve (Int32.ofInt h) with
    | .error fault => .error fault
    | .ok r => t.digestFrom (addToDigests digests r) (h + 1) count

/-- One digest for each column of the records from one handle up to, but without, another. -/
def digest (t : InternTable) (first limit : Handle) : Except Fault (List Int64) :=
  t.digestFrom (List.replicate t.shape.arity 0) first.toInt (limit.toInt - first.toInt).toNat

end InternTable

end Interner
