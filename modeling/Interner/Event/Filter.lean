import Interner.Event
import Interner.Event.Directive

/-!
Filters: comma-separated directives that decide which events are written. Of the directives that
speak about an event, the one that says most about it decides.
-/

namespace Interner.Event

abbrev Filter := List Directive

namespace Filter

/-- The pieces between commas; empty pieces say nothing. -/
def pieces (text : String) : List (List Char) :=
  (text.toList.splitOnP (· == ',')).filter (!·.isEmpty)

def ofText (text : String) : Except Directive.Flaw Filter := (pieces text).mapM Directive.ofText

/-- The directives among pieces; pieces that are malformed are passed over. -/
def ofPiecesLenient : List (List Char) → Except Fault Filter
  | [] => .ok []
  | piece :: rest =>
    match Directive.ofText piece with
    | .ok d => (ofPiecesLenient rest).map (d :: ·)
    | .error .malformed => ofPiecesLenient rest
    | .error (.torn fault) => .error fault

/-- The directive in force for an event: the weightiest that concerns it, the last of these. -/
def inForce? (f : Filter) (e : Event) : Option Directive :=
  (f.filter (·.concerns e)).foldl
    (fun best d => match best with
      | some b => if d.weighs b then some d else some b
      | none => some d) none

/-- A filter without directives lets errors pass and nothing else. -/
def passes (f : Filter) (e : Event) : Bool :=
  match f with
  | [] => e.level.rank ≤ Level.error.rank
  | _ :: _ =>
    match f.inForce? e with
    | some d => e.level.rank ≤ d.verbosity
    | none => false

/-- The filter to use: the one asked for by the environment if it is wholly valid, else the one
given. -/
def choose (requested : Option String) (given : String) : Except Fault Filter :=
  match requested.map ofText with
  | some (.ok f) => .ok f
  | some (.error (.torn fault)) => .error fault
  | _ => ofPiecesLenient (pieces given)

end Filter

end Interner.Event
