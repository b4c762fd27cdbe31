import Interner.Session.TableStep

namespace Interner.Session

inductive RegistryStep where
  | config
  | tableCount
  | shapes
  | intern (type : RecordType) (fields : List Int32)
  | resolve (type : RecordType) (h : Handle)
  | lookup (type : RecordType) (h : Handle)
  | table (type : RecordType) (step : TableStep)
  /-- Whether two requests for a table get the same one. -/
  | sameTable (type : RecordType)
  | sameTableTogether (type : RecordType) (threads : Nat)
  | inventory

namespace RegistryStep

/-- Performs a step on the table of a type, which is made if there is none. -/
def onTable (g : Registry) (type : RecordType) (step : TableStep) : Run Registry Reply :=
  match g.request type with
  | .error fault => { answer := .error (.fault fault), state := g }
  | .ok (t, g, events) =>
    let run := (step.perform t).within g.store
    { run with events := events ++ run.events }

/-- Requests a table several times; the requests agree if they made one table at most. -/
def requestAgain (g : Registry) (type : RecordType) : Nat → Run Registry (Except Fault Nat)
  | 0 => { answer := .ok 0, state := g }
  | times + 1 =>
    match g.request type with
    | .error fault => { answer := .error fault, state := g }
    | .ok (_, g, events) =>
      let run := (requestAgain g type times).map fun made => made.map (· + events.length)
      { run with events := events ++ run.events }

/-- Why a step is refused before it needs the registry: the record cannot be built. -/
def refusal? : RegistryStep → Option RecordError
  | intern type fields =>
    match type.shape.record fields with
    | .error cause => some cause
    | .ok _ => none
  | _ => none

def act (g : Registry) : RegistryStep → Run Registry Reply
  | config => { answer := .ok (.config g.config), state := g }
  | tableCount => { answer := .ok (.count g.tableCount), state := g }
  | shapes => { answer := .ok (.shapes g.shapes), state := g }
  | intern type fields => onTable g type (.intern fields)
  | resolve type h => onTable g type (.resolve h)
  | lookup type h => onTable g type (.lookup h)
  | table type step => onTable g type step
  | sameTable type =>
    (requestAgain g type 2).map (Reply.ofStopped fun made => .flag (decide (made ≤ 1)))
  | sameTableTogether type threads =>
    ((requestAgain g type threads).map (Reply.ofStopped fun made => .flag (decide (made ≤ 1)))).elsewhere
  | inventory =>
    match g.inventory with
    | .error fault => { answer := .error (.fault fault), state := g }
    | .ok (v, g, events) => { answer := .ok (.rows v.rows), state := g, events := events }

def perform (g : Registry) (step : RegistryStep) : Run Registry Reply :=
  match step.refusal? with
  | some cause => { answer := .error (.error cause), state := g }
  | none => step.act g

end RegistryStep

end Interner.Session
