import Interner.Session.Answer

namespace Interner.Session

inductive TableStep where
  | intern (fields : List Int32)
  | resolve (h : Handle)
  | lookup (h : Handle)
  | get (h : Handle)
  | resolveTrusted (h : Handle)
  | size
  | isEmpty
  | shape
  | blockSize
  | entries
  | listing
  | summary
  | internProgression (records : Progression)
  | digest (first limit : Handle)
  | internTogether (fields : List Int32) (threads : Nat)
  | internAllTogether (records : List (List Int32)) (threads : Nat)

namespace TableStep

/-- Uses the record with the given fields, or replies why there is none. -/
def withRecord (t : InternTable) (fields : List Int32)
    (use : Record → Run InternTable Reply) : Run InternTable Reply :=
  match t.shape.record fields with
  | .error cause => { answer := .error (.error cause), state := t }
  | .ok r => use r

/-- Uses records that are all built before anything is interned. -/
def withRecords (t : InternTable) (fields : List (List Int32))
    (use : List Record → Run InternTable Reply) : Run InternTable Reply :=
  match fields.mapM t.shape.record with
  | .error cause => { answer := .error (.error cause), state := t }
  | .ok records => use records

/-- What threads found that interned the same records. -/
def agreement (t : InternTable) (records : List Record) (found : List (List Handle)) : Agreement :=
  let first := found.headD []
  { agree := found.all (· == first)
    roundTrip := (first.zip records).all fun (h, r) => t.get? h == some r
    handles := first.mergeSort fun a b => decide (a ≤ b) }

def perform (t : InternTable) : TableStep → Run InternTable Reply
  | intern fields => withRecord t fields fun r => (t.intern r).map (Reply.ofStopped .handle)
  | resolve h => { answer := Reply.ofStopped .record (t.resolve h), state := t }
  | lookup h => { answer := Reply.ofReported .record (t.lookup h), state := t }
  | get h => { answer := .ok (.recordIfAny (t.get? h)), state := t }
  | resolveTrusted h => { answer := Reply.ofStopped .record (t.resolveTrusted h), state := t }
  | size => { answer := .ok (.count t.size), state := t }
  | isEmpty => { answer := .ok (.flag t.isEmpty), state := t }
  | shape => { answer := .ok (.shape t.shape), state := t }
  | blockSize => { answer := .ok (.count t.blockSize), state := t }
  | entries => { answer := .ok (.entries t.entries), state := t }
  | listing => { answer := .ok (.entries t.listing.toList), state := t }
  | summary => { answer := .ok (.summary t.shape t.size t.isEmpty), state := t }
  | internProgression p =>
    if p.count = 0 then { answer := .ok (.runs []), state := t }
    else withRecord t (p.fields p.first) fun _ => (t.internProgression p).map (Reply.ofStopped .runs)
  | digest first limit => {
      answer := Reply.ofStopped .digests (t.digest first limit)
      state := t }
  | internTogether fields threads => withRecord t fields fun r =>
      ((t.internThreads (List.replicate threads [r])).map fun found =>
        Reply.ofStopped (fun handles => .handles handles.flatten)
          (found.mapM InternTable.Interned.result)).elsewhere
  | internAllTogether fields threads => withRecords t fields fun records =>
      let run := (t.internThreads (List.replicate threads records)).elsewhere
      run.map fun found =>
        Reply.ofStopped (fun handles => .agreement (agreement run.state records handles))
          (found.mapM InternTable.Interned.result)

end TableStep

end Interner.Session
