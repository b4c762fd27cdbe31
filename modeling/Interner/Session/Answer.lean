import Interner.InternTable.Bulk
import Interner.Registry

namespace Interner.Session

inductive Item where
  | integer (n : Int)
  | text (s : String)
  | unit
deriving DecidableEq

inductive Refusal where
  | unknownObject
  | error (cause : RecordError)
  /-- The operation stops where it stands. -/
  | fault (cause : Fault)
deriving DecidableEq

/-- What several threads found that interned the same records. -/
structure Agreement where
  agree : Bool
  roundTrip : Bool
  /-- The handles of the records in increasing order. -/
  handles : List Handle
deriving DecidableEq

inductive Answer where
  | done
  | flag (b : Bool)
  | count (n : Nat)
  | handle (h : Handle)
  | handles (hs : List Handle)
  | record (r : Record)
  | recordIfAny (r : Option Record)
  | entries (es : List (Handle × Record))
  | entriesIfAny (es : Option (List (Handle × Record)))
  | rows (rs : List (Shape × Handle × Record))
  | shape (s : Shape)
  | shapes (ss : List Shape)
  | summary (s : Shape) (size : Nat) (empty : Bool)
  | runs (rs : List (Handle × Nat))
  | digests (ds : List Int64)
  | agreement (a : Agreement)
  | text (s : String)
  | config (c : Config)
  | indices (is : List Nat)
  | item (i : Option Item)
  | items (is : List Item)
  | usage (u : Memory.Usage)
  | account (a : Memory.Account)

/-- The answer of a step, or why there is none. -/
abbrev Reply := Except Refusal Answer

namespace Reply

/-- The reply of an operation that may report an error. -/
def ofReported {α : Type} (answer : α → Answer) : Except RecordError α → Reply
  | .ok a => .ok (answer a)
  | .error cause => .error (.error cause)

def ofStopped {α : Type} (answer : α → Answer) : Except Fault α → Reply
  | .ok a => .ok (answer a)
  | .error cause => .error (.fault cause)

end Reply

end Interner.Session
