namespace Interner.Text

/-- Whether a code lies in one of the ranges whose bounds are listed in increasing order: every other
bound opens a range, and the range ends before the next bound. -/
def inRanges (bounds : List Nat) (code : Nat) : Bool := bounds.countP (· ≤ code) % 2 == 1

end Interner.Text
