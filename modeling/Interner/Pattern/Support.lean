import Interner.Pattern.Reader

/-!
Which patterns can be used: those that need no knowledge of scripts beyond ASCII, cannot take a
character apart, and are not too deep.
-/

namespace Interner.Pattern

/-- The switches that decide what a part can be. -/
structure Mode where
  caseless : Bool := false
  characters : Bool := true
deriving DecidableEq

/-- The mode after switches are turned. -/
def Mode.turn (m : Mode) (switches : Switches) : Mode where
  caseless := switches.apply .caseless m.caseless
  characters := switches.apply .characters m.characters

def isAscii (c : Char) : Bool := c.toNat < 128

/-- Whether a literal can be used. Characters have to be told apart by case, and no byte may be a part
of a character. -/
def Literal.isSupported (m : Mode) (l : Literal) : Bool :=
  if m.characters then !m.caseless else !l.asByte || isAscii l.char

mutual

/-- Whether a set can be used. A set of bytes stays within ASCII, so nothing in it is negated. -/
def CharSet.isSupported (m : Mode) : CharSet → Bool
  | .items items => SetItem.areSupported m items
  | .operation left right => left.isSupported m && right.isSupported m

def SetItem.isSupported (m : Mode) : SetItem → Bool
  | .literal l => if m.characters then !m.caseless else isAscii l.char
  | .range first last =>
    if m.characters then !m.caseless else isAscii first.char && isAscii last.char
  | .named negated => if m.characters then !m.caseless else !negated
  | .shorthand negated => !m.characters && !negated
  | .nested negated set => (m.characters || !negated) && set.isSupported m

def SetItem.areSupported (m : Mode) : List SetItem → Bool
  | [] => true
  | item :: rest => item.isSupported m && SetItem.areSupported m rest

end

mutual

/-- The mode behind a pattern, if all of it can be used. A group ends with the mode it began with. -/
def modeBehind? (m : Mode) : Pattern → Option Mode
  | .literal l => if l.isSupported m then some m else none
  | .dot => if m.characters then some m else none
  | .edge => some m
  | .wordEdge => if m.characters then none else some m
  | .shorthand negated => if !m.characters && !negated then some m else none
  | .brackets negated set => if (m.characters || !negated) && set.isSupported m then some m else none
  | .turn switches => some (m.turn switches)
  | .repetition part => modeBehind? m part
  | .group switches body => (modeBehind? (m.turn switches) body).map fun _ => m
  | .sequence parts => modeBehindAll? m parts
  | .choice branches => modeBehindAll? m branches

def modeBehindAll? (m : Mode) : List Pattern → Option Mode
  | [] => some m
  | pattern :: rest => (modeBehind? m pattern).bind fun m => modeBehindAll? m rest

end

def depthLimit : Nat := 250

def isSupported (p : Pattern) : Bool := p.depth ≤ depthLimit && (modeBehind? {} p).isSome

/-- Whether a text is a pattern that can be used. -/
def isUsable (text : List Char) : Bool := (ofText? text).any isSupported

end Interner.Pattern
