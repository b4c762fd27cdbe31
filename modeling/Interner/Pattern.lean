/-!
Patterns: what the value of a field can be required to look like. A pattern is a tree of parts that
follow one another, of branches to choose from, of repetitions, and of groups that may turn switches
on and off.
-/

namespace Interner

namespace Pattern

/-- A character that stands for itself. One that is written by two hexadecimal digits stands for a
byte where patterns are about bytes. -/
structure Literal where
  char : Char
  asByte : Bool := false
deriving DecidableEq

/-- What a pattern can turn on and off while it is read. -/
inductive Switch where
  | caseless
  | manyLines
  | dotTakesAll
  | frugal
  /-- Patterns are about characters; otherwise they are about bytes. -/
  | characters
  | carriageReturns
  /-- Blanks and comments may stand between the parts. -/
  | spaced
deriving DecidableEq

/-- Switches that are turned on, and switches that are turned off. -/
structure Switches where
  on : List Switch := []
  off : List Switch := []
deriving DecidableEq

namespace Switches

def isEmpty (s : Switches) : Bool := s.on.isEmpty && s.off.isEmpty

/-- A switch afterwards. -/
def apply (s : Switches) (switch : Switch) (before : Bool) : Bool :=
  if switch ∈ s.on then true else if switch ∈ s.off then false else before

end Switches

mutual

/-- What stands between brackets: items, any of which will do, or what an operation makes of two
sets. -/
inductive CharSet where
  | items (items : List SetItem)
  | operation (left right : CharSet)

inductive SetItem where
  | literal (l : Literal)
  | range (first last : Literal)
  | named (negated : Bool)
  /-- Digits, blanks or the characters of words. -/
  | shorthand (negated : Bool)
  | nested (negated : Bool) (set : CharSet)

end

end Pattern

open Pattern

/-- A pattern as far as it decides whether it can be used. -/
inductive Pattern where
  | literal (l : Literal)
  | dot
  /-- The beginning or the end of a line or of the text. -/
  | edge
  /-- The beginning or the end of a word, or no such place. -/
  | wordEdge
  | shorthand (negated : Bool)
  | brackets (negated : Bool) (set : CharSet)
  /-- From here to the end of the group the switches are turned. -/
  | turn (switches : Switches)
  | repetition (part : Pattern)
  | group (switches : Switches) (body : Pattern)
  | sequence (parts : List Pattern)
  | choice (branches : List Pattern)

namespace Pattern

mutual

/-- How deep a set is. One item alone adds no depth of its own. -/
def CharSet.depth : CharSet → Nat
  | .items items => (if items.length ≤ 1 then 0 else 1) + SetItem.depths items
  | .operation left right => 1 + max left.depth right.depth

def SetItem.depth : SetItem → Nat
  | .nested _ set => 1 + set.depth
  | .literal _ | .range .. | .named _ | .shorthand _ => 0

def SetItem.depths : List SetItem → Nat
  | [] => 0
  | item :: rest => max item.depth (SetItem.depths rest)

end

mutual

/-- How deep a pattern is. One part or one branch alone adds no depth of its own. -/
def depth : Pattern → Nat
  | .literal _ | .dot | .edge | .wordEdge | .shorthand _ | .turn _ => 0
  | .brackets _ set => 1 + set.depth
  | .repetition part => 1 + part.depth
  | .group _ body => 1 + body.depth
  | .sequence parts => (if parts.length ≤ 1 then 0 else 1) + depths parts
  | .choice branches => (if branches.length ≤ 1 then 0 else 1) + depths branches

def depths : List Pattern → Nat
  | [] => 0
  | pattern :: rest => max pattern.depth (depths rest)

end

/-- Whether something can be repeated: turning switches cannot. -/
def isRepeatable : Pattern → Bool
  | .turn _ => false
  | _ => true

end Pattern

end Interner
