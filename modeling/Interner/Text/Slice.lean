/-!
Parts of a text given by places in its UTF-8 form. A place counts bytes, and not every place lies
between two characters.
-/

namespace Interner.Text

inductive Edge where
  | start
  | finish
deriving DecidableEq

/-- A part that would begin or end within a character: the place of that end, and the character with
the place where it begins. -/
structure TornCharacter where
  edge : Edge
  place : Nat
  character : Char
  start : Nat
deriving DecidableEq

/-- The part of a text before a place and the part behind it. `passed` bytes lie before the text, and
the place is the given end of a part. -/
def cut (edge : Edge) (passed : Nat) (text : List Char) (place : Nat) :
    Except TornCharacter (List Char × List Char) :=
  match text with
  | [] => .ok ([], [])
  | c :: rest =>
    if place ≤ passed then .ok ([], c :: rest)
    else if place < passed + c.utf8Size then .error { edge, place, character := c, start := passed }
    else
      (cut edge (passed + c.utf8Size) rest place).map fun (before, behind) => (c :: before, behind)

def behind (text : List Char) (place : Nat) : Except TornCharacter (List Char) :=
  (cut .start 0 text place).map Prod.snd

def slice (text : List Char) (first last : Nat) : Except TornCharacter (List Char) := do
  (cut .finish first (← behind text first) last).map Prod.fst

end Interner.Text
