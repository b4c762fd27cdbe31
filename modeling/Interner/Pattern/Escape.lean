import Interner.Number.Digits
import Interner.Pattern
import Interner.Text.Blank

namespace Interner.Pattern

/-- Skips blanks, and comments from a `#` to the end of the line. -/
def skipRemarks (inComment : Bool) : List Char → List Char
  | [] => []
  | c :: rest =>
    if inComment then skipRemarks (c != '\n') rest
    else if c = '#' then skipRemarks true rest
    else if Text.isBlank c then skipRemarks false rest
    else c :: rest

/-- Skips what does not count: only where patterns are `spaced` is there anything. -/
def skip (spaced : Bool) (text : List Char) : List Char :=
  if spaced then skipRemarks false text else text

inductive Escape where
  | literal (l : Literal)
  | edge
  | wordEdge
  | shorthand (negated : Bool)

namespace Escape

/-- The character whose code the given number of hexadecimal digits spells, after the digits so far. -/
def takeCode? (spaced asByte : Bool) (digits : List Char) : Nat → List Char → Option (Escape × List Char)
  | 0, text =>
    let code := Number.ofDigits 16 digits
    if code.isValidChar then some (.literal { char := Char.ofNat code, asByte }, text) else none
  | count + 1, text =>
    match skip spaced text with
    | c :: rest =>
      if Number.isDigitOf 16 c then takeCode? spaced asByte (digits ++ [c]) count rest else none
    | [] => none

/-- What stands behind a backslash, and what follows it. Marks of ASCII lose their meaning; letters and
digits have one each or cannot be escaped. -/
def take? (spaced : Bool) : List Char → Option (Escape × List Char)
  | [] => none
  | c :: rest =>
    let plain (char : Char) : Option (Escape × List Char) := some (.literal { char }, rest)
    match c with
    | 'x' => takeCode? spaced true [] 2 rest
    | 'u' => takeCode? spaced false [] 4 rest
    | 'U' => takeCode? spaced false [] 8 rest
    | 'd' | 's' | 'w' => some (.shorthand false, rest)
    | 'D' | 'S' | 'W' => some (.shorthand true, rest)
    | 'a' => plain '\x07'
    | 'f' => plain '\x0c'
    | 't' => plain '\t'
    | 'n' => plain '\n'
    | 'r' => plain '\r'
    | 'v' => plain '\x0b'
    | 'A' | 'z' => some (.edge, rest)
    | 'b' | 'B' | '<' | '>' => some (.wordEdge, rest)
    | _ => if c.toNat < 128 && !c.isAlphanum then plain c else none

def toPattern : Escape → Pattern
  | literal l => .literal l
  | edge => .edge
  | wordEdge => .wordEdge
  | shorthand negated => .shorthand negated

/-- The item between brackets that an escape is; places are none. -/
def toItem? : Escape → Option SetItem
  | literal l => some (.literal l)
  | shorthand negated => some (.shorthand negated)
  | edge | wordEdge => none

end Escape

end Interner.Pattern
