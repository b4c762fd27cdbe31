import Interner.Json.Value

namespace Interner.Json

def joinWith (separator : List Char) : List (List Char) → List Char
  | [] => []
  | [last] => last
  | first :: rest => first ++ separator ++ joinWith separator rest

def quoted (raw : List Char) : List Char := '"' :: raw ++ ['"']

def newline (depth : Nat) : List Char := '\n' :: List.replicate (2 * depth) ' '

/-- Parts between brackets, each on a line of its own one level deeper; no parts, no lines. -/
def enclosed (opening closing : Char) (depth : Nat) (parts : List (List Char)) : List Char :=
  if parts.isEmpty then [opening, closing]
  else
    opening :: newline (depth + 1) ++ joinWith (',' :: newline (depth + 1)) parts ++
      newline depth ++ [closing]

namespace Value

mutual

/-- The value on one line. -/
def compact : Value → List Char
  | array items => '[' :: joinWith [','] (compactItems items) ++ [']']
  | object members => '\x7b' :: joinWith [','] (compactMembers members) ++ ['\x7d']
  | null => ['n', 'u', 'l', 'l']
  | boolean b => if b then ['t', 'r', 'u', 'e'] else ['f', 'a', 'l', 's', 'e']
  | number literal => literal
  | string raw => quoted raw

def compactItems : List Value → List (List Char)
  | [] => []
  | item :: rest => compact item :: compactItems rest

def compactMembers : List (List Char × Value) → List (List Char)
  | [] => []
  | (name, value) :: rest => (quoted name ++ ':' :: compact value) :: compactMembers rest

end

mutual

/-- The value on indented lines, the first of which is already begun. -/
def pretty (depth : Nat) : Value → List Char
  | array items => enclosed '[' ']' depth (prettyItems (depth + 1) items)
  | object members => enclosed '\x7b' '\x7d' depth (prettyMembers (depth + 1) members)
  | null => ['n', 'u', 'l', 'l']
  | boolean b => if b then ['t', 'r', 'u', 'e'] else ['f', 'a', 'l', 's', 'e']
  | number literal => literal
  | string raw => quoted raw

def prettyItems (depth : Nat) : List Value → List (List Char)
  | [] => []
  | item :: rest => pretty depth item :: prettyItems depth rest

def prettyMembers (depth : Nat) : List (List Char × Value) → List (List Char)
  | [] => []
  | (name, value) :: rest =>
    (quoted name ++ ':' :: ' ' :: pretty depth value) :: prettyMembers depth rest

end

end Value

end Interner.Json
