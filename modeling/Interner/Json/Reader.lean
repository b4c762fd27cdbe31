import Interner.Json.Value

/-!
Reading JSON. A text is one value with blanks around it; nothing may follow. Strings are taken as
they stand once their escapes have the right form.
-/

namespace Interner.Json

/-- The four characters that may stand between the parts of a text. -/
def isBlank (c : Char) : Bool := c == ' ' || c == '\t' || c == '\n' || c == '\r'

def skipBlanks (text : List Char) : List Char := text.dropWhile isBlank

/-- What follows an opening quote, up to the closing quote, and what stands behind it. -/
def takeRaw? : List Char → Option (List Char × List Char)
  | [] => none
  | '"' :: rest => some ([], rest)
  | '\\' :: 'u' :: a :: b :: c :: d :: rest =>
    if [a, b, c, d].all (Number.isDigitOf 16) then
      (takeRaw? rest).map fun (raw, rest) => ('\\' :: 'u' :: a :: b :: c :: d :: raw, rest)
    else none
  | '\\' :: letter :: rest =>
    if (letterEscape? letter).isSome then
      (takeRaw? rest).map fun (raw, rest) => ('\\' :: letter :: raw, rest)
    else none
  | c :: rest =>
    if c = '\\' ∨ c.toNat < 0x20 then none
    else (takeRaw? rest).map fun (raw, rest) => (c :: raw, rest)

def spanDigits (text : List Char) : List Char × List Char := text.span Char.isDigit

/-- The whole part of a number: zero alone, or digits that do not begin with zero. -/
def takeWhole? : List Char → Option (List Char × List Char)
  | '0' :: rest => some (['0'], rest)
  | text =>
    match spanDigits text with
    | ([], _) => none
    | found => some found

/-- A fraction, if a point follows. -/
def takeFraction? : List Char → Option (List Char × List Char)
  | '.' :: rest =>
    match spanDigits rest with
    | ([], _) => none
    | (ds, rest) => some ('.' :: ds, rest)
  | text => some ([], text)

def takeSign : List Char → List Char × List Char
  | '+' :: rest => (['+'], rest)
  | '-' :: rest => (['-'], rest)
  | text => ([], text)

def takeExponent? : List Char → Option (List Char × List Char)
  | c :: rest =>
    if c = 'e' ∨ c = 'E' then
      let (sign, rest) := takeSign rest
      match spanDigits rest with
      | ([], _) => none
      | (ds, rest) => some (c :: sign ++ ds, rest)
    else some ([], c :: rest)
  | [] => some ([], [])

def takeNumber? (text : List Char) : Option (List Char × List Char) := do
  let (sign, text) := match text with
    | '-' :: rest => (['-'], rest)
    | _ => ([], text)
  let (whole, text) ← takeWhole? text
  let (fraction, text) ← takeFraction? text
  let (exponent, text) ← takeExponent? text
  return (sign ++ whole ++ fraction ++ exponent, text)

mutual

/-- A value and what follows it. -/
def takeValue? : Nat → List Char → Option (Value × List Char)
  | 0, _ => none
  | fuel + 1, text =>
    match text with
    | 'n' :: 'u' :: 'l' :: 'l' :: rest => some (.null, rest)
    | 't' :: 'r' :: 'u' :: 'e' :: rest => some (.boolean true, rest)
    | 'f' :: 'a' :: 'l' :: 's' :: 'e' :: rest => some (.boolean false, rest)
    | '"' :: rest => (takeRaw? rest).map fun (raw, rest) => (.string raw, rest)
    | '[' :: rest =>
      match skipBlanks rest with
      | ']' :: rest => some (.array [], rest)
      | rest => (takeItems? fuel rest).map fun (items, rest) => (.array items, rest)
    | '\x7b' :: rest =>
      match skipBlanks rest with
      | '\x7d' :: rest => some (.object [], rest)
      | rest => (takeMembers? fuel rest).map fun (members, rest) => (.object members, rest)
    | _ => (takeNumber? text).map fun (literal, rest) => (.number literal, rest)

def takeItems? : Nat → List Char → Option (List Value × List Char)
  | 0, _ => none
  | fuel + 1, text => do
    let (item, rest) ← takeValue? fuel text
    match skipBlanks rest with
    | ',' :: rest => (takeItems? fuel (skipBlanks rest)).map fun (items, rest) => (item :: items, rest)
    | ']' :: rest => some ([item], rest)
    | _ => none

def takeMembers? : Nat → List Char → Option (List (List Char × Value) × List Char)
  | 0, _ => none
  | fuel + 1, text =>
    match text with
    | '"' :: rest => do
      let (name, rest) ← takeRaw? rest
      match skipBlanks rest with
      | ':' :: rest => do
        let (value, rest) ← takeValue? fuel (skipBlanks rest)
        match skipBlanks rest with
        | ',' :: rest =>
          (takeMembers? fuel (skipBlanks rest)).map fun (members, rest) =>
            ((name, value) :: members, rest)
        | '\x7d' :: rest => some ([(name, value)], rest)
        | _ => none
      | _ => none
    | _ => none

end

/-- The value that a text spells. Two steps for every character are always enough. -/
def parse? (text : List Char) : Option Value := do
  let (value, rest) ← takeValue? (2 * text.length + 1) (skipBlanks text)
  if (skipBlanks rest).isEmpty then some value else none

end Interner.Json
