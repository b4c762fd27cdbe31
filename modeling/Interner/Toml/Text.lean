import Interner.Number.Digits

/-!
The text of a TOML document: blanks, line ends, comments, and the four kinds of quoted strings. Each
reader takes what stands at the front of a text and returns what follows it.
-/

namespace Interner.Toml

/-- The text without a byte order mark in front. -/
def dropMark : List Char → List Char
  | '\ufeff' :: rest => rest
  | text => text

def isBlank (c : Char) : Bool := c == ' ' || c == '\t'

def skipBlanks (text : List Char) : List Char := text.dropWhile isBlank

/-- Characters that never stand for themselves. -/
def isControl (c : Char) : Bool := (c.toNat < 0x20 && c != '\t') || c.toNat == 0x7f

/-- A carriage return is part of a line end only. -/
def startsLine (text : List Char) : Bool := text.head? == some '\n'

/-- Skips blanks, line ends and comments, of which the last may be open. -/
def skipTrivia? (inComment : Bool) : List Char → Option (List Char)
  | [] => some []
  | c :: rest =>
    if c = '\n' then skipTrivia? false rest
    else if c = '\r' then
      if startsLine rest then skipTrivia? inComment rest else none
    else if inComment then
      if isControl c then none else skipTrivia? true rest
    else if isBlank c then skipTrivia? false rest
    else if c = '#' then skipTrivia? true rest
    else some (c :: rest)

/-- Skips what must follow an entry: a comment or a line end with all trivia after it, or nothing at
all. -/
def endEntry? (text : List Char) : Option (List Char) :=
  match skipBlanks text with
  | [] => some []
  | c :: rest =>
    if c = '#' ∨ c = '\n' ∨ c = '\r' then skipTrivia? false (c :: rest) else none

/-- The character whose code is written in `count` hexadecimal digits. -/
def coded? (count : Nat) (text : List Char) : Option Char :=
  let ds := text.take count
  let code := Number.ofDigits 16 ds
  if ds.length = count ∧ ds.all (Number.isDigitOf 16) ∧ code.isValidChar then
    some (Char.ofNat code)
  else none

/-- The character that an escape stands for, and how many characters after the backslash the escape
takes. -/
def escape? : List Char → Option (Char × Nat)
  | 'b' :: _ => some ('\x08', 1)
  | 't' :: _ => some ('\t', 1)
  | 'n' :: _ => some ('\n', 1)
  | 'f' :: _ => some ('\x0c', 1)
  | 'r' :: _ => some ('\r', 1)
  | 'e' :: _ => some ('\x1b', 1)
  | '"' :: _ => some ('"', 1)
  | '\\' :: _ => some ('\\', 1)
  | 'x' :: rest => (coded? 2 rest).map (·, 3)
  | 'u' :: rest => (coded? 4 rest).map (·, 5)
  | 'U' :: rest => (coded? 8 rest).map (·, 9)
  | _ => none

/-- The rest of a string in double quotes; `skip` characters belong to an escape already read. -/
def takeBasic? (skip : Nat) : List Char → Option (List Char × List Char)
  | [] => none
  | c :: rest =>
    match skip with
    | skip + 1 => takeBasic? skip rest
    | 0 =>
      if c = '"' then some ([], rest)
      else if c = '\\' then do
        let (meant, length) ← escape? rest
        (takeBasic? length rest).map fun (text, rest) => (meant :: text, rest)
      else if isControl c then none
      else (takeBasic? 0 rest).map fun (text, rest) => (c :: text, rest)

/-- The rest of a string in single quotes, where every character stands for itself. -/
def takeLiteral? : List Char → Option (List Char × List Char)
  | [] => none
  | c :: rest =>
    if c = '\'' then some ([], rest)
    else if isControl c then none
    else (takeLiteral? rest).map fun (text, rest) => (c :: text, rest)

/-- How many blanks and line ends stand at the front. -/
def spaceLength : List Char → Nat
  | [] => 0
  | c :: rest =>
    if isBlank c || c == '\n' || (c == '\r' && startsLine rest) then spaceLength rest + 1 else 0

/-- Whether nothing but blanks follows on this line. -/
def endsLine (text : List Char) : Bool :=
  match skipBlanks text with
  | '\n' :: _ => true
  | '\r' :: rest => startsLine rest
  | _ => false

def quoteCount (quote : Char) (text : List Char) : Nat := (text.takeWhile (· == quote)).length

/-- The rest of a string in three double quotes. A backslash at the end of a line takes away the line
end and all blanks and line ends after it; up to two quotes may stand before the closing three. -/
def takeLongBasic? (skip : Nat) : List Char → Option (List Char × List Char)
  | [] => none
  | c :: rest =>
    match skip with
    | skip + 1 => takeLongBasic? skip rest
    | 0 =>
      if c = '"' ∧ 2 ≤ quoteCount '"' rest then
        let quotes := min (quoteCount '"' rest + 1) 5
        some (List.replicate (quotes - 3) '"', rest.drop (quotes - 1))
      else if c = '\\' then
        if endsLine rest then takeLongBasic? (spaceLength rest) rest
        else do
          let (meant, length) ← escape? rest
          (takeLongBasic? length rest).map fun (text, rest) => (meant :: text, rest)
      else if c = '\n' ∨ (c = '\r' ∧ startsLine rest) ∨ ¬isControl c then
        (takeLongBasic? 0 rest).map fun (text, rest) => (c :: text, rest)
      else none

def takeLongLiteral? (skip : Nat) : List Char → Option (List Char × List Char)
  | [] => none
  | c :: rest =>
    match skip with
    | skip + 1 => takeLongLiteral? skip rest
    | 0 =>
      if c = '\'' ∧ 2 ≤ quoteCount '\'' rest then
        let quotes := min (quoteCount '\'' rest + 1) 5
        some (List.replicate (quotes - 3) '\'', rest.drop (quotes - 1))
      else if c = '\n' ∨ (c = '\r' ∧ startsLine rest) ∨ ¬isControl c then
        (takeLongLiteral? 0 rest).map fun (text, rest) => (c :: text, rest)
      else none

/-- The line end right after opening quotes, which does not belong to the string. -/
def dropFirstLine : List Char → List Char
  | '\n' :: rest => rest
  | '\r' :: '\n' :: rest => rest
  | text => text

def takeString? : List Char → Option (List Char × List Char)
  | '"' :: '"' :: '"' :: rest => takeLongBasic? 0 (dropFirstLine rest)
  | '\'' :: '\'' :: '\'' :: rest => takeLongLiteral? 0 (dropFirstLine rest)
  | '"' :: rest => takeBasic? 0 rest
  | '\'' :: rest => takeLiteral? rest
  | _ => none

def isBareKey (c : Char) : Bool := c.isAlphanum || c == '_' || c == '-'

/-- One part of a key: bare, or a string on one line. -/
def takeKeyPart? : List Char → Option (List Char × List Char)
  | '"' :: rest => takeBasic? 0 rest
  | '\'' :: rest => takeLiteral? rest
  | text =>
    match text.span isBareKey with
    | ([], _) => none
    | found => some found

def partLimit : Nat := 80

/-- Parts with points between them, `limit` at most. -/
def takeParts? : Nat → List Char → Option (List (List Char) × List Char)
  | 0, _ => none
  | limit + 1, text => do
    let (part, rest) ← takeKeyPart? (skipBlanks text)
    match skipBlanks rest with
    | '.' :: rest => (takeParts? limit rest).map fun (parts, rest) => (part :: parts, rest)
    | rest => some ([part], rest)

/-- A key and what follows it and its blanks. -/
def takeKey? (text : List Char) : Option (List (List Char) × List Char) := takeParts? partLimit text

end Interner.Toml
