import Interner.Number.Digits

/-!
JSON values as they are written: numbers keep their literal, strings keep what stands between the
quotes. What a string means is found by resolving its escapes, which can fail.
-/

namespace Interner.Json

/-- A JSON value. Names of members are raw strings too; a name may occur more than once. -/
inductive Value where
  | null
  | boolean (b : Bool)
  | number (literal : List Char)
  | string (raw : List Char)
  | array (items : List Value)
  | object (members : List (List Char × Value))

/-- A part of a string: a character, or a UTF-16 unit given by its code. -/
inductive Piece where
  | plain (c : Char)
  | unit (code : Nat)
deriving DecidableEq

namespace Piece

def isHigh (code : Nat) : Bool := 0xD800 ≤ code && code < 0xDC00

def isLow (code : Nat) : Bool := 0xDC00 ≤ code && code < 0xE000

/-- The character of a high and a low unit. -/
def pair (high low : Nat) : Char :=
  Char.ofNat (0x10000 + (high - 0xD800) * 0x400 + (low - 0xDC00))

/-- The characters of a string; units from the surrogate range have to come in pairs. -/
def join? : List Piece → Option (List Char)
  | [] => some []
  | plain c :: rest => (join? rest).map (c :: ·)
  | unit high :: unit low :: rest =>
    if isHigh high then
      if isLow low then (join? rest).map (pair high low :: ·) else none
    else if isLow high then none
    else (join? (unit low :: rest)).map (Char.ofNat high :: ·)
  | unit code :: rest =>
    if isHigh code || isLow code then none else (join? rest).map (Char.ofNat code :: ·)

end Piece

/-- The character that a one-letter escape stands for. -/
def letterEscape? : Char → Option Char
  | '"' => some '"'
  | '\\' => some '\\'
  | '/' => some '/'
  | 'b' => some '\x08'
  | 'f' => some '\x0c'
  | 'n' => some '\n'
  | 'r' => some '\r'
  | 't' => some '\t'
  | _ => none

/-- The parts of a raw string. Control characters and quotes do not stand for themselves. -/
def pieces? : List Char → Option (List Piece)
  | [] => some []
  | '\\' :: 'u' :: a :: b :: c :: d :: rest =>
    if [a, b, c, d].all (Number.isDigitOf 16) then
      (pieces? rest).map (.unit (Number.ofDigits 16 [a, b, c, d]) :: ·)
    else none
  | '\\' :: letter :: rest => do
    let c ← letterEscape? letter
    (pieces? rest).map (.plain c :: ·)
  | c :: rest =>
    if c = '"' ∨ c = '\\' ∨ c.toNat < 0x20 then none
    else (pieces? rest).map (.plain c :: ·)

/-- What a raw string means. -/
def unescape? (raw : List Char) : Option (List Char) := (pieces? raw).bind Piece.join?

/-- How a character is written inside quotes. -/
def escapeChar (c : Char) : List Char :=
  match c with
  | '"' => ['\\', '"']
  | '\\' => ['\\', '\\']
  | '\x08' => ['\\', 'b']
  | '\x0c' => ['\\', 'f']
  | '\n' => ['\\', 'n']
  | '\r' => ['\\', 'r']
  | '\t' => ['\\', 't']
  | _ =>
    if c.toNat < 0x20 then
      ['\\', 'u', '0', '0', Number.hexDigit (c.toNat / 16), Number.hexDigit (c.toNat % 16)]
    else [c]

/-- How a text is written inside quotes. -/
def escape (text : List Char) : List Char := text.flatMap escapeChar

namespace Value

def ofText (text : String) : Value := string (escape text.toList)

def ofNat (n : Nat) : Value := number (Number.digits n)

def ofInt (n : Int) : Value := number (Number.signedDigits n)

/-- The value of a number that is written with digits only and fits 64 bits. -/
def counter? : Value → Option UInt64
  | number literal => do
    let n ← Number.natural? literal
    if n < UInt64.size then some (UInt64.ofNat n) else none
  | _ => none

end Value

end Interner.Json
