import Interner.Number.Binary64

/-!
TOML values without quotes or brackets: truth values, whole numbers, numbers with a fraction, dates
and times.
-/

namespace Interner.Toml

open Number

inductive Scalar where
  | boolean (b : Bool)
  | integer (n : Int)
  | float (x : Binary64)
  | string (text : List Char)
  /-- A date, a time, or both, as it is written. -/
  | moment (text : List Char)
deriving DecidableEq

/-- Takes out the underscores, each of which must stand between two digits. -/
def ungroup? (isDigit : Char → Bool) : List Char → Option (List Char)
  | [] => none
  | [c] => if isDigit c then some [c] else none
  | c :: '_' :: rest => if isDigit c then (ungroup? isDigit rest).map (c :: ·) else none
  | c :: rest => if isDigit c then (ungroup? isDigit rest).map (c :: ·) else none

/-- Decimal digits that begin with zero only if zero is all there is. -/
def plainDigits? (text : List Char) : Option (List Char) :=
  match ungroup? Char.isDigit text with
  | some ('0' :: _ :: _) => none
  | found => found

/-- Digits of a base that is a power of two, after the mark of the base. -/
def based? (base : Nat) (text : List Char) : Option Int :=
  (ungroup? (isDigitOf base) text).map fun ds => Int.ofNat (ofDigits base ds)

/-- A whole number in base ten, sixteen, eight or two that fits 64 bits; only in base ten it may have a
sign. -/
def integerOfText? (text : List Char) : Option Int := do
  let n ← match text with
    | '0' :: 'x' :: rest => based? 16 rest
    | '0' :: 'o' :: rest => based? 8 rest
    | '0' :: 'b' :: rest => based? 2 rest
    | _ =>
      let (negative, rest) := Decimal.takeSign text
      (plainDigits? rest).map fun ds =>
        let n := Int.ofNat (Nat.ofDigitChars 10 ds 0)
        if negative then -n else n
  if fitsSigned64 n then some n else none

def isGrouped (c : Char) : Bool := c.isDigit || c == '_'

def fraction? : List Char → Option (List Char × List Char)
  | '.' :: rest =>
    let (ds, rest) := rest.span isGrouped
    (ungroup? Char.isDigit ds).map (·, rest)
  | text => some ([], text)

/-- The exponent that closes a number, zero if there is none. -/
def exponent? : List Char → Option Int
  | [] => some 0
  | c :: rest =>
    if c = 'e' ∨ c = 'E' then
      let (negative, ds) := Decimal.takeSign rest
      (ungroup? Char.isDigit ds).map fun ds =>
        let n := Int.ofNat (Nat.ofDigitChars 10 ds 0)
        if negative then -n else n
    else none

/-- A number with a fraction or an exponent. It must not be so large that it rounds to infinity;
infinity itself has a name. -/
def floatOfText? (text : List Char) : Option Binary64 :=
  let (negative, unsigned) := Decimal.takeSign text
  match unsigned with
  | ['i', 'n', 'f'] => some (.infinite negative)
  | ['n', 'a', 'n'] => some .nan
  | _ => do
    let (whole, rest) := unsigned.span isGrouped
    let whole ← plainDigits? whole
    if rest.isEmpty then none
    else
      let (fraction, rest) ← fraction? rest
      let exponent ← exponent? rest
      match Binary64.ofDecimal {
          negative
          significand := Nat.ofDigitChars 10 (whole ++ fraction) 0
          exponent := exponent - fraction.length } with
      | .infinite _ => none
      | x => some x

/-- A number written in a fixed count of digits, and what follows it. -/
def takeFixed? (count : Nat) (text : List Char) : Option (Nat × List Char) :=
  let ds := text.take count
  if ds.length = count ∧ ds.all Char.isDigit then
    some (Nat.ofDigitChars 10 ds 0, text.drop count)
  else none

def isLeap (year : Nat) : Bool := year % 4 == 0 && (year % 100 != 0 || year % 400 == 0)

def daysIn (year month : Nat) : Nat :=
  if month = 2 then if isLeap year then 29 else 28
  else if month = 4 ∨ month = 6 ∨ month = 9 ∨ month = 11 then 30
  else 31

def takeDate? (text : List Char) : Option (List Char) := do
  let (year, rest) ← takeFixed? 4 text
  match rest with
  | '-' :: rest => do
    let (month, rest) ← takeFixed? 2 rest
    match rest with
    | '-' :: rest => do
      let (day, rest) ← takeFixed? 2 rest
      if 1 ≤ month ∧ month ≤ 12 ∧ 1 ≤ day ∧ day ≤ daysIn year month then some rest else none
    | _ => none
  | _ => none

/-- Hours and minutes with a colon between them, and what follows. -/
def takeClock? (text : List Char) : Option (List Char) := do
  let (hour, rest) ← takeFixed? 2 text
  match rest with
  | ':' :: rest => do
    let (minute, rest) ← takeFixed? 2 rest
    if hour ≤ 23 ∧ minute ≤ 59 then some rest else none
  | _ => none

/-- A time of day, and what follows it. Seconds and their fraction may be left out. -/
def takeTime? (text : List Char) : Option (List Char) := do
  match ← takeClock? text with
  | ':' :: rest => do
    let (second, rest) ← takeFixed? 2 rest
    if 60 < second then none
    else
      match rest with
      | '.' :: rest =>
        match rest.span Char.isDigit with
        | ([], _) => none
        | (_, rest) => some rest
      | _ => some rest
  | rest => some rest

/-- Whether a text is the distance of a time from universal time, or nothing. -/
def isOffset : List Char → Bool
  | [] => true
  | [c] => c == 'Z' || c == 'z'
  | c :: rest => (c == '+' || c == '-') && takeClock? rest == some []

/-- Whether a text is a time, a date, or a date with a time and perhaps an offset. -/
def isMoment (text : List Char) : Bool :=
  match takeDate? text with
  | none => takeTime? text == some []
  | some [] => true
  | some (c :: rest) =>
    (c == 'T' || c == 't' || c == ' ') &&
      match takeTime? rest with
      | some rest => isOffset rest
      | none => false

/-- The value that a whole text spells. -/
def Scalar.ofText? (text : List Char) : Option Scalar :=
  match text with
  | ['t', 'r', 'u', 'e'] => some (.boolean true)
  | ['f', 'a', 'l', 's', 'e'] => some (.boolean false)
  | _ =>
    match integerOfText? text with
    | some n => some (.integer n)
    | none =>
      match floatOfText? text with
      | some x => some (.float x)
      | none => if isMoment text then some (.moment text) else none

/-- The characters of values without quotes or brackets. -/
def isAtom (c : Char) : Bool :=
  c.isAlphanum || c == '_' || c == '+' || c == '-' || c == '.' || c == ':'

/-- A value without quotes or brackets, and what follows it. A blank may stand between a date and a
time. -/
def takeScalar? (text : List Char) : Option (Scalar × List Char) :=
  let (atom, rest) := text.span isAtom
  match takeDate? atom, rest with
  | some [], ' ' :: c :: more =>
    if c.isDigit then
      let (time, rest) := (c :: more).span isAtom
      (Scalar.ofText? (atom ++ ' ' :: time)).map (·, rest)
    else (Scalar.ofText? atom).map (·, rest)
  | _, _ => (Scalar.ofText? atom).map (·, rest)

end Interner.Toml
