import Interner.Number.Digits

/-!
Numbers with 53 binary digits of precision: the one nearest to a decimal number, and the 64-bit
counter nearest to such a number.
-/

namespace Interner.Number

/-- A decimal number: a natural number times a power of ten, with a sign. -/
structure Decimal where
  negative : Bool
  significand : Nat
  exponent : Int
deriving DecidableEq

/-- `finite s m q` stands for `m * 2 ^ q`, negated if `s` holds. -/
inductive Binary64 where
  | finite (negative : Bool) (significand : Nat) (exponent : Int)
  | infinite (negative : Bool)
  | nan
deriving DecidableEq

/-- The whole number nearest to a quotient; of two that are equally near, the even one. -/
def roundToEven (numerator denominator : Nat) : Nat :=
  let quotient := numerator / denominator
  let twice := 2 * (numerator % denominator)
  if denominator < twice || (twice == denominator && quotient % 2 == 1) then quotient + 1
  else quotient

/-- The exponent of the greatest power of two that is not above a quotient. -/
def binaryOrder (numerator denominator : Nat) : Int :=
  let order : Int := numerator.log2 - denominator.log2
  let reached := if 0 ≤ order then denominator <<< order.toNat ≤ numerator
    else denominator ≤ numerator <<< (-order).toNat
  if reached then order else order - 1

/-- The nearest binary number to a quotient that is not zero. The last of its 53 digits, or the
smallest power of two there is, decides where it is rounded. -/
def nearestToQuotient (negative : Bool) (numerator denominator : Nat) : Binary64 :=
  let exponent := max (binaryOrder numerator denominator - 52) (-1074)
  let significand :=
    if 0 ≤ exponent then roundToEven numerator (denominator <<< exponent.toNat)
    else roundToEven (numerator <<< (-exponent).toNat) denominator
  if 971 < exponent || (exponent == 971 && significand == 1 <<< 53) then .infinite negative
  else .finite negative significand exponent

def powerOfTen (n : Nat) : Nat := Nat.pow 10 n

namespace Binary64

/-- The nearest binary number to a decimal one. Numbers far out of range are told by the place of
their first digit. -/
def ofDecimal (d : Decimal) : Binary64 :=
  let order := (digits d.significand).length + d.exponent
  if d.significand = 0 || order < -400 then .finite d.negative 0 0
  else if 400 < order then .infinite d.negative
  else if 0 ≤ d.exponent then
    nearestToQuotient d.negative (d.significand * powerOfTen d.exponent.toNat) 1
  else nearestToQuotient d.negative d.significand (powerOfTen (-d.exponent).toNat)

/-- The nearest counter: a half is rounded up, and what lies out of range becomes the nearest end of
the range. -/
def toCounter : Binary64 → UInt64
  | nan => 0
  | infinite negative => if negative then 0 else 18446744073709551615
  | finite negative significand exponent =>
    if negative then 0
    else
      let whole :=
        if 0 ≤ exponent then significand <<< exponent.toNat
        else (2 * significand + 1 <<< (-exponent).toNat) >>> ((-exponent).toNat + 1)
      UInt64.ofNat (min whole 18446744073709551615)

end Binary64

namespace Decimal

def takeSign : List Char → Bool × List Char
  | '+' :: rest => (false, rest)
  | '-' :: rest => (true, rest)
  | text => (false, text)

def exponent? : List Char → Option Int
  | [] => some 0
  | c :: rest => if c = 'e' ∨ c = 'E' then integer? rest else none

/-- Digits with an optional point, of which one at least is a digit, and an optional exponent. -/
def ofText? (text : List Char) : Option Decimal := do
  let (negative, text) := takeSign text
  let (whole, text) := text.span Char.isDigit
  let (fraction, text) := match text with
    | '.' :: rest => rest.span Char.isDigit
    | _ => ([], text)
  if whole.isEmpty && fraction.isEmpty then none
  else
    let exponent ← exponent? text
    return {
      negative
      significand := Nat.ofDigitChars 10 (whole ++ fraction) 0
      exponent := exponent - fraction.length }

end Decimal

namespace Binary64

/-- Reads a decimal number, or the name of infinity or of no number in any case, after an optional
sign. -/
def ofText? (text : List Char) : Option Binary64 :=
  let (negative, name) := Decimal.takeSign text
  match String.ofList (name.map Char.toLower) with
  | "inf" | "infinity" => some (.infinite negative)
  | "nan" => some .nan
  | _ => (Decimal.ofText? text).map ofDecimal

end Binary64

end Interner.Number
