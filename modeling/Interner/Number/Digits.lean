namespace Interner.Number

/-- What a digit is worth; letters of either case stand for ten and more. -/
def digitValue? (base : Nat) (c : Char) : Option Nat :=
  let value? :=
    if c.isDigit then some (c.toNat - '0'.toNat)
    else if 'a' ≤ c ∧ c ≤ 'f' then some (c.toNat - 'a'.toNat + 10)
    else if 'A' ≤ c ∧ c ≤ 'F' then some (c.toNat - 'A'.toNat + 10)
    else none
  value?.filter (· < base)

def isDigitOf (base : Nat) (c : Char) : Bool := (digitValue? base c).isSome

/-- What a run of digits is worth, the first digit counting most. -/
def ofDigits (base : Nat) (digits : List Char) : Nat :=
  digits.foldl (fun n c => n * base + (digitValue? base c).getD 0) 0

/-- The number that a run of decimal digits spells. -/
def natural? (text : List Char) : Option Nat :=
  if !text.isEmpty && text.all Char.isDigit then some (Nat.ofDigitChars 10 text 0) else none

/-- The integer that decimal digits after an optional sign spell. -/
def integer? : List Char → Option Int
  | '+' :: rest => (natural? rest).map Int.ofNat
  | '-' :: rest => (natural? rest).map fun n => -Int.ofNat n
  | text => (natural? text).map Int.ofNat

/-- Whether an integer fits 64 bits with a sign. -/
def fitsSigned64 (n : Int) : Bool := -9223372036854775808 ≤ n && n ≤ 9223372036854775807

/-- The 64-bit number that decimal digits after an optional plus sign spell. -/
def counter? (text : List Char) : Option UInt64 := do
  let n ← match text with
    | '+' :: rest => natural? rest
    | _ => natural? text
  if n < UInt64.size then some (UInt64.ofNat n) else none

def digits (n : Nat) : List Char := Nat.toDigits 10 n

/-- The decimal digits of an integer, after a minus sign if it is negative. -/
def signedDigits : Int → List Char
  | .ofNat n => digits n
  | .negSucc n => '-' :: digits (n + 1)

def hexDigit (n : Nat) : Char := Nat.digitChar n

end Interner.Number
