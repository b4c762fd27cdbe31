import Interner.Pattern.Escape

namespace Interner.Pattern

def setNames : List String :=
  ["alnum", "alpha", "ascii", "blank", "cntrl", "digit", "graph", "lower", "print", "punct",
    "space", "upper", "word", "xdigit"]

/-- A named set behind its opening bracket: whether it is negated, and what follows it. -/
def takeNamed? : List Char → Option (Bool × List Char)
  | ':' :: text =>
    let (negated, text) := match text with
      | '^' :: rest => (true, rest)
      | _ => (false, text)
    match text.span (· != ':') with
    | (name, ':' :: ']' :: rest) =>
      if setNames.contains (String.ofList name) then some (negated, rest) else none
    | _ => none
  | _ => none

/-- An item that is one character or one escape. -/
def takeMember? (spaced : Bool) : List Char → Option (Escape × List Char)
  | [] => none
  | '\\' :: rest => Escape.take? spaced rest
  | c :: rest => some (.literal { char := c }, rest)

/-- The character behind a hyphen that decides whether the hyphen makes a range. Blanks do not count,
and one `#` does not. -/
def lookAhead? (spaced : Bool) (text : List Char) : Option Char :=
  if spaced then
    match text.dropWhile Text.isBlank with
    | '#' :: rest => (rest.dropWhile Text.isBlank).head?
    | rest => rest.head?
  else text.head?

/-- An item, or a range of two characters that are in order. A hyphen before a closing bracket or
before another hyphen makes no range. -/
def takeItem? (spaced : Bool) (text : List Char) : Option (SetItem × List Char) := do
  let (first, rest) ← takeMember? spaced text
  match skip spaced rest with
  | '-' :: behind =>
    if lookAhead? spaced behind = some ']' ∨ lookAhead? spaced behind = some '-' then
      return (← first.toItem?, '-' :: behind)
    else
      match first, ← takeMember? spaced (skip spaced behind) with
      | .literal first, (.literal last, rest) =>
        if first.char ≤ last.char then some (.range first last, rest) else none
      | _, _ => none
  | rest => return (← first.toItem?, rest)

/-- The set that items make, the last first, behind an operation if there was one. -/
def closeItems (left : Option CharSet) (items : List SetItem) : CharSet :=
  let right : CharSet := .items items.reverse
  match left with
  | some left => .operation left right
  | none => right

mutual

/-- A set behind its opening bracket: whether it is negated, the set, and what follows it. -/
def takeSet? (spaced : Bool) : Nat → List Char → Option (Bool × CharSet × List Char)
  | 0, _ => none
  | fuel + 1, text =>
    let text := skip spaced text
    let (negated, text) := match text with
      | '^' :: rest => (true, rest)
      | _ => (false, text)
    (takeItems? spaced fuel true none [] text).map fun (set, rest) => (negated, set, rest)

/-- The items up to the closing bracket, after those found so far. At the opening of a set hyphens
stand for themselves, and so does a closing bracket that is the first item. -/
def takeItems? (spaced : Bool) :
    Nat → Bool → Option CharSet → List SetItem → List Char → Option (CharSet × List Char)
  | 0, _, _, _, _ => none
  | fuel + 1, opening, left, items, text =>
    let add (opening : Bool) (item : SetItem) (rest : List Char) : Option (CharSet × List Char) :=
      takeItems? spaced fuel opening left (item :: items) rest
    match skip spaced text with
    | [] => none
    | c :: rest =>
      if opening ∧ c = '-' then add true (.literal { char := c }) rest
      else if opening ∧ c = ']' ∧ items.isEmpty then add false (.literal { char := c }) rest
      else if c = ']' then some (closeItems left items, rest)
      else if c = '[' then
        match takeNamed? rest with
        | some (negated, rest) => add false (.named negated) rest
        | none => do
          let (negated, set, rest) ← takeSet? spaced fuel rest
          add false (.nested negated set) rest
      else if (c = '&' ∨ c = '-' ∨ c = '~') ∧ rest.head? = some c then
        takeItems? spaced fuel false (some (closeItems left items)) [] rest.tail
      else do
        let (item, rest) ← takeItem? spaced (c :: rest)
        add false item rest

end

end Interner.Pattern
