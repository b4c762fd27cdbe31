import Interner.Pattern.Brackets
import Interner.Text.Alphanumeric

namespace Interner.Pattern

def Switch.ofLetter? : Char → Option Switch
  | 'i' => some caseless
  | 'm' => some manyLines
  | 's' => some dotTakesAll
  | 'U' => some frugal
  | 'u' => some characters
  | 'R' => some carriageReturns
  | 'x' => some spaced
  | _ => none

/-- Switches behind those found so far, up to a colon or a closing parenthesis: the switches, that
character, and what follows it. Those behind a hyphen are turned off. No switch occurs twice, and a
hyphen has a switch behind it. -/
def takeSwitches? (found : Switches) (negated dangling : Bool) :
    List Char → Option (Switches × Char × List Char)
  | [] => none
  | c :: rest =>
    if c = ':' ∨ c = ')' then if dangling then none else some (found, c, rest)
    else if c = '-' then if negated then none else takeSwitches? found true true rest
    else do
      let switch ← Switch.ofLetter? c
      if switch ∈ found.on ∨ switch ∈ found.off then none
      else
        let found :=
          if negated then { found with off := switch :: found.off }
          else { found with on := switch :: found.on }
        takeSwitches? found negated false rest

def isGroupName : List Char → Bool
  | [] => false
  | c :: rest =>
    (c == '_' || Text.isAlphabetic c) &&
      rest.all fun c => c == '_' || c == '.' || c == '[' || c == ']' || Text.isAlphanumeric c

inductive Opening where
  /-- No group: switches are turned for the rest of the group around it. -/
  | turn (switches : Switches)
  | group (switches : Switches)
  | named (name : List Char)

/-- The name of a group up to its closing mark. -/
def takeName? (text : List Char) : Option (Opening × List Char) :=
  match text.span (· != '>') with
  | (name, '>' :: rest) => if isGroupName name then some (.named name, rest) else none
  | _ => none

/-- What stands behind an opening parenthesis. A group cannot look ahead or back. -/
def takeOpening? : List Char → Option (Opening × List Char)
  | '?' :: '<' :: '=' :: _ | '?' :: '<' :: '!' :: _ => none
  | '?' :: '<' :: rest | '?' :: 'P' :: '<' :: rest => takeName? rest
  | '?' :: rest => do
    let (switches, c, rest) ← takeSwitches? {} false false rest
    if c = ':' then some (.group switches, rest)
    else if switches.isEmpty then none
    else some (.turn switches, rest)
  | rest => some (.group {}, rest)

/-- What has been read of a group: its branches and the parts of the branch being read, each with the
last first. The names of groups are those of the whole pattern so far. -/
structure Progress where
  spaced : Bool := false
  names : List (List Char) := []
  branches : List Pattern := []
  parts : List Pattern := []

namespace Progress

def add (p : Progress) (part : Pattern) : Progress := { p with parts := part :: p.parts }

def closeBranch (p : Progress) : Progress :=
  { p with branches := .sequence p.parts.reverse :: p.branches, parts := [] }

def toPattern (p : Progress) : Pattern := .choice p.closeBranch.branches.reverse

def repeatLast? (p : Progress) : Option Progress :=
  match p.parts with
  | [] => none
  | last :: before =>
    if last.isRepeatable then some { p with parts := .repetition last :: before } else none

/-- The beginning of a group inside: its switches, and what is read of it, unless its name is taken. -/
def enter? (p : Progress) : Opening → Option (Switches × Progress)
  | .turn _ => none
  | .group switches =>
    some (switches, { spaced := switches.apply .spaced p.spaced, names := p.names })
  | .named name =>
    if name ∈ p.names then none else some ({}, { spaced := p.spaced, names := name :: p.names })

end Progress

/-- One part that is no group, no set and no repetition. -/
def takePart? (spaced : Bool) : List Char → Option (Pattern × List Char)
  | [] => none
  | '\\' :: rest => (Escape.take? spaced rest).map fun (escape, rest) => (escape.toPattern, rest)
  | '.' :: rest => some (.dot, rest)
  | '^' :: rest | '$' :: rest => some (.edge, rest)
  | c :: rest => some (.literal { char := c }, rest)

/-- Reads the rest of a group, up to its closing parenthesis or the end of the text. A count of
repetitions has no place in a pattern, as it would need a closing brace. -/
def takeGroup? : Nat → Progress → List Char → Option (Progress × List Char)
  | 0, _, _ => none
  | fuel + 1, p, text =>
    match skip p.spaced text with
    | [] => some (p, [])
    | c :: rest =>
      if c = ')' then some (p, c :: rest)
      else if c = '|' then takeGroup? fuel p.closeBranch rest
      else if c = '(' then do
        match ← takeOpening? (skip p.spaced rest) with
        | (.turn switches, rest) =>
          takeGroup? fuel
            { p.add (.turn switches) with spaced := switches.apply .spaced p.spaced } rest
        | (opening, rest) =>
          let (switches, inner) ← p.enter? opening
          match ← takeGroup? fuel inner rest with
          | (inner, _ :: rest) =>
            takeGroup? fuel { p.add (.group switches inner.toPattern) with names := inner.names } rest
          | (_, []) => none
      else if c = '[' then do
        let (negated, set, rest) ← takeSet? p.spaced fuel rest
        takeGroup? fuel (p.add (.brackets negated set)) rest
      else if c = '?' ∨ c = '*' ∨ c = '+' then do
        let rest := match rest with
          | '?' :: behind => behind
          | _ => rest
        takeGroup? fuel (← p.repeatLast?) rest
      else if c = '\x7b' then none
      else do
        let (part, rest) ← takePart? p.spaced (c :: rest)
        takeGroup? fuel (p.add part) rest

def ofText? (text : List Char) : Option Pattern :=
  match takeGroup? (text.length + 1) {} text with
  | some (p, []) => some p.toPattern
  | _ => none

end Interner.Pattern
