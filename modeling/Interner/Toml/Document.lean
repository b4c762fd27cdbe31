import Interner.Toml.Text
import Interner.Toml.Scalar

/-!
TOML documents: tables of tables, built entry by entry. A table may be named by one header only, and
not at all once a dotted key has made or entered it.
-/

namespace Interner.Toml

abbrev Key := List Char

/-- How a table came to be, which decides what may still be added to it. -/
inductive Origin where
  /-- Named by a header. -/
  | header
  /-- On the way to a table that a header names. -/
  | implied
  /-- Made by a dotted key, or entered by one. -/
  | dotted
  /-- Written in braces; nothing can be added. -/
  | closed
deriving DecidableEq

inductive Node where
  | scalar (value : Scalar)
  | array (items : List Node)
  | table (origin : Origin) (entries : List (Key × Node))
  /-- Tables that headers with double brackets name, in order; the last can be added to. -/
  | tables (elements : List (List (Key × Node)))

/-- The entries of a table in the order of their first mention. -/
abbrev Entries := List (Key × Node)

namespace Entries

def find? (entries : Entries) (key : Key) : Option Node := entries.lookup key

/-- Gives a key its value, in place if the key is present. -/
def put (entries : Entries) (key : Key) (node : Node) : Entries :=
  if (entries.find? key).isSome then
    entries.map fun (k, old) => if k = key then (k, node) else (k, old)
  else entries ++ [(key, node)]

/-- Changes the table at a path. Tables that are missing on the way are made, and of tables that one
name stands for the last is meant. By way of dotted keys (`dots`), only tables that no header names
can be entered, and from then on they count as dotted. -/
def alter? (dots : Bool) (change : Origin → Entries → Option (Origin × Entries))
    (origin : Origin) (entries : Entries) : List Key → Option (Origin × Entries)
  | [] => change origin entries
  | key :: path => do
    match entries.find? key with
    | none =>
      let (made, inner) ← alter? dots change (if dots then .dotted else .implied) [] path
      some (origin, entries.put key (.table made inner))
    | some (.table origin' inner) =>
      if origin' = .closed ∨ (dots ∧ origin' = .header) then none
      else
        let (origin', inner) ← alter? dots change (if dots then .dotted else origin') inner path
        some (origin, entries.put key (.table origin' inner))
    | some (.tables elements) =>
      match elements.reverse with
      | [] => none
      | last :: before =>
        let (_, last) ← alter? dots change .header last path
        some (origin, entries.put key (.tables (last :: before).reverse))
    | some _ => none

/-- Adds an entry under a dotted key. The table it goes to must be a dotted one exactly if the key has
dots, and must not have the key yet. -/
def add? (entries : Entries) (origin : Origin) (key : List Key) (node : Node) :
    Option (Origin × Entries) :=
  match key.reverse with
  | [] => none
  | last :: before =>
    alter? true (fun origin entries =>
      if (origin = .dotted ↔ before = []) ∨ (entries.find? last).isSome then none
      else some (origin, entries.put last node)) origin entries before.reverse

/-- Names a table by a header. -/
def openTable? (entries : Entries) (key : List Key) : Option Entries :=
  match key.reverse with
  | [] => none
  | last :: before =>
    (alter? false (fun origin entries =>
      match entries.find? last with
      | none => some (origin, entries.put last (.table .header []))
      | some (.table .implied inner) => some (origin, entries.put last (.table .header inner))
      | some _ => none) .header entries before.reverse).map Prod.snd

/-- Names one more table by a header in double brackets. -/
def openElement? (entries : Entries) (key : List Key) : Option Entries :=
  match key.reverse with
  | [] => none
  | last :: before =>
    (alter? false (fun origin entries =>
      match entries.find? last with
      | none => some (origin, entries.put last (.tables [[]]))
      | some (.tables elements) => some (origin, entries.put last (.tables (elements ++ [[]])))
      | some _ => none) .header entries before.reverse).map Prod.snd

/-- Adds an entry to the table that the last header names. -/
def addUnder? (entries : Entries) (header key : List Key) (node : Node) : Option Entries :=
  (alter? false (fun origin entries => entries.add? origin key node) .header entries header).map
    Prod.snd

end Entries

/-- How deep arrays and tables in braces can lie in one another. -/
def nestingLimit : Nat := 80

mutual

/-- A value and what follows it. There is `room` for so many arrays and tables in one another. -/
def takeValue? : Nat → Nat → List Char → Option (Node × List Char)
  | 0, _, _ => none
  | fuel + 1, room, text =>
    match text with
    | '[' :: rest =>
      match room with
      | 0 => none
      | room + 1 => (takeItems? fuel room rest).map fun (items, rest) => (.array items, rest)
    | '\x7b' :: rest =>
      match room with
      | 0 => none
      | room + 1 => do
        match ← skipTrivia? false rest with
        | '\x7d' :: rest => some (.table .closed [], rest)
        | rest =>
          (takeMembers? fuel room [] rest).map fun (entries, rest) => (.table .closed entries, rest)
    | c :: _ =>
      if c = '"' ∨ c = '\'' then
        (takeString? text).map fun (string, rest) => (.scalar (.string string), rest)
      else (takeScalar? text).map fun (value, rest) => (.scalar value, rest)
    | [] => none

/-- The items of an array up to its closing bracket; a comma may stand before the bracket. -/
def takeItems? : Nat → Nat → List Char → Option (List Node × List Char)
  | 0, _, _ => none
  | fuel + 1, room, text => do
    match ← skipTrivia? false text with
    | ']' :: rest => some ([], rest)
    | rest => do
      let (item, rest) ← takeValue? fuel room rest
      match ← skipTrivia? false rest with
      | ',' :: rest => (takeItems? fuel room rest).map fun (items, rest) => (item :: items, rest)
      | ']' :: rest => some ([item], rest)
      | _ => none

/-- The entries of a table in braces after those found so far. Lines may end around each part of an
entry but not within its key; a comma may stand before the closing brace. -/
def takeMembers? : Nat → Nat → Entries → List Char → Option (Entries × List Char)
  | 0, _, _, _ => none
  | fuel + 1, room, found, text => do
    let (key, rest) ← takeKey? text
    match ← skipTrivia? false rest with
    | '=' :: rest => do
      let (value, rest) ← takeValue? fuel room (← skipTrivia? false rest)
      let (_, found) ← found.add? .header key value
      match ← skipTrivia? false rest with
      | ',' :: rest =>
        match ← skipTrivia? false rest with
        | '\x7d' :: rest => some (found, rest)
        | rest => takeMembers? fuel room found rest
      | '\x7d' :: rest => some (found, rest)
      | _ => none
    | _ => none

end

def closeHeader? (double : Bool) : List Char → Option (List Char)
  | ']' :: rest =>
    if double then
      match rest with
      | ']' :: rest => some rest
      | _ => none
    else some rest
  | _ => none

/-- The entries and headers of a text, after those found so far under the last header. -/
def takeLines? : Nat → Entries → List Key → List Char → Option Entries
  | 0, _, _, _ => none
  | _ + 1, found, _, [] => some found
  | fuel + 1, found, _, '[' :: text => do
    let (double, text) := match text with
      | '[' :: rest => (true, rest)
      | _ => (false, text)
    let (key, rest) ← takeKey? text
    let rest ← endEntry? (← closeHeader? double rest)
    let found ← if double then found.openElement? key else found.openTable? key
    takeLines? fuel found key rest
  | fuel + 1, found, header, text => do
    let (key, rest) ← takeKey? text
    match rest with
    | '=' :: rest => do
      let (value, rest) ← takeValue? (2 * text.length + 2) nestingLimit (skipBlanks rest)
      let rest ← endEntry? rest
      takeLines? fuel (← found.addUnder? header key value) header rest
    | _ => none

def parse? (text : List Char) : Option Entries := do
  let text := dropMark text
  takeLines? (text.length + 1) [] [] (← skipTrivia? false text)

end Interner.Toml
