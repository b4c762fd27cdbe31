import Interner.Event
import Interner.Number.Binary64
import Interner.Pattern.Support
import Interner.Text.Alphanumeric
import Interner.Text.Blank

/-!
Directives: the pieces of a filter. A directive says how verbose a part of the library may be, and may
narrow that down to events inside a named span or events with certain fields.
-/

namespace Interner.Event

structure FieldMatch where
  name : List Char
  /-- The field must also have a value of this form. -/
  value : Option (List Char)
deriving DecidableEq

/-- One piece of a filter: events whose target begins with `target` and that have all `fields` pass up
to `verbosity`. Verbosity zero lets nothing pass. -/
structure Directive where
  target : List Char := []
  span : Option (List Char) := none
  fields : List FieldMatch := []
  verbosity : Nat := 5
deriving DecidableEq

namespace Directive

inductive Flaw where
  | malformed
  /-- A part of it would begin or end within a character. -/
  | torn (fault : Fault)
deriving DecidableEq

/-- Verbosities have names in any case, and digits; a digit may follow zeros and one plus sign. -/
def verbosity? (text : List Char) : Option Nat :=
  let digits := match text with
    | '+' :: rest => rest
    | _ => text
  if !digits.isEmpty && digits.all Char.isDigit then
    let n := Nat.ofDigitChars 10 digits 0
    if n ≤ 5 then some n else none
  else
    match String.ofList (text.map Char.toLower) with
    | "off" => some 0
    | "error" => some 1
    | "warn" => some 2
    | "info" => some 3
    | "debug" => some 4
    | "trace" => some 5
    | _ => none

def opensTarget (c : Char) : Bool := c == '-' || c == ':' || c == '_' || Text.isAlphanumeric c

/-- The part of a directive that is being read, with the place where it begins. -/
inductive Part where
  | opening
  /-- A target, or a verbosity that stands alone. -/
  | target (first : Nat)
  | span (first : Nat)
  | field (first : Nat)
  | fieldsClosed
  | spanClosed
  | verbosity (first : Nat)

def part (whole : List Char) (first last : Nat) : Except Flaw (List Char) :=
  (Text.slice whole first last).mapError fun torn => .torn (.tornCharacter torn)

def lastPart (whole : List Char) (first : Nat) : Except Flaw (List Char) :=
  (Text.behind whole first).mapError fun torn => .torn (.tornCharacter torn)

/-- The field that a text names, or names with a value behind an equality sign. -/
def fieldMatch (text : List Char) : Except Flaw FieldMatch :=
  match text.splitOnP (· == '=') with
  | [] => .error .malformed
  | [name] => if name.isEmpty then .error .malformed else .ok { name, value := none }
  | name :: value :: _ =>
    if (Number.Binary64.ofText? value).isSome || Pattern.isUsable value then
      .ok { name, value := some value }
    else .error .malformed

/-- Closes a directive whose text ends within the given part. -/
def close (whole : List Char) (d : Directive) : Part → Except Flaw Directive
  | .target first => do
    let text ← lastPart whole first
    return match verbosity? text with
      | some v => { d with verbosity := v }
      | none => { d with target := text }
  | .verbosity first => do
    match ← lastPart whole first with
    | [] => return d
    | text =>
      match verbosity? text with
      | some v => return { d with verbosity := v }
      | none => throw .malformed
  | .spanClosed => return d
  | .opening | .span _ | .field _ | .fieldsClosed => throw .malformed

/-- Reads a directive from a place on, after what has been read of it. -/
def read (whole : List Char) (d : Directive) (current : Part) (place : Nat) :
    List Char → Except Flaw Directive
  | [] => close whole d current
  | c :: rest =>
    let next := place + c.utf8Size
    match current with
    | .opening =>
      if c = '[' then read whole d (.span next) next rest
      else if opensTarget c then read whole d (.target place) next rest
      else throw .malformed
    | .target first =>
      if c = '=' then do
        read whole { d with target := ← part whole first place } (.verbosity next) next rest
      else if c = '[' then do
        read whole { d with target := ← part whole first place } (.span next) next rest
      else read whole d current next rest
    | .span first =>
      if c = ']' then do
        read whole { d with span := some (← part whole first place) } .spanClosed next rest
      else if c = '\x7b' then do
        let name ← part whole first place
        read whole { d with span := if name.isEmpty then none else some name } (.field next) next rest
      else read whole d current next rest
    | .field first =>
      if c = '\x7d' then do
        let field ← fieldMatch (← part whole first place)
        read whole { d with fields := d.fields ++ [field] } .fieldsClosed next rest
      else read whole d current next rest
    | .fieldsClosed => if c = ']' then read whole d .spanClosed next rest else throw .malformed
    | .spanClosed => if c = '=' then read whole d (.verbosity next) next rest else throw .malformed
    | .verbosity _ => read whole d current next rest

/-- Reads `VERBOSITY`, or `TARGET[SPAN{FIELD}]=VERBOSITY` of which much may be left out; without a
verbosity everything passes. Places are counted without the blanks in front, but parts are taken from
the text with them. -/
def ofText (text : List Char) : Except Flaw Directive := read text {} .opening 0 (Text.trim text)

/-- Whether the directive speaks about an event. There are no spans, and fields have no value until the
event is written, so directives that ask for either speak about none. -/
def concerns (d : Directive) (e : Event) : Bool :=
  d.span.isNone && d.fields.all (·.value.isNone) && d.target.isPrefixOf e.target.toList &&
    d.fields.all fun field => e.fieldNames.contains (String.ofList field.name)

/-- Whether the first of two directives says as much as the second: it has the longer target, or as
long a target and more fields, or as many fields and those do not come before the others. -/
def weighs (d other : Directive) : Bool :=
  other.target.length < d.target.length ||
    other.target.length == d.target.length &&
      (other.fields.length < d.fields.length ||
        other.fields.length == d.fields.length &&
          (compare (other.fields.map (·.name)) (d.fields.map (·.name))).isLE)

end Directive

end Interner.Event
