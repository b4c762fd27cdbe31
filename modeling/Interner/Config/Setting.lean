import Interner.Number.Binary64
import Interner.Text.Quoted
import Interner.Toml.Document

/-!
Settings: what a source says under a key. Sources are a TOML document and the environment; a key may
name a place inside a list or a map, and those are never a number.
-/

namespace Interner.Config

open Number

inductive Setting where
  | flag (b : Bool)
  | integer (n : Int)
  | real (x : Binary64)
  | text (s : List Char)
  | list
  | map
deriving DecidableEq

/-- A letter in lower case. One letter beyond ASCII has a lower case within ASCII: the Kelvin
sign. -/
def lowerCase (c : Char) : Char := if c = '\u212a' then 'k' else c.toLower

namespace Setting

def truth? (word : List Char) : Option Bool :=
  match String.ofList (word.map lowerCase) with
  | "true" | "on" | "yes" => some true
  | "false" | "off" | "no" => some false
  | _ => none

/-- The counter that a setting means: truth values count one and zero, numbers are rounded, texts are
words for truth values or digits. -/
def counter? : Setting → Option UInt64
  | flag b => some (if b then 1 else 0)
  | integer n => if 0 ≤ n then some (UInt64.ofNat n.toNat) else none
  | real x => some x.toCounter
  | text s =>
    match truth? s with
    | some b => some (if b then 1 else 0)
    | none => Number.counter? s
  | list | map => none

/-- How a setting is named in a complaint. -/
def describe : Setting → String
  | flag b => if b then "boolean `true`" else "boolean `false`"
  | integer n => "64-bit integer `" ++ String.ofList (signedDigits n) ++ "`"
  | real _ => "floating point"
  | text s => "string " ++ String.ofList (Text.quoted s)
  | list => "sequence"
  | map => "map"

def wanted : Setting → String
  | integer _ => "an unsigned 64 bit or less integer"
  | _ => "an integer"

/-- Where a complaint says that a setting of the environment is from. There lists and maps are put
together and come from no one place. -/
def inEnvironment : Setting → String
  | list | map => ""
  | _ => " in the environment"

/-- The setting that a variable of the environment means: the narrowest kind that its value spells. -/
def ofVariable (value : List Char) : Setting :=
  match String.ofList (value.map lowerCase) with
  | "true" => flag true
  | "false" => flag false
  | _ =>
    match (integer? value).filter fitsSigned64 with
    | some n => integer n
    | none =>
      match Binary64.ofText? value with
      | some x => real x
      | none => text value

def ofNode : Toml.Node → Setting
  | .scalar (.boolean b) => flag b
  | .scalar (.integer n) => integer n
  | .scalar (.float x) => real x
  | .scalar (.string s) => text s
  | .scalar (.moment s) => text s
  | .array _ | .tables _ => list
  | .table .. => map

end Setting

def isNameChar (c : Char) : Bool := c.isAlphanum || c == '_' || c == '-'

/-- Whether a text is an integer with blanks around it and a closing bracket. -/
def isSubscript (text : List Char) : Bool :=
  match text.reverse with
  | ']' :: inner =>
    let trimmed := (inner.dropWhile Toml.isBlank).reverse.dropWhile Toml.isBlank
    match trimmed with
    | '+' :: _ => false
    | _ => ((integer? trimmed).filter fitsSigned64).isSome
  | _ => false

/-- A name in a key with its subscripts, of which there may be none: the name, and whether there are
any. -/
def namedPart? (text : List Char) : Option (List Char × Bool) :=
  match text.span isNameChar with
  | ([], _) => none
  | (name, []) => some (name, false)
  | (name, rest) =>
    match rest.splitOnP (· == '[') with
    | [] :: subscripts => if subscripts.all isSubscript then some (name, true) else none
    | _ => none

/-- Where a key leads: to a name, or to a place inside what the name stands for, which then is a list
or a map. A key that is no path of names is a name itself. -/
def resolve (key : List Char) : List Char × Option Setting :=
  match (key.splitOnP (· == '.')).mapM namedPart? with
  | some [(name, false)] => (name, none)
  | some ((name, subscripted) :: _) => (name, some (if subscripted then .list else .map))
  | _ => (key, none)

/-- Where a setting is from. -/
inductive Origin where
  | environment
  | file
deriving DecidableEq

/-- What one source says, in the order in which it is said. -/
abbrev Layer := List (List Char × Setting)

namespace Layer

def assignment (key : List Char) (setting : Setting) : List Char × Setting :=
  let (name, whole) := resolve key
  (name, whole.getD setting)

/-- The setting of a name: the last one given. -/
def find? (layer : Layer) (name : String) : Option Setting :=
  layer.reverse.lookup name.toList

/-- The layer of a TOML document; every entry at its top is a setting. -/
def ofEntries (entries : Toml.Entries) : Layer :=
  entries.map fun (key, node) => assignment key (Setting.ofNode node)

/-- The beginning of the variables that are settings, once they are in lower case. -/
def variableOpening : List Char := "records__".toList

/-- Two underscores divide the names in a variable; in a key that is a point. -/
def pointed : List Char → List Char
  | '_' :: '_' :: rest => '.' :: pointed rest
  | c :: rest => c :: pointed rest
  | [] => []

/-- The key that a variable sets, if its name has the right beginning. Case does not matter. -/
def variableKey? (name : String) : Option (List Char) :=
  let name := name.toList.map lowerCase
  if variableOpening.isPrefixOf name then some (pointed (name.drop variableOpening.length))
  else none

def ofEnvironment (environment : List (String × String)) : Layer :=
  environment.filterMap fun (name, value) =>
    (variableKey? name).map fun key => assignment key (Setting.ofVariable value.toList)

end Layer

end Interner.Config
