import Interner.Config
import Interner.Config.Setting

/-!
Loading a configuration. What the environment says counts before what a file says, and that before
the defaults, for each field by itself; the result must be accepted.
-/

namespace Interner.Config

abbrev Environment := List (String × String)

inductive LoadError where
  | malformedFile
  | unsuitable (origin : Origin) (name : String) (setting : Setting)
  | rejected (cause : ConfigError)
deriving DecidableEq

/-- The complaint that is shown. Complaints about a file quote its path or the reader of its text, and
are left out. -/
def LoadError.message? : LoadError → Option String
  | malformedFile | unsuitable .file .. => none
  | unsuitable .environment name setting =>
      some ("Configuration error: invalid type: " ++ setting.describe ++
        ", expected " ++ setting.wanted ++ " for key `" ++ name ++ "`" ++ setting.inEnvironment)
  | rejected cause => some (RecordError.config cause).message

/-- What the first of several layers that speaks about a name says, and where that is from. -/
def said? (layers : List (Origin × Layer)) (name : String) : Option (Origin × Setting) :=
  layers.findSome? fun (origin, layer) => (layer.find? name).map (origin, ·)

/-- A field as the first of several layers that speaks about it says. -/
def field (layers : List (Origin × Layer)) (name : String) (default : UInt64) :
    Except LoadError UInt64 :=
  match said? layers name with
  | none => .ok default
  | some (origin, setting) =>
    match setting.counter? with
    | some n => .ok n
    | none => .error (.unsuitable origin name setting)

def ofLayers (layers : List (Origin × Layer)) : Except LoadError Config := do
  let default : Config := {}
  let blockSize ← field layers "block_size" default.blockSize
  let maxRecords ← field layers "max_records" default.maxRecords
  let config : Config := { blockSize, maxRecords }
  config.accept.mapError .rejected
  return config

def ofEnvironment (environment : Environment) : Except LoadError Config :=
  ofLayers [(.environment, Layer.ofEnvironment environment)]

/-- The configuration that a file, if there is one, and the environment describe. A byte order mark
belongs to the file and not to the document in it. -/
def load (file : Option String) (environment : Environment) : Except LoadError Config :=
  match file with
  | none => ofEnvironment environment
  | some text =>
    match Toml.parse? (Toml.dropMark text.toList) with
    | none => .error .malformedFile
    | some entries =>
      ofLayers [(.environment, Layer.ofEnvironment environment), (.file, Layer.ofEntries entries)]

end Interner.Config
