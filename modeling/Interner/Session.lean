import Interner.Config.Load
import Interner.Event.Filter
import Interner.Session.InventoryStep
import Interner.Session.RegistryStep
import Interner.Session.StoreStep

/-!
Sessions: named objects of every kind, one account of the memory that all tables take, one registry
that needs no name, and a logger that can be installed once. A session is driven by steps; each gives
a reply and reports events.
-/

namespace Interner

namespace Session

/-- Which registry a step means: one that was named, or the one that the process has without
asking. -/
inductive RegistryRef where
  | named (id : String)
  | process

/-- Which intern table a step means: one of its own, or a registry's table of a type. -/
inductive TableRef where
  | own (id : String)
  | filed (registry : RegistryRef) (type : RecordType)

/-- Which inventory a step means: one of its own, or that of a registry. -/
inductive InventoryRef where
  | own (id : String)
  | of (registry : RegistryRef)

inductive AccountStep where
  | add (category : Memory.Category) (items bytes : UInt64)
  | remove (category : Memory.Category) (items bytes : UInt64)
  | usage (category : Memory.Category)
  | touched

inductive Step where
  | openTable (id : String) (type : RecordType) (config : Config)
  | dropTable (id : String)
  | table (ref : TableRef) (step : TableStep)
  | memory
  | openRegistry (id : String) (config : Config)
  /-- Opens a registry with the configuration that is used when nothing else is said. -/
  | openUsualRegistry (id : String)
  | registry (ref : RegistryRef) (step : RegistryStep)
  | openInventory (id : String)
  | copyInventory (source : InventoryRef) (id : String)
  | addRecord (id : String) (shape : Shape) (h : Handle) (fields : Record)
  | exportTable (id : String) (source : TableRef)
  | inventory (ref : InventoryRef) (query : InventoryQuery)
  | openStore (id : String) (kind : ItemKind) (blockSize capacity : Nat)
  | dropStore (id : String)
  | store (id : String) (step : StoreStep)
  | openAccount (id : String)
  | account (id : String) (step : AccountStep)
  | installLogger (filter : String)

end Session

open Session

structure Session where
  environment : Config.Environment := []
  tables : Std.ExtTreeMap String InternTable := ∅
  registries : Std.ExtTreeMap String Registry := ∅
  inventories : Std.ExtTreeMap String Inventory := ∅
  stores : Std.ExtTreeMap String Store := ∅
  accounts : Std.ExtTreeMap String Memory.Account := ∅
  /-- The registry of the process, once it has been asked for. -/
  processRegistry : Option Registry := none
  memory : Memory.Account := {}
  logger : Option Event.Filter := none
  written : List Event := []

namespace Session

/-- The registry that a process has without asking: configured by the environment, or, with a
warning, in the usual way if the environment does not describe a configuration. -/
def makeProcessRegistry (environment : Config.Environment) : Registry × List Event :=
  match Config.ofEnvironment environment with
  | .ok config => ({ config }, [])
  | .error cause => (Registry.usual, (cause.message?.map Event.configRejected).toList)

/-- A registry, which for the process is made at its first use. -/
def registry? (s : Session) : RegistryRef → Option (Registry × List Event)
  | .named id => (s.registries[id]?).map (·, [])
  | .process =>
    match s.processRegistry with
    | some g => some (g, [])
    | none => some (makeProcessRegistry s.environment)

def putRegistry (s : Session) (ref : RegistryRef) (g : Registry) : Session :=
  match ref with
  | .named id => { s with registries := s.registries.insert id g }
  | .process => { s with processRegistry := some g }

def charge (s : Session) (charges : List Memory.Charge) : Session :=
  { s with memory := charges.foldl Memory.Account.take s.memory }

def giveBack (s : Session) (charges : List Memory.Charge) : Session :=
  { s with memory := charges.foldl Memory.Account.giveBack s.memory }

/-- The session after a run on one of its parts. -/
def after {σ : Type} (s : Session) (put : Session → σ → Session) (run : Run σ Reply) :
    Run Session Reply :=
  run.within fun part => (put s part).charge run.charges

def unknown (s : Session) : Run Session Reply :=
  { answer := .error .unknownObject, state := s }

/-- Performs a step on a registry. A step that is refused before it needs the registry does not have
it made. -/
def onRegistry (s : Session) (ref : RegistryRef) (step : RegistryStep) : Run Session Reply :=
  match s.registry? ref, step.refusal? with
  | none, _ => s.unknown
  | some _, some cause => { answer := .error (.error cause), state := s }
  | some (g, events), none =>
    let run := s.after (·.putRegistry ref ·) (step.perform g)
    { run with events := events ++ run.events }

def onTable (s : Session) (ref : TableRef) (step : TableStep) : Run Session Reply :=
  match ref with
  | .own id =>
    match s.tables[id]? with
    | none => s.unknown
    | some t =>
      s.after (fun s t => { s with tables := s.tables.insert id t }) (step.perform t)
  | .filed registry type => s.onRegistry registry (.table type step)

/-- The inventory of a registry, or one of the session's own, with the session after looking at
it. -/
def inventory? (s : Session) (ref : InventoryRef) : Option (Run Session (Except Fault Inventory)) :=
  match ref with
  | .own id => (s.inventories[id]?).map fun v => { answer := .ok v, state := s }
  | .of registry =>
    (s.registry? registry).map fun (g, events) =>
      match g.inventory with
      | .error fault => { answer := .error fault, state := s.putRegistry registry g, events := events }
      | .ok (v, g, more) =>
        { answer := .ok v, state := s.putRegistry registry g, events := events ++ more }

/-- The table that is exported, with the session after asking for it. -/
def source? (s : Session) (ref : TableRef) : Option (Run Session (Except Fault InternTable)) :=
  match ref with
  | .own id => (s.tables[id]?).map fun t => { answer := .ok t, state := s }
  | .filed registry type =>
    (s.registry? registry).map fun (g, events) =>
      match g.request type with
      | .error fault => { answer := .error fault, state := s.putRegistry registry g, events := events }
      | .ok (t, g, more) =>
        { answer := .ok t, state := s.putRegistry registry g, events := events ++ more }

def enter (s : Session) (id : String) (change : Inventory → Except Fault (Inventory × List Event)) :
    Run Session Reply :=
  match s.inventories[id]? with
  | none => s.unknown
  | some v =>
    match change v with
    | .error fault => { answer := .error (.fault fault), state := s }
    | .ok (v, events) =>
      { answer := .ok .done, state := { s with inventories := s.inventories.insert id v },
        events := events }

/-- Puts a new table in the place of an older one, whose memory is given back. -/
def openTable (s : Session) (id : String) (type : RecordType) (config : Config) :
    Run Session Reply :=
  match InternTable.create type config with
  | .error (.fatal cause) => { answer := .error (.error cause), state := s }
  | .error fault => { answer := .error (.fault fault), state := s }
  | .ok t =>
    let holdings := ((s.tables[id]?).map InternTable.holdings).getD []
    { answer := .ok .done
      state := { s with tables := s.tables.insert id t }.giveBack holdings }

def dropTable (s : Session) (id : String) : Run Session Reply :=
  match s.tables[id]? with
  | none => s.unknown
  | some t =>
    { answer := .ok .done
      state := { s with tables := s.tables.erase id }.giveBack t.holdings }

def onAccount (s : Session) (id : String) (step : AccountStep) : Run Session Reply :=
  match s.accounts[id]? with
  | none => s.unknown
  | some a =>
    let put (a : Memory.Account) : Session := { s with accounts := s.accounts.insert id a }
    match step with
    | .add c items bytes =>
      let a := a.add c items bytes
      { answer := .ok (.usage (a.usage c)), state := put a }
    | .remove c items bytes =>
      let a := a.remove c items bytes
      { answer := .ok (.usage (a.usage c)), state := put a }
    | .usage c => { answer := .ok (.usage (a.usage c)), state := s }
    | .touched => { answer := .ok (.account a), state := s }

def onStore (s : Session) (id : String) (step : StoreStep) : Run Session Reply :=
  match s.stores[id]? with
  | none => s.unknown
  | some store =>
    let (answer, store) := step.perform store
    { answer, state := { s with stores := s.stores.insert id store } }

def tableSize? (s : Session) (id : String) : Option Nat := (s.tables[id]?).map InternTable.size

def inventorySize? (s : Session) (id : String) : Option Nat :=
  (s.inventories[id]?).map Inventory.size

def storeSize? (s : Session) (id : String) : Option (Nat × Nat) :=
  (s.stores[id]?).map fun store => (store.list.size, store.list.blockCount)

/-- Performs a step; what it reports is not written yet. -/
def act (s : Session) : Step → Run Session Reply
  | .openTable id type config => s.openTable id type config
  | .dropTable id => s.dropTable id
  | .table ref step => s.onTable ref step
  | .memory => { answer := .ok (.account s.memory), state := s }
  | .openRegistry id config =>
    match Registry.create config with
    | .error cause => { answer := .error (.error (.config cause)), state := s }
    | .ok g => { answer := .ok .done, state := s.putRegistry (.named id) g }
  | .openUsualRegistry id =>
    { answer := .ok .done, state := s.putRegistry (.named id) Registry.usual }
  | .registry ref step => s.onRegistry ref step
  | .openInventory id =>
    { answer := .ok .done, state := { s with inventories := s.inventories.insert id {} } }
  | .copyInventory source id =>
    match s.inventory? source with
    | none => s.unknown
    | some run => run.andThen fun s answer =>
      match answer with
      | .error fault => { answer := .error (.fault fault), state := s }
      | .ok v =>
        { answer := .ok .done, state := { s with inventories := s.inventories.insert id v } }
  | .addRecord id shape h fields => s.enter id fun v => v.add shape h fields
  | .exportTable id source =>
    if (s.inventories[id]?).isNone then s.unknown
    else
      match s.source? source with
      | none => s.unknown
      | some run => run.andThen fun s answer =>
        match answer with
        | .error fault => { answer := .error (.fault fault), state := s }
        | .ok t => s.enter id t.exportTo
  | .inventory ref query =>
    match s.inventory? ref with
    | none => s.unknown
    | some run => run.map (Reply.ofStopped query.answer)
  | .openStore id kind blockSize capacity =>
    match Store.create kind blockSize capacity with
    | .error fault => { answer := .error (.fault fault), state := s }
    | .ok store => { answer := .ok .done, state := { s with stores := s.stores.insert id store } }
  | .dropStore id =>
    match s.stores[id]? with
    | none => s.unknown
    | some store =>
      { answer := .ok (.count store.releases), state := { s with stores := s.stores.erase id } }
  | .store id step => s.onStore id step
  | .openAccount id =>
    { answer := .ok .done, state := { s with accounts := s.accounts.insert id {} } }
  | .account id step => s.onAccount id step
  | .installLogger filter =>
    match Event.Filter.choose (s.environment.lookup "RUST_LOG") filter with
    | .error fault => { answer := .error (.fault fault), state := s }
    | .ok filter =>
      match s.logger with
      | some _ => { answer := .ok (.flag false), state := s }
      | none => { answer := .ok (.flag true), state := { s with logger := some filter } }

/-- Writes the events that pass the logger, if there is one. -/
def write (s : Session) (events : List Event) : Session :=
  match s.logger with
  | none => s
  | some filter => { s with written := s.written ++ events.filter filter.passes }

/-- Performs a step and writes what it reports. -/
def perform (s : Session) (step : Step) : Run Session Reply :=
  let run := s.act step
  run.within (·.write (run.events ++ run.background))

end Session

end Interner
