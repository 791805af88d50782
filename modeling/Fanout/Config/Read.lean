import Fanout.Config.Validate
import Fanout.Toml.Document

/-!
# Reading configurations

A configuration is a TOML document. Keys that mean nothing are passed over. A section is a table, or
an array with its settings in order.
-/

namespace Fanout

namespace Toml.Value

def toBool (key : String) : Value → Except ConfigFault Bool
  | .boolean b => .ok b
  | _ => .error (.wrongType key)

def toText (key : String) : Value → Except ConfigFault String
  | .string text => .ok text
  | _ => .error (.wrongType key)

/-- A number below a limit. -/
def toNat (limit : Nat) (key : String) : Value → Except ConfigFault Nat
  | .integer n => if 0 ≤ n ∧ n < limit then .ok n.toNat else .error (.wrongType key)
  | _ => .error (.wrongType key)

def toCount (key : String) (v : Value) : Except ConfigFault Nat := toNat UInt64.size key v

def toChannel (key : String) (v : Value) : Except ConfigFault ChannelId :=
  (toNat maxChannels key v).map ChannelId.ofNat

def toSuperstep (key : String) (v : Value) : Except ConfigFault Superstep :=
  (toNat UInt32.size key v).map fun n => ⟨UInt32.ofNat n⟩

def toDuration (key : String) (v : Value) : Except ConfigFault Duration := do
  match Duration.ofHuman (← toText key v) with
  | .ok d => return d
  | .error e => throw (.duration e)

/-- Whether nothing is in an array or a table. -/
def isBare : Value → Bool
  | .array items => items.isEmpty
  | .table entries => entries.isEmpty
  | _ => false

/-- One of some named things: its name, or a table that holds nothing but the name with nothing
in it. -/
def toNamed {α : Type} (all : List α) (nameOf : α → String) (key : String) (v : Value) :
    Except ConfigFault α :=
  let find (name : String) :=
    match all.find? fun a => nameOf a = name with
    | some a => .ok a
    | none => .error (.unknownName name)
  match v with
  | .string name => find name
  | .table [(name, inner)] => if inner.isBare then find name else .error (.wrongType key)
  | _ => .error (.wrongType key)

/-- The settings of a section by name. -/
def settings (names : List String) (key : String) :
    Value → Except ConfigFault (List (String × Value))
  | .table entries => .ok entries
  | .array items => .ok (names.zip items)
  | .datetime => .ok []
  | _ => .error (.wrongType key)

end Toml.Value

open Toml (Value)

/-- A setting that has a default. -/
def setting {α : Type} (entries : List (String × Value)) (key : String) (default : α)
    (read : String → Value → Except ConfigFault α) : Except ConfigFault α :=
  match entries.lookup key with
  | none => .ok default
  | some v => read key v

/-- A setting that may be absent. -/
def setting? {α : Type} (entries : List (String × Value)) (key : String)
    (read : String → Value → Except ConfigFault α) : Except ConfigFault (Option α) :=
  setting entries key none fun key v => (read key v).map some

/-- A setting that must be there. -/
def requiredSetting {α : Type} (entries : List (String × Value)) (key : String)
    (read : String → Value → Except ConfigFault α) : Except ConfigFault α :=
  match entries.lookup key with
  | none => .error (.missing key)
  | some v => read key v

def WriterSettings.read (key : String) (v : Value) : Except ConfigFault WriterSettings := do
  let entries ← v.settings ["channels", "selector", "local_channel"] key
  return {
    channels := ← setting entries "channels" 4 Value.toCount
    selector := ← setting entries "selector" .roundRobin
      (Value.toNamed SelectorKind.all SelectorKind.name)
    localChannel := ← setting? entries "local_channel" Value.toChannel }

def BufferSettings.read (key : String) (v : Value) : Except ConfigFault BufferSettings := do
  let entries ← v.settings ["buffer_size", "pool_size", "request_timeout"] key
  return {
    bufferSize := ← setting entries "buffer_size" 32768 Value.toCount
    poolSize := ← setting entries "pool_size" 64 Value.toCount
    requestTimeout := ← setting? entries "request_timeout" Value.toDuration }

/-- Reads a replay, which must be complete. -/
def ReplaySettings.read (key : String) (v : Value) : Except ConfigFault ReplaySettings := do
  let entries ← v.settings ["lost_channel", "end_superstep", "original_parallelism"] key
  return {
    lostChannel := ← requiredSetting entries "lost_channel" Value.toChannel
    endSuperstep := ← requiredSetting entries "end_superstep" Value.toSuperstep
    formerParallelism := ← requiredSetting entries "original_parallelism" Value.toCount }

def RecoverySettings.read (key : String) (v : Value) : Except ConfigFault RecoverySettings := do
  let entries ← v.settings ["enabled", "path", "dataset", "replay"] key
  return {
    enabled := ← setting entries "enabled" false Value.toBool
    path := ← setting entries "path" "recovery-logs" Value.toText
    dataset := ← setting entries "dataset" "dataset-0" Value.toText
    replay := ← setting? entries "replay" ReplaySettings.read }

def LogSettings.read (key : String) (v : Value) : Except ConfigFault LogSettings := do
  let entries ← v.settings ["level", "filter"] key
  return {
    level := ← setting entries "level" .info (Value.toNamed LogLevel.all LogLevel.name)
    filter := ← setting? entries "filter" Value.toText }

namespace Config

/-- The configuration in the entries of a document. -/
def ofEntries (entries : List (String × Value)) : Except ConfigFault Config := do
  return {
    writer := ← setting entries "writer" {} WriterSettings.read
    buffer := ← setting entries "buffer" {} BufferSettings.read
    recovery := ← setting entries "recovery" {} RecoverySettings.read
    log := ← setting entries "log" {} LogSettings.read }

/-- The valid configuration in a text. -/
def ofText (text : String) : Except ConfigError Config :=
  match Toml.parse text with
  | .error e => .error (.parse (.toml e))
  | .ok entries =>
    match ofEntries entries with
    | .error fault => .error (.parse fault)
    | .ok config => (config.validate).map fun _ => config

/-- The valid configuration in a file. -/
def ofFile (path : String) (d : Disk) : Except ConfigError Config :=
  match d.textAt (Name.ofText path) with
  | .error e => .error (.io path e)
  | .ok text => ofText text

end Config

end Fanout
