import Fanout.Channel
import Fanout.Disk.Basic
import Fanout.Duration.Human
import Fanout.Superstep
import Fanout.Text.Blank
import Fanout.Toml.Value

/-!
# Configurations

The settings of a shuffle, in four sections. Every setting has a default; only a replay section has
to be complete.
-/

namespace Fanout

/-- The policies by which channels are selected. -/
inductive SelectorKind where
  | roundRobin
  | broadcast
  | keyPartitioned
  deriving DecidableEq

namespace SelectorKind

def name : SelectorKind → String
  | roundRobin => "round_robin"
  | broadcast => "broadcast"
  | keyPartitioned => "key_partitioned"

def all : List SelectorKind := [roundRobin, broadcast, keyPartitioned]

end SelectorKind

inductive LogLevel where
  | trace
  | debug
  | info
  | warn
  | error
  deriving DecidableEq

namespace LogLevel

def name : LogLevel → String
  | trace => "trace"
  | debug => "debug"
  | info => "info"
  | warn => "warn"
  | error => "error"

def all : List LogLevel := [trace, debug, info, warn, error]

end LogLevel

structure WriterSettings where
  channels : Nat := 4
  selector : SelectorKind := .roundRobin
  /-- The channel that is consumed on the producer's own node. -/
  localChannel : Option ChannelId := none
  deriving DecidableEq

structure BufferSettings where
  bufferSize : Nat := 32768
  poolSize : Nat := 64
  /-- How long a request waits for a buffer; for ever if nothing is set. -/
  requestTimeout : Option Duration := none
  deriving DecidableEq

/-- What is to be emitted again after the loss of a node. -/
structure ReplaySettings where
  lostChannel : ChannelId
  endSuperstep : Superstep
  formerParallelism : Nat
  deriving DecidableEq

/-- The recovery log and replay. -/
structure RecoverySettings where
  enabled : Bool := false
  path : String := "recovery-logs"
  dataset : String := "dataset-0"
  replay : Option ReplaySettings := none
  deriving DecidableEq

structure LogSettings where
  level : LogLevel := .info
  /-- What to log in detail. -/
  filter : Option String := none
  deriving DecidableEq

/-- What is logged: the filter if it says anything, else the level. -/
def LogSettings.directive (s : LogSettings) : String :=
  match s.filter with
  | some filter => if Text.allBlank filter then s.level.name else filter
  | none => s.level.name

structure Config where
  writer : WriterSettings := {}
  buffer : BufferSettings := {}
  recovery : RecoverySettings := {}
  log : LogSettings := {}
  deriving DecidableEq

/-- A value with which a shuffle cannot run. -/
inductive InvalidSetting where
  | noChannels
  | tooManyChannels (channels : Nat)
  | noBuffers
  | smallBuffers (size : Nat)
  | noPatience
  | noDataset
  | noFormerChannels
  | tooManyFormerChannels (channels : Nat)
  /-- Selection in turn can be replayed only over the former number of channels. -/
  | widthChanged (former channels : Nat)
  deriving DecidableEq

/-- The smallest buffer that holds a length field. -/
def minBufferSize : Nat := 4

namespace InvalidSetting

def sectionName : InvalidSetting → String
  | noChannels => "writer"
  | tooManyChannels _ => "writer"
  | noBuffers => "buffer"
  | smallBuffers _ => "buffer"
  | noPatience => "buffer"
  | noDataset => "recovery"
  | noFormerChannels => "recovery.replay"
  | tooManyFormerChannels _ => "recovery.replay"
  | widthChanged _ _ => "recovery.replay"

def field : InvalidSetting → String
  | noChannels => "channels"
  | tooManyChannels _ => "channels"
  | noBuffers => "pool_size"
  | smallBuffers _ => "buffer_size"
  | noPatience => "request_timeout"
  | noDataset => "dataset"
  | noFormerChannels => "original_parallelism"
  | tooManyFormerChannels _ => "original_parallelism"
  | widthChanged _ _ => "original_parallelism"

def reason : InvalidSetting → String
  | noChannels => "must be greater than 0"
  | tooManyChannels channels => s!"{channels} exceeds the maximum of {maxChannels}"
  | noBuffers => "must be greater than 0"
  | smallBuffers size => s!"must be at least {minBufferSize} bytes, got {size}"
  | noPatience => "must be greater than 0; omit it to block"
  | noDataset => "must not be empty"
  | noFormerChannels => "must be greater than 0"
  | tooManyFormerChannels channels => s!"{channels} exceeds the maximum of {maxChannels}"
  | widthChanged former channels =>
    s!"round_robin replay needs the original {former} channels, writer has {channels}"

end InvalidSetting

inductive ChannelSetting where
  | localChannel
  | lostChannel
  deriving DecidableEq

/-- The section and the name of the setting. -/
def ChannelSetting.label : ChannelSetting → String
  | localChannel => "[writer] local_channel"
  | lostChannel => "[recovery.replay] lost_channel"

/-- Why a document is no configuration. -/
inductive ConfigFault where
  | toml (cause : Toml.Error)
  /-- A setting has a value of another type, or one that does not fit. -/
  | wrongType (key : String)
  | missing (key : String)
  | unknownName (name : String)
  | duration (cause : DurationError)
  deriving DecidableEq

def ConfigFault.message : ConfigFault → String
  | toml cause => cause.message
  | wrongType key => s!"invalid value for {key}"
  | missing key => s!"missing field {key}"
  | unknownName name => s!"unknown variant {name}"
  | duration cause => cause.message

/-- Why there is no configuration. -/
inductive ConfigError where
  | parse (fault : ConfigFault)
  | io (path : String) (cause : IoError)
  | invalid (setting : InvalidSetting)
  | channelOutOfRange (setting : ChannelSetting) (channel : ChannelId) (channels : Nat)
  deriving DecidableEq

namespace ConfigError

def message : ConfigError → String
  | parse fault => s!"failed to parse config: {fault.message}"
  | io path cause => s!"failed to read config file '{path}': {cause.message}"
  | invalid setting => s!"[{setting.sectionName}] has invalid {setting.field}: {setting.reason}"
  | channelOutOfRange setting channel channels =>
    s!"{setting.label} = {channel.toNat} is out of range for {channels} channels"

def chain : ConfigError → List String
  | parse fault => [message (.parse fault), fault.message]
  | io path cause => [message (.io path cause), cause.message]
  | e => [e.message]

end ConfigError

end Fanout
