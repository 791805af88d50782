import Fanout.Config.Basic

/-!
# Valid configurations

The settings with which a writer can be made. Of several faults the first counts, in the order of
the sections.
-/

namespace Fanout

namespace WriterSettings

def validate (s : WriterSettings) : Except ConfigError Unit :=
  if s.channels = 0 then .error (.invalid .noChannels)
  else if maxChannels < s.channels then .error (.invalid (.tooManyChannels s.channels))
  else match s.localChannel with
    | none => .ok ()
    | some c =>
      if c.isWithin s.channels then .ok ()
      else .error (.channelOutOfRange .localChannel c s.channels)

end WriterSettings

namespace BufferSettings

def validate (s : BufferSettings) : Except ConfigError Unit :=
  if s.poolSize = 0 then .error (.invalid .noBuffers)
  else if s.bufferSize < minBufferSize then .error (.invalid (.smallBuffers s.bufferSize))
  else match s.requestTimeout with
    | none => .ok ()
    | some timeout => if timeout.isZero then .error (.invalid .noPatience) else .ok ()

end BufferSettings

namespace ReplaySettings

def validate (s : ReplaySettings) (writer : WriterSettings) : Except ConfigError Unit :=
  let former := s.formerParallelism
  if former = 0 then .error (.invalid .noFormerChannels)
  else if maxChannels < former then .error (.invalid (.tooManyFormerChannels former))
  else if !s.lostChannel.isWithin former then
    .error (.channelOutOfRange .lostChannel s.lostChannel former)
  else if writer.selector = .roundRobin ∧ former ≠ writer.channels then
    .error (.invalid (.widthChanged former writer.channels))
  else .ok ()

end ReplaySettings

namespace RecoverySettings

def validate (s : RecoverySettings) (writer : WriterSettings) : Except ConfigError Unit :=
  if s.enabled ∧ s.dataset.isEmpty then .error (.invalid .noDataset)
  else match s.replay with
    | none => .ok ()
    | some replay => replay.validate writer

end RecoverySettings

/-- Checks all sections in turn. -/
def Config.validate (c : Config) : Except ConfigError Unit := do
  c.writer.validate
  c.buffer.validate
  c.recovery.validate c.writer

end Fanout
