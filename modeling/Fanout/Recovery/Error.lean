import Fanout.Channel
import Fanout.Disk.Basic
import Fanout.Record.Frame

/-!
# Errors of recovery

What can go wrong with segments and replay filters. A record writer never fails for such a reason;
these errors reach whoever reads the segments.
-/

namespace Fanout

/-- Where a frame in a segment breaks off. -/
inductive FrameDamage where
  /-- In its length field, of which so many bytes are there. -/
  | lengthField (found : Nat)
  | payload (expected found : Nat)
  deriving DecidableEq

def FrameDamage.message : FrameDamage → String
  | lengthField found => s!"length field truncated after {found} bytes"
  | payload expected found => s!"payload truncated: expected {expected} bytes, found {found}"

/-- Why no partition can have lost the channel of a replay filter. -/
inductive ReplayFault where
  | parallelism (former : Nat)
  | lostChannel (channel : ChannelId) (former : Nat)
  deriving DecidableEq

def ReplayFault.message : ReplayFault → String
  | parallelism former =>
    s!"original parallelism {former} must be within 1..={maxChannels}"
  | lostChannel channel former => s!"{channel} is out of range for parallelism {former}"

inductive RecoveryError where
  /-- A file or a directory could not be used. -/
  | io (path : String) (cause : IoError)
  | corruptFrame (path : String) (damage : FrameDamage)
  | invalidReplay (fault : ReplayFault)
  /-- A payload in a segment is no record. -/
  | decode (cause : RecordError)
  deriving DecidableEq

namespace RecoveryError

def message : RecoveryError → String
  | io path cause => s!"recovery log i/o failed for '{path}': {cause.message}"
  | corruptFrame path damage => s!"corrupt frame in '{path}': {damage.message}"
  | invalidReplay fault => s!"invalid replay filter: {fault.message}"
  | decode cause => s!"failed to decode logged record: {cause.message}"

def chain : RecoveryError → List String
  | io path cause => [message (.io path cause), cause.message]
  | corruptFrame path damage => [message (.corruptFrame path damage)]
  | invalidReplay fault => [message (.invalidReplay fault)]
  | decode cause => message (.decode cause) :: cause.chain

end RecoveryError

end Fanout
