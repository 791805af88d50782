import Fanout.Command.Line
import Fanout.Command.Report
import Fanout.Config.Read

/-!
# Executing commands

A command reads its configuration, does its work on a disk, and ends with an exit code and what it
printed. Log output is not part of it.
-/

namespace Fanout

/-- How a command ended. -/
structure Outcome where
  code : Nat
  output : String
  errors : String
  deriving DecidableEq

namespace Command

def usage : String := Report.lines
  ["Usage: spindle [OPTIONS] <COMMAND>",
    "",
    "Commands:",
    "  run      Run supersteps of a local shuffle and report per-channel counts",
    "  inspect  List recovery log segments and count their records",
    "  help     Print this message or the help of the given subcommand(s)",
    "",
    "Options:",
    "  -c, --config <CONFIG>        Path to configuration file; defaults apply when omitted",
    "  -l, --log-level <LOG_LEVEL>  Log level or filter directive; overrides the [log] section",
    "  -h, --help                   Print help",
    "  -V, --version                Print version"]

def version : String := Report.lines ["spindle 0.1.0"]

def failed (chain : List String) : Outcome := ⟨1, "", Report.ofError chain⟩

/-- The end of a command that came upon a bound of memory or of the clock. -/
def broken : Outcome := ⟨101, "", ""⟩

/-- The configuration of an invocation, or the end of the command that lacks one. -/
def loadConfig (path : Option String) (d : Disk) : Except Outcome Config :=
  match path with
  | none => .ok {}
  | some path =>
    match Config.ofFile path d with
    | .ok config => .ok config
    | .error (.parse (.duration .pastLastSecond)) => .error broken
    | .error e => .error (failed (s!"loading config from {path}" :: e.chain))

def directory (config : Config) : Command → String
  | .run _ => config.recovery.path
  | .inspect args => args.dir.getD config.recovery.path

def perform (config : Config) (d : Disk) : Command → Outcome × Disk
  | .run args =>
    match Shuffle.run config args d with
    | (.ok report, d) => (⟨0, Report.ofRun report, ""⟩, d)
    | (.error .memory, d) | (.error (.producer .deadlineOverflow), d) => (broken, d)
    | (.error e, d) => (failed e.chain, d)
  | .inspect args =>
    match Inspect.collect config args d with
    | .ok summaries => (⟨0, Report.ofInspection summaries, ""⟩, d)
    | .error e => (failed e.chain, d)

def execute (words : List String) (d : Disk) : Outcome × Disk :=
  match CommandLine.read words with
  | .misuse => (⟨2, "", usage⟩, d)
  | .help => (⟨0, usage, ""⟩, d)
  | .version => (⟨0, version, ""⟩, d)
  | .invocation i =>
    match loadConfig i.config d with
    | .error outcome => (outcome, d)
    | .ok config => i.command.perform config d

end Command

end Fanout
