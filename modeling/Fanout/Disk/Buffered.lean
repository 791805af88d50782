import Fanout.Disk.Basic

/-!
# Buffered files

Small writes to a file are collected and written in one piece. A write that still fits is only
collected; else what was collected is written out first, and data as long as the whole buffer goes
to the disk directly. So the file always ends between two writes.
-/

namespace Fanout

/-- How many bytes are collected before they are written. -/
def writeBufferSize : Nat := 32768

/-- An open file and the data collected for it. -/
structure BufferedFile where
  handle : Handle
  pending : ByteArray

namespace BufferedFile

def ofHandle (h : Handle) : BufferedFile := ⟨h, ByteArray.empty⟩

def room (f : BufferedFile) : Nat := writeBufferSize - f.pending.size

/-- Writes out what was collected; after a failure it stays collected. -/
def flush (f : BufferedFile) (d : Disk) : Except IoError Unit × BufferedFile × Disk :=
  if f.pending.isEmpty then (.ok (), f, d)
  else match d.write f.handle f.pending with
    | (.error e, d) => (.error e, f, d)
    | (.ok h, d) => (.ok (), ofHandle h, d)

/-- Writes data directly or collects it, according to its size. -/
def accept (f : BufferedFile) (data : ByteArray) (d : Disk) :
    Except IoError Unit × BufferedFile × Disk :=
  if writeBufferSize ≤ data.size then
    match d.write f.handle data with
    | (.error e, d) => (.error e, f, d)
    | (.ok h, d) => (.ok (), { f with handle := h }, d)
  else (.ok (), { f with pending := f.pending ++ data }, d)

/-- Appends data. After a failure none of it is kept. -/
def write (f : BufferedFile) (data : ByteArray) (d : Disk) :
    Except IoError Unit × BufferedFile × Disk :=
  if data.size < f.room then (.ok (), { f with pending := f.pending ++ data }, d)
  else if data.size ≤ f.room then f.accept data d
  else match f.flush d with
    | (.error e, f, d) => (.error e, f, d)
    | (.ok (), f, d) => f.accept data d

/-- Gives the file up: what was collected is written out if that is possible. -/
def drop (f : BufferedFile) (d : Disk) : Disk := (f.flush d).2.2

end BufferedFile

end Fanout
