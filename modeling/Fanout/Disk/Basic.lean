import Fanout.Disk.Path
import Fanout.Fault
import Std.Data.TreeMap

/-!
# Disks

A disk is a tree of directories, files and devices. The tree maps each location to what stands
there; a file there is only the number of its contents, so that an open file stays writable after
its name was removed or given to another file.

The one device is the full device: writing to it fails for want of space, and reading it yields
zeros without end.

A disk may fail: opening for writing and writing consult its fault plan before they do anything.
-/

namespace Fanout

/-- Why an operation on files failed. -/
inductive IoError where
  | notFound
  | notADirectory
  | isADirectory
  | alreadyExists
  | storageFull
  /-- A text was expected and the bytes are not UTF-8. -/
  | notText
  | zeroByte
  | nameTooLong
  /-- Reading would never end. -/
  | endless
  deriving DecidableEq

def IoError.message : IoError → String
  | notFound => "No such file or directory (os error 2)"
  | notADirectory => "Not a directory (os error 20)"
  | isADirectory => "Is a directory (os error 21)"
  | alreadyExists => "File exists (os error 17)"
  | storageFull => "No space left on device (os error 28)"
  | notText => "stream did not contain valid UTF-8"
  | zeroByte => "file name contained an unexpected NUL byte"
  | nameTooLong => "File name too long (os error 36)"
  | endless => "Cannot allocate memory (os error 12)"

/-- The names on the way from the root to a place on the disk. -/
abbrev Location := List Name

inductive Node where
  | directory
  /-- A file, by the number of its contents. -/
  | file (id : Nat)
  /-- The full device. -/
  | device
  deriving DecidableEq

/-- A disk. The root is a directory without an entry of its own. -/
structure Disk where
  nodes : Std.TreeMap Location Node compare
  /-- The contents of every file ever made, by number. -/
  contents : Array ByteArray
  /-- Where relative paths start. -/
  workingDirectory : Location
  faults : FaultPlan IoError

/-- What a path leads to when it is opened for reading. -/
inductive Source where
  | bytes (data : ByteArray)
  | directory
  /-- Zeros without end. -/
  | zeros

/-- How a file is opened for writing. -/
inductive WriteMode where
  | truncate
  /-- Every write goes to the end. -/
  | append
  deriving DecidableEq

/-- What an open file writes to. -/
inductive Target where
  | file (id : Nat)
  | device
  deriving DecidableEq

/-- A file opened for writing. -/
structure Handle where
  target : Target
  mode : WriteMode
  /-- Where the next write goes if it does not go to the end. -/
  position : Nat
  deriving DecidableEq

namespace Disk

def empty : Disk := ⟨.empty, #[], [], .none⟩

def maxNameLength : Nat := 255

/-- The longest path that is followed. -/
def maxPathLength : Nat := 4095

def node? (d : Disk) (loc : Location) : Option Node :=
  if loc.isEmpty then some .directory else d.nodes[loc]?

def put (d : Disk) (loc : Location) (node : Node) : Disk :=
  { d with nodes := d.nodes.insert loc node }

def content (d : Disk) (id : Nat) : ByteArray := (d.contents[id]?).getD ByteArray.empty

def makeFile (d : Disk) (loc : Location) : Disk × Nat :=
  let id := d.contents.size
  ({ d.put loc (.file id) with contents := d.contents.push ByteArray.empty }, id)

/-- One step of a path: to the same place, to the directory above or to an entry. -/
inductive Step where
  | stay
  | up
  | enter (name : Name)

/-- What a component of a path asks for. -/
def stepOf (name : Name) : Step :=
  if name = [] ∨ name = [0x2e] then .stay
  else if name = [0x2e, 0x2e] then .up
  else .enter name

/-- The location of an entry of a directory. -/
def entry (loc : Location) (name : Name) : Location := loc ++ [name]

/-- Whether a location is a directory that a path may continue from. -/
def checkDirectory (d : Disk) (loc : Location) : Except IoError Unit :=
  match d.node? loc with
  | some .directory => .ok ()
  | some _ => .error .notADirectory
  | none => .error .notFound

/-- Follows a path from a location; all of it must exist. -/
def walk (d : Disk) : Location → List Name → Except IoError Location
  | loc, [] => match d.node? loc with
    | some _ => .ok loc
    | none => .error .notFound
  | loc, name :: rest =>
    match d.checkDirectory loc with
    | .error e => .error e
    | .ok () =>
      match stepOf name with
      | .stay => d.walk loc rest
      | .up => d.walk loc.dropLast rest
      | .enter name =>
        if maxNameLength < name.length then .error .nameTooLong
        else d.walk (entry loc name) rest

/-- Where a path starts, and the components to follow from there. -/
def start (d : Disk) (path : List UInt8) : Except IoError (Location × List Name) :=
  if path.isEmpty then .error .notFound
  else if path.contains 0 then .error .zeroByte
  else if maxPathLength < path.length then .error .nameTooLong
  else .ok (if path.head? = some separator then [] else d.workingDirectory, Name.components path)

def find (d : Disk) (path : List UInt8) : Except IoError Location :=
  match d.start path with
  | .error e => .error e
  | .ok (loc, names) => d.walk loc names

/-- The components of a path without the empty ones at its end. -/
def trimSlashes (names : List Name) : List Name := (names.reverse.dropWhile List.isEmpty).reverse

/-- The location at which a path makes a file, or of the file that is already there. A path that
ends in a slash or in dots names a directory. -/
def findSlot (d : Disk) (path : List UInt8) : Except IoError Location :=
  match d.start path with
  | .error e => .error e
  | .ok (loc, names) =>
    let trimmed := trimSlashes names
    match d.walk loc trimmed.dropLast with
    | .error e => .error e
    | .ok dir =>
      match d.checkDirectory dir with
      | .error e => .error e
      | .ok () =>
        match (trimmed.getLast?).map stepOf with
        | some (.enter name) =>
          if trimmed.length < names.length then .error .isADirectory
          else if maxNameLength < name.length then .error .nameTooLong
          else .ok (entry dir name)
        | _ => .error .isADirectory

def makeDirsFrom (d : Disk) : Location → List Name → Except IoError Unit × Disk
  | _, [] => (.ok (), d)
  | loc, name :: rest =>
    match d.checkDirectory loc with
    | .error e => (.error e, d)
    | .ok () =>
      match stepOf name with
      | .stay => d.makeDirsFrom loc rest
      | .up => d.makeDirsFrom loc.dropLast rest
      | .enter name =>
        if maxNameLength < name.length then (.error .nameTooLong, d)
        else
          let loc := entry loc name
          match d.node? loc with
          | some .directory => d.makeDirsFrom loc rest
          | some _ =>
            (.error (if rest.all List.isEmpty then .alreadyExists else .notADirectory), d)
          | none => (d.put loc .directory).makeDirsFrom loc rest

/-- Makes a directory and all directories above it, if they are missing. -/
def makeDirs (d : Disk) (path : List UInt8) : Except IoError Unit × Disk :=
  let (fault, plan) := d.faults.next
  let d := { d with faults := plan }
  match fault with
  | some e => (.error e, d)
  | none =>
    match d.start path with
    | .error e => (.error e, d)
    | .ok (loc, names) => d.makeDirsFrom loc names

def openForWriting (d : Disk) (path : List UInt8) (mode : WriteMode) :
    Except IoError Handle × Disk :=
  let (fault, plan) := d.faults.next
  let d := { d with faults := plan }
  match fault with
  | some e => (.error e, d)
  | none =>
    match d.findSlot path with
    | .error e => (.error e, d)
    | .ok loc =>
      match d.node? loc with
      | some .directory => (.error .isADirectory, d)
      | some .device => (.ok ⟨.device, mode, 0⟩, d)
      | some (.file id) =>
        match mode with
        | .append => (.ok ⟨.file id, mode, 0⟩, d)
        | .truncate =>
          (.ok ⟨.file id, mode, 0⟩,
            { d with contents := d.contents.setIfInBounds id ByteArray.empty })
      | none =>
        let (d, id) := d.makeFile loc
        (.ok ⟨.file id, mode, 0⟩, d)

/-- Contents with `data` written at `position`; a gap before it is filled with zeros. -/
def overwrite (old : ByteArray) (position : Nat) (data : ByteArray) : ByteArray :=
  if position = old.size then old ++ data
  else
    old.extract 0 position ++ repeated (position - old.size) 0 ++ data
      ++ old.extract (position + data.size) old.size

def write (d : Disk) (h : Handle) (data : ByteArray) : Except IoError Handle × Disk :=
  let (fault, plan) := d.faults.next
  let d := { d with faults := plan }
  match fault with
  | some e => (.error e, d)
  | none =>
    match h.target with
    | .device => (.error .storageFull, d)
    | .file id =>
      match h.mode with
      | .append =>
        (.ok h, { d with contents := d.contents.modify id fun old => old ++ data })
      | .truncate =>
        (.ok { h with position := h.position + data.size },
          { d with contents := d.contents.modify id fun old => overwrite old h.position data })

def openForReading (d : Disk) (path : List UInt8) : Except IoError Source :=
  match d.find path with
  | .error e => .error e
  | .ok loc =>
    match d.node? loc with
    | none => .error .notFound
    | some .directory => .ok .directory
    | some (.file id) => .ok (.bytes (d.content id))
    | some .device => .ok .zeros

def dataAt (d : Disk) (path : List UInt8) : Except IoError ByteArray :=
  match d.openForReading path with
  | .error e => .error e
  | .ok (.bytes data) => .ok data
  | .ok .directory => .error .isADirectory
  | .ok .zeros => .error .endless

def textAt (d : Disk) (path : List UInt8) : Except IoError String :=
  match d.dataAt path with
  | .error e => .error e
  | .ok data =>
    match String.fromUTF8? data with
    | some text => .ok text
    | none => .error .notText

/-- The name of an entry directly in a directory. -/
def nameIn? : (dir loc : Location) → Option Name
  | [], [name] => some name
  | a :: dir, b :: loc => if a = b then nameIn? dir loc else none
  | _, _ => none

/-- The entries of a directory, in the order of their names. -/
def entries (d : Disk) (path : List UInt8) : Except IoError (List (Name × Node)) :=
  match d.find path with
  | .error e => .error e
  | .ok dir =>
    match d.checkDirectory dir with
    | .error e => .error e
    | .ok () =>
      .ok (d.nodes.toList.filterMap fun (loc, node) =>
        (nameIn? dir loc).map fun name => (name, node))

/-! ## Preparing a disk -/

/-- Makes the directory that a path lies in. -/
def makeParents (d : Disk) (names : List Name) : Disk :=
  (d.makeDirsFrom d.workingDirectory names.dropLast).2

/-- Puts a file with the given contents at a path. A file that is already there keeps its number. -/
def layFile (d : Disk) (path : List UInt8) (data : ByteArray) : Disk :=
  let d := d.makeParents (Name.components path)
  match d.findSlot path with
  | .error _ => d
  | .ok loc =>
    match d.node? loc with
    | some (.file id) => { d with contents := d.contents.setIfInBounds id data }
    | some _ => d
    | none =>
      let (d, id) := d.makeFile loc
      { d with contents := d.contents.setIfInBounds id data }

def layDirectory (d : Disk) (path : List UInt8) : Disk :=
  (d.makeDirsFrom d.workingDirectory (Name.components path)).2

def layDevice (d : Disk) (path : List UInt8) : Disk :=
  let d := d.makeParents (Name.components path)
  match d.findSlot path with
  | .error _ => d
  | .ok loc => d.put loc .device

def remove (d : Disk) (path : List UInt8) : Disk :=
  match d.find path with
  | .error _ => d
  | .ok loc => { d with nodes := d.nodes.filter fun place _ => !loc.isPrefixOf place }

end Disk

end Fanout
