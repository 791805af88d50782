import Fanout.Disk.Basic

/-!
# Changes of a disk

What has to be made so that one disk becomes like another to which things were only added. Names
that are not text are passed over.
-/

namespace Fanout

/-- Something to be made on a disk, at a path from the root. -/
inductive Change where
  | directory (path : String)
  /-- A file with the given contents, in place of any that is there. -/
  | file (path : String) (data : ByteArray)

namespace Disk

/-- The path from the root to a location, if all its names are text. -/
def pathOf? (loc : Location) : Option String :=
  (loc.mapM Name.text?).map fun names => String.join (names.map fun name => "/" ++ name)

/-- What one entry of a disk needs to be made on another. -/
def change? (before after : Disk) (loc : Location) (node : Node) : Option Change :=
  match node, before.node? loc with
  | .directory, none => (pathOf? loc).map .directory
  | .file id, some (.file old) =>
    if (after.content id).data = (before.content old).data then none
    else (pathOf? loc).map fun path => .file path (after.content id)
  | .file id, none => (pathOf? loc).map fun path => .file path (after.content id)
  | _, _ => none

/-- All that is to be made, directories before what is in them. -/
def changes (before after : Disk) : List Change :=
  after.nodes.toList.filterMap fun (loc, node) => change? before after loc node

/-- A disk with nothing but the directory where relative paths start. -/
def startingIn (path : String) : Disk :=
  let d := Disk.empty.layDirectory (Name.ofText path)
  { d with workingDirectory := (Path.components path).filter fun name => !name.isEmpty }

end Disk

end Fanout
