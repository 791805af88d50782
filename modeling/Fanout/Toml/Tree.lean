import Fanout.Toml.Value

/-!
# Building tables

Tables grow while a document is read, and how a table came about decides what may be added to it
later: a table with a header of its own is not defined twice, a table that only leads to another one
may still get a header, and a table that dotted keys made is extended by dotted keys alone.
-/

namespace Fanout.Toml

/-- How a table came about. -/
inductive Origin where
  /-- By a header of its own; also the document itself and each table of an array. -/
  | header
  /-- On the way to the table of a header. -/
  | implied
  /-- By a dotted key. -/
  | dotted
  deriving DecidableEq

/-- What a key of an unfinished table holds. -/
inductive Node where
  | leaf (v : Value)
  | table (origin : Origin) (entries : List (String × Node))
  | tables (items : List (List (String × Node)))

/-- The entries of an unfinished table. -/
abbrev Entries := List (String × Node)

namespace Entries

/-- Replaces what a key holds, or adds the key at the end. -/
def put (key : String) (node : Node) : Entries → Entries
  | [] => [(key, node)]
  | (k, old) :: rest => if k = key then (k, node) :: rest else (k, old) :: put key node rest

/-- Follows a path of keys and changes the entries of the table there; tables that are missing are
made on the way. Of an array the last table counts. When `extending`, which is what dotted keys do,
no table with a header may be entered. -/
def change (extending : Bool) (f : Origin → Entries → Except Error Entries) :
    (path : List String) → Origin → Entries → Except Error Entries
  | [], origin, entries => f origin entries
  | key :: path, _, entries =>
    match entries.lookup key with
    | none => do
      let made := if extending then Origin.dotted else .implied
      return put key (.table made (← change extending f path made [])) entries
    | some (.leaf _) => .error (.notATable key)
    | some (.table origin sub) =>
      if extending ∧ origin = .header then .error (.duplicateKey key)
      else do return put key (.table origin (← change extending f path origin sub)) entries
    | some (.tables items) =>
      match items.getLast? with
      | none => .error (.duplicateKey key)
      | some last => do
        let last ← change extending f path .header last
        return put key (.tables (items.dropLast ++ [last])) entries

/-- Adds a key to a table; it must be new. -/
def insert (key : String) (v : Value) (entries : Entries) : Except Error Entries :=
  match entries.lookup key with
  | none => .ok (entries ++ [(key, .leaf v)])
  | some _ => .error (.duplicateKey key)

/-- Adds a value under a dotted key. All but the last part of the key must lead to a table that
dotted keys made. -/
def addDotted (path : List String) (key : String) (v : Value) (entries : Entries) :
    Except Error Entries :=
  change true (fun origin sub =>
    if decide (origin = .dotted) = path.isEmpty then .error (.duplicateKey key)
    else insert key v sub) path .header entries

/-- Gives the table at a path a header. -/
def defineTable (path : List String) (key : String) (entries : Entries) : Except Error Entries :=
  change false (fun _ sub =>
    match sub.lookup key with
    | none => .ok (put key (.table .header []) sub)
    | some (.table .implied old) => .ok (put key (.table .header old) sub)
    | some _ => .error (.duplicateKey key)) path .header entries

/-- Adds a table to the array at a path. -/
def defineItem (path : List String) (key : String) (entries : Entries) : Except Error Entries :=
  change false (fun _ sub =>
    match sub.lookup key with
    | none => .ok (put key (.tables [[]]) sub)
    | some (.tables items) => .ok (put key (.tables (items ++ [[]])) sub)
    | some _ => .error (.duplicateKey key)) path .header entries

/-- Adds a value under a dotted key of the table at a path. -/
def addBelow (table : List String) (path : List String) (key : String) (v : Value)
    (entries : Entries) : Except Error Entries :=
  change false (fun _ sub => addDotted path key v sub) table .header entries

end Entries

mutual

def Node.value : Node → Value
  | .leaf v => v
  | .table _ entries => .table (entryValues entries)
  | .tables items => .array (itemValues items)

def entryValues : List (String × Node) → List (String × Value)
  | [] => []
  | (key, node) :: rest => (key, node.value) :: entryValues rest

def itemValues : List (List (String × Node)) → List Value
  | [] => []
  | entries :: rest => .table (entryValues entries) :: itemValues rest

end

end Fanout.Toml
