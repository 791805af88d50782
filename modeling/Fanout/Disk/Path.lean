import Fanout.Bytes

/-!
# Paths

A path is a text of components separated by slashes. On a disk a component is a byte string, since a
name need not be text; paths that are text stand for their UTF-8 bytes.

* `Name.components_append` — a separator between two byte strings separates their components.
-/

namespace Fanout

/-- One component of a path, as the disk keeps it. -/
abbrev Name := List UInt8

def separator : UInt8 := 0x2f

/-- The components of a path, empty ones included. -/
def Name.components : List UInt8 → List Name
  | [] => [[]]
  | b :: rest =>
    if b = separator then [] :: components rest
    else match components rest with
      | [] => [[b]]
      | name :: names => (b :: name) :: names

def Name.ofText (text : String) : Name := octets text.toUTF8

/-- The text that a name spells, if it is UTF-8. -/
def Name.text? (name : Name) : Option String := String.fromUTF8? (pack name)

theorem Name.components_ne_nil (bytes : List UInt8) : components bytes ≠ [] := by
  cases bytes with
  | nil => simp [components]
  | cons b rest =>
    unfold components
    split
    · simp
    · split <;> simp

theorem Name.components_of_not_mem {name : Name} (h : separator ∉ name) :
    components name = [name] := by
  induction name with
  | nil => rfl
  | cons b rest ih =>
    have hb : b ≠ separator := fun e => h (by simp [e])
    have hr : separator ∉ rest := fun e => h (by simp [e])
    simp [components, hb, ih hr]

/-- A separator ends the last component before it, and a new one starts. -/
theorem Name.components_append (dir name : List UInt8) :
    components (dir ++ separator :: name) = components dir ++ components name := by
  induction dir with
  | nil => simp [components]
  | cons b rest ih =>
    by_cases hb : b = separator
    · simp [components, hb, ih]
    · simp only [List.cons_append, components, hb, if_false, ih]
      cases hc : components rest with
      | nil => exact absurd hc (components_ne_nil rest)
      | cons n ns => simp

namespace Path

/-- The components of a path that is text. -/
def components (path : String) : List Name := Name.components (Name.ofText path)

/-- The path of an entry of a directory. -/
def join (dir name : String) : String :=
  if dir.isEmpty then name
  else if dir.endsWith "/" then dir ++ name
  else dir ++ "/" ++ name

/-- Splits a text at its slashes. -/
def parts : List Char → List (List Char)
  | [] => [[]]
  | c :: rest =>
    if c = '/' then [] :: parts rest
    else match parts rest with
      | [] => [[c]]
      | part :: others => (c :: part) :: others

/-- Whether a part of a path stays where it is. -/
def isIdle (part : List Char) : Bool := part.isEmpty || part = ['.']

/-- A path without the parts at its end that stay where they are; the first part is kept. -/
def trimEnd : List (List Char) → List (List Char)
  | [] => []
  | first :: rest => first :: (rest.reverse.dropWhile isIdle).reverse

/-- The text of the parts of a path. -/
def ofParts (ps : List (List Char)) : String :=
  if ps = [[]] then "/" else String.ofList (List.intercalate ['/'] ps)

/-- The path without its last component; `none` for the root and for the empty path. -/
def parent? (path : String) : Option String :=
  match trimEnd (parts path.toList) with
  | [] => none
  | [single] => if single.isEmpty then none else some ""
  | ps => some (ofParts (trimEnd ps.dropLast))

end Path

end Fanout
