/-!
# Columns

Cells of a table, filled up with blanks to the width of their column. A longer cell stays as it is.
-/

namespace Fanout.Text

/-- The blanks that a text lacks. -/
def padding (width : Nat) (text : String) : String :=
  String.ofList (List.replicate (width - text.length) ' ')

def alignLeft (width : Nat) (text : String) : String := text ++ padding width text

def alignRight (width : Nat) (text : String) : String := padding width text ++ text

def alignNumber (width : Nat) (n : Nat) : String := alignRight width (toString n)

end Fanout.Text
