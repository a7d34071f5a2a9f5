import TraceSnapshot.Text

/-!
# Comma lists

A comma list is written with any blanks around its items. An item that is empty after
trimming counts for nothing.
-/

namespace TraceSnapshot.CommaList

def items (t : Text) : List Text :=
  ((t.splitOn ',').map Text.trim).filter fun item => !item.isEmpty

/-- The items in a row with single commas between them. -/
def join (items : List Text) : Text := [','].intercalate items

end TraceSnapshot.CommaList
