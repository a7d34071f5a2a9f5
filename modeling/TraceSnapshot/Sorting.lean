import TraceSnapshot.Text

/-!
# Sorting

All sorting is stable: elements that compare equal keep their order.
-/

namespace TraceSnapshot

/-- The elements in ascending order of a comparison. -/
def sortBy {α : Type} (cmp : α → α → Ordering) (xs : List α) : List α :=
  xs.mergeSort fun a b => (cmp a b).isLE

/-- The distinct texts of a list in ascending order. -/
def Text.ascending (ts : List Text) : List Text := sortBy compare ts.eraseDups

end TraceSnapshot
