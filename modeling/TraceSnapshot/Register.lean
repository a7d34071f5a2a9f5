import TraceSnapshot.Text.CommaList
import TraceSnapshot.Text.Unsigned
import TraceSnapshot.Ini.Document

/-!
# Registers

A register is one entry of the section `regs` of a device file. Its key may end in a bracketed
comma list that gives an id, for telling registers of one name apart, and a size.
-/

namespace TraceSnapshot

/-- The key of a register entry, taken apart. -/
structure RegisterKey where
  name : Text
  id : Option Text
  size : Option Text
  deriving DecidableEq, Repr

namespace RegisterKey

/-- The key after one more token of its list. A labelled id or size replaces an earlier one;
a token without a label is an id only if there is none yet. -/
def withToken (k : RegisterKey) (token : Text) : RegisterKey :=
  match Text.cut ':' token with
  | none => { k with id := k.id.or (some token) }
  | some (label, value) =>
    if Text.trim label = "id".toList then { k with id := some (Text.trim value) }
    else if Text.trim label = "size".toList then { k with size := some (Text.trim value) }
    else k

/-- The list stands between the first opening and the last closing bracket. A key without
these two in this order is a name. -/
def parse (raw : Text) : RegisterKey :=
  match Text.cut '(' raw with
  | none => ⟨Text.trim raw, none, none⟩
  | some (name, rest) =>
    match Text.cutLast ')' rest with
    | none => ⟨Text.trim raw, none, none⟩
    | some (tokens, _) =>
      (CommaList.items tokens).foldl withToken ⟨Text.trim name, none, none⟩

end RegisterKey

/-- A register with its value. The number of its id, if the id is a numeral, and its position
in the file serve for ordering only. -/
structure Register where
  name : Text
  value : Text
  id : Option Text
  idNumber : Option Nat
  size : Option Text
  order : Int
  deriving DecidableEq, Repr

namespace Register

/-- The register of the entry at a position of the section. -/
def ofEntry (entry : Ini.Entry) (position : Nat) : Except Unsigned.Overlong Register := do
  let key := RegisterKey.parse entry.key
  let idNumber ←
    match key.id with
    | none => .ok none
    | some id => Unsigned.read id
  return {
    name := key.name
    value := Text.unquoted entry.value
    id := key.id
    idNumber
    size := key.size
    order := position }

/-- The registers of a section, in its order. -/
def ofEntries (entries : List Ini.Entry) : Except Unsigned.Overlong (List Register) :=
  entries.zipIdx.mapM fun (entry, position) => ofEntry entry position

end Register

end TraceSnapshot
