import TraceSnapshot.Text
import TraceSnapshot.OrderedMap

/-!
# Outlines

An outline is what a forgiving reader takes from a snapshot file. It skips lines that say
nothing, gathers definitions before the first header under the empty name, and of a key that
is defined twice keeps the last value.
-/

namespace TraceSnapshot.Ini

/-- The last value of every key of every section. -/
abbrev Outline := OrderedMap Text (OrderedMap Text Text)

namespace Outline

/-- What a line adds to an outline. -/
inductive Item where
  | skip
  | header (name : Text)
  | definition (key value : Text)
  deriving DecidableEq, Repr

def Item.ofDefinition (line : Text) : Item :=
  match Text.cut '=' line with
  | some (key, value) => .definition (Text.trim key) (Text.trim value)
  | none => .skip

/-- A header starts with an opening bracket, blanks apart, and has a closing one. -/
def Item.read (raw : Text) : Item :=
  let line := Text.trim (Text.withoutComment raw)
  match line with
  | '[' :: rest =>
    match Text.cut ']' rest with
    | some (name, _) => .header (Text.trim name)
    | none => .ofDefinition line
  | _ => .ofDefinition line

def put (o : Outline) (name key value : Text) : Outline :=
  o.upsert name fun pairs => (pairs.getD .empty).insert key value

/-- Reads on inside the section `current`. -/
def readLines (o : Outline) (current : Text) : List Text → Outline
  | [] => o
  | raw :: rest =>
    match Item.read raw with
    | .skip => readLines o current rest
    | .header name => readLines (o.upsert name fun pairs => pairs.getD .empty) name rest
    | .definition key value => readLines (o.put current key value) current rest

/-- The outline without its nameless section, if that has no keys. -/
def withoutEmptyPreamble (o : Outline) : Outline :=
  match o.get? [] with
  | some pairs => if pairs.pairs.isEmpty then o.erase [] else o
  | none => o

/-- Reads a whole file. The nameless section comes first, whether a header opens it again
or not. -/
def read (text : Text) : Outline :=
  withoutEmptyPreamble (readLines (OrderedMap.empty.insert [] .empty) [] (Text.lines text))

end Outline

end TraceSnapshot.Ini
