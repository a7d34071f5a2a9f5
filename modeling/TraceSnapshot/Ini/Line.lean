import TraceSnapshot.Text

/-!
# Lines of a snapshot file

Every file of a snapshot is made of section headers and definitions, one on a line. What a
line is depends on the line alone.
-/

namespace TraceSnapshot.Ini

/-- What one line says. The variants that may turn out to be wrong keep the trimmed content
of the line. -/
inductive Line where
  | blank
  | header (name : Text)
  | unclosed (content : Text)
  | definition (content key value : Text)
  | bare (content : Text)
  deriving DecidableEq, Repr

/-- Reads a line after its comment is gone. An opening bracket anywhere makes it a header,
whose name ends at the next closing bracket; any other line is a definition if it has an
equals sign. -/
def Line.read (raw : Text) : Line :=
  let line := Text.withoutComment raw
  let content := Text.trim line
  match Text.cut '[' line with
  | some (_, rest) =>
    match Text.cut ']' rest with
    | some (name, _) => .header (Text.trim name)
    | none => .unclosed content
  | none =>
    if content.isEmpty then .blank
    else
      match Text.cut '=' line with
      | some (key, value) => .definition content (Text.trim key) (Text.trim value)
      | none => .bare content

end TraceSnapshot.Ini
