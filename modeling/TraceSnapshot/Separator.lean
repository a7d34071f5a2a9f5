import TraceSnapshot.Report

/-!
# Path separators

Paths that a manifest names are joined onto the snapshot directory with one of two
separators. A setting that is empty counts as not given.
-/

namespace TraceSnapshot

inductive Separator where
  | slash
  | backslash
  deriving DecidableEq, Repr

namespace Separator

def text : Separator → Text
  | slash => ['/']
  | backslash => ['\\']

/-- The separator of a setting. -/
def resolve (setting : Text) : Except Abort Separator :=
  if setting = [] ∨ setting = slash.text then .ok slash
  else if setting = backslash.text then .ok backslash
  else .error (.invalidSeparator setting)

/-- What was chosen for a run goes before what was configured for all runs. -/
def choose (chosen : Option Text) (configured : Text) : Except Abort Separator :=
  match chosen with
  | none => resolve configured
  | some [] => resolve configured
  | some setting => resolve setting

end Separator

end TraceSnapshot
