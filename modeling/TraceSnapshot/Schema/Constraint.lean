import TraceSnapshot.Text.Literal
import TraceSnapshot.Text.Unsigned
import TraceSnapshot.Text.WhiteSpace

/-!
# Constraints on values

A schema may ask of a value that it is not empty or that it fits a pattern.
-/

namespace TraceSnapshot.Schema

/-- The patterns in use: a numeral, and a list with at least one character in it that is
neither a comma nor white space. -/
inductive Pattern where
  | numeral
  | listItem
  deriving DecidableEq, Repr

namespace Pattern

/-- The pattern as messages quote it. -/
def text : Pattern → Text
  | numeral => "^(0[xX][0-9a-fA-F]+|0[0-7]*|[1-9][0-9]*)$".toList
  | listItem => "[^,\\s]".toList

def accepts (p : Pattern) (value : Text) : Bool :=
  match p with
  | numeral => (Unsigned.numeral? value).isSome
  | listItem => value.any fun c => c != ',' && !CharClass.whiteSpace.contains c

end Pattern

inductive Constraint where
  | nonEmpty
  | fits (pattern : Pattern)
  deriving DecidableEq, Repr

def Constraint.accepts (c : Constraint) (value : Text) : Bool :=
  match c with
  | nonEmpty => !value.isEmpty
  | fits pattern => pattern.accepts value

/-- Why a value is refused. -/
def Constraint.refusal (c : Constraint) (value : Text) : Text :=
  match c with
  | nonEmpty => Literal.quoted value ++ " should be non-empty".toList
  | fits pattern =>
    Literal.quoted value ++ " does not match ".toList ++ Literal.quoted pattern.text

end TraceSnapshot.Schema
