import TraceSnapshot.Schema.Constraint

/-!
# Violations

A violation has a place, the path of section and key that leads to it, and a reason. One of
several is reported: the one with the shortest path, and of those the one with the greatest.
-/

namespace TraceSnapshot.Schema

inductive Reason where
  | missing (key : Text)
  | refused (value : Text) (constraint : Constraint)
  deriving DecidableEq, Repr

def Reason.message : Reason → Text
  | missing key => Literal.quoted key ++ " is a required property".toList
  | refused value constraint => constraint.refusal value

structure Violation where
  path : List Text
  reason : Reason
  deriving DecidableEq, Repr

namespace Violation

/-- The path with slashes between its parts, or a word for the whole file. -/
def place (v : Violation) : Text :=
  match ['/'].intercalate v.path with
  | [] => "<file>".toList
  | place => place

def message (v : Violation) : Text := v.place ++ ": ".toList ++ v.reason.message

/-- The violation `v` is reported rather than `w`. -/
def outranks (v w : Violation) : Bool :=
  v.path.length < w.path.length ||
    v.path.length == w.path.length && compare v.path w.path == .gt

/-- The violation to report. Of several at one place it is the first. -/
def foremost? : List Violation → Option Violation
  | [] => none
  | v :: rest =>
    match foremost? rest with
    | none => some v
    | some w => if w.outranks v then some w else some v

end Violation

end TraceSnapshot.Schema
