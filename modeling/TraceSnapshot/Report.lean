import TraceSnapshot.Text.Literal

/-!
# Reports

Whatever is wrong with a command line or a snapshot is told as a report: a stable code, a
message for people and the file it concerns.
-/

namespace TraceSnapshot

/-- The kinds of failure that a report may tell of. -/
inductive Code where
  | usage
  | fileOpen
  | malformed
  | missingSection
  | missingKey
  | duplicateKey
  | invalidValue
  | emptyList
  | danglingReference
  | validation
  deriving DecidableEq, Repr

namespace Code

def all : List Code :=
  [usage, fileOpen, malformed, missingSection, missingKey, duplicateKey, invalidValue,
    emptyList, danglingReference, validation]

/-- The stable identifier of a code. -/
def name : Code → Text
  | usage => "usage".toList
  | fileOpen => "file_open".toList
  | malformed => "syntax".toList
  | missingSection => "missing_section".toList
  | missingKey => "missing_key".toList
  | duplicateKey => "duplicate_key".toList
  | invalidValue => "invalid_value".toList
  | emptyList => "empty_list".toList
  | danglingReference => "dangling_reference".toList
  | validation => "validation".toList

def ofName? (t : Text) : Option Code := all.find? fun code => code.name == t

end Code

inductive Severity where
  | warning
  | error
  | fatal
  deriving DecidableEq, Repr

namespace Severity

def all : List Severity := [warning, error, fatal]

def name : Severity → Text
  | warning => "warning".toList
  | error => "error".toList
  | fatal => "fatal".toList

def ofName? (t : Text) : Option Severity := all.find? fun severity => severity.name == t

end Severity

structure Report where
  code : Code
  message : Text
  source : Option Text
  severity : Severity := .error
  deriving DecidableEq, Repr

namespace Report

/-- The report as one line for people: the file, if it has a name, and the message. -/
def line (r : Report) : Text :=
  match r.source with
  | none => r.message
  | some [] => r.message
  | some source => source ++ ": ".toList ++ r.message

/-- The report with all of its fields, for a log. -/
def details (r : Report) : Text :=
  let source :=
    match r.source with
    | none => "None".toList
    | some source => Literal.quoted source
  "SnapshotError(code=".toList ++ r.code.name ++ ", severity=".toList ++ r.severity.name ++
    ", message=".toList ++ Literal.quoted r.message ++ ", source=".toList ++ source ++
    ")".toList

end Report

/-- What ends a run without a report: a setting or a value that no file can be blamed for. -/
inductive Abort where
  | invalidSeparator (given : Text)
  | nulInPath
  | overlongNumeral (digits : Nat)
  deriving DecidableEq, Repr

def Abort.message : Abort → Text
  | invalidSeparator given =>
    "Invalid path separator ".toList ++ Literal.quoted given ++
      "; expected one of: / \\".toList
  | nulInPath => "embedded null byte".toList
  | overlongNumeral digits =>
    "Exceeds the limit (4300 digits) for integer string conversion: value has ".toList ++
      Text.ofNat digits ++
      " digits; use sys.set_int_max_str_digits() to increase the limit".toList

/-- Why a step has no result. -/
inductive Failure where
  | reported (report : Report)
  | aborted (cause : Abort)
  deriving DecidableEq, Repr

/-- The line that tells a failure to the user. -/
def Failure.line : Failure → Text
  | reported report => report.line
  | aborted cause => cause.message

end TraceSnapshot
