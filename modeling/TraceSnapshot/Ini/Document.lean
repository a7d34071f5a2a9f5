import TraceSnapshot.Ini.Line
import TraceSnapshot.OrderedMap
import TraceSnapshot.Report

/-!
# Documents

A document is the exact content of a snapshot file: its sections in the order of their first
header and, in each of them, every definition in the order of the file. A section that is
opened again goes on where it stopped.
-/

namespace TraceSnapshot.Ini

structure Entry where
  key : Text
  value : Text
  deriving DecidableEq, Repr

/-- The sections of a file and the name of the file, which reports about it mention. -/
structure Document where
  source : Text
  sections : OrderedMap Text (List Entry)

/-- Why a line is refused. -/
inductive Offence where
  | unclosedHeader
  | beforeHeader
  | notADefinition
  deriving DecidableEq, Repr

/-- A line that is refused, with its number counted from one and its trimmed content. -/
structure Fault where
  line : Nat
  offence : Offence
  content : Text
  deriving DecidableEq, Repr

namespace Fault

def message (f : Fault) : Text :=
  let place := "line ".toList ++ Text.ofNat f.line ++ ": ".toList
  match f.offence with
  | .unclosedHeader => place ++ "malformed section header '".toList ++ f.content ++ "'".toList
  | .beforeHeader =>
    place ++ "definition before section header: '".toList ++ f.content ++ "'".toList
  | .notADefinition =>
    place ++ "couldn't parse '".toList ++ f.content ++ "' as key=value".toList

def report (f : Fault) (source : Text) : Report where
  code := .malformed
  message := f.message
  source := source

end Fault

namespace Document

def empty (source : Text) : Document := ⟨source, .empty⟩

/-- The document with a section of that name, empty if there was none. -/
def opened (d : Document) (name : Text) : Document :=
  { d with sections := d.sections.upsert name fun entries => entries.getD [] }

/-- The document with one more entry at the end of a section. -/
def added (d : Document) (name : Text) (entry : Entry) : Document :=
  { d with sections := d.sections.upsert name fun entries => entries.getD [] ++ [entry] }

/-- Reads on from a line number, inside the section `current` if there was a header. -/
def readLines (d : Document) (current : Option Text) (number : Nat) :
    List Text → Except Fault Document
  | [] => .ok d
  | raw :: rest =>
    match Line.read raw, current with
    | .blank, _ => readLines d current (number + 1) rest
    | .header name, _ => readLines (d.opened name) (some name) (number + 1) rest
    | .unclosed content, _ => .error ⟨number, .unclosedHeader, content⟩
    | .definition content _ _, none => .error ⟨number, .beforeHeader, content⟩
    | .bare content, none => .error ⟨number, .beforeHeader, content⟩
    | .bare content, some _ => .error ⟨number, .notADefinition, content⟩
    | .definition _ key value, some name =>
      readLines (d.added name ⟨key, value⟩) current (number + 1) rest

/-- Reads a whole file. The first line that is refused decides the fault. -/
def parse (text source : Text) : Except Fault Document :=
  readLines (empty source) none 1 (Text.lines text)

def names (d : Document) : List Text := d.sections.keys

def hasSection (d : Document) (name : Text) : Bool := d.sections.contains name

/-- The entries of a section, none if there is no such section. -/
def entries (d : Document) (name : Text) : List Entry := (d.sections.get? name).getD []

/-- Every value of a key in a section, in the order of the file. -/
def values (d : Document) (name key : Text) : List Text :=
  ((d.entries name).filter fun entry => entry.key == key).map Entry.value

def first? (d : Document) (name key : Text) : Option Text := (d.values name key).head?

def last? (d : Document) (name key : Text) : Option Text := (d.values name key).getLast?

/-- The entries of a section as pairs. -/
def pairs (d : Document) (name : Text) : List (Text × Text) :=
  (d.entries name).map fun entry => (entry.key, entry.value)

end Document

end TraceSnapshot.Ini
