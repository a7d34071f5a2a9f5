import TraceSnapshot.Report
import TraceSnapshot.Text.Utf8

/-!
# Files

How the text of a file comes from a path: the path is tidied, the system opens it or says
why not, and the bytes are decoded.
-/

namespace TraceSnapshot

/-- Where a path starts. A path with exactly two leading slashes keeps both. -/
inductive PathRoot where
  | relative
  | slash
  | doubleSlash
  deriving DecidableEq, Repr

def PathRoot.text : PathRoot → Text
  | relative => []
  | slash => ['/']
  | doubleSlash => ['/', '/']

/-- A path as the system is asked for it: names to follow from a root, without empty names
and without the name of the directory itself. -/
structure SystemPath where
  root : PathRoot
  names : List Text
  deriving DecidableEq, Repr

namespace SystemPath

def rootOf (path : Text) : PathRoot :=
  match path with
  | '/' :: '/' :: '/' :: _ => .slash
  | '/' :: '/' :: _ => .doubleSlash
  | '/' :: _ => .slash
  | _ => .relative

def ofText (path : Text) : SystemPath where
  root := rootOf path
  names := (path.splitOn '/').filter fun name => name ≠ [] ∧ name ≠ ['.']

/-- A path without any names is the root or the working directory. -/
def text (p : SystemPath) : Text :=
  match p.root, p.names with
  | .relative, [] => ['.']
  | root, names => root.text ++ ['/'].intercalate names

end SystemPath

/-- Why the system does not open a file. -/
inductive OpenFailure where
  | missing
  | isDirectory
  | notDirectory
  | nameTooLong
  | other (reason : Text)
  deriving DecidableEq, Repr

def OpenFailure.message : OpenFailure → Text
  | missing => "No such file or directory".toList
  | isDirectory => "Is a directory".toList
  | notDirectory => "Not a directory".toList
  | nameTooLong => "File name too long".toList
  | other reason => reason

/-- What the system answers when it is asked to read a file. -/
abbrev Files := SystemPath → Except OpenFailure Bytes

namespace Files

def cannotOpen (path : Text) (reason : OpenFailure) : Report where
  code := .fileOpen
  message := "failed to open ini file (".toList ++ reason.message ++ ")".toList
  source := path

def cannotDecode (path : Text) (fault : Utf8.Fault) : Report where
  code := .fileOpen
  message := "ini file is not valid UTF-8 (".toList ++ fault.message ++ ")".toList
  source := path

/-- The text of a file. Reports name the path as it was given. A path with a null character
is never opened. Any other path can be asked for, since a text has an encoding. -/
def readText (files : Files) (path : Text) : Except Failure Text :=
  if path.contains '\x00' then
    .error (.aborted .nulInPath)
  else
    match files (SystemPath.ofText path) with
    | .error reason => .error (.reported (cannotOpen path reason))
    | .ok bytes => (Utf8.decode bytes).mapError fun fault => .reported (cannotDecode path fault)

end Files

end TraceSnapshot
