import TraceSnapshot.Text

/-!
# Paths

A snapshot may have been written on a system that separates path parts by `/` or by `\`.
Paths are shown with `/`; a path that a file names is joined onto the snapshot directory
with a separator of the user's choice.
-/

namespace TraceSnapshot.Path

def isSlash (c : Char) : Bool := c == '/' || c == '\\'

/-- The path with `/` between its parts. -/
def normalize (path : Text) : Text := path.map fun c => if c = '\\' then '/' else c

def withoutTrailingSlashes (path : Text) : Text :=
  (path.reverse.dropWhile fun c => c == '/').reverse

def isDriveLetter (c : Char) : Bool := ('a' ≤ c && c ≤ 'z') || ('A' ≤ c && c ≤ 'Z')

/-- A path is absolute if it starts with a slash of either kind or with a drive letter and
a colon. -/
def isAbsolute (path : Text) : Bool :=
  match path with
  | [] => false
  | c :: rest => isSlash c || (isDriveLetter c && rest.head? == some ':')

/-- The path `rel` as seen from the directory `base`. A separator is put between them only
if `base` does not end in one. -/
def join (base rel separator : Text) : Text :=
  if rel.isEmpty then base
  else if isAbsolute rel then rel
  else
    match base.getLast? with
    | none => rel
    | some c => if isSlash c || [c] == separator then base ++ rel else base ++ separator ++ rel

end TraceSnapshot.Path
