import TraceSnapshot.Files
import TraceSnapshot.OrderedMap

/-!
# Disks

A disk is a tree of directories and files with a working directory in it. Paths are followed
name by name; two dots lead to the directory above.
-/

namespace TraceSnapshot

/-- A place in the tree, as the names that lead to it from the root. -/
abbrev Location := List Text

inductive Node where
  | file (bytes : Bytes)
  | directory
  deriving DecidableEq, Repr

structure Disk where
  nodes : OrderedMap Location Node
  current : Location

namespace Disk

/-- The disk with nothing but the directories on the way to a working directory. -/
def fresh (current : Location) : Disk where
  nodes :=
    (List.range current.length).foldl
      (fun nodes n => nodes.insert (current.take (n + 1)) .directory) .empty
  current

/-- The disk with nothing in its working directory. The rest of the tree stays. -/
def cleared (d : Disk) : Disk :=
  { d with nodes := d.nodes.filterKeys fun place =>
      !d.current.isPrefixOf place || place == d.current }

def node? (d : Disk) (place : Location) : Option Node :=
  if place = [] then some .directory else d.nodes.get? place

def put (d : Disk) (place : Location) (node : Node) : Disk :=
  { d with nodes := d.nodes.insert place node }

/-- The longest name of a file, in bytes. -/
def longestName : Nat := 255

/-- The longest path that can be asked for, in bytes. -/
def longestPath : Nat := 4095

/-- The place that a name means in a directory. -/
def step (place : Location) (name : Text) : Except OpenFailure Location :=
  if name = ['.', '.'] then .ok place.dropLast
  else if longestName < (Utf8.encode name).length then .error .nameTooLong
  else .ok (place ++ [name])

/-- Follows names from a place. All places but the last have to be directories. -/
def follow (d : Disk) (place : Location) : List Text → Except OpenFailure Location
  | [] => .ok place
  | name :: rest =>
    match d.node? place with
    | none => .error .missing
    | some (.file _) => .error .notDirectory
    | some .directory =>
      match step place name with
      | .error reason => .error reason
      | .ok next => d.follow next rest

/-- The place that a path starts from. -/
def start (d : Disk) (path : SystemPath) : Location :=
  match path.root with
  | .relative => d.current
  | _ => []

/-- The place that a path leads to, whether there is anything or not. -/
def locate (d : Disk) (path : SystemPath) : Except OpenFailure Location :=
  if longestPath < (Utf8.encode path.text).length then .error .nameTooLong
  else d.follow (d.start path) path.names

def read (d : Disk) : Files := fun path =>
  match d.locate path with
  | .error reason => .error reason
  | .ok place =>
    match d.node? place with
    | none => .error .missing
    | some .directory => .error .isDirectory
    | some (.file bytes) => .ok bytes

/-- A path that ends in a slash or in the name of the directory itself can only mean a
directory. -/
def meansDirectory (path : Text) : Bool :=
  match (path.splitOn '/').getLast? with
  | some [] => true
  | some ['.'] => true
  | _ => false

/-- The text of the file at a path, if there is a file and it is UTF-8. -/
def text? (d : Disk) (path : Text) : Option Text :=
  if meansDirectory path then none else (Files.readText d.read path).toOption

/-- Writes a whole file, in place of an older one. -/
def write (d : Disk) (path : SystemPath) (bytes : Bytes) : Except OpenFailure Disk :=
  match d.locate path with
  | .error reason => .error reason
  | .ok place =>
    match d.node? place with
    | some .directory => .error .isDirectory
    | _ => .ok (d.put place (.file bytes))

/-- Removes a file. -/
def remove (d : Disk) (path : SystemPath) : Except OpenFailure Disk :=
  match d.locate path with
  | .error reason => .error reason
  | .ok place =>
    match d.node? place with
    | none => .error .missing
    | some .directory => .error .isDirectory
    | some (.file _) => .ok { d with nodes := d.nodes.erase place }

/-- Follows names from a place and makes the directories that are not there. -/
def makeFrom (d : Disk) (place : Location) : List Text → Except OpenFailure Disk
  | [] => .ok d
  | name :: rest =>
    match step place name with
    | .error reason => .error reason
    | .ok next =>
      match d.node? next with
      | some (.file _) => .error .notDirectory
      | some .directory => d.makeFrom next rest
      | none => (d.put next .directory).makeFrom next rest

def makeDirectory (d : Disk) (path : SystemPath) : Except OpenFailure Disk :=
  d.makeFrom (d.start path) path.names

/-- Writes a file after making the directories on the way to it. -/
def install (d : Disk) (path : SystemPath) (bytes : Bytes) : Except OpenFailure Disk := do
  let d ← d.makeDirectory { path with names := path.names.dropLast }
  d.write path bytes

end Disk

end TraceSnapshot
