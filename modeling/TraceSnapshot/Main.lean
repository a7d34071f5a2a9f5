import TraceSnapshot.CommandLine

/-!
# The program

The only part that touches real files. It fetches every file that a snapshot may need, has
the snapshot loaded from what it fetched, and writes the dump.
-/

namespace TraceSnapshot.Program

open CommandLine

/-- The number of a system error. Some calls hand it on with its sign turned. -/
def errorNumber (code : UInt32) : UInt32 := if code < 0x80000000 then code else 0 - code

/-- What the system means by the error that it raised. -/
def openFailure (e : IO.Error) : OpenFailure :=
  match e with
  | .noFileOrDirectory .. => .missing
  | .inappropriateType _ code details =>
    if errorNumber code = 20 then .notDirectory
    else if errorNumber code = 21 then .isDirectory
    else .other details.toList
  | .invalidArgument _ code details =>
    if errorNumber code = 36 then .nameTooLong else .other details.toList
  | .permissionDenied .. => .other "Permission denied".toList
  | e => .other e.toString.toList

def readFile (path : SystemPath) : IO (Except OpenFailure Bytes) := do
  try
    let bytes ← IO.FS.readBinFile (String.ofList path.text)
    return .ok bytes.toList
  catch e =>
    return .error (openFailure e)

def writeFile (path : SystemPath) (bytes : Bytes) : IO (Except OpenFailure Unit) := do
  try
    IO.FS.writeBinFile (String.ofList path.text) ⟨bytes.toArray⟩
    return .ok ()
  catch e =>
    return .error (openFailure e)

/-- The answers of the system for the manifest and for all the files that it names. -/
def fetch (place : SnapshotPlace) : IO Files := do
  let ask (path : Text) : IO (SystemPath × Except OpenFailure Bytes) := do
    let path := SystemPath.ofText path
    return (path, ← readFile path)
  let answering (answers : List (SystemPath × Except OpenFailure Bytes)) : Files := fun path =>
    (answers.lookup path).getD (.error .missing)
  let first ← ask place.manifestPath
  match place.readManifest (answering [first]) with
  | .error _ => return answering [first]
  | .ok manifest =>
    let rest ← (place.files manifest).mapM fun (_, path) => ask path
    return answering (first :: rest)

def run (configured : Text) (a : Arguments) : IO Ending := do
  match Separator.choose none configured with
  | .error abort => return .failed (.aborted abort) none
  | .ok separator =>
    let place : SnapshotPlace := ⟨a.directory, separator⟩
    let files ← fetch place
    match (place.load files Validator.Kind.standard.validator).result with
    | .error failure => return .failed failure none
    | .ok snapshot =>
      let path := SystemPath.ofText a.output
      match ← writeFile path (Utf8.encode snapshot.dumpText) with
      | .error reason => return .failed (.reported (path.cannotWrite reason)) snapshot
      | .ok () => return .written path snapshot

def present (console : Console) : IO UInt32 := do
  IO.print (String.ofList console.out)
  IO.eprint (String.ofList console.err)
  return console.exitCode.toUInt32

/-- Runs a command line. The separator of paths may be configured in the environment. -/
def start (args : List String) : IO UInt32 := do
  let configured := ((← IO.getEnv "SNAPSHOT_DUMP_PATH_SEP").getD "").toList
  match Arguments.parse (args.map String.toList) with
  | .error e => present (.ofFailure e.report.line)
  | .ok a => present (.ofEnding a (← run configured a))

end TraceSnapshot.Program

def main (args : List String) : IO UInt32 := TraceSnapshot.Program.start args
