import TraceSnapshot.Disk
import TraceSnapshot.DumpText
import TraceSnapshot.Load

/-!
# Runs

A run loads a snapshot and writes its dump to a file. Nothing is written before the snapshot
is complete, so a run that fails leaves the disk as it was.
-/

namespace TraceSnapshot

/-- How a run ends. A snapshot that was complete when writing failed is kept. -/
inductive Ending where
  | written (path : SystemPath) (snapshot : Snapshot)
  | failed (failure : Failure) (snapshot : Option Snapshot)
  deriving DecidableEq, Repr

namespace Ending

def failure? : Ending → Option Failure
  | written .. => none
  | failed failure _ => some failure

def snapshot? : Ending → Option Snapshot
  | written _ snapshot => some snapshot
  | failed _ snapshot => snapshot

def path? : Ending → Option SystemPath
  | written path _ => some path
  | failed .. => none

end Ending

structure Outcome where
  calls : List Call
  ending : Ending
  deriving DecidableEq, Repr

/-- An output file that the system does not open. The report names the tidied path. -/
def SystemPath.cannotWrite (path : SystemPath) (reason : OpenFailure) : Report where
  code := .fileOpen
  message := "failed to open output file (".toList ++ reason.message ++ ")".toList
  source := path.text

/-- The disk after the dump of a snapshot was written to a file. The dump is a text and has an
encoding, as the directory in its first line is one. -/
def Disk.writeDump (d : Disk) (output : Text) (snapshot : Snapshot) : Except Failure Disk :=
  if output.contains '\x00' then
    .error (.aborted .nulInPath)
  else
    let path := SystemPath.ofText output
    (d.write path (Utf8.encode snapshot.dumpText)).mapError fun reason =>
      .reported (path.cannotWrite reason)

/-- Runs a request on a disk. The outcome comes with the disk after the run. -/
def Disk.run (d : Disk) (validator : Validator) (configured : Text) (request : Request)
    (output : Text) : Outcome × Disk :=
  let loaded := request.load configured d.read validator
  match loaded.result with
  | .error failure => (⟨loaded.calls, .failed failure none⟩, d)
  | .ok snapshot =>
    match d.writeDump output snapshot with
    | .error failure => (⟨loaded.calls, .failed failure (some snapshot)⟩, d)
    | .ok after => (⟨loaded.calls, .written (SystemPath.ofText output) snapshot⟩, after)

end TraceSnapshot
