import TraceSnapshot.Canonical
import TraceSnapshot.Files
import TraceSnapshot.Separator
import TraceSnapshot.Validator

/-!
# Loading a snapshot

The manifest is read first and names the other files. Then every file is shown to the
validator, and only if it is content with all of them are the devices and the trace metadata
built. The first failure ends it.
-/

namespace TraceSnapshot

/-- A file that was shown to the validator. -/
structure Call where
  role : Role
  source : Text
  text : Text
  deriving DecidableEq, Repr

/-- A result, with the calls of the validator that were made for it. -/
structure Checked (α : Type) where
  calls : List Call
  result : Except Failure α

/-- The exact content of a file. -/
def Files.readDocument (files : Files) (path : Text) : Except Failure Ini.Document := do
  let text ← files.readText path
  (Ini.Document.parse text path).mapError fun fault => .reported (fault.report path)

/-- Shows files to a validator until it refuses one or one cannot be read. -/
def Files.check (files : Files) (validator : Validator) :
    List (Role × Text) → Checked Unit
  | [] => ⟨[], .ok ()⟩
  | (role, path) :: rest =>
    match files.readText path with
    | .error failure => ⟨[], .error failure⟩
    | .ok text =>
      match validator role text path with
      | some report => ⟨[⟨role, path, text⟩], .error (.reported report)⟩
      | none =>
        let checked := files.check validator rest
        ⟨⟨role, path, text⟩ :: checked.calls, checked.result⟩

/-- The snapshot directory and the separator that paths are joined onto it with. -/
structure SnapshotPlace where
  directory : Text
  separator : Separator
  deriving DecidableEq, Repr

namespace SnapshotPlace

def join (p : SnapshotPlace) (path : Text) : Text :=
  Path.join p.directory path p.separator.text

def manifestPath (p : SnapshotPlace) : Text := p.join Manifest.fileName

/-- The files of a snapshot in the order in which they are checked. -/
def files (p : SnapshotPlace) (m : Manifest) : List (Role × Text) :=
  (Role.snapshot, p.manifestPath) ::
    (m.deviceList.map fun (_, path) => (Role.device, p.join path)) ++
    (m.traceMetadata.map fun path => (Role.trace, p.join path)).toList

def readManifest (p : SnapshotPlace) (files : Files) : Except Failure Manifest := do
  let document ← files.readDocument p.manifestPath
  (Manifest.ofDocument document).mapError fun defect =>
    .reported (defect.report document.source)

def readDevice (p : SnapshotPlace) (files : Files) (path : Text) : Except Failure Device := do
  let document ← files.readDocument (p.join path)
  (Device.ofDocument document path).mapError fun defect => defect.failure document.source

def readTrace (p : SnapshotPlace) (files : Files) (path : Text) :
    Except Failure TraceMetadata := do
  let document ← files.readDocument (p.join path)
  (TraceMetadata.ofDocument document path).mapError fun defect =>
    .reported (defect.report document.source)

/-- The snapshot that a manifest leads to, before it is put in order. -/
def assemble (p : SnapshotPlace) (files : Files) (m : Manifest) : Except Failure Snapshot := do
  let devices ← m.deviceList.mapM fun (_, path) => p.readDevice files path
  let trace ← m.traceMetadata.mapM (p.readTrace files)
  return { directory := p.directory, manifest := m, devices, trace }

/-- The snapshot at a place, in canonical order. -/
def load (p : SnapshotPlace) (files : Files) (validator : Validator) : Checked Snapshot :=
  match p.readManifest files with
  | .error failure => ⟨[], .error failure⟩
  | .ok manifest =>
    let checked := files.check validator (p.files manifest)
    match checked.result with
    | .error failure => ⟨checked.calls, .error failure⟩
    | .ok () => ⟨checked.calls, (p.assemble files manifest).map Snapshot.canonical⟩

end SnapshotPlace

/-- What a run is asked for. The separator may be chosen for the run. -/
structure Request where
  directory : Text
  separator : Option Text
  deriving DecidableEq, Repr

/-- Loads the snapshot of a request. A separator that is not one of the two ends it before
any file is read. -/
def Request.load (r : Request) (configured : Text) (files : Files) (validator : Validator) :
    Checked Snapshot :=
  match Separator.choose r.separator configured with
  | .error abort => ⟨[], .error (.aborted abort)⟩
  | .ok separator => SnapshotPlace.load ⟨r.directory, separator⟩ files validator

end TraceSnapshot
