import TraceSnapshot.Ini.Document

/-!
# Manifests

The manifest of a snapshot names its version, its device files, groups of devices and, if
trace was captured, the file about it.
-/

namespace TraceSnapshot

structure Manifest where
  version : Text
  description : Text
  deviceList : List (Text × Text)
  clusters : List (Text × Text)
  traceMetadata : Option Text
  deriving DecidableEq, Repr

namespace Manifest

/-- The name of the manifest in its snapshot directory. -/
def fileName : Text := "snapshot.ini".toList

/-- What may be wrong with a manifest. -/
inductive Defect where
  | missingSection
  | duplicateKey (key : Text)
  | missingVersion
  | missingDeviceList
  deriving DecidableEq, Repr

namespace Defect

def code : Defect → Code
  | missingSection => .missingSection
  | duplicateKey _ => .duplicateKey
  | missingVersion => .missingKey
  | missingDeviceList => .missingSection

def message : Defect → Text
  | missingSection => "missing required [snapshot] version".toList
  | duplicateKey key => "duplicate ".toList ++ key ++ " key in [snapshot]".toList
  | missingVersion => "missing required [snapshot] version".toList
  | missingDeviceList => "missing required [device_list] section".toList

def report (defect : Defect) (source : Text) : Report where
  code := defect.code
  message := defect.message
  source := source

end Defect

/-- The value of a key that may be given once. -/
def single (d : Ini.Document) (key : Text) : Except Defect (Option Text) :=
  match d.values "snapshot".toList key with
  | [] => .ok none
  | [value] => .ok (some value)
  | _ :: _ :: _ => .error (.duplicateKey key)

/-- The version has to be there and may not be empty. -/
def readVersion (d : Ini.Document) : Except Defect Text := do
  match ← single d "version".toList with
  | none => .error .missingVersion
  | some [] => .error .missingVersion
  | some version => .ok version

def readDeviceList (d : Ini.Document) : Except Defect (List (Text × Text)) :=
  if d.hasSection "device_list".toList then .ok (d.pairs "device_list".toList)
  else .error .missingDeviceList

/-- The first path of trace metadata, unless it is empty. -/
def tracePath (d : Ini.Document) : Option Text :=
  (d.first? "trace".toList "metadata".toList).filter fun path => !path.isEmpty

/-- The manifest that a file holds, with its lists in the order of the file. -/
def ofDocument (d : Ini.Document) : Except Defect Manifest :=
  if d.hasSection "snapshot".toList then do
    let version ← readVersion d
    let description ← single d "description".toList
    let deviceList ← readDeviceList d
    return {
      version
      description := description.getD []
      deviceList
      clusters := d.pairs "clusters".toList
      traceMetadata := tracePath d }
  else
    .error .missingSection

end Manifest

end TraceSnapshot
