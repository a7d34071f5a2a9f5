import TraceSnapshot.Snapshot
import TraceSnapshot.Sorting

/-!
# Canonical order

Two snapshots of the same content are to be written alike, whatever order their files use.
All decisions about order are made here; sorting is stable, so elements with equal keys stay
as they were declared.
-/

namespace TraceSnapshot

/-- What the order of registers sees of an id. -/
inductive IdKey where
  | absent
  | numeric (number : Nat) (raw : Text)
  | textual (raw : Text)
  deriving DecidableEq, Repr

namespace IdKey

/-- No id comes before an id and a number before a text. Numbers are ordered by value and
then, like texts, by spelling. -/
def compare : IdKey → IdKey → Ordering
  | absent, absent => .eq
  | absent, _ => .lt
  | numeric .., absent => .gt
  | numeric m s, numeric n t => (Ord.compare m n).then (Ord.compare s t)
  | numeric .., textual _ => .lt
  | textual s, textual t => Ord.compare s t
  | textual _, _ => .gt

end IdKey

namespace Register

/-- The number of an id counts only together with the id. -/
def idKey (r : Register) : IdKey :=
  match r.id, r.idNumber with
  | none, _ => .absent
  | some raw, some number => .numeric number raw
  | some raw, none => .textual raw

/-- Registers are ordered by name, then by id, then by their position in the file. -/
def compare (a b : Register) : Ordering :=
  (Ord.compare a.name b.name).then
    ((IdKey.compare a.idKey b.idKey).then (Ord.compare a.order b.order))

end Register

/-- Pairs are ordered by their first part alone. -/
def comparePairs (a b : Text × Text) : Ordering := compare a.1 b.1

/-- Dumps are ordered by section and then by address. -/
def MemoryDump.compare (a b : MemoryDump) : Ordering :=
  (Ord.compare a.sectionName b.sectionName).then (Ord.compare a.addressValue b.addressValue)

namespace Device

/-- Devices are ordered by name and then by the path of their file. -/
def compare (a b : Device) : Ordering :=
  (Ord.compare a.name b.name).then (Ord.compare a.iniPath b.iniPath)

def canonical (d : Device) : Device :=
  { d with
    registers := sortBy Register.compare d.registers
    dumps := sortBy MemoryDump.compare d.dumps }

end Device

def Manifest.canonical (m : Manifest) : Manifest :=
  { m with
    deviceList := sortBy comparePairs m.deviceList
    clusters := sortBy comparePairs m.clusters }

namespace TraceMetadata

/-- The last buffer with an id. -/
def buffer? (t : TraceMetadata) (id : Text) : Option TraceBuffer :=
  (t.buffers.filter fun buffer => buffer.id == id).getLast?

/-- Every id once, and the buffers in the order of their ids. -/
def canonical (t : TraceMetadata) : TraceMetadata :=
  let bufferIds := Text.ascending t.bufferIds
  { t with
    bufferIds
    buffers := bufferIds.filterMap t.buffer?
    coreTraceSources := sortBy comparePairs t.coreTraceSources
    sourceBuffers := sortBy comparePairs t.sourceBuffers }

end TraceMetadata

def Snapshot.canonical (s : Snapshot) : Snapshot :=
  { s with
    manifest := s.manifest.canonical
    devices := sortBy Device.compare (s.devices.map Device.canonical)
    trace := s.trace.map TraceMetadata.canonical }

end TraceSnapshot
