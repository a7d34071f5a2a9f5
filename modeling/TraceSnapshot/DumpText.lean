import TraceSnapshot.Snapshot

/-!
# The dump text

A snapshot is written as lines of the form `key = value`. Every field is written, an empty
one too; a record that may come several times starts with a marker in double brackets, and
counts come before what they count.
-/

namespace TraceSnapshot

namespace DumpText

def field (key : String) (value : Text) : Text := key.toList ++ " = ".toList ++ value

/-- A field whose key ends in a name of the snapshot. -/
def namedField (key : String) (name value : Text) : Text :=
  key.toList ++ name ++ " = ".toList ++ value

def count (key : String) (n : Nat) : Text := field key (Text.ofNat n)

end DumpText

open DumpText

def Register.dumpLine (r : Register) : Text :=
  "reg.".toList ++ r.name ++ " = ".toList ++ r.value ++ " ; meta: id=".toList ++
    r.id.getD [] ++ " size=".toList ++ r.size.getD []

def MemoryDump.dumpLines (d : MemoryDump) : List Text :=
  ["[[dump]]".toList, field "section" d.sectionName, field "file" d.file,
    field "space" d.space, field "address" d.address, field "length" d.length,
    field "offset" d.offset]

def Device.dumpLines (d : Device) : List Text :=
  ["[[device]]".toList, field "name" d.name, field "class" d.className,
    field "type" d.typeName, field "location" d.location, field "ini" d.iniPath,
    count "regs.count" d.registers.length, count "dump.count" d.dumps.length] ++
    d.registers.map Register.dumpLine ++ d.dumps.flatMap MemoryDump.dumpLines

namespace Manifest

def headLines (m : Manifest) : List Text :=
  [field "snapshot.version" m.version, field "snapshot.description" m.description,
    count "device_list.count" m.deviceList.length] ++
    m.deviceList.map fun (key, path) => namedField "device_list." key (Path.normalize path)

/-- Clusters are left out if there are none. -/
def clusterLines (m : Manifest) : List Text :=
  if m.clusters.isEmpty then []
  else
    count "clusters.count" m.clusters.length ::
      m.clusters.map fun (key, members) =>
        namedField "cluster." key (CommaList.join (CommaList.items members))

end Manifest

def TraceBuffer.dumpLines (b : TraceBuffer) : List Text :=
  ["[[trace_buffer]]".toList, field "id" b.id, field "name" b.name, field "format" b.format,
    field "files" (CommaList.join b.files)]

def TraceMetadata.dumpLines (t : TraceMetadata) : List Text :=
  [field "trace.metadata" (Path.normalize t.path),
    field "trace_buffers.ids" (CommaList.join t.bufferIds)] ++
    t.buffers.flatMap TraceBuffer.dumpLines ++
    (t.coreTraceSources.flatMap fun (core, source) =>
      ["[[core_trace_source]]".toList, field "core" core, field "source" source]) ++
    t.sourceBuffers.flatMap fun (source, buffers) =>
      ["[[source_buffer]]".toList, field "source" source, field "buffers" buffers]

namespace Snapshot

def dumpLines (s : Snapshot) : List Text :=
  [field "snapshot_dir" (Path.withoutTrailingSlashes (Path.normalize s.directory)),
    field "snapshot_ini" Manifest.fileName] ++
    s.manifest.headLines ++ s.devices.flatMap Device.dumpLines ++ s.manifest.clusterLines ++
    s.trace.elim [] TraceMetadata.dumpLines

/-- The dump of a snapshot. Every line ends in a line feed, the last one too. -/
def dumpText (s : Snapshot) : Text := s.dumpLines.flatMap fun line => line ++ ['\n']

end Snapshot

/-- The formats that a dump can be asked for in. -/
inductive DumpFormat where
  | text
  deriving DecidableEq, Repr

namespace DumpFormat

def all : List DumpFormat := [text]

def key : DumpFormat → Text
  | text => "text".toList

def title : DumpFormat → Text
  | text => "Text Dump".toList

def mediaType : DumpFormat → Text
  | text => "text/plain".toList

def render : DumpFormat → Snapshot → Text
  | text => Snapshot.dumpText

/-- The format of a run for which none was chosen. -/
def standard : DumpFormat := text

end DumpFormat

end TraceSnapshot
