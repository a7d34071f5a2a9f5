import TraceSnapshot.Ini.Document
import TraceSnapshot.Sorting
import TraceSnapshot.Text.CommaList
import TraceSnapshot.Text.Path

/-!
# Trace metadata

The file about captured trace lists the trace buffers, each with a section of its own, and
says which trace source belongs to which core and writes into which buffers.
-/

namespace TraceSnapshot

structure TraceBuffer where
  id : Text
  name : Text
  files : List Text
  format : Text
  deriving DecidableEq, Repr

structure TraceMetadata where
  path : Text
  bufferIds : List Text
  buffers : List TraceBuffer
  coreTraceSources : List (Text × Text)
  sourceBuffers : List (Text × Text)
  deriving DecidableEq, Repr

namespace TraceMetadata

/-- What may be wrong with a trace metadata file. -/
inductive Defect where
  | missingSection (path : Text)
  | missingBuffers (path : Text)
  | noBuffers (path : Text)
  | danglingBuffer (id : Text)
  | incompleteBuffer (id : Text)
  | noFiles (id : Text)
  deriving DecidableEq, Repr

namespace Defect

def code : Defect → Code
  | missingSection _ => .missingSection
  | missingBuffers _ => .missingKey
  | noBuffers _ => .emptyList
  | danglingBuffer _ => .danglingReference
  | incompleteBuffer _ => .missingKey
  | noFiles _ => .emptyList

def message : Defect → Text
  | missingSection path => "missing required [trace_buffers] section in ".toList ++ path
  | missingBuffers path => "trace metadata missing buffers list: ".toList ++ path
  | noBuffers path => "trace metadata has an empty buffers list: ".toList ++ path
  | danglingBuffer id => "missing buffer section: ".toList ++ id
  | incompleteBuffer id => "trace buffer section missing name or file: ".toList ++ id
  | noFiles id => "trace buffer section has an empty file list: ".toList ++ id

def report (defect : Defect) (source : Text) : Report where
  code := defect.code
  message := defect.message
  source := source

end Defect

/-- The files that a comma list of quoted paths names. -/
def fileList (value : Text) : List Text :=
  (CommaList.items value).map fun item => Path.normalize (Text.unquoted item)

/-- The buffer that the section named by an id describes. Of a repeated key the last value
counts. -/
def readBuffer (d : Ini.Document) (id : Text) : Except Defect TraceBuffer :=
  if d.hasSection id then
    match d.last? id "name".toList, d.last? id "file".toList with
    | some name, some file =>
      let files := fileList file
      if files.isEmpty then
        .error (.noFiles id)
      else
        .ok { id, name, files, format := (d.last? id "format".toList).getD [] }
    | _, _ => .error (.incompleteBuffer id)
  else
    .error (.danglingBuffer id)

/-- The entries of a section whose values are comma lists, with single commas. -/
def listPairs (d : Ini.Document) (name : Text) : List (Text × Text) :=
  (d.entries name).map fun entry => (entry.key, CommaList.join (CommaList.items entry.value))

/-- The ids of the buffers, in ascending order and once each. -/
def readBufferIds (d : Ini.Document) (path : Text) : Except Defect (List Text) :=
  match d.first? "trace_buffers".toList "buffers".toList with
  | none => .error (.missingBuffers path)
  | some list =>
    match Text.ascending (CommaList.items list) with
    | [] => .error (.noBuffers path)
    | ids => .ok ids

/-- The trace metadata that a file holds. Since the buffers are read in the order of their
ids, the least id without a complete section decides what is reported. -/
def ofDocument (d : Ini.Document) (path : Text) : Except Defect TraceMetadata :=
  if d.hasSection "trace_buffers".toList then do
    let bufferIds ← readBufferIds d path
    let buffers ← bufferIds.mapM (readBuffer d)
    return {
      path
      bufferIds
      buffers
      coreTraceSources := d.pairs "core_trace_sources".toList
      sourceBuffers := listPairs d "source_buffers".toList }
  else
    .error (.missingSection path)

end TraceMetadata

end TraceSnapshot
