import TraceSnapshot.Device
import TraceSnapshot.Manifest
import TraceSnapshot.TraceMetadata

namespace TraceSnapshot

/-- All that is read from a snapshot directory. The directory is kept as the user named it. -/
structure Snapshot where
  directory : Text
  manifest : Manifest
  devices : List Device
  trace : Option TraceMetadata
  deriving DecidableEq, Repr

end TraceSnapshot
