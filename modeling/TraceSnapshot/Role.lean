import TraceSnapshot.Text

namespace TraceSnapshot

/-- The three kinds of file in a snapshot. -/
inductive Role where
  | snapshot
  | device
  | trace
  deriving DecidableEq, Repr

namespace Role

def all : List Role := [snapshot, device, trace]

def name : Role → Text
  | snapshot => "snapshot".toList
  | device => "device".toList
  | trace => "trace".toList

def ofName? (t : Text) : Option Role := all.find? fun role => role.name == t

end Role

end TraceSnapshot
