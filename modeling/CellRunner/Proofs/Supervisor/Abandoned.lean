import CellRunner.Proofs.Supervisor.Books
import CellRunner.Proofs.Supervisor.IllFormed
import CellRunner.Proofs.Supervisor.Reaped
import CellRunner.Proofs.Supervisor.Rest

/-!
# When patience ends

After the process has ended the owner lingers for the ends of its streams, and its patience may end
wherever it lingers. It then lets go of the drains that it has not seen to finish. A stream that was
let go may end anywhere, so it is not checked for the end of a character; a stream that has ended is.
What a wait hands on in all is what the drains had read by its last look, without the beginning of a
character at the end.
-/

set_option autoImplicit false

namespace CellRunner.Supervisor
open Utf8

end CellRunner.Supervisor
