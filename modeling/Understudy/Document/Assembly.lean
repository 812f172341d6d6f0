import Understudy.Content.Fragments
import Understudy.Mock.Support
import Understudy.Rendering.Outcome

/-!
# Assembly of a document

A document is its header, a body and the end of its guard. The body holds the
support declarations and the rendered texts in ascending position; without any
rendered text there is no body at all.
-/

set_option autoImplicit false

namespace Understudy

structure Assembly where
  header : Content
  support : List Content := []
  guarded : Bool := false

namespace Assembly

inductive Step where
  | support (leaves : List Content)
  | runtime (name : String)
  | closeGuard (guarded : Bool)

def step (a : Assembly) : Step → Assembly
  | .support leaves => { a with support := a.support ++ leaves }
  | .runtime name => { a with support := a.support ++ Mock.Support.leaves name }
  | .closeGuard guarded => { a with guarded }

def steps (a : Assembly) (list : List Step) : Assembly := list.foldl step a

/-- Results at one position stay in the order of their arrival. -/
def inOrder (results : List Rendered) : List Rendered :=
  results.mergeSort fun r s => decide (r.position ≤ s.position)

def body (a : Assembly) (results : List Rendered) : Content :=
  if results.isEmpty then .empty
  else
    let texts := (inOrder results).map fun r => Content.leaf r.text
    ((Group.ofList (a.support ++ texts)).separated "\n\n").toContent

def toContent (a : Assembly) (results : List Rendered) : Content :=
  let closing := if a.guarded then .leaf "\n#endif" else .empty
  (((Group.ofList [a.header, a.body results, closing]).separated "\n").closed "\n").toContent

end Assembly

end Understudy
