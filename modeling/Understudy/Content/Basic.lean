/-!
# Content of a document

A document is put together as a tree. A leaf holds text; a group holds its
children in order, with an optional separator between them and an optional
footer after them. A group is built by pushing: an empty child is left out as it
is pushed, so no separator ever stands beside nothing. Whether a content is
empty is read off its top node alone.
-/

set_option autoImplicit false

namespace Understudy

inductive Content where
  | leaf (text : String)
  | group (children : List Content) (separator footer : Option String)
  deriving Repr

structure Group where
  children : List Content := []
  separator : Option String := none
  footer : Option String := none

namespace Content

def empty : Content := .group [] none none

def isEmpty : Content → Bool
  | .leaf text => text == ""
  | .group children _ footer => children.isEmpty && footer.getD "" == ""

@[simp] theorem isEmpty_empty : empty.isEmpty = true := rfl

@[simp] theorem isEmpty_leaf (text : String) : (leaf text).isEmpty = true ↔ text = "" := by
  simp [isEmpty]

theorem isEmpty_group (children : List Content) (separator footer : Option String) :
    (group children separator footer).isEmpty = true ↔ children = [] ∧ footer.getD "" = "" := by
  simp [isEmpty]

mutual

/-- A separator or footer that is not set differs from an empty one. -/
def decEq : (a b : Content) → Decidable (a = b)
  | .leaf s, .leaf t => decidable_of_iff (s = t) (by simp)
  | .leaf _, .group _ _ _ => isFalse (by simp)
  | .group _ _ _, .leaf _ => isFalse (by simp)
  | .group cs s f, .group ds t g =>
    have : Decidable (cs = ds) := decEqList cs ds
    decidable_of_iff (cs = ds ∧ s = t ∧ f = g) (by simp)

def decEqList : (as bs : List Content) → Decidable (as = bs)
  | [], [] => isTrue rfl
  | [], _ :: _ => isFalse (by simp)
  | _ :: _, [] => isFalse (by simp)
  | a :: as, b :: bs =>
    have : Decidable (a = b) := decEq a b
    have : Decidable (as = bs) := decEqList as bs
    decidable_of_iff (a = b ∧ as = bs) (by simp)

end

instance : DecidableEq Content := decEq

end Content

namespace Group

def toContent (g : Group) : Content := .group g.children g.separator g.footer

def isEmpty (g : Group) : Bool := g.toContent.isEmpty

/-- The children that stay when a list of contents is pushed. -/
def kept (children : List Content) : List Content := children.filter fun c => !c.isEmpty

/-- An empty child is left out. -/
def push (g : Group) (child : Content) : Group :=
  if child.isEmpty then g else { g with children := g.children ++ [child] }

def extend (g : Group) (children : List Content) : Group :=
  { g with children := g.children ++ kept children }

def ofList (children : List Content) : Group := { children := kept children }

def separated (g : Group) (separator : String) : Group := { g with separator := some separator }

def closed (g : Group) (footer : String) : Group := { g with footer := some footer }

@[simp] theorem kept_append (cs ds : List Content) : kept (cs ++ ds) = kept cs ++ kept ds := by
  simp [kept]

@[simp] theorem kept_kept (cs : List Content) : kept (kept cs) = kept cs := by
  simp [kept]

theorem push_eq_extend (g : Group) (child : Content) : g.push child = g.extend [child] := by
  by_cases h : child.isEmpty <;> simp [push, extend, kept, h]

theorem ofList_eq_extend (children : List Content) :
    ofList children = ({} : Group).extend children := by
  simp [ofList, extend]

end Group

end Understudy
