import Understudy.Text.Blank
import Understudy.Text.Bytes

/-!
# Layout of a document

The text of a header and of a whole document, put together from their parts as
plain texts: which parts there are, and how many line ends stand between them.
-/

set_option autoImplicit false

namespace Understudy.Layout

def banner (fileName moduleName version : String) : String :=
  "\n".intercalate ["//", "//  " ++ fileName, "//  " ++ moduleName, "//",
    "//  Generated by mockgen v" ++ version ++ ".", "//  DO NOT EDIT", "//", ""]

def importLines (lines : List String) : List String :=
  ((lines.map Text.trim).filter (· ≠ "")).eraseDups.mergeSort fun s t => !Text.before t s

def lintLine (disableLint : Bool) : String :=
  if disableLint then "\n// swiftlint:disable all\n" else ""

def conditionLine (condition : Option String) : String :=
  match condition with
  | none => ""
  | some expression => "\n#if " ++ expression ++ "\n"

def header (banner : String) (disableLint : Bool) (condition : Option String)
    (imports : List String) : String :=
  banner ++ lintLine disableLint ++ conditionLine condition ++ "\n" ++
    "\n".intercalate imports ++ "\n"

/-- A blank line stands between two declarations, before the first of them and
before the end of the guard. -/
def document (header : String) (declarations : List String) (guarded : Bool) : String :=
  header ++ (if declarations.isEmpty then "" else "\n" ++ "\n\n".intercalate declarations) ++
    (if guarded then "\n\n#endif" else "") ++ "\n"

end Understudy.Layout
