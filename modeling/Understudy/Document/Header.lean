import Understudy.Document.Imports

/-!
# Header of a document

The header names the file, the module and the tool, may switch the linter off,
may open a condition that guards the file, and ends with the import lines.
-/

set_option autoImplicit false

namespace Understudy

structure Header where
  fileName : String
  moduleName : String
  version : String
  imports : Imports := .empty
  disableLint : Bool := false
  condition : Option String := none

namespace Header

def toolName : String := "mockgen"

def toolVersion : String := "0.3.0"

def defaultFileName : String := "Mocks.generated.swift"

def new (fileName moduleName : String) : Header :=
  { fileName, moduleName, version := toolVersion }

inductive Step where
  | version (text : String)
  | imports (lines : List String)
  | disableLint (flag : Bool)
  | condition (expression : Option String)

/-- Import lines add up; of anything else the last setting holds. -/
def step (h : Header) : Step → Header
  | .version text => { h with version := text }
  | .imports lines => { h with imports := h.imports.addAll lines }
  | .disableLint flag => { h with disableLint := flag }
  | .condition expression => { h with condition := expression }

def steps (h : Header) (list : List Step) : Header := list.foldl step h

def guard? (h : Header) : Option String := h.condition

def banner (h : Header) : String :=
  "//\n//  " ++ h.fileName ++ "\n//  " ++ h.moduleName ++ "\n//\n//  Generated by " ++ toolName ++
    " v" ++ h.version ++ ".\n//  DO NOT EDIT\n//\n"

def toContent (h : Header) : Content :=
  let lint := if h.disableLint then ["\n// swiftlint:disable all\n"] else []
  let opening := h.condition.elim [] fun expression => ["\n#if " ++ expression ++ "\n"]
  let texts := h.banner :: lint ++ opening ++ ["\n"]
  ((Group.ofList (texts.map .leaf ++ [h.imports.toContent])).closed "\n").toContent

end Header

end Understudy
