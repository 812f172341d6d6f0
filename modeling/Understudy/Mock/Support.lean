import Understudy.Content.Basic

/-!
# Support declarations

Every document with a mock carries two declarations that its mocks share: a
wrapper that synchronizes access to a value, and the registry of static mocks,
which names the runtime module.
-/

set_option autoImplicit false

namespace Understudy.Mock.Support

def synchronizedWrapper : String := "\n".intercalate [
    "private class Synchronized<T> \x7b",
    "  private var internalValue: T",
    "  fileprivate var value: T \x7b",
    "    get \x7b",
    "      lock.wait()",
    "      defer \x7b lock.signal() \x7d",
    "      return internalValue",
    "    \x7d",
    "",
    "    set \x7b",
    "      lock.wait()",
    "      defer \x7b lock.signal() \x7d",
    "      internalValue = newValue",
    "    \x7d",
    "  \x7d",
    "  private let lock = DispatchSemaphore(value: 1)",
    "",
    "  fileprivate init(_ value: T) \x7b",
    "    self.internalValue = value",
    "  \x7d",
    "",
    "  fileprivate func update(_ block: (inout T) throws -> Void) rethrows \x7b",
    "    lock.wait()",
    "    defer \x7b lock.signal() \x7d",
    "    try block(&internalValue)",
    "  \x7d",
    "\x7d"]

def registry (runtime : String) : String :=
  "private var genericTypesStaticMocks = Synchronized<[String: " ++ runtime ++ ".StaticMock]>([:])"

def texts (runtime : String) : List String := [synchronizedWrapper, registry runtime]

def leaves (runtime : String) : List Content := (texts runtime).map .leaf

end Understudy.Mock.Support
