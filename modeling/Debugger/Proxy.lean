import Debugger.Environment
/-!
# Proxies

A controller never holds a debuggee object itself. It holds a *proxy*: the handle under which the
debuggee keeps the object for it, and the name of the object's class. Two proxies stand for the
same object exactly when their handles are equal; the class name is a convenience and does not
count.
-/

namespace Debugger

/-- A controller's stand-in for a debuggee object. -/
structure Proxy where
  handle : Handle
  className : String
  deriving DecidableEq, Repr

namespace Proxy

/-- Whether two proxies stand for the same object. -/
def same (a b : Proxy) : Bool := a.handle == b.handle

/-- The class name and the handle, without anything between. -/
def display (p : Proxy) : String := p.className ++ p.handle.display

end Proxy

/-- A value as a controller has it. -/
inductive ProxyValue
  | null
  | primitive (p : Primitive)
  | object (p : Proxy)
  deriving DecidableEq, Repr

namespace ProxyValue

def display : ProxyValue → String
  | null => "null"
  | primitive p => p.display
  | object p => p.display

/-- The object a value stands for. -/
def object? : ProxyValue → Option Proxy
  | object p => some p
  | _ => none

end ProxyValue

/-- A field of an inspected object. -/
structure FieldEntry where
  name : String
  typeName : String
  value : ProxyValue
  deriving DecidableEq, Repr

/-- How a call ended for a controller: with a proxy, or with nothing. -/
abbrev CallResult := ExecResult (Option Proxy)

end Debugger
