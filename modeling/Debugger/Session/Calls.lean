import Debugger.Session
/-!
# Calls of a session

A call is started in the environment and finished when its outcome is known. In between the
debuggee runs, and it may stop for as long as it takes; the session is not held up meanwhile. Until
a call has been started nothing is changed: a proxy that is not known is found out first.
-/

namespace Debugger.Session

variable {σ : Type}

/-- Starts making an instance of a class. -/
def instantiate (env : Environment σ) (className : String) (types : List String)
    (args : List ProxyValue) : Op σ PendingCall := do
  ensureUsable
  let args ← args.mapM toValue
  ask (env.newInstance className types args)

/-- The name of the method that a program starts in. -/
def mainMethod : String := "main"

/-- The type of the argument that a program may take. -/
def mainParameter : String := "String[]"

/-- Starts a program: by its main method without parameters, or else by the one with an argument
list, which is given none. A class with neither ends the call at once. -/
def runMain (env : Environment σ) (className : String) : Op σ PendingCall := do
  ensureUsable
  let info ← onProxies (ProxyTable.classInfo env className)
  if (info.staticMethod? mainMethod []).isSome then
    ask (env.invokeStatic className mainMethod [] [])
  else if (info.staticMethod? mainMethod [mainParameter]).isSome then
    ask (env.invokeStatic className mainMethod [mainParameter] [.null])
  else return .settled (.exception .internal)

/-- Starts a method of an object. -/
def invoke (env : Environment σ) (receiver : Proxy) (method : String) (types : List String)
    (args : List ProxyValue) : Op σ PendingCall := do
  ensureUsable
  let object ← resolve receiver
  let args ← args.mapM toValue
  ask (env.invokeMethod object method types args)

/-- The controller's view of an outcome. The object a call gave is tracked; one that is not to be
shown looks like none. -/
def finish (env : Environment σ) (outcome : Outcome) : Op σ CallResult :=
  outcome.tryMap fun
    | some object => track env object
    | none => return none

end Debugger.Session
