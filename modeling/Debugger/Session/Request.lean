import Debugger.Session.Breakpoints
import Debugger.Session.Calls
import Debugger.Session.Inspection
import Debugger.Session.Threads
/-!
# Requests

Everything a controller can ask of a debugger, as data: a `Request`, and the type of what it is
answered with. `Session.perform` is the debugger that a session is. `Request.refuse` is the one that
can do nothing; it names the operation in every refusal, so that a partial debugger refuses the rest
in the same words.
-/

namespace Debugger

open Std (TreeMap)

/-- What a controller can ask of a debugger. -/
inductive Request
  | capabilities
  | status
  | launch
  | close (restart : Bool)
  | waitForStatus (accepted : List SessionStatus)
  | instantiate (className : String) (types : List String) (args : List ProxyValue)
  | runMain (className : String)
  | invoke (receiver : Proxy) (method : String) (types : List String) (args : List ProxyValue)
  | classInfo (className : String)
  | staticValue (className field : String)
  | addObject (scope name : String) (object : Proxy)
  | removeObject (scope name : String)
  | objects
  | freshName (className : String)
  | literal (text : String)
  | objectFields (object : Proxy)
  | fieldValue (object : Proxy) (field : String)
  | stringValue (object : Proxy)
  | forget (object : Proxy)
  | toggleBreakpoint (location : BreakpointLocation) (set : Bool)
      (properties : BreakpointProperties)
  | removeBreakpoints (className : String)
  | setBreakOnUncaught (enabled : Bool)
  | hideSystemThreads (hide : Bool)
  | threads
  | thread (id : ThreadId)
  | threadTree
  | addListener (react : DebuggerEvent → Reaction)
  | removeListener (id : ListenerId)

namespace Request

/-- What a request is answered with. Calls are answered when they have started. -/
abbrev Answer : Request → Type
  | capabilities => Capabilities
  | status | waitForStatus _ => SessionStatus
  | launch | close _ | addObject .. | forget _ | removeBreakpoints _ | setBreakOnUncaught _
  | hideSystemThreads _ => Unit
  | instantiate .. | runMain _ | invoke .. => PendingCall
  | classInfo _ => ClassInfo
  | staticValue .. => Option Proxy
  | removeObject .. | removeListener _ => Bool
  | objects => TreeMap String Proxy
  | freshName _ => String
  | literal _ => Proxy
  | objectFields _ => List FieldEntry
  | fieldValue .. => ProxyValue
  | stringValue _ | toggleBreakpoint .. => Option String
  | threads => List ThreadController
  | thread _ => ThreadController
  | threadTree => List ThreadGroup
  | addListener _ => ListenerId

/-- The name of an operation in a refusal. -/
def operation : Request → String
  | capabilities => "capabilities"
  | status => "get_status"
  | launch => "launch"
  | close _ => "close"
  | waitForStatus _ => "wait_for_status"
  | instantiate .. => "instantiate_class"
  | runMain _ => "run_class_main"
  | invoke .. => "invoke_method"
  | classInfo _ => "get_class"
  | staticValue .. => "get_static_value"
  | addObject .. => "add_object"
  | removeObject .. => "remove_object"
  | objects => "get_objects"
  | freshName _ => "guess_new_name"
  | literal _ => "get_mirror"
  | objectFields _ => "object_fields"
  | fieldValue .. => "field_value"
  | stringValue _ => "string_value"
  | forget _ => "forget_object"
  | toggleBreakpoint .. => "toggle_breakpoint"
  | removeBreakpoints _ => "remove_breakpoints_for_class"
  | setBreakOnUncaught _ => "set_break_on_uncaught"
  | hideSystemThreads _ => "hide_system_threads"
  | threads => "get_threads"
  | thread _ => "get_thread"
  | threadTree => "get_thread_tree"
  | addListener _ => "add_listener"
  | removeListener _ => "remove_listener"

/-- The answer of a debugger that can do nothing. Asking for its abilities or its status is no
failure, and a breakpoint is refused by a message. -/
def refuse : (r : Request) → Except DebugError r.Answer
  | capabilities => .ok {}
  | status => .ok .notReady
  | toggleBreakpoint location set properties =>
    .ok (some (DebugError.unsupported (toggleBreakpoint location set properties).operation).message)
  | r => .error (.unsupported r.operation)

end Request

/-- The answer of a session to a request. -/
def Session.perform {σ : Type} (env : Environment σ) : (r : Request) → Session.Op σ r.Answer
  | .capabilities => return env.capabilities
  | .status => return (← get).status env
  | .launch => launch env
  | .close restart => close env restart
  | .waitForStatus accepted => waitForStatus env accepted
  | .instantiate className types args => instantiate env className types args
  | .runMain className => runMain env className
  | .invoke receiver method types args => invoke env receiver method types args
  | .classInfo className => classInfo env className
  | .staticValue className field => staticValue env className field
  | .addObject scope name object => addObject scope name object
  | .removeObject scope name => removeObject scope name
  | .objects => objects
  | .freshName className => freshName className
  | .literal text => proxyOfText env text
  | .objectFields object => objectFields env object
  | .fieldValue object field => fieldValue env object field
  | .stringValue object => stringValue env object
  | .forget object => forget env object
  | .toggleBreakpoint location set properties => toggleBreakpoint env location set properties
  | .removeBreakpoints className => removeBreakpoints env className
  | .setBreakOnUncaught enabled => setBreakOnUncaught env enabled
  | .hideSystemThreads hide => setHideSystemThreads hide
  | .threads => threads env
  | .thread id => thread env id
  | .threadTree => threadTree env
  | .addListener react => modifyGet fun s =>
    let (id, notifier) := s.notifier.add react
    (id, { s with notifier })
  | .removeListener id => modifyGet fun s =>
    let (known, notifier) := s.notifier.remove id
    (known, { s with notifier })

end Debugger
