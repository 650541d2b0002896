import Debugger.Debuggee.Vm
import Debugger.Environment.ObjectStore
import Debugger.Session.Request
/-!
# The bench

A workplace for one debugger: a backend with a session over it, and what whoever works there keeps
at hand. Proxies and objects that were met are kept under names, calls go on in the background under
names of their own, thread controllers are kept from their first use, and what the listeners heard
can be read off afterwards.

After every piece of work the bench lets the debuggee run until it can get no further. What happened
on the way is the report on that piece of work.

## 1. Backends

## 2. What is at hand

## 3. Work

## 4. Calls

A call that a session starts holds up the main thread's other callers, and so nothing else may be
started there before it is over. Calls made in the environment directly are queued, as many as one
likes.

## 5. Reports
-/

namespace Debugger

open Std (TreeMap)

/-! ## 1. Backends -/

/-- The debuggees there are, by the type of their states. -/
inductive Backend : Type → Type
  /-- A debuggee that runs code. -/
  | vm : Backend Vm
  /-- A debuggee that has objects only. -/
  | store : Backend ObjectStore
  /-- A session over an environment that can do nothing. -/
  | bare : Backend Unit
  /-- A debugger that can do nothing, without a session. -/
  | inert : Backend Unit

namespace Backend

variable {σ : Type}

/-- The execution environment of a backend. -/
def environment : Backend σ → Environment σ
  | vm => Vm.environment
  | store => ObjectStore.environment
  | bare | inert => .bare

/-- What the bodies of a backend have noted. -/
def journal : Backend σ → σ → Array Note
  | vm, w => w.shared.journal
  | store, _ | bare, _ | inert, _ => #[]

/-- Work of a debuggee that runs code, if that is the backend. -/
def ofVm? {α : Type} (backend : Backend σ) (a : Vm.Op α) : Option (Action σ RuntimeError α) :=
  match backend with
  | vm => some a
  | store | bare | inert => none

/-- Work of a session over a debuggee that runs code, if that is the backend. -/
def ofVmSession? {α : Type} (backend : Backend σ) (a : Session.Op Vm α) :
    Option (Session.Op σ α) :=
  match backend with
  | vm => some a
  | store | bare | inert => none

/-- Work of an object store, if that is the backend. -/
def ofStore? {α : Type} (backend : Backend σ) (a : StateM ObjectStore α) : Option (StateM σ α) :=
  match backend with
  | store => some a
  | vm | bare | inert => none

/-- Whether there is a session to work in. -/
def hasSession : Backend σ → Bool
  | inert => false
  | vm | store | bare => true

end Backend

/-! ## 2. What is at hand -/

/-- Why a piece of work could not be begun at the bench. -/
inductive BenchError
  | busy
  | unknownProxy (name : String)
  | unknownObject (name : String)
  | unknownListener
  | noSession
  /-- Only a debuggee that runs code can do this. -/
  | needsVm
  /-- Only an object store can do this. -/
  | needsStore
  /-- The debugger's own answer. -/
  | debugger (e : DebugError)
  /-- The environment's own answer. -/
  | environment (e : RuntimeError)
  deriving DecidableEq, Repr

/-- A proxy, or the name it was kept under. -/
inductive ProxyReference
  | given (p : Proxy)
  | kept (name : String)
  deriving DecidableEq, Repr

/-- An object reference, or the name it was kept under. -/
inductive ObjectReference
  | given (o : ObjectRef)
  | kept (name : String)
  deriving DecidableEq, Repr

/-- A controller's value in which the object may be given by name. -/
inductive ProxyArgument
  | null
  | primitive (p : Primitive)
  | object (r : ProxyReference)
  deriving DecidableEq, Repr

/-- A debuggee value that may be given by the name of an object. -/
inductive ValueArgument
  | value (v : Value)
  | kept (name : String)
  deriving DecidableEq, Repr

/-- A call in the background, with the thread it runs on if it runs on one. -/
structure BackgroundCall (α : Type) where
  name : String
  thread : Option ThreadId
  start : α

/-- How a call ended: for a session, which may fail on the way, or in the environment. -/
inductive CallReport
  | session (result : Except DebugError CallResult)
  | direct (outcome : Outcome)

/-- A listener that was given a name, and how many deliveries had been made when its log was read
last. -/
structure NamedListener where
  id : ListenerId
  readTo : Nat
  deriving DecidableEq, Repr

/-- A bench over a backend with states in `σ`. -/
structure Bench (σ : Type) where
  backend : Backend σ
  session : Session σ
  proxies : TreeMap String Proxy := ∅
  objects : TreeMap String ObjectRef := ∅
  controllers : TreeMap ThreadId ThreadController := ∅
  listeners : TreeMap String NamedListener := ∅
  /-- The listener whose events are reported. -/
  observer : Option ListenerId := none
  /-- How many calls were started. -/
  callsStarted : Nat := 0
  sessionCall : Option (BackgroundCall (Except DebugError PendingCall)) := none
  directCalls : List (BackgroundCall PendingCall) := []
  /-- How much of the deliveries, of the events and of the journal has been reported. -/
  deliveriesRead : Nat := 0
  eventsRead : Nat := 0
  journalRead : Nat := 0

namespace Bench

variable {σ α : Type}

/-- A bench with a fresh session over a backend in a given state, and a listener that hears
everything. -/
def create (backend : Backend σ) (world : σ) (settings : DebuggerSettings) : Bench σ :=
  let session := Session.create backend.environment world settings
  let (observer, notifier) := session.notifier.add fun _ => .returned
  { backend, session := { session with notifier }, observer := some observer }

/-- The environment of a bench. -/
def env (b : Bench σ) : Environment σ := b.backend.environment

/-! ## 3. Work -/

/-- A piece of work at a bench. -/
abbrev Op (σ α : Type) := Action (Bench σ) BenchError α

/-- Refuses work that needs a session where there is none. -/
def requireSession : Op σ Unit := do
  unless (← get).backend.hasSession do throw .noSession

/-- Works in the session and gives its answer, failure or not. -/
def attempt (a : Session.Op σ α) : Op σ (Except DebugError α) :=
  modifyGet fun b =>
    let (answer, session) := a.run b.session
    (answer, { b with session })

/-- Answers a request without regard to whether it fails. -/
def answer (r : Request) : Op σ (Except DebugError r.Answer) := do
  let b ← get
  if b.backend.hasSession then attempt (Session.perform b.env r) else return r.refuse

/-- The debugger's answer, or its failure. -/
def ofAnswer : Except DebugError α → Op σ α
  | .ok v => return v
  | .error e => throw (.debugger e)

/-- Makes a request of the debugger. -/
def request (r : Request) : Op σ r.Answer := do ofAnswer (← answer r)

/-- Works in the session. -/
def inSession (a : Environment σ → Session.Op σ α) : Op σ α := do
  requireSession
  ofAnswer (← attempt (a (← get).env))

/-- Works in the environment directly, behind the session's back. -/
def inEnvironment (a : Environment σ → Action σ RuntimeError α) : Op σ α := do
  requireSession
  let env := (← get).env
  let answer ← modifyGet fun b =>
    let (answer, world) := (a env).run b.session.world
    (answer, { b with session := { b.session with world } })
  match answer with
  | .ok v => return v
  | .error e => throw (.environment e)

/-- Works in a debuggee that runs code. -/
def inVm (a : Vm.Op α) : Op σ α := do
  match (← get).backend.ofVm? a with
  | some a => inEnvironment fun _ => a
  | none => throw .needsVm

/-- Works in an object store. -/
def inStore (a : StateM ObjectStore α) : Op σ α := do
  match (← get).backend.ofStore? a with
  | some a => modifyGet fun b =>
    let (answer, world) := a.run b.session.world
    (answer, { b with session := { b.session with world } })
  | none => throw .needsStore

/-- Works on the table of proxies directly; no error disables the session there. -/
def inTable (a : Environment σ → ProxyTable.Op σ α) : Op σ α :=
  inSession fun env => Session.onProxies (a env)

/-- Reads off the session. -/
def ofSession (f : Environment σ → Session σ → α) : Op σ α := do
  let b ← get
  return f b.env b.session

/-- Changes the session. -/
def modifySession (f : Session σ → Session σ) : Op σ Unit :=
  modify fun b => { b with session := f b.session }

/-- The proxy that is meant. -/
def proxy : ProxyReference → Op σ Proxy
  | .given p => return p
  | .kept name => do
    match (← get).proxies[name]? with
    | some p => return p
    | none => throw (.unknownProxy name)

/-- The object reference that is meant. -/
def object : ObjectReference → Op σ ObjectRef
  | .given o => return o
  | .kept name => do
    match (← get).objects[name]? with
    | some o => return o
    | none => throw (.unknownObject name)

/-- The controller's value that is meant. -/
def proxyValue : ProxyArgument → Op σ ProxyValue
  | .null => return .null
  | .primitive p => return .primitive p
  | .object r => do return .object (← proxy r)

/-- The debuggee value that is meant. -/
def value : ValueArgument → Op σ Value
  | .value v => return v
  | .kept name => do return .object (← object (.kept name))

/-- Keeps a proxy, if there is both one and a name for it. -/
def keepProxy (name : Option String) (p : Option Proxy) : Op σ Unit := do
  if let some name := name then
    if let some p := p then
      modify fun b => { b with proxies := b.proxies.insert name p }

/-- Keeps an object, if there is a name for it. -/
def keepObject (name : Option String) (o : ObjectRef) : Op σ Unit := do
  if let some name := name then
    modify fun b => { b with objects := b.objects.insert name o }

/-- The controller of a thread, asked for on first use and kept from then on. -/
def controller (id : ThreadId) : Op σ ThreadController := do
  match (← get).controllers[id]? with
  | some c => return c
  | none =>
    let c ← request (.thread id)
    modify fun b => { b with controllers := b.controllers.insert id c }
    return c

/-- Adds a listener under a name. Its log starts with the next event. -/
def addListener (name : String) (reaction : Reaction) : Op σ Unit := do
  let id ← request (.addListener fun _ => reaction)
  modify fun b => { b with
    listeners := b.listeners.insert name ⟨id, b.session.notifier.deliveries.size⟩ }

def namedListener (name : String) : Op σ NamedListener := do
  match (← get).listeners[name]? with
  | some l => return l
  | none => throw .unknownListener

/-- Takes a listener off the session's list; its log can be read even so. -/
def removeListener (name : String) : Op σ Bool := do
  request (.removeListener (← namedListener name).id)

/-- What a listener heard from a delivery on. -/
def heard (b : Bench σ) (listener : ListenerId) (since : Nat) : List DebuggerEvent :=
  let deliveries := b.session.notifier.deliveries.toList.drop since
  (deliveries.filter (·.listener = listener)).map (·.event)

/-- What a listener has heard since its log was read last. -/
def readLog (name : String) : Op σ (List DebuggerEvent) := do
  let l ← namedListener name
  let b ← get
  set { b with
    listeners := b.listeners.insert name ⟨l.id, b.session.notifier.deliveries.size⟩ }
  return b.heard l.id l.readTo

/-! ## 4. Calls -/

/-- The main thread of the running debuggee. -/
def mainThread (b : Bench σ) : Option ThreadId := (b.env.mainThread.run b.session.world).1.toOption

/-- Counts a call, and names it after its number unless it has a name. -/
def countCall (name : Option String) : Op σ String :=
  modifyGet fun b =>
    let n := b.callsStarted + 1
    (name.getD ("#" ++ toString n), { b with callsStarted := n })

/-- Whether a call of the session has to wait for others. -/
def sessionBusy (b : Bench σ) : Bool :=
  b.sessionCall.isSome || b.directCalls.any fun c => c.thread.isSome && c.thread == b.mainThread

/-- Starts a call through the debugger. Whatever comes of it, even a failure to start, is told when
the call is over. -/
def startCall (name : Option String) (start : Op σ (Except DebugError PendingCall)) :
    Op σ String := do
  let b ← get
  if b.sessionBusy then throw .busy
  let name ← countCall name
  let started ← start
  modify fun b => { b with sessionCall := some ⟨name, b.mainThread, started⟩ }
  return name

/-- Starts a call in the environment on a thread. One that cannot be started is not counted. -/
def startDirectCall (name : Option String) (thread : Option ThreadId)
    (start : Environment σ → Action σ RuntimeError PendingCall) : Op σ String := do
  let blocked := match (← get).sessionCall with
    | some c => c.thread.isSome && c.thread == thread
    | none => false
  if blocked then throw .busy
  let started ← inEnvironment start
  let name ← countCall name
  modify fun b => { b with directCalls := b.directCalls ++ [⟨name, thread, started⟩] }
  return name

/-- The session's part in running a body on the main thread. -/
def runBody (body : Body) : Session.Op Vm PendingCall := do
  Session.ensureUsable
  let main ← Session.ask Vm.requireMain
  Session.ask (Vm.submit main (.body body))

/-- Starts a body on the main thread, through the session. -/
def startBody (name : Option String) (body : Body) : Op σ String := do
  match (← get).backend.ofVmSession? (runBody body) with
  | some start => startCall name (attempt start)
  | none => throw .needsVm

/-- Starts a body on a thread, behind the session's back. -/
def startBodyOn (name : Option String) (thread : ThreadId) (body : Body) : Op σ String := do
  match (← get).backend.ofVm? (Vm.submit thread (.body body)) with
  | some start => startDirectCall name (some thread) fun _ => start
  | none => throw .needsVm

/-! ## 5. Reports -/

/-- What happened during a piece of work and up to the next rest. -/
structure Report where
  /-- What the observer heard. -/
  events : List DebuggerEvent
  vmEvents : List VmEvent
  journal : List Note
  /-- The calls that ended. -/
  calls : List (String × CallReport)

/-- The outcome of a call, if it has ended. -/
def outcome? (b : Bench σ) : PendingCall → Option Outcome
  | .settled outcome => some outcome
  | .queued call => b.env.outcome? b.session.world call

/-- Ends the session's call if its outcome is known. The object it gave is tracked and kept under
the call's name. -/
def finishSessionCall (b : Bench σ) : List (String × CallReport) × Bench σ :=
  match b.sessionCall with
  | none => ([], b)
  | some c =>
    match c.start with
    | .error e => ([(c.name, .session (.error e))], { b with sessionCall := none })
    | .ok pending =>
      match b.outcome? pending with
      | none => ([], b)
      | some outcome =>
        let (result, session) := (Session.finish b.env outcome).run b.session
        let proxies := match result with
          | .ok (.success (some p)) => b.proxies.insert c.name p
          | _ => b.proxies
        ([(c.name, .session result)], { b with session, proxies, sessionCall := none })

/-- Ends the direct calls whose outcomes are known. The objects they gave are kept under their
names. -/
def finishDirectCalls (b : Bench σ) : List (String × CallReport) × Bench σ :=
  let ended := b.directCalls.filterMap fun c => (b.outcome? c.start).map fun o => (c.name, o)
  let objects := ended.foldl (fun kept (name, outcome) =>
    match outcome with
    | .success (some o) => kept.insert name o
    | _ => kept) b.objects
  (ended.map fun (name, outcome) => (name, .direct outcome),
    { b with
      objects
      directCalls := b.directCalls.filter fun c => (b.outcome? c.start).isNone })

/-- Lets the debuggee run and the listeners hear of it. -/
def settleSession (b : Bench σ) : Bench σ := { b with session := b.session.settle b.env }

/-- Lets the debuggee run until it can get no further, ends the calls that are over, and reports on
what is new. -/
def settle (b : Bench σ) : Report × Bench σ :=
  let b := b.settleSession
  let (sessionCalls, b) := b.finishSessionCall
  let (directCalls, b) := b.finishDirectCalls
  let b := b.settleSession
  let vmEvents := b.env.events b.session.world
  let journal := b.backend.journal b.session.world
  ({ events := (b.observer.map fun id => b.heard id b.deliveriesRead).getD []
     vmEvents := vmEvents.toList.drop b.eventsRead
     journal := journal.toList.drop b.journalRead
     calls := sessionCalls ++ directCalls },
    { b with
      deliveriesRead := b.session.notifier.deliveries.size
      eventsRead := vmEvents.size
      journalRead := journal.size })

end Bench

end Debugger
