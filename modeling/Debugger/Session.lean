import Debugger.Notifier
import Debugger.ProxyTable
import Debugger.Settings
/-!
# Sessions

A session drives one execution environment on behalf of a controller. It keeps what the
environment cannot know: which objects have proxies, which breakpoints were accepted and with what
properties, which threads it has met, who listens, and how far its own life has come.

A fatal error disables a session. From then on it refuses everything but being closed, and its
listeners have been told once.

## 1. State

## 2. Work in a session

`ask` hands a request to the environment and turns a refusal into an error of the debugger;
`onProxies` works on the table of proxies; `track` is the way to a proxy that notices corruption.

## 3. Starting and ending

## 4. Letting time pass
-/

namespace Debugger

open Std (TreeMap)

/-! ## 1. State -/

/-- How far a session's life has come. -/
inductive Lifecycle
  | notReady
  | launched
  | terminated
  | failed
  deriving DecidableEq, Repr

/-- The properties a breakpoint was set with. -/
abbrev BreakpointProperties := TreeMap String String

/-- The breakpoints that the environment accepted, with their properties. -/
abbrev BreakpointRegistry :=
  TreeMap BreakpointLocation BreakpointProperties BreakpointLocation.order

/-- What does not change about a thread. -/
structure ThreadController where
  id : ThreadId
  name : String
  group : String
  /-- Whether the thread belongs to the infrastructure; this counts in listings only. -/
  isSystem : Bool
  deriving DecidableEq, Repr

/-- A session over an environment with states in `σ`. -/
structure Session (σ : Type) where
  /-- The environment's state. -/
  world : σ
  settings : DebuggerSettings := {}
  lifecycle : Lifecycle := .notReady
  proxies : ProxyTable := {}
  breakpoints : BreakpointRegistry := ∅
  hideSystemThreads : Bool := settings.hideSystemThreads
  /-- The controllers of the threads that were reported last. -/
  controllers : TreeMap ThreadId ThreadController := ∅
  /-- The frame selected on each thread on which one was selected. -/
  selectedFrames : TreeMap ThreadId Nat := ∅
  notifier : Notifier := {}
  /-- How many of the environment's events have been passed to the notifier; nothing if the
  environment has none to offer. -/
  eventsSeen : Option Nat := none

namespace Session

variable {σ α β : Type}

/-- A new session over an environment. An environment without a stream of events is as good as any
other. -/
def create (env : Environment σ) (world : σ) (settings : DebuggerSettings) : Session σ :=
  let (subscription, world) := env.subscribe.run world
  { world, settings, eventsSeen := subscription.toOption }

/-! ## 2. Work in a session -/

/-- A piece of work in a session that can fail. -/
abbrev Op (σ α : Type) := Action (Session σ) DebugError α

/-- Does something in the environment and gives its answer, refusal or not. -/
def attempt (a : Action σ RuntimeError α) : Op σ (Except RuntimeError α) :=
  modifyGet fun s =>
    let (answer, world) := a.run s.world
    (answer, { s with world })

/-- Does something in the environment that must not be refused. -/
def ask (a : Action σ RuntimeError α) : Op σ α := do
  match ← attempt a with
  | .ok v => return v
  | .error e => throw (.ofRuntime e)

/-- Works on the table of proxies. -/
def onProxies (a : ProxyTable.Op σ α) : Op σ α := do
  let answer ← modifyGet fun s =>
    let (answer, proxies, world) := a.run (s.proxies, s.world)
    (answer, { s with proxies, world })
  match answer with
  | .ok v => return v
  | .error e => throw e

/-- Refuses to work in a disabled session. -/
def ensureUsable : Op σ Unit := do
  if (← get).lifecycle = .failed then throw .sessionFailed

/-- Disables the session for a fatal error, and tells the listeners if it was not disabled yet. -/
def disable (e : DebugError) (s : Session σ) : Session σ :=
  if s.lifecycle = .failed then s
  else { s with lifecycle := .failed, notifier := s.notifier.emit (.disabled e.message) }

/-- Lets an error through; a fatal one disables the session on its way. -/
def noticeFatal (a : Op σ α) : Op σ α :=
  tryCatch a fun e => do
    if e.isFatal then modify (disable e)
    throw e

/-- The proxy of an object, if it has one. -/
def track (env : Environment σ) (object : ObjectRef) : Op σ (Option Proxy) :=
  noticeFatal (onProxies (ProxyTable.obtainFor env object))

/-- The object that a proxy stands for. -/
def resolve (p : Proxy) : Op σ ObjectRef := onProxies (ProxyTable.resolve p)

/-- What a controller's value is to the debuggee. -/
def toValue : ProxyValue → Op σ Value
  | .null => return .null
  | .primitive p => return .primitive p
  | .object p => do return .object (← resolve p)

/-- What a debuggee's value is to the controller. An object that is not to be shown looks like
null. -/
def toProxyValue (env : Environment σ) : Value → Op σ ProxyValue
  | .null | .void => return .null
  | .primitive p => return .primitive p
  | .object o => do
    match ← track env o with
    | some p => return .object p
    | none => return .null

/-! ## 3. Starting and ending -/

/-- Launches the debuggee, and has it stop on uncaught exceptions if the settings ask for that and
the environment can. -/
def launch (env : Environment σ) : Op σ Unit := do
  ensureUsable
  ask env.launch
  if (← get).settings.breakOnUncaught then
    match ← attempt (env.setBreakOnUncaught true) with
    | .ok () | .error (.notImplemented _) => pure ()
    | .error e => throw (.ofRuntime e)
  modify fun s => { s with lifecycle := .launched }

/-- Ends the debuggee and forgets every proxy and every thread, whether or not the environment goes
along. -/
def shutDown (env : Environment σ) : Op σ Unit := do
  modify fun s => { s with proxies := {} }
  modify fun s => { s with controllers := ∅ }
  let answer ← attempt env.shutdown
  modify fun s => { s with lifecycle := .terminated }
  match answer with
  | .ok () => return ()
  | .error e => throw (.ofRuntime e)

/-- Ends the debuggee, and launches it again if asked to. -/
def close (env : Environment σ) (restart : Bool) : Op σ Unit := do
  shutDown env
  if restart then launch env

/-- The status of a launched session, read off its threads. -/
def statusOfThreads (threads : List ThreadInfo) : SessionStatus :=
  if threads.any (·.status.isSuspended) then .suspended
  else if threads.any (·.status == .running) then .running
  else .idle

/-- The status of a session. -/
def status (env : Environment σ) (s : Session σ) : SessionStatus :=
  match s.lifecycle with
  | .notReady => .notReady
  | .terminated => .terminated
  | .failed => .failed
  | .launched =>
    if !env.isLaunched s.world then .terminated
    else
      match (env.threads.run s.world).1 with
      | .error _ => .idle
      | .ok threads => statusOfThreads threads

/-- Waits for one of the given statuses. Nothing changes while nobody else does anything, so the
wait is over at once. -/
def waitForStatus (env : Environment σ) (accepted : List SessionStatus) : Op σ SessionStatus := do
  let now := (← get).status env
  if accepted.contains now then return now else throw (.timeout now)

/-! ## 4. Letting time pass -/

/-- Lets the debuggee run by itself as far as it gets, and the listeners hear of it. -/
def settle (env : Environment σ) (s : Session σ) : Session σ :=
  let world := env.settle s.world
  let events := env.events world
  let notifier := match s.eventsSeen with
    | some seen => s.notifier.send (events.toList.drop seen)
    | none => s.notifier
  { s with
    world
    eventsSeen := s.eventsSeen.map fun _ => events.size
    notifier := (notifier.requestFlush).2.run }

end Session

end Debugger
