import Debugger.Bench
import Debugger.CommandLine.Arguments
import Debugger.CommandLine.Narration
import Debugger.Demo
import Debugger.Log.Stock.Filter
import Debugger.Rendering
import Debugger.Settings.File
/-!
# Running the demonstration

What the command line is for: the demonstration program runs under a debugger, with breakpoints as
asked for. Wherever it stops, the stack is shown and it goes on. When it is over, one of its objects
is made and looked at.

All that is said on the way is collected here and printed elsewhere, so a run is a value.

## 1. What is said

## 2. Settings

## 3. The run

## 4. The command line as a whole
-/

namespace Debugger.CommandLine

/-! ## 1. What is said -/

/-- A text for one of the two channels of a program. -/
inductive Said
  | output (text : String)
  | complaint (text : String)
  deriving DecidableEq, Repr

/-- What came of a command. -/
structure Result where
  status : UInt8 := 0
  said : List Said := []
  /-- How the run logs, if there was one. -/
  logging : LoggingSettings := {}
  filter : Log.Filter := .ofDirectives []
  records : List Log.Record := []

/-- What is logged. -/
def Result.logLines (r : Result) : List String := r.filter.write r.logging.json r.records

/-- All that a channel got, in one text. -/
def Result.output (r : Result) : String :=
  String.join (r.said.filterMap fun s => match s with
    | .output text => some text
    | .complaint _ => none)

def Result.complaints (r : Result) : String :=
  String.join (r.said.filterMap fun s => match s with
    | .output _ => none
    | .complaint text => some text)

/-! ## 2. Settings -/

/-- What the surroundings of a program say. -/
structure Surroundings where
  /-- The settings file. -/
  settings : Option String := none
  /-- What is laid on top of the configured level. -/
  level : Option String := none

/-- The settings of a run. Here even an empty name in the surroundings counts. A file that cannot be
loaded is complained about, and the defaults are used. -/
def loadSettings {m : Type → Type} [Monad m] (readFile : Settings.ReadFile m) (a : Arguments)
    (around : Surroundings) : m (Settings × List Said) := do
  match a.settings.orElse fun _ => around.settings with
  | none => return ({}, [])
  | some path =>
    match ← Settings.loadFrom readFile path with
    | .ok settings => return (settings, [])
    | .error e =>
      return ({}, [.complaint ("tether: failed to load config from " ++ path ++ ": " ++ e.message
        ++ "; continuing with defaults\n")])

/-! ## 3. The run -/

/-- A run under way. -/
structure State where
  bench : Bench Vm
  said : Array Said := #[]
  records : Array Log.Record := #[]

/-- A piece of a run, which a failure of the debugger ends. -/
abbrev Run (α : Type) := Action State BenchError α

namespace Run

def say (s : Said) : Run Unit := modify fun r => { r with said := r.said.push s }

def print (text : String) : Run Unit := say (.output text)

def log (record : Log.Record) : Run Unit :=
  modify fun r => { r with records := r.records.push record }

/-- Works on the bench. An object that got a proxy in the course is logged, first as held by the
debuggee and then as known to the debugger. -/
def change {α : Type} (f : Bench Vm → α × Bench Vm) : Run α := do
  let known := (← get).bench.session.proxies.byHandle
  let answer ← modifyGet fun r =>
    let (answer, bench) := f r.bench
    (answer, { r with bench })
  for (handle, object) in (← get).bench.session.proxies.byHandle.toList do
    if !known.contains handle then
      log (Narration.objectRegistered handle object.id)
      log (Narration.objectTracked handle object.id)
  return answer

/-- How an event is told; those that are not worth it have no text. -/
def describe? : DebuggerEvent → Option String
  | .breakpoint thread (some location) =>
    some ("[thread " ++ toString thread ++ "] breakpoint at " ++ location.display ++ "\n")
  | .exception thread description suspended =>
    some ("[thread " ++ toString thread ++ "] exception " ++ description.typeName
      ++ (if suspended then " (suspended)" else "") ++ "\n")
  | _ => none

/-- A thread of the debuggee. -/
def thread (id : ThreadId) : Run Thread := do
  return (← get).bench.session.world.threads.getD id { id, name := "", group := "" }

/-- Logs an event of the debuggee, and what becomes of it on the way to the one listener there is.
When the threads are terminated nothing is left in their queues. -/
def narrate (e : VmEvent) : Run Unit := do
  match e with
  | .threadStarted id =>
    let t ← thread id
    log (Narration.threadStarted id t.name t.group)
  | .suspended id reason location _ =>
    log (Narration.threadSuspended (← thread id).name reason location)
  | .threadDied id => log (Narration.threadTerminated (← thread id).name 0)
  | .terminated => log Narration.debuggeeTerminated
  | .started | .resumed _ | .uncaughtException .. => pure ()
  match DebuggerEvent.ofVm? e with
  | some news =>
    log (Narration.dispatching news 1)
    if (describe? news).isNone then log (Narration.eventPassed news)
  | none =>
    match e with
    | .threadStarted id | .threadDied id => log (Narration.threadCameOrWent id)
    | _ => pure ()

/-- Lets the debuggee run, tells what happened, and gives what came of the session's call if it has
ended. -/
def settle : Run (Option (Except DebugError CallResult)) := do
  let report ← change Bench.settle
  for e in report.vmEvents do narrate e
  for text in report.events.filterMap describe? do print text
  return report.calls.findSome? fun (_, c) => match c with
    | .session result => some result
    | .direct _ => none

/-- Works at the bench. What this sets going in the debuggee waits for its time. -/
def start {α : Type} (a : Bench.Op Vm α) : Run α := do
  match ← change (a.run ·) with
  | .ok v => return v
  | .error e => throw e

/-- Works at the bench, and lets the debuggee run afterwards. -/
def work {α : Type} (a : Bench.Op Vm α) : Run α := do
  let v ← start a
  let _ ← settle
  return v

/-- Makes a request of the debugger. -/
def request (q : Request) : Run q.Answer := work (Bench.request q)

/-- Sees a call of the session through: wherever the thread stops, its stack is shown and it goes
on. A thread that does not stop again within `fuel` stops is given up, as is a call that no thread
will end. -/
def seeThrough (thread : ThreadId) :
    (fuel : Nat) → Option (Except DebugError CallResult) → Run (Option CallResult)
  | _, some (.ok result) => return some result
  | _, some (.error e) => throw (.debugger e)
  | 0, none => return none
  | fuel + 1, none => do
    if ← work (Bench.inSession fun env => Session.waitUntilSuspended env thread) then
      print (renderStack (← work (Bench.inSession fun env => Session.stack env thread)))
      start (Bench.inSession fun env => Session.resume env thread none)
      log (Narration.threadResumed thread)
      seeThrough thread fuel (← settle)
    else return none

/-- Starts a call of the session and gives what came of it if it ends by itself. -/
def call (q : Bench.Op Vm (Except DebugError PendingCall)) :
    Run (Option (Except DebugError CallResult)) := do
  let _ ← start (Bench.startCall none q)
  settle

/-- More often than this the demonstration cannot stop: it has fifteen lines, and reaches none of
them more than three times. -/
def stopLimit : Nat := 45

/-- Sets the breakpoints that are asked for. One that is refused is complained about. -/
def setBreakpoints (a : Arguments) : Run Unit := do
  let properties : BreakpointProperties := match a.hitCount with
    | some n => .ofList [(Session.hitCountProperty, toString n.toNat)]
    | none => ∅
  for location in a.breakpoints do
    match ← work (Bench.inSession fun env => Session.setBreakpoint env location properties) with
    | .ok hitCount =>
      log (Narration.breakpointInstalled location)
      log (Narration.breakpointSet location hitCount)
    | .error refusal =>
      if let .refused location error := refusal then
        log (Narration.breakpointRejected location error)
      say (.complaint ("tether: " ++ refusal.message ++ "\n"))

/-- The scope that the account is kept in. -/
def scope : String := "bench"

/-- Makes an account and shows it. Nobody is there to help it over a breakpoint, so if it stops at
one there is nothing to show. -/
def showAccount : Run Unit := do
  let owner ← request (.literal "\"grace\"")
  let made ← call (Bench.answer
    (.instantiate Demo.accountClass ["String", "int"] [.object owner, .primitive (.int 100)]))
  match made with
  | some (.ok (.success (some account))) =>
    let name ← request (.freshName account.className)
    request (.addObject scope name account)
    print (name ++ " = " ++ account.display ++ "\n")
    print (renderFields (← request (.objectFields account)))
  | some (.error e) => throw (.debugger e)
  | _ => return ()

/-- The whole run. -/
def demonstrate (a : Arguments) : Run Unit := do
  for c in Vm.standardClasses ++ Demo.classes do log (Narration.classDefined c.name)
  request .launch
  log Narration.debuggeeLaunched
  log Narration.sessionLaunched
  setBreakpoints a
  let main ← work (Bench.inEnvironment (·.mainThread))
  let some result ← seeThrough main stopLimit (← call (Bench.answer (.runMain Demo.mainClass)))
    | return ()
  print (Demo.mainClass ++ " returned " ++ result.render ++ "\n")
  print (← request (.classInfo Demo.accountClass)).render
  showAccount
  log (Narration.proxiesDropped (← get).bench.session.proxies.size)
  request (.close false)
  log (Narration.sessionClosed false)
  for (_, t) in (← get).bench.session.world.threads.toList do log (Narration.threadExited t.name)

end Run

/-- Runs the demonstration with settings. What was complained about before comes first. -/
def demonstrate (a : Arguments) (settings : Settings) (level : Option String)
    (said : List Said) : Result :=
  let debugger := { settings.debugger with
    breakOnUncaught := settings.debugger.breakOnUncaught || a.breakOnUncaught }
  let bench := Bench.create .vm (Demo.load Vm.fresh) debugger
  let (answer, s) := (Run.demonstrate a).run { bench, said := said.toArray }
  { status := if answer.isOk then 0 else 1
    said := s.said.toList
    logging := settings.logging
    filter := Log.Filter.effective settings.logging.level level
    records := s.records.toList }

/-! ## 4. The command line as a whole -/

/-- The status of a program that gave up. -/
def gaveUp : UInt8 := 101

/-- The name and the version of the program. -/
def versionText : String := "tether 0.1.0\n"

/-- What the program does, and its options. -/
def helpText : String := unlines
  ["Run the demo debuggee under the Tether controller.",
    "",
    "Each breakpoint hit prints the stack of the stopped thread and continues.",
    "",
    "Usage: tether [OPTIONS]",
    "",
    "Options:",
    "      --config <CONFIG>     Path to a TOML config file",
    "      --break <CLASS:LINE>  Line breakpoint, e.g. `demo.Account:11`. Repeatable",
    "      --hit-count <N>       Break only on the N-th hit of each breakpoint",
    "      --break-on-uncaught   Suspend when an exception escapes the program",
    "  -h, --help                Print help",
    "  -V, --version             Print version"]

/-- What comes of a command line, given how files are read and what the surroundings say. -/
def run {m : Type → Type} [Monad m] (readFile : Settings.ReadFile m) (around : Surroundings)
    (words : List String) : m Result := do
  match Arguments.read words with
  | .error e =>
    return { status := 2
             said := [.complaint (Text.withoutControls e.display)] }
  | .ok .help => return { said := [.output helpText] }
  | .ok .version => return { said := [.output versionText] }
  | .ok (.run a) =>
    let (settings, said) ← loadSettings readFile a around
    if Log.Filter.givesUp settings.logging.level around.level then
      return { status := gaveUp
               said := said ++ [.complaint "a character of the log filter is split in two\n"] }
    else return demonstrate a settings around.level said

end Debugger.CommandLine
