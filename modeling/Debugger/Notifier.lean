import Debugger.Debuggee.Event
/-!
# Notification

Whatever changes in a session is told to its listeners. Two streams of news meet in the notifier:
what the debuggee emits, and what the controller itself reports. Within a stream nothing overtakes
anything. Between the streams the notifier takes whichever it likes, except that a flush makes it
empty the debuggee's stream before it goes on.

A delivery reaches every listener registered at that moment, in the order of registration, and one
that panics keeps nothing from the others.

## 1. News

## 2. The notifier

## 3. Getting on

`takeMessage?` and `takeEvent?` are the two moves the notifier has, and each is indivisible. `run`
is the schedule that prefers the controller's stream.
-/

namespace Debugger

/-! ## 1. News -/

/-- What listeners are told. -/
inductive DebuggerEvent
  /-- The debuggee was launched. -/
  | started
  /-- The debuggee ended. -/
  | stopped
  | breakpoint (thread : ThreadId) (location : Option SourceLocation)
  | exception (thread : ThreadId) (description : ExceptionDescription) (suspended : Bool)
  /-- A fatal error has disabled the session. -/
  | disabled (reason : String)
  /-- A thread stopped for a reason other than the two above. -/
  | paused (thread : ThreadId) (reason : StopReason) (location : Option SourceLocation)
  | resumed (thread : ThreadId)
  deriving DecidableEq, Repr

/-- The news in an event of the debuggee. The coming and going of threads is none. -/
def DebuggerEvent.ofVm? : VmEvent → Option DebuggerEvent
  | .started => some started
  | .terminated => some stopped
  | .suspended thread .breakpoint location _ => some (breakpoint thread location)
  | .suspended thread .exception _ (some description) => some (exception thread description true)
  | .suspended thread reason location _ => some (paused thread reason location)
  | .resumed thread => some (resumed thread)
  | .uncaughtException thread description => some (exception thread description false)
  | .threadStarted _ => none
  | .threadDied _ => none

/-! ## 2. The notifier -/

/-- The number of a listener. Numbers are given in order, and none is given twice before 2^64 have
been given: see `Notifying.Run.listeners_are_words`. -/
abbrev ListenerId := Nat

/-- How a listener comes back from an event. -/
inductive Reaction
  | returned
  | panicked
  deriving DecidableEq, Repr

/-- A registered listener. -/
structure Listener where
  id : ListenerId
  react : DebuggerEvent → Reaction

/-- A message on the controller's stream. -/
inductive ControlMessage
  | emit (event : DebuggerEvent)
  /-- Asks for an acknowledgement once all that was sent before has been delivered. -/
  | flush (request : Nat)
  deriving DecidableEq, Repr

/-- An event that reached a listener. -/
structure Delivery where
  listener : ListenerId
  event : DebuggerEvent
  reaction : Reaction
  deriving DecidableEq, Repr

/-- The listeners, the two streams with what has not been taken from them, and what was done. -/
structure Notifier where
  /-- In the order of registration. -/
  listeners : List Listener := []
  lastListener : ListenerId := 0
  control : List ControlMessage := []
  stream : List VmEvent := []
  /-- Whether the debuggee can still emit. What it has emitted is delivered even so. -/
  streamOpen : Bool := true
  lastFlush : Nat := 0
  deliveries : Array Delivery := #[]
  /-- The flush requests that were acknowledged, in that order. -/
  acknowledged : List Nat := []

namespace Notifier

/-- Registers a listener under the next number. -/
def add (n : Notifier) (react : DebuggerEvent → Reaction) : ListenerId × Notifier :=
  let id := n.lastListener + 1
  (id, { n with lastListener := id, listeners := n.listeners ++ [⟨id, react⟩] })

/-- Takes a listener off the list. Says whether it was on it. -/
def remove (n : Notifier) (id : ListenerId) : Bool × Notifier :=
  let rest := n.listeners.filter (·.id ≠ id)
  (rest.length ≠ n.listeners.length, { n with listeners := rest })

/-- Sends an event of the controller. -/
def emit (n : Notifier) (e : DebuggerEvent) : Notifier :=
  { n with control := n.control ++ [.emit e] }

/-- Sends events of the debuggee; once the stream is closed there are none. -/
def send (n : Notifier) (events : List VmEvent) : Notifier :=
  if n.streamOpen then { n with stream := n.stream ++ events } else n

/-- Closes the debuggee's stream. -/
def close (n : Notifier) : Notifier := { n with streamOpen := false }

/-- Asks for an acknowledgement. -/
def requestFlush (n : Notifier) : Nat × Notifier :=
  let request := n.lastFlush + 1
  (request, { n with lastFlush := request, control := n.control ++ [.flush request] })

/-! ## 3. Getting on -/

/-- Delivers an event to all listeners. -/
def deliver (n : Notifier) (e : DebuggerEvent) : Notifier :=
  { n with deliveries := n.listeners.foldl (fun ds l => ds.push ⟨l.id, e, l.react e⟩) n.deliveries }

/-- Delivers the news in an event of the debuggee. -/
def deliverVm (n : Notifier) (e : VmEvent) : Notifier :=
  match DebuggerEvent.ofVm? e with
  | some e => n.deliver e
  | none => n

/-- Takes the next event off the debuggee's stream. -/
def takeEvent? (n : Notifier) : Option Notifier :=
  match n.stream with
  | [] => none
  | e :: rest => some ({ n with stream := rest }.deliverVm e)

/-- Takes the next message off the controller's stream. -/
def takeMessage? (n : Notifier) : Option Notifier :=
  match n.control with
  | [] => none
  | .emit e :: rest => some ({ n with control := rest }.deliver e)
  | .flush request :: rest =>
    let n := n.stream.foldl deliverVm { n with control := rest, stream := [] }
    some { n with acknowledged := n.acknowledged ++ [request] }

/-- At most `fuel` moves, the controller's stream before the debuggee's. -/
def runFor : (fuel : Nat) → Notifier → Notifier
  | 0, n => n
  | fuel + 1, n =>
    match n.takeMessage? with
    | some n => runFor fuel n
    | none =>
      match n.takeEvent? with
      | some n => runFor fuel n
      | none => n

/-- Delivers all there is. No move adds to a stream, so as many moves as there is news will do. -/
def run (n : Notifier) : Notifier := n.runFor (n.control.length + n.stream.length)

end Notifier

end Debugger
