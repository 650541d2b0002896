import Debugger.Session
import Debugger.Text.Blank
import Debugger.Text.Number
/-!
# Breakpoints of a session

The environment holds the breakpoints that count. The session lists those the environment has
accepted, with the properties they were set with; it enters one only after it was accepted and
removes one only after it was cleared, so the two lists stay the same.
-/

namespace Debugger.Session

variable {σ : Type}

/-- The property that says on which hit a breakpoint stops. -/
def hitCountProperty : String := "hitCount"

/-- The hit a breakpoint is to stop on, or the complaint about the property that should say so. -/
def hitCount? (properties : BreakpointProperties) : Except String (Option UInt32) :=
  match properties[hitCountProperty]? with
  | none => .ok none
  | some raw =>
    match Text.readUnsigned? 32 (Text.trim raw.toList) with
    | some n =>
      if 0 < n then .ok (some (UInt32.ofNat n)) else .error (complaint raw)
    | none => .error (complaint raw)
where
  /-- What is said about a hit count that is none. -/
  complaint (raw : String) : String :=
    hitCountProperty ++ " must be a positive integer, got `" ++ raw ++ "`"

/-- Why a breakpoint was not set. -/
inductive BreakpointRefusal
  /-- The property for the hit count denotes none. -/
  | badHitCount (complaint : String)
  | refused (location : BreakpointLocation) (error : DebugError)
  deriving DecidableEq, Repr

/-- What a controller is told about a breakpoint that was not set. -/
def BreakpointRefusal.message : BreakpointRefusal → String
  | badHitCount complaint => complaint
  | refused location error =>
    "cannot set breakpoint at " ++ location.display ++ ": " ++ error.message

/-- Sets a breakpoint. The answer is the hit it is to stop on, or why it was not set. -/
def setBreakpoint (env : Environment σ) (location : BreakpointLocation)
    (properties : BreakpointProperties) : Op σ (Except BreakpointRefusal (Option UInt32)) := do
  match hitCount? properties with
  | .error complaint => return .error (.badHitCount complaint)
  | .ok hitCount =>
    match ← attempt (env.setBreakpoint ⟨location, hitCount⟩) with
    | .error e => return .error (.refused location (.ofRuntime e))
    | .ok () =>
      modify fun s => { s with breakpoints := s.breakpoints.insert location properties }
      return .ok hitCount

/-- Clears a breakpoint. The answer is a message if that was refused. -/
def clearBreakpoint (env : Environment σ) (location : BreakpointLocation) :
    Op σ (Option String) := do
  match ← attempt (env.clearBreakpoint location) with
  | .error e =>
    return some ("cannot clear breakpoint at " ++ location.display ++ ": "
      ++ (DebugError.ofRuntime e).message)
  | .ok _ =>
    modify fun s => { s with breakpoints := s.breakpoints.erase location }
    return none

/-- Sets or clears a breakpoint. A refusal is told by a message and is no error, not even that of a
disabled session. -/
def toggleBreakpoint (env : Environment σ) (location : BreakpointLocation) (set : Bool)
    (properties : BreakpointProperties) : Op σ (Option String) := do
  if (← get).lifecycle = .failed then return some DebugError.sessionFailed.message
  if set then
    match ← setBreakpoint env location properties with
    | .ok _ => return none
    | .error refusal => return some refusal.message
  else clearBreakpoint env location

/-- Clears all breakpoints in a class, in order, up to the first that is refused. -/
def removeBreakpoints (env : Environment σ) (className : String) : Op σ Unit := do
  ensureUsable
  let here := (← get).breakpoints.keys.filter (·.className == className)
  for location in here do
    let _ ← ask (env.clearBreakpoint location)
    modify fun s => { s with breakpoints := s.breakpoints.erase location }

/-- Says whether threads are to stop on uncaught exceptions. -/
def setBreakOnUncaught (env : Environment σ) (enabled : Bool) : Op σ Unit := do
  ensureUsable
  ask (env.setBreakOnUncaught enabled)

end Debugger.Session
