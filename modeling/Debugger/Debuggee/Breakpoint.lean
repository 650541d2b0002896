import Std.Data.TreeMap
import Debugger.Outcome
/-!
# Breakpoints

A breakpoint stands at a line or at the entry of a method. The table of installed breakpoints
counts how often each was passed; one with a hit count stops the thread on that hit alone, one
without on every hit. The counter is one word wide and stays at its greatest value.

Locations are ordered, lines before methods, then by class, so that listings have one order.
-/

namespace Debugger

open Std (TreeMap)

/-- Where a breakpoint stands. -/
inductive BreakpointLocation
  | line (className : String) (line : Line)
  | method (className method : String)
  deriving DecidableEq, Repr

namespace BreakpointLocation

def className : BreakpointLocation → String
  | line c _ => c
  | method c _ => c

def display : BreakpointLocation → String
  | line c n => c ++ ":" ++ toString n.toNat
  | method c m => c ++ "." ++ m

/-- Lines come before methods. -/
def rank : BreakpointLocation → Nat
  | line .. => 0
  | method .. => 1

def lineNumber : BreakpointLocation → Nat
  | line _ n => n.toNat
  | method .. => 0

def methodName : BreakpointLocation → String
  | line .. => ""
  | method _ m => m

/-- Lines before methods, then by class, then by line or by method. -/
def order : BreakpointLocation → BreakpointLocation → Ordering :=
  compareLex (compareOn rank)
    (compareLex (compareOn className) (compareLex (compareOn lineNumber) (compareOn methodName)))

instance : Std.TransCmp order := by unfold order; infer_instance

theorem eq_of_order {a b : BreakpointLocation} (h : order a b = .eq) : a = b := by
  simp only [order, compareLex, compareOn, Ordering.then_eq_eq, Std.compare_eq_iff_eq] at h
  obtain ⟨hr, hc, hl, hm⟩ := h
  cases a <;> cases b <;> simp_all [rank, className, lineNumber, methodName, UInt32.toNat_inj]

instance : Std.LawfulEqCmp order where
  eq_of_compare := eq_of_order

/-- Locations in their order, each once. -/
def sorted (locations : List BreakpointLocation) : List BreakpointLocation :=
  (TreeMap.ofList (locations.map fun l => (l, ())) order).keys

end BreakpointLocation

/-- A breakpoint to install: it stops on the hit of that number, or on every hit. -/
structure BreakpointRequest where
  location : BreakpointLocation
  hitCount : Option UInt32
  deriving DecidableEq, Repr

/-- An installed breakpoint and how often it was passed. -/
structure Installed where
  hitCount : Option UInt32
  hits : UInt32
  deriving DecidableEq, Repr

/-- One more hit; the counter stays at its greatest value. -/
def Installed.hit (b : Installed) : Installed :=
  { b with hits := if b.hits = 0xffffffff then b.hits else b.hits + 1 }

/-- Whether the hit that was counted last is one to stop on. -/
def Installed.stops (b : Installed) : Bool :=
  match b.hitCount with
  | none => true
  | some n => b.hits == n

/-- The installed breakpoints. -/
abbrev BreakpointTable := TreeMap BreakpointLocation Installed BreakpointLocation.order

namespace BreakpointTable

/-- Installs a breakpoint with a counter at zero, in place of one that stands there. -/
def install (t : BreakpointTable) (r : BreakpointRequest) : BreakpointTable :=
  t.insert r.location ⟨r.hitCount, 0⟩

/-- Passes a location: counts the hit, and says whether to stop. -/
def pass (t : BreakpointTable) (at_ : BreakpointLocation) : Bool × BreakpointTable :=
  match t[at_]? with
  | none => (false, t)
  | some b => (b.hit.stops, t.insert at_ b.hit)

/-- Sets every counter to zero. -/
def resetHits (t : BreakpointTable) : BreakpointTable := t.map fun _ b => { b with hits := 0 }

end BreakpointTable

end Debugger
