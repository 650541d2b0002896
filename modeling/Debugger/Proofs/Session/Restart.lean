import Debugger.Proofs.Debuggee.Services
import Debugger.Proofs.Session.Identity
/-!
# What a restart starts with

A close with a restart shuts the debuggee down and launches it again in the same session. Nothing that
was done before should be felt then, but for what is meant to stay: classes and breakpoints. So the
debuggee is compared with a new one that was given the same classes and the same breakpoints and is
launched by a new session with the same settings. The new one counts its objects, threads, calls and
handles on from where the old one stands, because numbers are never given twice; with that, both
should do the same.

* `Vm.Over` - a debuggee that is down and of which nothing is left. A new one is so, and so is one that
  was shut down when no call was outstanding.
* `Vm.Pristine` - how a launch begins.
* `Vm.Over.launch_alike` - launching two of them gives two debuggees that answer alike.
* `Session.Unburdened` - what can be in the way: a debuggee goes on stopping on uncaught exceptions if
  it was told to (`Session.restart_keeps_stopping`), and a restart of one that is down does not
  clear it of what cut-short bodies have made since.
* `Session.restart_is_a_fresh_start` - what a restart does otherwise.

## 1. A debuggee that is over

## 2. A new debuggee

## 3. Launching it

## 4. A restart
-/

namespace Debugger

open Std (TreeMap)

/-! ## 1. A debuggee that is over -/

/-- No call of the thread is outstanding. -/
structure Thread.Unoccupied (t : Thread) : Prop where
  held : t.worker.held = []
  underway : t.worker.underway = []
  empty : queued t.inbox = []

instance (t : Thread) : Decidable t.Unoccupied :=
  decidable_of_iff (t.worker.held = [] ∧ t.worker.underway = [] ∧ queued t.inbox = [])
    ⟨fun ⟨held, underway, empty⟩ => ⟨held, underway, empty⟩,
      fun h => ⟨h.held, h.underway, h.empty⟩⟩

theorem Thread.Unoccupied.spent {t : Thread} (h : t.Unoccupied) (unlisted : t.listed = false)
    (dead : t.status = .terminated) : t.Spent := by
  refine ⟨unlisted, dead, h.empty, ?_⟩
  have held := h.held
  have underway := h.underway
  cases hw : t.worker with
  | waiting => exact .inl rfl
  | exited => exact .inr rfl
  | holding =>
    rw [hw] at held
    cases held
  | busy | ended | telling =>
    rw [hw] at underway
    cases underway

/-- Terminating a thread takes the calls off its inbox and leaves its control as it is. -/
theorem Thread.Unoccupied.terminate {t : Thread} (h : t.Unoccupied) (s : Shared) :
    (t.terminate s).1.Unoccupied := by
  rcases t.terminate_cases s with same | died
  · rw [same]
    exact h
  · rw [died]
    exact ⟨h.held, h.underway, rfl⟩

namespace Vm

variable {past : Past} {v w : Vm}

/-- No call is outstanding. -/
def Unoccupied (v : Vm) : Prop :=
  ∀ (id : ThreadId) (t : Thread), v.threads[id]? = some t → t.Unoccupied

instance (v : Vm) : Decidable v.Unoccupied :=
  decidable_of_iff (∀ p ∈ v.threads.toList, p.2.Unoccupied)
    ⟨fun h id t there => h (id, t) (TreeMap.mem_toList_iff_getElem?_eq_some.mpr there),
      fun h p hp => h p.1 p.2 (TreeMap.mem_toList_iff_getElem?_eq_some.mp hp)⟩

/-- A debuggee that is down and of which nothing is left. -/
structure Over (v : Vm) : Prop where
  sound : v.Sound
  down : v.launched = false
  objects : ∀ id, v.shared.heap.object? id = none
  held : ∀ h : Handle, v.holds.byHandle[h]? = none
  threads : ∀ (id : ThreadId) (t : Thread), v.threads[id]? = some t → t.Spent

theorem unoccupied_retireAll (ts : List Thread) (h : v.Unoccupied) (free : ∀ t ∈ ts, t.Unoccupied) :
    (ts.foldl Vm.retire v).Unoccupied := by
  induction ts generalizing v with
  | nil => exact h
  | cons t rest ih =>
    refine ih ?_ fun u hu => free u (List.mem_cons_of_mem _ hu)
    intro id u hu
    rw [retire_getElem?] at hu
    split at hu
    · cases hu
      obtain ⟨held, underway, empty⟩ := (free t List.mem_cons_self).terminate v.shared
      exact ⟨held, underway, empty⟩
    · exact h id u hu

theorem foldl_retire_aside (ts : List Thread) (v : Vm) :
    (ts.foldl retire v).lastCall = v.lastCall ∧
      (ts.foldl retire v).shared.breakOnUncaught = v.shared.breakOnUncaught := by
  induction ts generalizing v with
  | nil => exact ⟨rfl, rfl⟩
  | cons t rest ih =>
    obtain ⟨call, uncaught⟩ := ih (v.retire t)
    refine ⟨call, uncaught.trans ?_⟩
    show (t.terminate v.shared).2.breakOnUncaught = _
    unfold Thread.terminate
    split
    · rfl
    · obtain ⟨completed, eq⟩ := Observed.discard_kept t.inbox v.shared
      rw [eq]
      rfl

theorem shutdown_down (v : Vm) : v.shutdown.launched = false := by
  cases up : v.launched with
  | false =>
    rw [shutdown_of_down up]
    exact up
  | true =>
    rw [shutdown_eq up]
    exact (foldl_retire_kept _ _).2.1

/-- What a shutdown leaves as it is. -/
structure Keeps (v w : Vm) : Prop where
  classes : w.shared.classes = v.shared.classes
  breakpoints : w.shared.breakpoints = v.shared.breakpoints
  breakOnUncaught : w.shared.breakOnUncaught = v.shared.breakOnUncaught
  lastId : w.shared.heap.lastId = v.shared.heap.lastId
  lastThread : w.lastThread = v.lastThread
  lastCall : w.lastCall = v.lastCall
  lastHandle : w.holds.last = v.holds.last

theorem keeps_shutdown (v : Vm) : v.Keeps v.shutdown := by
  cases up : v.launched with
  | false =>
    rw [shutdown_of_down up]
    exact ⟨rfl, rfl, rfl, rfl, rfl, rfl, rfl⟩
  | true =>
    obtain ⟨holds, -, classes, breakpoints, heap, last⟩ :=
      foldl_retire_kept (listedThreads { v with launched := false, mainThread := none })
        { v with launched := false, mainThread := none }
    obtain ⟨call, uncaught⟩ :=
      foldl_retire_aside (listedThreads { v with launched := false, mainThread := none })
        { v with launched := false, mainThread := none }
    have lastId : v.extinguished.shared.heap.lastId = v.shared.heap.lastId :=
      congrArg Heap.lastId heap
    have lastHandle : v.extinguished.holds.last = v.holds.last := congrArg Holds.last holds
    rw [shutdown_eq up]
    exact ⟨classes, breakpoints, uncaught, lastId, last, call, lastHandle⟩

/-- **Shutting down a debuggee of which no call is outstanding leaves nothing.** One that was down
before has to be empty, because bodies that were cut short have made what they made. -/
theorem Sound.shutdown_over (h : v.Sound) (unmanned : v.Unmanned) (idle : v.Unoccupied)
    (clean : v.launched = true ∨ v.shared.heap.size = 0 ∧ v.holds.byHandle.size = 0) :
    v.shutdown.Over := by
  have sound : v.shutdown.Sound := ((Deed.change .shutdown v).onward h).sound
  have free : v.shutdown.Unoccupied := by
    cases up : v.launched with
    | false =>
      rw [shutdown_of_down up]
      exact idle
    | true =>
      rw [shutdown_eq up]
      refine unoccupied_retireAll _ idle fun t ht => ?_
      obtain ⟨there, -⟩ := h.listedThreads
      exact idle t.id t (there t ht)
  have spent (id : ThreadId) (t : Thread) (there : v.shutdown.threads[id]? = some t) : t.Spent :=
    have off := h.shutdown_unlisted unmanned there
    (free id t there).spent off (sound.unlisted id t there off)
  cases up : v.launched with
  | true =>
    have dark := h.shutdown_dark up
    refine ⟨sound, dark.down, fun id => ?_, fun handle => ?_, spent⟩
    · exact TreeMap.getElem?_eq_none (dark.objects id)
    · exact TreeMap.getElem?_eq_none (dark.holds handle)
  | false =>
    obtain ⟨objects, holds⟩ := clean.resolve_left (by rw [up]; exact Bool.false_ne_true)
    rw [shutdown_of_down up] at sound spent ⊢
    refine ⟨sound, up, fun id => ?_, fun handle => ?_, spent⟩
    · exact TreeMap.getElem?_eq_none ((size_eq_zero_iff _).mp objects id)
    · exact TreeMap.getElem?_eq_none ((size_eq_zero_iff _).mp holds handle)

/-! ## 2. A new debuggee -/

/-- What a debuggee is set up with before it is launched. -/
def Deed.isSetup : Deed → Bool
  | define _ | setBreakpoint _ | clearBreakpoint _ => true
  | _ => false

/-- A debuggee to which nothing has happened yet. -/
structure Blank (v : Vm) : Prop where
  gone : v.Over
  bare : ∀ id : ThreadId, v.threads[id]? = none
  events : v.shared.events = #[]
  journal : v.shared.journal = #[]
  completed : v.shared.completed = #[]
  breakOnUncaught : v.shared.breakOnUncaught = false

theorem blank_empty : Blank {} where
  gone := ⟨sound_empty, rfl, fun _ => TreeMap.getElem?_emptyc, fun _ => TreeMap.getElem?_emptyc, by
    intro id t there
    rw [TreeMap.getElem?_emptyc] at there
    cases there⟩
  bare _ := TreeMap.getElem?_emptyc
  events := rfl
  journal := rfl
  completed := rfl
  breakOnUncaught := rfl

theorem Blank.setup (h : v.Blank) {d : Deed} (setup : d.isSetup = true) : (d.run v).Blank := by
  have sound : (d.run v).Sound := ((d.change v).onward h.gone.sound).sound
  cases d with
  | define c =>
    exact ⟨⟨sound, h.gone.down, h.gone.objects, h.gone.held, h.gone.threads⟩, h.bare, h.events,
      h.journal, h.completed, h.breakOnUncaught⟩
  | clearBreakpoint l =>
    exact ⟨⟨sound, h.gone.down, h.gone.objects, h.gone.held, h.gone.threads⟩, h.bare, h.events,
      h.journal, h.completed, h.breakOnUncaught⟩
  | setBreakpoint r =>
    have effect : Deed.run v (.setBreakpoint r) = ((Vm.setBreakpoint r).run v).2 := rfl
    rw [effect] at sound ⊢
    rcases setBreakpoint_cases r v with ⟨e, eq⟩ | eq
    · rw [eq]
      exact h
    · rw [eq] at sound ⊢
      exact ⟨⟨sound, h.gone.down, h.gone.objects, h.gone.held, h.gone.threads⟩, h.bare, h.events,
        h.journal, h.completed, h.breakOnUncaught⟩
  | _ => cases setup

theorem Blank.after (h : v.Blank) {ds : List Deed} (setup : ∀ d ∈ ds, d.isSetup = true) :
    (v.after ds).Blank := by
  induction ds generalizing v with
  | nil => exact h
  | cons d rest ih =>
    exact ih (h.setup (setup d List.mem_cons_self))
      fun e he => setup e (List.mem_cons_of_mem _ he)

/-- A new debuggee with the classes and the breakpoints of another one. -/
structure PreparedLike (new v : Vm) : Prop where
  made : ∃ ds, (∀ d ∈ ds, Deed.isSetup d = true) ∧ new = fresh.after ds
  classes : ∀ name : String, new.shared.classes[name]? = v.shared.classes[name]?
  breakpoints : ∀ l : BreakpointLocation,
    (new.shared.breakpoints[l]?).map Installed.hitCount =
      (v.shared.breakpoints[l]?).map Installed.hitCount

/-- The counters put to where those of another debuggee stand. -/
def numberedAs (new v : Vm) : Vm :=
  { new with
    lastThread := v.lastThread
    lastCall := v.lastCall
    holds := { new.holds with last := v.holds.last }
    shared := { new.shared with heap := { new.shared.heap with lastId := v.shared.heap.lastId } } }

theorem Blank.numberedAs (h : w.Blank) (v : Vm) : (w.numberedAs v).Blank := by
  have sound : (w.numberedAs v).Sound := by
    refine ⟨fun id there => ?_, fun id t there => ?_, h.gone.sound.unlisted, h.gone.sound.statics,
      h.gone.sound.classes, fun e he => ?_⟩
    · exact absurd there ((getElem?_eq_none_iff _ _).mp (h.gone.objects id))
    · have there : w.threads[id]? = some t := there
      rw [h.bare] at there
      cases there
    · have he : e ∈ w.shared.events.toList := he
      rw [h.events] at he
      cases he
  exact ⟨⟨sound, h.gone.down, h.gone.objects, h.gone.held, h.gone.threads⟩, h.bare, h.events,
    h.journal, h.completed, h.breakOnUncaught⟩

theorem PreparedLike.blank (h : PreparedLike w v) : w.Blank := by
  obtain ⟨ds, setup, rfl⟩ := h.made
  have standard : ∀ d ∈ standardClasses.map Deed.define, d.isSetup = true := by
    intro d hd
    obtain ⟨c, -, rfl⟩ := List.mem_map.mp hd
    rfl
  rw [fresh_eq]
  exact (blank_empty.after standard).after setup

/-! ## 3. Launching it -/

/-- The threads of a launch, as they are started. -/
def crew (last : ThreadId) : List Thread :=
  [{ id := last + 1, name := "main", group := mainGroup },
    { id := last + 2, name := "Reference Handler", group := systemGroup },
    { id := last + 3, name := "Finalizer", group := systemGroup },
    { id := last + 4, name := "Signal Dispatcher", group := systemGroup }]

/-- How a launch begins: without objects and holds, with static fields and hit counters at their
beginnings, and with its threads idle and no others. -/
structure Pristine (last : ThreadId) (uncaught : Bool) (v : Vm) : Prop where
  launched : v.launched = true
  objects : v.shared.heap.size = 0
  holds : v.holds.byHandle.size = 0
  statics : ∀ className field, v.shared.heap.static? className field =
    (v.shared.class? className).bind (·.initial? field)
  hits : ∀ (l : BreakpointLocation) (b : Installed), v.shared.breakpoints[l]? = some b → b.hits = 0
  mainThread : v.mainThread = some (last + 1)
  threads : ∀ id, v.thread? id =
    match (crew last).find? (·.id = id) with
    | some t => .ok t
    | none => .error (.unknownThread id)
  uncaught : v.shared.breakOnUncaught = uncaught

theorem startThread_lastThread (v : Vm) (name group : String) :
    (v.startThread name group).2.lastThread = v.lastThread + 1 := rfl

theorem launch_getElem? (down : v.launched = false) (id : ThreadId) :
    v.launch.threads[id]? = ((crew v.lastThread).find? (·.id = id)).or v.threads[id]? := by
  have last : v.ignited.lastThread = v.lastThread := rfl
  have threads : v.ignited.threads = v.threads := rfl
  rw [launch_eq down]
  simp only [systemThreads, List.foldl_cons, List.foldl_nil, startThread_getElem?,
    startThread_lastThread, last, threads]
  -- The numbers are four in a row, so at most one of them is asked for.
  by_cases main : v.lastThread + 1 = id
  · subst main
    simp [crew, Nat.add_assoc]
  by_cases first : v.lastThread + 2 = id
  · subst first
    simp [crew, Nat.add_assoc]
  by_cases second : v.lastThread + 3 = id
  · subst second
    simp [crew, Nat.add_assoc]
  by_cases third : v.lastThread + 4 = id
  · subst third
    simp [crew, Nat.add_assoc]
  simp [crew, Nat.add_assoc, main, first, second, third]

/-- What a launch takes over from before, whatever it is. -/
theorem launch_kept (down : v.launched = false) :
    v.launch.shared.heap.objects = v.shared.heap.objects ∧
      v.launch.shared.heap.lastId = v.shared.heap.lastId ∧ v.launch.holds = v.holds ∧
      v.launch.shared.breakOnUncaught = v.shared.breakOnUncaught := by
  obtain ⟨objects, last, -⟩ := foldl_initStatics_kept v.shared.classes.toList v.shared.heap
  rw [← Vm.launch_heap down] at objects last
  refine ⟨objects, last, ?_, ?_⟩
  · rw [launch_eq down]
    rfl
  · rw [launch_eq down]
    rfl

/-- What a launch makes of the heap of a debuggee that is over. -/
theorem Over.launch_heap (h : v.Over) : v.launch.shared.heap.lastId = v.shared.heap.lastId ∧
    (∀ id, v.launch.shared.heap.object? id = none) ∧
    ∀ className field, v.launch.shared.heap.static? className field =
      (v.shared.class? className).bind (·.initial? field) := by
  obtain ⟨objects, last, -⟩ := launch_kept h.down
  refine ⟨last, fun id => ?_, h.sound.launch_static? h.down⟩
  unfold Heap.object?
  rw [objects]
  exact h.objects id

/-- **A launch of a debuggee that is over begins as every first launch does.** -/
theorem Over.pristine (h : v.Over) : Pristine v.lastThread v.shared.breakOnUncaught v.launch := by
  obtain ⟨-, objects, statics⟩ := h.launch_heap
  obtain ⟨-, -, held, uncaught⟩ := launch_kept h.down
  have eq := launch_eq h.down
  refine ⟨by rw [eq]; rfl, ?_, ?_, fun className field => ?_, fun l b there => ?_, by rw [eq]; rfl,
    fun id => ?_, uncaught⟩
  · exact (size_eq_zero_iff _).mpr fun id => (getElem?_eq_none_iff _ _).mp (objects id)
  · refine holds_size_eq_zero fun handle => ?_
    rw [held]
    exact (getElem?_eq_none_iff _ _).mp (h.held handle)
  · have classes : v.launch.shared.classes = v.shared.classes := by rw [eq]; rfl
    unfold Shared.class?
    rw [classes]
    exact statics className field
  · have reset : v.launch.shared.breakpoints = v.shared.breakpoints.resetHits := by rw [eq]; rfl
    rw [reset, BreakpointTable.getElem?_resetHits] at there
    obtain ⟨old, -, rfl⟩ := Option.map_eq_some_iff.mp there
    rfl
  · unfold Vm.thread?
    rw [launch_getElem? h.down]
    cases found : (crew v.lastThread).find? (·.id = id) with
    | some t =>
      have listed : t.listed = true := by
        have member := List.mem_of_find?_eq_some found
        simp only [crew, List.mem_cons, List.not_mem_nil, or_false] at member
        rcases member with rfl | rfl | rfl | rfl <;> rfl
      simp only [Option.some_or, listed, if_true]
    | none =>
      rw [Option.none_or]
      cases there : v.threads[id]? with
      | none => rfl
      | some t => simp only [(h.threads id t there).unlisted, Bool.false_eq_true, if_false]

/-- A debuggee that is to stop on uncaught exceptions, or not to. -/
def toned (v : Vm) (uncaught : Bool) : Vm :=
  { v with shared := { v.shared with breakOnUncaught := uncaught } }

theorem Over.toned (h : v.Over) (uncaught : Bool) : (v.toned uncaught).Over :=
  ⟨((Deed.change (.setBreakOnUncaught uncaught) v).onward h.sound).sound, h.down, h.objects, h.held,
    h.threads⟩

/-- Telling a debuggee to stop on uncaught exceptions right after a launch comes to the same as doing
so before. Not to tell it anything makes it one that does not stop, if it did not before. -/
theorem launch_toned (down : v.launched = false) {asked : Bool}
    (quiet : v.shared.breakOnUncaught = true → asked = true) :
    (if asked then v.launch.toned true else v.launch) = (v.toned asked).launch := by
  cases asked with
  | true =>
    have down' : (v.toned true).launched = false := down
    rw [if_pos rfl, launch_eq down, launch_eq down']
    rfl
  | false =>
    have off : v.shared.breakOnUncaught = false := Bool.eq_false_iff.mpr fun on => nomatch quiet on
    have same : v.toned false = v := by
      unfold toned
      rw [← off]
    rw [same]
    rfl

theorem Over.ignited_like (h : v.Over) (h' : w.Over)
    (lastId : v.shared.heap.lastId = w.shared.heap.lastId)
    (classes : ∀ name : String, v.shared.classes[name]? = w.shared.classes[name]?) :
    v.ignited.shared.heap.Like w.ignited.shared.heap := by
  obtain ⟨last, objects, statics⟩ := h.launch_heap
  obtain ⟨last', objects', statics'⟩ := h'.launch_heap
  rw [launch_eq h.down] at last objects statics
  rw [launch_eq h'.down] at last' objects' statics'
  have loaded (name : String) : v.shared.class? name = w.shared.class? name := classes name
  constructor
  · exact last.trans (lastId.trans last'.symm)
  · intro id
    exact (objects id).trans (objects' id).symm
  · intro className field
    refine (statics className field).trans (.trans ?_ (statics' className field).symm)
    rw [loaded]

/-- **Launching a debuggee that is over is launching a new one.** -/
theorem Over.launch_alike (h : v.Over) (h' : w.Blank) (lastThread : v.lastThread = w.lastThread)
    (lastCall : v.lastCall = w.lastCall) (lastId : v.shared.heap.lastId = w.shared.heap.lastId)
    (lastHandle : v.holds.last = w.holds.last)
    (classes : ∀ name : String, v.shared.classes[name]? = w.shared.classes[name]?)
    (breakpoints : ∀ l : BreakpointLocation, (v.shared.breakpoints[l]?).map Installed.hitCount =
      (w.shared.breakpoints[l]?).map Installed.hitCount) (uncaught : Bool) :
    (v.toned uncaught).launch.Alike ⟨v.shared.events, v.shared.journal, v.shared.completed⟩
      (w.toned uncaught).launch := by
  have ready := h.toned uncaught
  have ready' := h'.gone.toned uncaught
  have heap := ready.ignited_like ready' lastId classes
  refine Alike.launch_of_ignited ?_ ready.down ready'.down
  refine ⟨⟨classes, heap, fun l => ?_, rfl, ?_, ?_, ?_⟩, fun id => ?_, rfl, lastThread, lastCall,
    fun handle => ?_, lastHandle, rfl⟩
  · show v.shared.breakpoints.resetHits[l]? = w.shared.breakpoints.resetHits[l]?
    rw [BreakpointTable.getElem?_resetHits, BreakpointTable.getElem?_resetHits]
    have zero (b : Option Installed) : (b.map fun b => { b with hits := 0 }) =
        (b.map Installed.hitCount).map fun n => (⟨n, 0⟩ : Installed) := by cases b <;> rfl
    rw [zero, zero, breakpoints]
  · show v.shared.events.push .started = v.shared.events ++ w.shared.events.push .started
    rw [h'.events, ← Array.push_append, Array.append_empty]
  · show v.shared.journal = v.shared.journal ++ w.shared.journal
    rw [h'.journal, Array.append_empty]
  · show v.shared.completed = v.shared.completed ++ w.shared.completed
    rw [h'.completed, Array.append_empty]
  · cases there : v.threads[id]? with
    | none => exact .inl (there.trans (h'.bare id).symm)
    | some t =>
      exact .inr ⟨h'.bare id, t, there, (h.sound.threads id t there).1, h.threads id t there⟩
  · exact (h.held handle).trans (h'.gone.held handle).symm

end Vm

namespace Session

/-! ## 4. A restart -/

variable {may : Vm.Deed → Prop} {s : Session Vm} {ds : List Vm.Deed}

/-- What a launch of a session does. -/
theorem run_launch (s : Session Vm) (usable : s.lifecycle ≠ .failed) :
    (launch Vm.environment).run s = (.ok (), { s with
      world := if s.settings.breakOnUncaught then s.world.launch.toned true else s.world.launch
      lifecycle := .launched }) := by
  unfold launch
  rw [Action.run_bind_ok (ensureUsable_ok usable)]
  show ((if s.settings.breakOnUncaught then _ else _ : Op Vm Unit).run _) = _
  cases s.settings.breakOnUncaught <;> rfl

theorem run_restart (s : Session Vm) :
    (perform Vm.environment (.close true)).run s = (.ok (), { s with
      proxies := {}
      controllers := ∅
      world := if s.settings.breakOnUncaught then s.world.shutdown.launch.toned true
        else s.world.shutdown.launch
      lifecycle := .launched }) := by
  have closing : (perform Vm.environment (.close true)).run s = (launch Vm.environment).run
      { s with
        proxies := {}, controllers := ∅, world := s.world.shutdown, lifecycle := .terminated } :=
    Action.run_bind_ok (run_shutDown s)
  rw [closing, run_launch _ (by exact nofun)]

/-- Nothing is in the way of a fresh start. -/
structure Unburdened (s : Session Vm) : Prop where
  /-- Bodies that were cut short have made nothing after the debuggee was shut down. -/
  clean : s.world.launched = true ∨
    s.world.shared.heap.size = 0 ∧ s.world.holds.byHandle.size = 0
  /-- The debuggee was not told to stop on uncaught exceptions, unless the settings say so too. -/
  uncaught : s.world.shared.breakOnUncaught = true → s.settings.breakOnUncaught = true

/-- A debuggee that begins as new ones do had nothing in its way. -/
theorem unburdened_of_pristine {last : ThreadId}
    (pristine : Vm.Pristine last s.settings.breakOnUncaught
      ((perform Vm.environment (.close true)).run s).2.world) : s.Unburdened := by
  rw [run_restart] at pristine
  obtain ⟨-, objects, holds, -, -, -, -, uncaught⟩ := pristine
  constructor
  · cases up : s.world.launched with
    | true => exact .inl rfl
    | false =>
      have same := Vm.shutdown_of_down up
      obtain ⟨kept, -, held, -⟩ := Vm.launch_kept up
      have objects : s.world.launch.shared.heap.objects.size = 0 := by
        rw [same] at objects
        dsimp only at objects
        split at objects <;> exact objects
      have holds : s.world.launch.holds.byHandle.size = 0 := by
        rw [same] at holds
        dsimp only at holds
        split at holds <;> exact holds
      rw [kept] at objects
      rw [held] at holds
      exact .inr ⟨objects, holds⟩
  · intro on
    cases asked : s.settings.breakOnUncaught with
    | true => rfl
    | false =>
      rw [asked] at uncaught
      have uncaught : s.world.shutdown.launch.shared.breakOnUncaught = false := uncaught
      obtain ⟨-, -, -, kept⟩ := Vm.launch_kept s.world.shutdown_down
      rw [kept, s.world.keeps_shutdown.breakOnUncaught, on] at uncaught
      cases uncaught

theorem run_sound {before : List Vm.Deed} {settings : DebuggerSettings}
    (run : Run may (create Vm.environment (Vm.fresh.after before) settings) ds s) :
    s.world.Sound ∧ s.world.Unmanned := by
  have world : s.world = Vm.after {} (Vm.standardClasses.map .define ++ before ++ ds) := by
    rw [run.world_eq, Vm.after_append, Vm.after_append, ← Vm.fresh_eq]
    rfl
  rw [world]
  exact ⟨(Vm.sound_empty.after _).sound,
    Vm.unmanned_after Vm.sound_empty (fun _ => Vm.dark_empty.unlisted) _⟩

/-- **A restart is a fresh start,** exactly if nothing is in its way. Take a session over a debuggee
that has been through anything, at a moment at which no call is outstanding. `new` is a new debuggee
with the same classes and breakpoints. -/
theorem restart_is_a_fresh_start {before : List Vm.Deed} {settings : DebuggerSettings}
    (run : Run may (create Vm.environment (Vm.fresh.after before) settings) ds s)
    (idle : s.world.Unoccupied) {new : Vm} (prepared : new.PreparedLike s.world) :
    let restarted := (perform Vm.environment (.close true)).run s
    let launched := (perform Vm.environment .launch).run
      (create Vm.environment (new.numberedAs s.world) s.settings)
    let told := s.world.shutdown.shared
    -- Both succeed, and there are no proxies and no names.
    restarted.1 = .ok () ∧ launched.1 = .ok () ∧ restarted.2.lifecycle = .launched ∧
    restarted.2.proxies = {} ∧
    -- The debuggee begins as new ones do, but for what is in the way.
    (s.Unburdened ↔
      Vm.Pristine s.world.lastThread s.settings.breakOnUncaught restarted.2.world) ∧
    -- From then on the old one and the new one answer every question alike.
    (s.Unburdened → ∀ qs : List (Sigma Vm.Service),
      restarted.2.world.answers qs = launched.2.world.answers qs ∧
        (restarted.2.world.served qs).Alike ⟨told.events, told.journal, told.completed⟩
          (launched.2.world.served qs)) := by
  intro restarted launched told
  obtain ⟨sound, unmanned⟩ := run_sound run
  have again : restarted = _ := run_restart s
  have first : launched = _ := run_launch _ (by exact nofun)
  have blank := prepared.blank.numberedAs s.world
  have keeps := s.world.keeps_shutdown
  -- Both debuggees are launched as ones that were told beforehand what the settings ask for.
  have old (free : s.Unburdened) : s.world.shutdown.Over ∧
      restarted.2.world = (s.world.shutdown.toned s.settings.breakOnUncaught).launch := by
    have down := sound.shutdown_over unmanned idle free.clean
    refine ⟨down, ?_⟩
    rw [again]
    refine Vm.launch_toned down.down fun on => free.uncaught ?_
    rw [← keeps.breakOnUncaught]
    exact on
  have new : launched.2.world =
      ((new.numberedAs s.world).toned s.settings.breakOnUncaught).launch := by
    rw [first]
    refine Vm.launch_toned blank.gone.down fun on => ?_
    rw [blank.breakOnUncaught] at on
    cases on
  refine ⟨by rw [again], by rw [first], by rw [again], by rw [again], ⟨fun free => ?_,
    unburdened_of_pristine⟩, fun free => ?_⟩
  · obtain ⟨down, world⟩ := old free
    rw [world, ← keeps.lastThread]
    exact (down.toned s.settings.breakOnUncaught).pristine
  · obtain ⟨down, world⟩ := old free
    rw [world, new]
    refine (down.launch_alike blank keeps.lastThread keeps.lastCall keeps.lastId keeps.lastHandle
      (fun name => ?_) (fun l => ?_) s.settings.breakOnUncaught).dialogue
    · rw [keeps.classes]
      exact (prepared.classes name).symm
    · rw [keeps.breakpoints]
      exact (prepared.breakpoints l).symm

/-- A class of which one line is run in its main method. -/
def oneLiner : ClassDef :=
  { ClassDef.empty "A" .plain with
    methods := [{
      name := "main"
      params := []
      returnType := "void"
      kind := .static
      lines := [1]
      body _ := .line 1 fun r => .done (r.map fun () => .void) }] }

/-- A breakpoint for a second hit gets its first one, and a string is made and tracked. -/
def lively : List Act :=
  [.direct (.define oneLiner), .request .launch,
    .request (.toggleBreakpoint (.line "A" 1) true (.ofList [(hitCountProperty, "2")])),
    .request (.runMain "A")] ++ List.replicate 9 (.direct (.step 1)) ++
    [.direct (.newString "kept"), .proxyFor ⟨1, "String"⟩]

/-- The hit, the string and the proxy are gone after a restart. -/
theorem lively_starts_afresh :
    let s := (create Vm.environment Vm.fresh { breakOnUncaught := true }).after lively
    let restarted := ((perform Vm.environment (.close true)).run s).2
    s.world.shared.breakpoints[BreakpointLocation.line "A" 1]? = some ⟨some 2, 1⟩ ∧
      s.world.shared.heap.size = 1 ∧ s.proxies.size = 1 ∧
      restarted.proxies = {} ∧ Vm.Pristine 4 true restarted.world := by
  intro s restarted
  have needs : ∀ a ∈ lively, a.Needs fun _ => True := by
    simp [lively, Act.Needs]
  obtain ⟨ds, run⟩ := after_run (fun _ _ => trivial) needs
    (create Vm.environment Vm.fresh { breakOnUncaught := true })
  have run : Run (fun _ => True)
      (create Vm.environment (Vm.fresh.after []) { breakOnUncaught := true }) ds s := run
  have prepared : (Vm.fresh.after [.define oneLiner,
      .setBreakpoint ⟨.line "A" 1, some 2⟩]).PreparedLike s.world := by
    refine ⟨⟨_, by simp [Vm.Deed.isSetup], rfl⟩, fun _ => rfl, fun l => ?_⟩
    show ((((∅ : BreakpointTable).insert (.line "A" 1) ⟨some 2, 0⟩)[l]?).map Installed.hitCount) =
      ((((∅ : BreakpointTable).insert (.line "A" 1) ⟨some 2, 1⟩)[l]?).map Installed.hitCount)
    rw [TreeMap.getElem?_insert, TreeMap.getElem?_insert]
    split <;> rfl
  obtain ⟨-, -, -, untracked, pristine, -⟩ :=
    restart_is_a_fresh_start run (by decide +kernel) prepared
  exact ⟨rfl, rfl, rfl, untracked, pristine.mp ⟨.inl rfl, fun _ => rfl⟩⟩

/-- A body that raises an exception is run on the main thread of a second launch, and one looks where the
thread is. -/
def raising : List (Sigma Vm.Service) :=
  [⟨_, .submit 5 (.body (.done (.error (.exception "E" "boom" []))))⟩] ++
    List.replicate 4 ⟨_, .step 5⟩ ++ [⟨_, .waitForStop 5⟩]

/-- A debuggee that was told to stop on uncaught exceptions still does so after a restart, although the
settings do not ask for it. A new one does not. -/
theorem restart_keeps_stopping :
    ¬∀ (acts : List Act) (settings : DebuggerSettings) (new : Vm) (qs : List (Sigma Vm.Service)),
      let s := (create Vm.environment Vm.fresh settings).after acts
      let restarted := ((perform Vm.environment (.close true)).run s).2
      let launched := ((perform Vm.environment .launch).run
        (create Vm.environment (new.numberedAs s.world) settings)).2
      s.world.Unoccupied → new.PreparedLike s.world →
        restarted.world.answers qs = launched.world.answers qs := by
  intro claim
  have same := claim [.request .launch, .request (.setBreakOnUncaught true)] {} Vm.fresh raising
    (by decide +kernel) ⟨⟨[], nofun, rfl⟩, fun _ => rfl, fun _ => rfl⟩
  have statuses : some (⟨ThreadStatus, .ok (.suspended .exception)⟩ : Sigma (Except RuntimeError)) =
    some ⟨ThreadStatus, .ok .idle⟩ := congrArg List.getLast? same
  cases statuses

end Session

end Debugger
