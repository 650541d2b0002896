import Debugger.Proofs.Thread.Calls
import Debugger.Proofs.Debuggee.Likeness
/-!
# Two debuggees that answer alike

Whatever a controller asks of two debuggees that are alike, it gets the same answer from both, and they
stay alike. What makes them alike is what can be looked up in them, not how it came about: one may
have a longer history, with threads of earlier launches that have nothing left to do.

* `Thread.Spent` - such a thread.
* `Vm.Alike` - the two debuggees.
* `Vm.Service` - everything that can be asked of a debuggee, and what its threads do by themselves.
* `Vm.Alike.dialogue` - both answer any questions in the same words.

## 1. Threads without work

## 2. Debuggees that are alike

## 3. Work on both

## 4. What can be asked

## 5. Any questions
-/

namespace Debugger

open Std (TreeMap)

/-! ## 1. Threads without work -/

namespace Thread

variable {t t' : Thread} {s s' : Shared}

/-- A thread of an earlier launch that has nothing to do any more but to leave. -/
structure Spent (t : Thread) : Prop where
  unlisted : t.listed = false
  dead : t.status = .terminated
  empty : queued t.inbox = []
  free : t.worker = .waiting ∨ t.worker = .exited

theorem Spent.unpark? (h : t.Spent) : t.unpark? = none := by
  unfold Thread.unpark?
  rcases h.free with free | free <;> rw [free]

/-- All that it does by itself is to leave. -/
theorem Spent.step (h : t.Spent) (step : t.step s = some (t', s')) :
    s' = s ∧ t'.Spent ∧ t'.id = t.id := by
  unfold Thread.step at step
  rcases h.free with free | gone
  · rw [free] at step
    dsimp only at step
    have empty := h.empty
    split at step
    · cases step
    · next first =>
      rw [first, queued_run] at empty
      cases empty
    · next first =>
      cases step
      rw [first, queued_shutdown] at empty
      exact ⟨rfl, ⟨h.unlisted, h.dead, empty, .inr rfl⟩, rfl⟩
  · rw [gone] at step
    cases step

end Thread

/-! ## 2. Debuggees that are alike -/

namespace Vm

/-- Two debuggees in which the same things are found. The first has a past that the other has not: what
was told before, and threads that are spent. -/
structure Alike (past : Past) (v w : Vm) : Prop where
  shared : v.shared.Like past w.shared
  threads : ∀ id : ThreadId, v.threads[id]? = w.threads[id]? ∨
    w.threads[id]? = none ∧ ∃ t, v.threads[id]? = some t ∧ t.id = id ∧ t.Spent
  mainThread : v.mainThread = w.mainThread
  lastThread : v.lastThread = w.lastThread
  lastCall : v.lastCall = w.lastCall
  held : ∀ h : Handle, v.holds.byHandle[h]? = w.holds.byHandle[h]?
  lastHandle : v.holds.last = w.holds.last
  launched : v.launched = w.launched

variable {past : Past} {v w : Vm}

theorem Alike.withShared (a : v.Alike past w) {s r : Shared} (l : s.Like past r) :
    Alike past { v with shared := s } { w with shared := r } :=
  ⟨l, a.threads, a.mainThread, a.lastThread, a.lastCall, a.held, a.lastHandle, a.launched⟩

theorem Alike.putThread (a : v.Alike past w) {s r : Shared} (l : s.Like past r) (t : Thread) :
    (v.putThread t s).Alike past (w.putThread t r) := by
  refine ⟨l, fun id => ?_, a.mainThread, a.lastThread, a.lastCall, a.held, a.lastHandle,
    a.launched⟩
  show (v.threads.insert t.id t)[id]? = (w.threads.insert t.id t)[id]? ∨
    (w.threads.insert t.id t)[id]? = none ∧
      ∃ u, (v.threads.insert t.id t)[id]? = some u ∧ u.id = id ∧ u.Spent
  simp only [TreeMap.getElem?_insert]
  split
  · exact .inl rfl
  · exact a.threads id

theorem Alike.thread? (a : v.Alike past w) (id : ThreadId) : v.thread? id = w.thread? id := by
  unfold Vm.thread?
  rcases a.threads id with same | ⟨absent, t, there, -, spent⟩
  · rw [same]
  · rw [absent, there]
    simp only [spent.unlisted, Bool.false_eq_true, if_false]

/-- Spent threads are on no list. -/
theorem Alike.listedThreads (a : v.Alike past w) : v.listedThreads = w.listedThreads := by
  have equiv : (v.threads.filter fun _ t => t.listed).Equiv
      (w.threads.filter fun _ t => t.listed) := by
    refine .of_forall_constGet?_eq fun id => ?_
    rw [TreeMap.getElem?_filter', TreeMap.getElem?_filter']
    rcases a.threads id with same | ⟨absent, t, there, -, spent⟩
    · rw [same]
    · rw [absent, there]
      simp [spent.unlisted]
  have lists := equiv.toList_eq
  rw [TreeMap.toList_filter, TreeMap.toList_filter] at lists
  unfold Vm.listedThreads
  rw [List.filter_map, List.filter_map]
  exact congrArg _ lists

/-! ## 3. Work on both -/

/-- Two pieces of work end alike: with the same answer, and the debuggees still alike. -/
structure Agree (past : Past) {α : Type} (p q : Except RuntimeError α × Vm) : Prop where
  answer : p.1 = q.1
  alike : p.2.Alike past q.2

section Agree

variable {α β : Type} {a b : Op α} {f g : α → Op β}

theorem Agree.pure (h : v.Alike past w) (x : α) :
    Agree past ((pure x : Op α).run v) ((pure x : Op α).run w) := ⟨rfl, h⟩

theorem Agree.throw (h : v.Alike past w) (e : RuntimeError) :
    Agree past ((throw e : Op α).run v) ((throw e : Op α).run w) := ⟨rfl, h⟩

/-- What comes next begins in two debuggees that are alike. -/
theorem Agree.bind (h : Agree past (a.run v) (b.run w))
    (next : ∀ x v' w', Alike past v' w' → Agree past ((f x).run v') ((g x).run w')) :
    Agree past ((a >>= f).run v) ((b >>= g).run w) := by
  rw [Action.run_bind, Action.run_bind]
  rcases hv : a.run v with ⟨x, v'⟩
  rcases hw : b.run w with ⟨y, w'⟩
  rw [hv, hw] at h
  obtain ⟨rfl, alike⟩ : x = y ∧ Alike past v' w' := ⟨h.answer, h.alike⟩
  cases x with
  | error e => exact ⟨rfl, alike⟩
  | ok x => exact next x v' w' alike

end Agree

theorem agree_requireLaunched (h : v.Alike past w) :
    Agree past (requireLaunched.run v) (requireLaunched.run w) := by
  refine ⟨?_, ?_⟩
  · show ((if !v.launched then throw .notLaunched else pure () : Op Unit).run v).1 =
      ((if !w.launched then throw .notLaunched else pure () : Op Unit).run w).1
    rw [h.launched]
    split <;> rfl
  · rw [reads_requireLaunched v, reads_requireLaunched w]
    exact h

theorem agree_requireClass (h : v.Alike past w) (name : String) :
    Agree past ((requireClass name).run v) ((requireClass name).run w) := by
  have loaded : v.shared.class? name = w.shared.class? name := h.shared.classes name
  unfold requireClass
  rw [Action.run_get_bind, Action.run_get_bind, loaded]
  cases w.shared.class? name with
  | none => exact .throw h _
  | some c => exact .pure h c

theorem agree_requireObject (h : v.Alike past w) (id : ObjectId) :
    Agree past ((requireObject id).run v) ((requireObject id).run w) := by
  unfold requireObject
  rw [Action.run_get_bind, Action.run_get_bind, h.shared.heap.object?]
  cases w.shared.heap.object? id with
  | none => exact .throw h _
  | some o => exact .pure h o

theorem agree_requireThread (h : v.Alike past w) (id : ThreadId) :
    Agree past ((requireThread id).run v) ((requireThread id).run w) := by
  unfold requireThread
  rw [Action.run_get_bind, Action.run_get_bind, h.thread?]
  cases w.thread? id with
  | error e => exact .throw h e
  | ok t => exact .pure h t

theorem agree_requireMain (h : v.Alike past w) :
    Agree past (requireMain.run v) (requireMain.run w) := by
  unfold requireMain
  rw [Action.run_get_bind, Action.run_get_bind, h.mainThread]
  cases w.mainThread with
  | none => exact .throw h _
  | some id => exact .pure h id

/-! ## 4. What can be asked -/

theorem Alike.define (h : v.Alike past w) (c : ClassDef) :
    (v.defineClass c).Alike past (w.defineClass c) := by
  refine h.withShared ⟨fun name => ?_, h.shared.heap.initStatics c, h.shared.breakpoints,
    h.shared.breakOnUncaught, h.shared.events, h.shared.journal, h.shared.completed⟩
  show (v.shared.classes.insert c.name c)[name]? = (w.shared.classes.insert c.name c)[name]?
  rw [TreeMap.getElem?_insert, TreeMap.getElem?_insert, h.shared.classes]

theorem Alike.start (h : v.Alike past w) (name group : String) :
    (v.startThread name group).1 = (w.startThread name group).1 ∧
      (v.startThread name group).2.Alike past (w.startThread name group).2 := by
  have next : v.lastThread + 1 = w.lastThread + 1 := congrArg (· + 1) h.lastThread
  refine ⟨next, ?_, fun id => ?_, h.mainThread, next, h.lastCall, h.held, h.lastHandle,
    h.launched⟩
  · show (v.shared.emit (.threadStarted (v.lastThread + 1))).Like past
      (w.shared.emit (.threadStarted (w.lastThread + 1)))
    rw [next]
    exact h.shared.emit _
  · rw [startThread_getElem?, startThread_getElem?, next]
    split
    · exact .inl rfl
    · exact h.threads id

theorem Alike.startAll (h : v.Alike past w) (names : List String) :
    (names.foldl (fun vm name => (vm.startThread name systemGroup).2) v).Alike past
      (names.foldl (fun vm name => (vm.startThread name systemGroup).2) w) := by
  induction names generalizing v w with
  | nil => exact h
  | cons name rest ih => exact ih (h.start name systemGroup).2

theorem like_foldl_initStatics {h k : Heap} (l : h.Like k) (classes : List (String × ClassDef)) :
    (classes.foldl (fun h p => h.initStatics p.2) h).Like
      (classes.foldl (fun h p => h.initStatics p.2) k) := by
  induction classes generalizing h k with
  | nil => exact l
  | cons p rest ih => exact ih (l.initStatics p.2)

theorem Alike.ignite (h : v.Alike past w) : v.ignited.Alike past w.ignited := by
  have classes : v.shared.classes.toList = w.shared.classes.toList :=
    (TreeMap.Equiv.of_forall_constGet?_eq h.shared.classes).toList_eq
  refine ⟨⟨h.shared.classes, ?_, fun l => ?_, h.shared.breakOnUncaught, ?_, h.shared.journal,
    h.shared.completed⟩, h.threads, h.mainThread, h.lastThread, h.lastCall, h.held, h.lastHandle,
    rfl⟩
  · show (v.shared.classes.foldl (fun h _ c => h.initStatics c) v.shared.heap).Like
      (w.shared.classes.foldl (fun h _ c => h.initStatics c) w.shared.heap)
    rw [TreeMap.foldl_eq_foldl_toList, TreeMap.foldl_eq_foldl_toList, classes]
    exact like_foldl_initStatics h.shared.heap _
  · show v.shared.breakpoints.resetHits[l]? = w.shared.breakpoints.resetHits[l]?
    rw [BreakpointTable.getElem?_resetHits, BreakpointTable.getElem?_resetHits,
      h.shared.breakpoints]
  · exact (h.shared.emit .started).events

/-- Launches are alike once they have been prepared alike. Which thread was the main one before does not
matter. -/
theorem Alike.launch_of_ignited
    (h : Alike past { v.ignited with mainThread := none } { w.ignited with mainThread := none })
    (down : v.launched = false) (down' : w.launched = false) : v.launch.Alike past w.launch := by
  rw [launch_eq down, launch_eq down']
  obtain ⟨main, started⟩ := h.start "main" mainGroup
  have main : (v.ignited.startThread "main" mainGroup).1 =
    (w.ignited.startThread "main" mainGroup).1 := main
  rw [main]
  refine Alike.startAll ?_ systemThreads
  exact ⟨started.shared, started.threads, rfl, started.lastThread, started.lastCall,
    started.held, started.lastHandle, started.launched⟩

theorem Alike.launch (h : v.Alike past w) : v.launch.Alike past w.launch := by
  cases up : w.launched with
  | true =>
    rw [launch_of_up (h.launched.trans up), launch_of_up up]
    exact h
  | false =>
    have ignited := h.ignite
    refine Alike.launch_of_ignited ?_ (h.launched.trans up) up
    exact ⟨ignited.shared, ignited.threads, rfl, ignited.lastThread, ignited.lastCall, ignited.held,
      ignited.lastHandle, ignited.launched⟩

theorem like_discard {s r : Shared} (l : s.Like past r) (inbox : List Message) :
    (Thread.discard inbox s).Like past (Thread.discard inbox r) := by
  unfold Thread.discard
  induction inbox generalizing s r with
  | nil => exact l
  | cons m rest ih =>
    cases m with
    | run call task => exact ih (l.complete call .terminated)
    | shutdown => exact ih l

theorem terminate_twin {s r : Shared} (l : s.Like past r) (t : Thread) :
    Thread.Twin past (t.terminate s) (t.terminate r) := by
  unfold Thread.terminate
  split
  · exact .of_like _ l
  · exact .of_like _ ((like_discard l t.inbox).emit _)

theorem submit_twin {s r : Shared} (l : s.Like past r) (t : Thread) (call : CallId) (task : Task) :
    Thread.Twin past (t.submit call task s) (t.submit call task r) := by
  unfold Thread.submit
  split
  · exact .of_like _ (l.complete call .terminated)
  · exact .of_like _ l

/-- A thread is put back, as both debuggees have made it. -/
theorem Alike.putTwin (h : v.Alike past w) {p q : Thread × Shared} (twin : Thread.Twin past p q) :
    (v.putThread p.1 p.2).Alike past (w.putThread q.1 q.2) := by
  rw [twin.thread]
  exact h.putThread twin.shared q.1

theorem Alike.retire (h : v.Alike past w) (t : Thread) : (v.retire t).Alike past (w.retire t) := by
  have twin := terminate_twin h.shared t
  show (v.putThread { (t.terminate v.shared).1 with listed := false } _).Alike past
    (w.putThread { (t.terminate w.shared).1 with listed := false } _)
  rw [twin.thread]
  exact h.putThread twin.shared _

theorem Alike.retireAll (h : v.Alike past w) (ts : List Thread) :
    (ts.foldl Vm.retire v).Alike past (ts.foldl Vm.retire w) := by
  induction ts generalizing v w with
  | nil => exact h
  | cons t rest ih => exact ih (h.retire t)

theorem Alike.shutdown (h : v.Alike past w) : v.shutdown.Alike past w.shutdown := by
  cases up : w.launched with
  | false =>
    rw [shutdown_of_down (h.launched.trans up), shutdown_of_down up]
    exact h
  | true =>
    rw [shutdown_eq up, shutdown_eq (h.launched.trans up)]
    have down : Alike past { v with launched := false, mainThread := none }
        { w with launched := false, mainThread := none } :=
      ⟨h.shared, h.threads, rfl, h.lastThread, h.lastCall, h.held, h.lastHandle, rfl⟩
    have retired : v.extinguished.Alike past w.extinguished := by
      dsimp only [extinguished]
      rw [down.listedThreads]
      exact down.retireAll _
    have reset := (retired.shared.withHeap (retired.shared.heap.reset)).emit .terminated
    exact ⟨reset, retired.threads, retired.mainThread, retired.lastThread, retired.lastCall,
      fun _ => rfl, retired.lastHandle, retired.launched⟩

theorem agree_submit (h : v.Alike past w) (id : ThreadId) (task : Task) :
    Agree past ((submit id task).run v) ((submit id task).run w) := by
  refine (agree_requireThread h id).bind fun t v' w' h => ?_
  have next : v'.lastCall + 1 = w'.lastCall + 1 := congrArg (· + 1) h.lastCall
  have twin : Thread.Twin past (t.submit (v'.lastCall + 1) task v'.shared)
      (t.submit (w'.lastCall + 1) task w'.shared) := by
    rw [next]
    exact submit_twin h.shared t _ task
  have put := h.putTwin twin
  exact ⟨congrArg (Except.ok ∘ PendingCall.queued) next, put.shared, put.threads, put.mainThread,
    put.lastThread, next, put.held, put.lastHandle, put.launched⟩

theorem agree_submitToMain (h : v.Alike past w) (task : Task) :
    Agree past ((submitToMain task).run v) ((submitToMain task).run w) :=
  (agree_requireMain h).bind fun id _ _ h => agree_submit h id task

theorem agree_newInstance (h : v.Alike past w) (className : String) (types : List String)
    (args : List Value) :
    Agree past ((newInstance className types args).run v)
      ((newInstance className types args).run w) := by
  refine (agree_requireLaunched h).bind fun _ _ _ h => ?_
  refine (agree_requireClass h className).bind fun c _ _ h => ?_
  split
  · exact agree_submitToMain h _
  · exact .pure h _

theorem agree_invokeStatic (h : v.Alike past w) (className method : String) (types : List String)
    (args : List Value) :
    Agree past ((invokeStatic className method types args).run v)
      ((invokeStatic className method types args).run w) := by
  refine (agree_requireLaunched h).bind fun _ _ _ h => ?_
  refine (agree_requireClass h className).bind fun c _ _ h => ?_
  split
  · exact agree_submitToMain h _
  · exact .pure h _

theorem agree_invokeMethod (h : v.Alike past w) (receiver : ObjectRef) (method : String)
    (types : List String) (args : List Value) :
    Agree past ((invokeMethod receiver method types args).run v)
      ((invokeMethod receiver method types args).run w) := by
  refine (agree_requireLaunched h).bind fun _ _ _ h => ?_
  refine (agree_requireObject h receiver.id).bind fun o _ _ h => ?_
  split
  · exact agree_submitToMain h _
  · exact .pure h _

theorem agree_getStatic (h : v.Alike past w) (className field : String) :
    Agree past ((getStatic className field).run v) ((getStatic className field).run w) := by
  refine (agree_requireClass h className).bind fun _ v' w' h => ?_
  rw [Action.run_get_bind, Action.run_get_bind, h.shared.heap.static?]
  cases w'.shared.heap.static? className field with
  | none => exact .throw h _
  | some value => exact .pure h value

theorem agree_newString (h : v.Alike past w) (text : String) :
    Agree past ((newString text).run v) ((newString text).run w) := by
  refine (agree_requireLaunched h).bind fun _ v' w' h => ?_
  obtain ⟨ref, like⟩ := h.shared.newString text
  exact ⟨congrArg Except.ok ref, h.withShared like⟩

theorem agree_boxValue (h : v.Alike past w) (p : Primitive) :
    Agree past ((boxValue p).run v) ((boxValue p).run w) := by
  refine (agree_requireLaunched h).bind fun _ v' w' h => ?_
  obtain ⟨holder, like⟩ := h.shared.box p
  rw [Action.run_modifyGet_bind, Action.run_modifyGet_bind]
  dsimp only
  rw [holder]
  cases (w'.shared.box p).1 with
  | none => exact .throw (h.withShared like) _
  | some o => exact .pure (h.withShared like) o

theorem agree_installTransport (h : v.Alike past w) (id : ObjectId) :
    Agree past ((installTransport id).run v) ((installTransport id).run w) := by
  refine (agree_requireObject h id).bind fun o v' w' h => ?_
  rw [Action.run_get_bind, Action.run_get_bind]
  dsimp only
  rcases rel_cases (h.shared.heap.setStatic? transportClass.name transportField
    (.object (o.ref id))) with ⟨missing, missing'⟩ | ⟨_, _, stored, stored', like⟩
  · rw [missing, missing']
    exact .throw h _
  · rw [stored, stored']
    exact ⟨rfl, h.withShared (h.shared.withHeap like)⟩

theorem Alike.hold (h : v.Alike past w) (id : ObjectId) :
    (v.hold id).1 = (w.hold id).1 ∧ (v.hold id).2.Alike past (w.hold id).2 := by
  have next : v.holds.last + 1 = w.holds.last + 1 := congrArg (· + 1) h.lastHandle
  refine ⟨congrArg Handle.mk next, h.shared, h.threads, h.mainThread, h.lastThread, h.lastCall,
    fun handle => ?_, next, h.launched⟩
  show (v.holds.byHandle.insert ⟨v.holds.last + 1⟩ id)[handle]? =
    (w.holds.byHandle.insert ⟨w.holds.last + 1⟩ id)[handle]?
  rw [next, TreeMap.getElem?_insert, TreeMap.getElem?_insert, h.held]

theorem agree_takeTransport (h : v.Alike past w) :
    Agree past (takeTransport.run v) (takeTransport.run w) := by
  unfold takeTransport
  rw [Action.run_get_bind, Action.run_get_bind]
  dsimp only
  rw [h.shared.heap.static?]
  cases full : w.shared.heap.static? transportClass.name transportField with
  | none => exact .throw h _
  | some value =>
    cases value with
    | null | void | primitive => exact .throw h _
    | object o =>
      dsimp only
      rcases rel_cases (h.shared.heap.setStatic? transportClass.name transportField .null) with
        ⟨missing, missing'⟩ | ⟨_, _, emptied, emptied', like⟩
      · rw [missing, missing']
        obtain ⟨handle, held⟩ := h.hold o.id
        exact ⟨congrArg Except.ok handle, held⟩
      · rw [emptied, emptied']
        obtain ⟨handle, held⟩ := (h.withShared (h.shared.withHeap like)).hold o.id
        exact ⟨congrArg Except.ok handle, held⟩

theorem agree_release (h : v.Alike past w) (handle : Handle) :
    Agree past ((release handle).run v) ((release handle).run w) := by
  have known : v.holds.byHandle.contains handle = w.holds.byHandle.contains handle := by
    rw [TreeMap.contains_eq_isSome_getElem?, TreeMap.contains_eq_isSome_getElem?, h.held]
  unfold release
  rw [Action.run_get_bind, Action.run_get_bind]
  dsimp only
  rw [known]
  split
  · refine ⟨rfl, h.shared, h.threads, h.mainThread, h.lastThread, h.lastCall, fun other => ?_,
      h.lastHandle, h.launched⟩
    show (v.holds.byHandle.erase handle)[other]? = (w.holds.byHandle.erase handle)[other]?
    rw [TreeMap.getElem?_erase, TreeMap.getElem?_erase, h.held]
  · exact .throw h _

theorem agree_threadInfos (h : v.Alike past w) :
    Agree past (threadInfos.run v) (threadInfos.run w) := by
  refine (agree_requireLaunched h).bind fun _ v' w' h => ?_
  rw [Action.run_get_bind, Action.run_get_bind, h.listedThreads]
  exact .pure h _

theorem agree_spawnThread (h : v.Alike past w) (name : String) :
    Agree past ((spawnThread name).run v) ((spawnThread name).run w) := by
  refine (agree_requireLaunched h).bind fun _ v' w' h => ?_
  obtain ⟨id, started⟩ := h.start name mainGroup
  exact ⟨congrArg Except.ok id, started⟩

theorem agree_framesOf (h : v.Alike past w) (id : ThreadId) :
    Agree past ((framesOf id).run v) ((framesOf id).run w) := by
  refine (agree_requireThread h id).bind fun t _ _ h => ?_
  cases t.frames? with
  | error e => exact .throw h e
  | ok fs => exact .pure h fs

theorem agree_resume (h : v.Alike past w) (id : ThreadId) (step : Option StepKind) :
    Agree past ((resume id step).run v) ((resume id step).run w) := by
  refine (agree_requireThread h id).bind fun t v' w' h => ?_
  rw [Action.run_get_bind, Action.run_get_bind]
  unfold Thread.resume
  cases t.status with
  | idle | running | terminated => exact .throw h _
  | suspended reason => exact ⟨rfl, h.putThread (h.shared.emit _) _⟩

theorem agree_halt (h : v.Alike past w) (id : ThreadId) :
    Agree past ((halt id).run v) ((halt id).run w) := by
  refine (agree_requireThread h id).bind fun t v' w' h => ?_
  cases t.halt with
  | error e => exact .throw h e
  | ok t' => exact ⟨rfl, h.putThread h.shared t'⟩

theorem agree_terminateThread (h : v.Alike past w) (id : ThreadId) :
    Agree past ((terminateThread id).run v) ((terminateThread id).run w) := by
  refine (agree_requireThread h id).bind fun t v' w' h => ?_
  exact ⟨rfl, h.putTwin (terminate_twin h.shared t)⟩

/-- A spent thread waits at no gate. -/
theorem Alike.unpark (h : v.Alike past w) (id : ThreadId) :
    (v.unpark id).1 = (w.unpark id).1 ∧ (v.unpark id).2.Alike past (w.unpark id).2 := by
  unfold Vm.unpark
  have same : v.threads[id]?.bind Thread.unpark? = w.threads[id]?.bind Thread.unpark? := by
    rcases h.threads id with same | ⟨absent, t, there, -, spent⟩
    · rw [same]
    · rw [absent, there]
      exact spent.unpark?
  rw [same]
  cases w.threads[id]?.bind Thread.unpark? with
  | none => exact ⟨rfl, h⟩
  | some t => exact ⟨rfl, h.putThread h.shared t⟩

theorem agree_setBreakpoint (h : v.Alike past w) (r : BreakpointRequest) :
    Agree past ((setBreakpoint r).run v) ((setBreakpoint r).run w) := by
  refine (agree_requireClass h r.location.className).bind fun c v' w' h => ?_
  have installed : Alike past
      { v' with shared := { v'.shared with breakpoints := v'.shared.breakpoints.install r } }
      { w' with shared := { w'.shared with breakpoints := w'.shared.breakpoints.install r } } := by
    refine h.withShared ⟨h.shared.classes, h.shared.heap, fun l => ?_, h.shared.breakOnUncaught,
      h.shared.events, h.shared.journal, h.shared.completed⟩
    show (v'.shared.breakpoints.insert r.location _)[l]? =
      (w'.shared.breakpoints.insert r.location _)[l]?
    rw [TreeMap.getElem?_insert, TreeMap.getElem?_insert, h.shared.breakpoints]
  cases r.location with
  | line className n =>
    dsimp only
    split
    · exact .throw h _
    · exact ⟨rfl, installed⟩
  | method className m =>
    dsimp only
    split
    · exact .throw h _
    · exact ⟨rfl, installed⟩

theorem agree_clearBreakpoint (h : v.Alike past w) (l : BreakpointLocation) :
    Agree past ((clearBreakpoint l).run v) ((clearBreakpoint l).run w) := by
  have known : v.shared.breakpoints.contains l = w.shared.breakpoints.contains l := by
    rw [TreeMap.contains_eq_isSome_getElem?, TreeMap.contains_eq_isSome_getElem?,
      h.shared.breakpoints]
  refine ⟨congrArg Except.ok known, h.withShared ⟨h.shared.classes, h.shared.heap, fun other => ?_,
    h.shared.breakOnUncaught, h.shared.events, h.shared.journal, h.shared.completed⟩⟩
  show (v.shared.breakpoints.erase l)[other]? = (w.shared.breakpoints.erase l)[other]?
  rw [TreeMap.getElem?_erase, TreeMap.getElem?_erase, h.shared.breakpoints]

theorem Alike.breakOnUncaught (h : v.Alike past w) (enabled : Bool) :
    Alike past { v with shared := { v.shared with breakOnUncaught := enabled } }
      { w with shared := { w.shared with breakOnUncaught := enabled } } :=
  h.withShared ⟨h.shared.classes, h.shared.heap, h.shared.breakpoints, rfl, h.shared.events,
    h.shared.journal, h.shared.completed⟩

/-- **Threads get on alike in both,** and what a spent thread does is not seen. -/
theorem Alike.step (h : v.Alike past w) (id : ThreadId) :
    ((v.step? id).getD v).Alike past ((w.step? id).getD w) := by
  unfold Vm.step?
  rcases h.threads id with same | ⟨absent, t, there, rfl, spent⟩
  · rw [same]
    cases w.threads[id]? with
    | none => exact h
    | some t =>
      simp only [Option.bind_eq_bind, Option.bind_some]
      rcases rel_cases (Thread.step_like (t := t) h.shared) with
        ⟨stays, stays'⟩ | ⟨p, q, left, right, twin⟩
      · rw [stays, stays']
        exact h
      · rw [left, right]
        exact h.putTwin twin
  · rw [absent, there]
    simp only [Option.bind_eq_bind, Option.bind_some, Option.bind_none]
    cases left : t.step v.shared with
    | none => exact h
    | some p =>
      obtain ⟨t', s'⟩ := p
      obtain ⟨rfl, spent', id⟩ := spent.step left
      refine ⟨h.shared, fun i => ?_, h.mainThread, h.lastThread, h.lastCall, h.held, h.lastHandle,
        h.launched⟩
      show (v.threads.insert t'.id t')[i]? = w.threads[i]? ∨ w.threads[i]? = none ∧
        ∃ u, (v.threads.insert t'.id t')[i]? = some u ∧ u.id = i ∧ u.Spent
      rw [id, TreeMap.getElem?_insert]
      split
      · next at' =>
        rw [Std.compare_eq_iff_eq] at at'
        subst at'
        exact .inr ⟨absent, t', rfl, id, spent'⟩
      · exact h.threads i

/-- What can be asked of a debuggee, and what a thread of it does by itself. The index is the type of
the answer. -/
inductive Service : Type → Type
  | define (c : ClassDef) : Service Unit
  | launch : Service Unit
  | shutdown : Service Unit
  | isLaunched : Service Bool
  | classInfo (name : String) : Service ClassInfo
  | getStatic (className field : String) : Service Value
  | objectClass (id : ObjectId) : Service String
  | objectCategory (id : ObjectId) : Service ObjectCategory
  | objectFields (id : ObjectId) : Service (List (FieldInfo × Value))
  | stringValue (id : ObjectId) : Service (Option String)
  | newString (text : String) : Service ObjectRef
  | boxValue (p : Primitive) : Service ObjectRef
  | newInstance (className : String) (types : List String) (args : List Value) :
      Service PendingCall
  | invokeStatic (className method : String) (types : List String) (args : List Value) :
      Service PendingCall
  | invokeMethod (receiver : ObjectRef) (method : String) (types : List String)
      (args : List Value) : Service PendingCall
  | submit (thread : ThreadId) (task : Task) : Service PendingCall
  | installTransport (id : ObjectId) : Service Unit
  | takeTransport : Service Handle
  | release (handle : Handle) : Service Unit
  | threads : Service (List ThreadInfo)
  | mainThread : Service ThreadId
  | spawn (name : String) : Service ThreadId
  | frames (thread : ThreadId) : Service (List Frame)
  | resume (thread : ThreadId) (kind : Option StepKind) : Service Unit
  | halt (thread : ThreadId) : Service Unit
  | terminateThread (thread : ThreadId) : Service Unit
  | waitForStop (thread : ThreadId) : Service ThreadStatus
  | unpark (thread : ThreadId) : Service Bool
  | setBreakpoint (r : BreakpointRequest) : Service Unit
  | clearBreakpoint (l : BreakpointLocation) : Service Bool
  | setBreakOnUncaught (enabled : Bool) : Service Unit
  /-- A thread makes a step by itself, if it can. -/
  | step (thread : ThreadId) : Service Unit

/-- What a debuggee does for a service. -/
def Service.serve {α : Type} : Service α → Op α
  | define c => modify (·.defineClass c)
  | launch => environment.launch
  | shutdown => environment.shutdown
  | isLaunched => return environment.isLaunched (← get)
  | classInfo name => environment.classInfo name
  | getStatic className field => environment.getStatic className field
  | objectClass id => environment.objectClass id
  | objectCategory id => environment.objectCategory id
  | objectFields id => environment.objectFields id
  | stringValue id => environment.stringValue id
  | newString text => environment.newString text
  | boxValue p => environment.boxValue p
  | newInstance className types args => environment.newInstance className types args
  | invokeStatic className method types args => environment.invokeStatic className method types args
  | invokeMethod receiver method types args => environment.invokeMethod receiver method types args
  | submit thread task => Vm.submit thread task
  | installTransport id => environment.installTransport id
  | takeTransport => environment.takeTransport
  | release handle => environment.release handle
  | threads => environment.threads
  | mainThread => environment.mainThread
  | spawn name => spawnThread name
  | frames thread => environment.frames thread
  | resume thread kind => environment.resume thread kind
  | halt thread => environment.halt thread
  | terminateThread thread => environment.terminateThread thread
  | waitForStop thread => environment.waitForStop thread
  | unpark thread => modifyGet (·.unpark thread)
  | setBreakpoint r => environment.setBreakpoint r
  | clearBreakpoint l => environment.clearBreakpoint l
  | setBreakOnUncaught enabled => environment.setBreakOnUncaught enabled
  | step thread => modify fun v => (v.step? thread).getD v

/-- **Two debuggees that are alike do the same for every service.** -/
theorem Alike.serve (h : v.Alike past w) {α : Type} (q : Service α) :
    Agree past (q.serve.run v) (q.serve.run w) := by
  cases q with
  | define c => exact ⟨rfl, h.define c⟩
  | launch => exact ⟨rfl, h.launch⟩
  | shutdown => exact ⟨rfl, h.shutdown⟩
  | isLaunched => exact ⟨congrArg Except.ok h.launched, h⟩
  | classInfo name => exact (agree_requireClass h name).bind fun c _ _ h => .pure h _
  | getStatic className field => exact agree_getStatic h className field
  | objectClass id => exact (agree_requireObject h id).bind fun o _ _ h => .pure h _
  | objectCategory id => exact (agree_requireObject h id).bind fun o _ _ h => .pure h _
  | objectFields id => exact (agree_requireObject h id).bind fun o _ _ h => .pure h _
  | stringValue id => exact (agree_requireObject h id).bind fun o _ _ h => .pure h _
  | newString text => exact agree_newString h text
  | boxValue p => exact agree_boxValue h p
  | newInstance className types args => exact agree_newInstance h className types args
  | invokeStatic className method types args =>
    exact agree_invokeStatic h className method types args
  | invokeMethod receiver method types args =>
    exact agree_invokeMethod h receiver method types args
  | submit thread task => exact agree_submit h thread task
  | installTransport id => exact agree_installTransport h id
  | takeTransport => exact agree_takeTransport h
  | release handle => exact agree_release h handle
  | threads => exact agree_threadInfos h
  | mainThread => exact agree_requireMain h
  | spawn name => exact agree_spawnThread h name
  | frames thread => exact agree_framesOf h thread
  | resume thread kind => exact agree_resume h thread kind
  | halt thread => exact agree_halt h thread
  | terminateThread thread => exact agree_terminateThread h thread
  | waitForStop thread => exact (agree_requireThread h thread).bind fun t _ _ h => .pure h _
  | unpark thread =>
    obtain ⟨answer, alike⟩ := h.unpark thread
    exact ⟨congrArg Except.ok answer, alike⟩
  | setBreakpoint r => exact agree_setBreakpoint h r
  | clearBreakpoint l => exact agree_clearBreakpoint h l
  | setBreakOnUncaught enabled => exact ⟨rfl, h.breakOnUncaught enabled⟩
  | step thread => exact ⟨rfl, h.step thread⟩

/-! ## 5. Any questions -/

/-- What a debuggee answers to some questions, one after the other. -/
def answers (v : Vm) : List (Sigma Service) → List (Sigma (Except RuntimeError))
  | [] => []
  | ⟨α, q⟩ :: rest => ⟨α, (q.serve.run v).1⟩ :: answers (q.serve.run v).2 rest

/-- What becomes of it meanwhile. -/
def served (v : Vm) : List (Sigma Service) → Vm
  | [] => v
  | ⟨_, q⟩ :: rest => served (q.serve.run v).2 rest

/-- **Two debuggees that are alike answer any questions alike,** and stay alike. -/
theorem Alike.dialogue (h : v.Alike past w) (qs : List (Sigma Service)) :
    v.answers qs = w.answers qs ∧ (v.served qs).Alike past (w.served qs) := by
  induction qs generalizing v w with
  | nil => exact ⟨rfl, h⟩
  | cons q rest ih =>
    obtain ⟨α, q⟩ := q
    have first := h.serve q
    obtain ⟨answers, alike⟩ := ih first.alike
    refine ⟨?_, alike⟩
    simp only [Vm.answers, first.answer, answers]

end Vm

end Debugger
