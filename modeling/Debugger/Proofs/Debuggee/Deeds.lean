import Debugger.Debuggee.Vm
import Debugger.Proofs.Actions
import Debugger.Proofs.Thread.Effects
/-!
# What can be done to a debuggee

Controllers launch a debuggee and shut it down, call into it, hold its objects, drive its threads and
set breakpoints, and in between the threads get on by themselves. A `Deed` is any one of these
things. They are indivisible, so whatever a debuggee has been through is a list of them.

* `Vm.Change` - what a deed can make of a debuggee. It says who may change what: only a launched
  debuggee is given objects from outside, only the transport gives out handles, breakpoints come and
  go by two deeds alone. `Vm.Deed.change` is the proof that there is nothing else.
* `Vm.settle_after` - letting the threads run is a list of their steps.
* `Vm.reads_…` - everything else that an execution environment offers leaves the debuggee alone.

## 1. Deeds

## 2. Questions

## 3. What a deed can change

## 4. Every deed is such a change

## 5. Letting the threads run
-/

namespace Debugger

open Std (TreeMap)

namespace Vm

/-! ## 1. Deeds -/

/-- Something that is done to a debuggee or that a thread of it does. -/
inductive Deed
  | define (c : ClassDef)
  | launch
  | shutdown
  | spawn (name : String)
  | newString (text : String)
  | boxValue (p : Primitive)
  | newInstance (className : String) (types : List String) (args : List Value)
  | invokeStatic (className method : String) (types : List String) (args : List Value)
  | invokeMethod (receiver : ObjectRef) (method : String) (types : List String) (args : List Value)
  | submit (thread : ThreadId) (task : Task)
  | installTransport (id : ObjectId)
  | takeTransport
  | release (handle : Handle)
  | resume (thread : ThreadId) (kind : Option StepKind)
  | halt (thread : ThreadId)
  | terminate (thread : ThreadId)
  | unpark (thread : ThreadId)
  | setBreakpoint (r : BreakpointRequest)
  | clearBreakpoint (l : BreakpointLocation)
  | setBreakOnUncaught (enabled : Bool)
  /-- A thread makes a step by itself, if it can. -/
  | step (thread : ThreadId)

/-- What a deed leaves behind, whether it is refused or not. -/
def Deed.run (v : Vm) : Deed → Vm
  | define c => v.defineClass c
  | launch => v.launch
  | shutdown => v.shutdown
  | spawn name => ((spawnThread name).run v).2
  | newString text => ((Vm.newString text).run v).2
  | boxValue p => ((Vm.boxValue p).run v).2
  | newInstance className types args => ((Vm.newInstance className types args).run v).2
  | invokeStatic className method types args =>
    ((Vm.invokeStatic className method types args).run v).2
  | invokeMethod receiver method types args =>
    ((Vm.invokeMethod receiver method types args).run v).2
  | submit thread task => ((Vm.submit thread task).run v).2
  | installTransport id => ((Vm.installTransport id).run v).2
  | takeTransport => (Vm.takeTransport.run v).2
  | release handle => ((Vm.release handle).run v).2
  | resume thread kind => ((Vm.resume thread kind).run v).2
  | halt thread => ((Vm.halt thread).run v).2
  | terminate thread => ((terminateThread thread).run v).2
  | unpark thread => (v.unpark thread).2
  | setBreakpoint r => ((Vm.setBreakpoint r).run v).2
  | clearBreakpoint l => ((Vm.clearBreakpoint l).run v).2
  | setBreakOnUncaught enabled => ((Vm.setBreakOnUncaught enabled).run v).2
  | step thread => (v.step? thread).getD v

/-- Whether a deed makes an object. What the threads make they make in their steps. -/
def Deed.makesObject : Deed → Bool
  | newString _ | boxValue _ => true
  | _ => false

/-- What is left of a debuggee after some deeds. -/
def after (v : Vm) (ds : List Deed) : Vm := ds.foldl Deed.run v

theorem after_append (v : Vm) (ds es : List Deed) : v.after (ds ++ es) = (v.after ds).after es :=
  List.foldl_append

/-! ## 2. Questions -/

theorem reads_requireLaunched : requireLaunched.Reads := by
  intro v
  unfold requireLaunched
  show ((if !v.launched then throw .notLaunched else pure () : Op Unit).run v).2 = v
  split <;> rfl

theorem reads_requireClass (name : String) : (requireClass name).Reads := by
  refine .get_bind fun v => ?_
  cases v.shared.class? name with
  | none => exact .throw _
  | some c => exact .pure _

theorem reads_requireObject (id : ObjectId) : (requireObject id).Reads := by
  refine .get_bind fun v => ?_
  cases v.shared.heap.object? id with
  | none => exact .throw _
  | some o => exact .pure _

theorem reads_requireThread (id : ThreadId) : (requireThread id).Reads := by
  refine .get_bind fun v => ?_
  cases v.thread? id with
  | error e => exact .throw _
  | ok t => exact .pure _

theorem reads_requireMain : requireMain.Reads := by
  refine .get_bind fun v => ?_
  cases v.mainThread with
  | none => exact .throw _
  | some id => exact .pure _

theorem reads_getStatic (className field : String) : (getStatic className field).Reads := by
  refine (reads_requireClass className).bind fun _ => .get_bind fun v => ?_
  cases v.shared.heap.static? className field with
  | none => exact .throw _
  | some value => exact .pure _

theorem reads_objectCategory (id : ObjectId) : (environment.objectCategory id).Reads :=
  (reads_requireObject id).bind fun _ => .pure _

theorem reads_objectClass (id : ObjectId) : (environment.objectClass id).Reads :=
  (reads_requireObject id).bind fun _ => .pure _

theorem reads_stringValue (id : ObjectId) : (environment.stringValue id).Reads :=
  (reads_requireObject id).bind fun _ => .pure _

theorem reads_classInfo (name : String) : (environment.classInfo name).Reads :=
  (reads_requireClass name).bind fun _ => .pure _

theorem reads_objectFields (id : ObjectId) : (objectFields id).Reads :=
  (reads_requireObject id).bind fun _ => .pure _

theorem reads_threadInfos : threadInfos.Reads :=
  reads_requireLaunched.bind fun _ => .get_bind fun _ => .pure _

theorem reads_framesOf (id : ThreadId) : (framesOf id).Reads := by
  refine (reads_requireThread id).bind fun t => ?_
  cases t.frames? with
  | error e => exact .throw _
  | ok fs => exact .pure _

variable {v w : Vm}

theorem launched_of_ok {u : Unit} (h : requireLaunched.run v = (.ok u, w)) : v.launched = true := by
  cases hl : v.launched with
  | true => rfl
  | false =>
    unfold requireLaunched at h
    have refused : (requireLaunched.run v).1 = .error .notLaunched := by
      show ((if !v.launched then throw .notLaunched else pure () : Op Unit).run v).1 = _
      rw [hl]
      rfl
    unfold requireLaunched at refused
    rw [h] at refused
    cases refused

theorem object?_of_ok {id : ObjectId} {o : HeapObject} (h : (requireObject id).run v = (.ok o, w)) :
    v.shared.heap.object? id = some o := by
  unfold requireObject at h
  rw [Action.run_get_bind] at h
  cases ho : v.shared.heap.object? id with
  | none =>
    rw [ho] at h
    cases h
  | some o' =>
    rw [ho] at h
    cases h
    rfl

theorem thread?_of_ok {id : ThreadId} {t : Thread} (h : (requireThread id).run v = (.ok t, w)) :
    v.threads[id]? = some t ∧ t.listed = true := by
  unfold requireThread at h
  rw [Action.run_get_bind] at h
  unfold thread? at h
  cases ht : v.threads[id]? with
  | none =>
    rw [ht] at h
    cases h
  | some t' =>
    rw [ht] at h
    cases hl : t'.listed with
    | false =>
      simp only [hl, Bool.false_eq_true, if_false] at h
      cases h
    | true =>
      simp only [hl, if_true] at h
      cases h
      exact ⟨rfl, hl⟩

/-! ## 3. What a deed can change -/

/-- What a controller can do to a thread. -/
inductive Asked (t : Thread) (s : Shared) : Thread → Shared → Prop
  | submits (call : CallId) (task : Task) :
      Asked t s (t.submit call task s).1 (t.submit call task s).2
  | resumes {kind : Option StepKind} {t' : Thread} {s' : Shared}
      (granted : t.resume kind s = .ok (t', s')) : Asked t s t' s'
  | halts {t' : Thread} (granted : t.halt = .ok t') : Asked t s t' s
  | terminates : Asked t s (t.terminate s).1 (t.terminate s).2
  | unparks {t' : Thread} (granted : t.unpark? = some t') : Asked t s t' s

def withHeap (v : Vm) (heap : Heap) : Vm := { v with shared := { v.shared with heap } }

/-- What can become of a debuggee by one deed. -/
inductive Change (v : Vm) : Deed → Vm → Prop
  /-- The deed is refused, or there is nothing to do. -/
  | idle {d : Deed} : Change v d v
  | steps {id : ThreadId} {t t' : Thread} {s' : Shared} (there : v.threads[id]? = some t)
      (step : t.step v.shared = some (t', s')) : Change v (.step id) (v.putThread t' s')
  | asks {d : Deed} {id : ThreadId} {t t' : Thread} {s' : Shared}
      (there : v.threads[id]? = some t) (asked : Asked t v.shared t' s') (lastCall : CallId) :
      Change v d { v.putThread t' s' with lastCall }
  | defines (c : ClassDef) : Change v (.define c) (v.defineClass c)
  | launches (down : v.launched = false) : Change v .launch v.launch
  | shutsDown (up : v.launched = true) : Change v .shutdown v.shutdown
  | spawns (up : v.launched = true) (name : String) :
      Change v (.spawn name) (v.startThread name mainGroup).2
  | allocates {d : Deed} {heap : Heap} (up : v.launched = true) (maker : d.makesObject = true)
      (worked : v.shared.heap.Worked heap) : Change v d (v.withHeap heap)
  | installs {id : ObjectId} {o : HeapObject} {heap : Heap}
      (there : v.shared.heap.object? id = some o)
      (stored : v.shared.heap.setStatic? transportClass.name transportField (.object (o.ref id)) =
        some heap) :
      Change v (.installTransport id) (v.withHeap heap)
  | takes {o : ObjectRef} {heap : Heap}
      (full : v.shared.heap.static? transportClass.name transportField = some (.object o))
      (emptied : v.shared.heap.setStatic? transportClass.name transportField .null = some heap) :
      Change v .takeTransport ((v.withHeap heap).hold o.id).2
  | releases (handle : Handle) :
      Change v (.release handle)
        { v with holds := { v.holds with byHandle := v.holds.byHandle.erase handle } }
  | setsBreakpoint (r : BreakpointRequest) :
      Change v (.setBreakpoint r) { v with shared := { v.shared with
        breakpoints := v.shared.breakpoints.install r } }
  | clearsBreakpoint (l : BreakpointLocation) :
      Change v (.clearBreakpoint l) { v with shared := { v.shared with
        breakpoints := v.shared.breakpoints.erase l } }
  | breaksOnUncaught (enabled : Bool) :
      Change v (.setBreakOnUncaught enabled) { v with shared := { v.shared with
        breakOnUncaught := enabled } }

/-! ## 4. Every deed is such a change -/

theorem submit_change (d : Deed) (id : ThreadId) (task : Task) (v : Vm) :
    Change v d ((submit id task).run v).2 := by
  unfold submit
  rcases (reads_requireThread id).cases _ v with ⟨e, -, eq⟩ | ⟨t, ok, eq⟩
  · rw [eq]
    exact .idle
  · rw [eq]
    exact .asks (thread?_of_ok ok).1 (.submits (v.lastCall + 1) task) (v.lastCall + 1)

theorem submitToMain_change (d : Deed) (task : Task) (v : Vm) :
    Change v d ((submitToMain task).run v).2 := by
  unfold submitToMain
  rcases reads_requireMain.cases _ v with ⟨e, -, eq⟩ | ⟨id, -, eq⟩
  · rw [eq]
    exact .idle
  · rw [eq]
    exact submit_change d id task v

theorem newInstance_change (className : String) (types : List String) (args : List Value) (v : Vm) :
    Change v (.newInstance className types args) ((newInstance className types args).run v).2 := by
  unfold newInstance
  rcases reads_requireLaunched.cases _ v with ⟨e, -, eq⟩ | ⟨_, -, eq⟩
  · rw [eq]
    exact .idle
  rw [eq]
  rcases (reads_requireClass className).cases _ v with ⟨e, -, eq⟩ | ⟨c, -, eq⟩
  · rw [eq]
    exact .idle
  rw [eq]
  split
  · exact submitToMain_change _ _ v
  · exact .idle

theorem invokeStatic_change (className method : String) (types : List String) (args : List Value)
    (v : Vm) : Change v (.invokeStatic className method types args)
      ((invokeStatic className method types args).run v).2 := by
  unfold invokeStatic
  rcases reads_requireLaunched.cases _ v with ⟨e, -, eq⟩ | ⟨_, -, eq⟩
  · rw [eq]
    exact .idle
  rw [eq]
  rcases (reads_requireClass className).cases _ v with ⟨e, -, eq⟩ | ⟨c, -, eq⟩
  · rw [eq]
    exact .idle
  rw [eq]
  split
  · exact submitToMain_change _ _ v
  · exact .idle

theorem invokeMethod_change (receiver : ObjectRef) (method : String) (types : List String)
    (args : List Value) (v : Vm) : Change v (.invokeMethod receiver method types args)
      ((invokeMethod receiver method types args).run v).2 := by
  unfold invokeMethod
  rcases reads_requireLaunched.cases _ v with ⟨e, -, eq⟩ | ⟨_, -, eq⟩
  · rw [eq]
    exact .idle
  rw [eq]
  rcases (reads_requireObject receiver.id).cases _ v with ⟨e, -, eq⟩ | ⟨o, -, eq⟩
  · rw [eq]
    exact .idle
  rw [eq]
  split
  · exact submitToMain_change _ _ v
  · exact .idle

theorem newString_change (text : String) (v : Vm) :
    Change v (.newString text) ((newString text).run v).2 := by
  unfold newString
  rcases reads_requireLaunched.cases _ v with ⟨e, -, eq⟩ | ⟨_, ok, eq⟩
  · rw [eq]
    exact .idle
  · rw [eq]
    exact .allocates (launched_of_ok ok) rfl (.insert _ .refl)

theorem boxValue_change (p : Primitive) (v : Vm) :
    Change v (.boxValue p) ((boxValue p).run v).2 := by
  unfold boxValue
  rcases reads_requireLaunched.cases _ v with ⟨e, -, eq⟩ | ⟨_, ok, eq⟩
  · rw [eq]
    exact .idle
  obtain ⟨heap, made, worked⟩ := v.shared.box_worked p
  rw [eq, Action.run_modifyGet_bind]
  dsimp only
  rw [made]
  cases (v.shared.box p).1 <;> exact .allocates (launched_of_ok ok) rfl worked

theorem installTransport_change (id : ObjectId) (v : Vm) :
    Change v (.installTransport id) ((installTransport id).run v).2 := by
  unfold installTransport
  rcases (reads_requireObject id).cases _ v with ⟨e, -, eq⟩ | ⟨o, ok, eq⟩
  · rw [eq]
    exact .idle
  rw [eq, Action.run_get_bind]
  dsimp only
  cases stored : v.shared.heap.setStatic? transportClass.name transportField (.object (o.ref id)) with
  | none => exact .idle
  | some heap => exact .installs (object?_of_ok ok) stored

/-- Picking up the transport: refused, or the next handle. -/
theorem takeTransport_cases (v : Vm) :
    (∃ e, takeTransport.run v = (.error e, v)) ∨
      ∃ o heap, v.shared.heap.static? transportClass.name transportField = some (.object o) ∧
        v.shared.heap.setStatic? transportClass.name transportField .null = some heap ∧
        takeTransport.run v =
          (.ok ⟨v.holds.last + 1⟩, ((v.withHeap heap).hold o.id).2) := by
  unfold takeTransport
  rw [Action.run_get_bind]
  dsimp only
  cases full : v.shared.heap.static? transportClass.name transportField with
  | none => exact .inl ⟨.transportEmpty, rfl⟩
  | some value =>
    cases value with
    | null | void | primitive => exact .inl ⟨.transportEmpty, rfl⟩
    | object o =>
      obtain ⟨heap, emptied⟩ := Heap.setStatic?_of_static? full .null
      dsimp only
      rw [emptied]
      exact .inr ⟨o, heap, rfl, rfl, rfl⟩

theorem takeTransport_change (v : Vm) : Change v .takeTransport (takeTransport.run v).2 := by
  rcases v.takeTransport_cases with ⟨e, eq⟩ | ⟨o, heap, full, emptied, eq⟩
  · rw [eq]
    exact .idle
  · rw [eq]
    exact .takes full emptied

theorem release_change (handle : Handle) (v : Vm) :
    Change v (.release handle) ((release handle).run v).2 := by
  unfold release
  show Change v _ ((if v.holds.byHandle.contains handle then
      modify fun vm => { vm with
        holds := { v.holds with byHandle := v.holds.byHandle.erase handle } }
    else throw (.invalidHandle handle) : Op Unit).run v).2
  split
  · exact .releases handle
  · exact .idle

theorem spawnThread_change (name : String) (v : Vm) :
    Change v (.spawn name) ((spawnThread name).run v).2 := by
  unfold spawnThread
  rcases reads_requireLaunched.cases _ v with ⟨e, -, eq⟩ | ⟨_, ok, eq⟩
  · rw [eq]
    exact .idle
  · rw [eq]
    exact .spawns (launched_of_ok ok) name

theorem resume_change (id : ThreadId) (kind : Option StepKind) (v : Vm) :
    Change v (.resume id kind) ((resume id kind).run v).2 := by
  unfold resume
  rcases (reads_requireThread id).cases _ v with ⟨e, -, eq⟩ | ⟨t, ok, eq⟩
  · rw [eq]
    exact .idle
  rw [eq, Action.run_get_bind]
  cases granted : t.resume kind v.shared with
  | error e => exact .idle
  | ok r => exact .asks (thread?_of_ok ok).1 (.resumes granted) v.lastCall

theorem halt_change (id : ThreadId) (v : Vm) : Change v (.halt id) ((halt id).run v).2 := by
  unfold halt
  rcases (reads_requireThread id).cases _ v with ⟨e, -, eq⟩ | ⟨t, ok, eq⟩
  · rw [eq]
    exact .idle
  rw [eq]
  cases granted : t.halt with
  | error e => exact .idle
  | ok t' => exact .asks (thread?_of_ok ok).1 (.halts granted) v.lastCall

theorem terminateThread_change (id : ThreadId) (v : Vm) :
    Change v (.terminate id) ((terminateThread id).run v).2 := by
  unfold terminateThread
  rcases (reads_requireThread id).cases _ v with ⟨e, -, eq⟩ | ⟨t, ok, eq⟩
  · rw [eq]
    exact .idle
  · rw [eq]
    exact .asks (thread?_of_ok ok).1 .terminates v.lastCall

theorem unpark_change (id : ThreadId) (v : Vm) : Change v (.unpark id) (v.unpark id).2 := by
  unfold unpark
  cases ht : v.threads[id]? with
  | none => exact .idle
  | some t =>
    cases granted : t.unpark? with
    | none =>
      rw [Option.bind_some, granted]
      exact .idle
    | some t' =>
      rw [Option.bind_some, granted]
      exact .asks ht (.unparks granted) v.lastCall

/-- Setting a breakpoint: refused, or installed. -/
theorem setBreakpoint_cases (r : BreakpointRequest) (v : Vm) :
    (∃ e, (setBreakpoint r).run v = (.error e, v)) ∨
      (setBreakpoint r).run v = (.ok (), { v with shared := { v.shared with
        breakpoints := v.shared.breakpoints.install r } }) := by
  unfold setBreakpoint
  rcases (reads_requireClass r.location.className).cases _ v with ⟨e, -, eq⟩ | ⟨c, -, eq⟩
  · exact .inl ⟨e, eq⟩
  rw [eq]
  cases r.location with
  | line className n =>
    dsimp only
    split
    · exact .inl ⟨_, rfl⟩
    · exact .inr rfl
  | method className m =>
    dsimp only
    split
    · exact .inl ⟨_, rfl⟩
    · exact .inr rfl

theorem setBreakpoint_change (r : BreakpointRequest) (v : Vm) :
    Change v (.setBreakpoint r) ((setBreakpoint r).run v).2 := by
  rcases setBreakpoint_cases r v with ⟨e, eq⟩ | eq
  · rw [eq]
    exact .idle
  · rw [eq]
    exact .setsBreakpoint r

theorem step?_change (id : ThreadId) (v : Vm) : Change v (.step id) ((v.step? id).getD v) := by
  unfold step?
  cases ht : v.threads[id]? with
  | none => exact .idle
  | some t =>
    cases hs : t.step v.shared with
    | none =>
      simp only [Option.bind_eq_bind, Option.bind_some, hs]
      exact .idle
    | some r =>
      simp only [Option.bind_eq_bind, Option.bind_some, hs]
      exact .steps ht hs

theorem launch_of_up {v : Vm} (up : v.launched = true) : v.launch = v := if_pos up

theorem shutdown_of_down {v : Vm} (down : v.launched = false) : v.shutdown = v :=
  if_pos (by rw [down]; rfl)

/-- **What a deed makes of a debuggee is one of these changes.** -/
theorem Deed.change (d : Deed) (v : Vm) : Change v d (d.run v) := by
  cases d with
  | define c => exact .defines c
  | launch =>
    cases hl : v.launched with
    | false => exact .launches hl
    | true =>
      show Change v _ v.launch
      rw [launch_of_up hl]
      exact .idle
  | shutdown =>
    cases hl : v.launched with
    | true => exact .shutsDown hl
    | false =>
      show Change v _ v.shutdown
      rw [shutdown_of_down hl]
      exact .idle
  | spawn name => exact spawnThread_change name v
  | newString text => exact newString_change text v
  | boxValue p => exact boxValue_change p v
  | newInstance className types args => exact newInstance_change className types args v
  | invokeStatic className method types args => exact invokeStatic_change className method types args v
  | invokeMethod receiver method types args =>
    exact invokeMethod_change receiver method types args v
  | submit thread task => exact submit_change _ thread task v
  | installTransport id => exact installTransport_change id v
  | takeTransport => exact v.takeTransport_change
  | release handle => exact release_change handle v
  | resume thread kind => exact resume_change thread kind v
  | halt thread => exact halt_change thread v
  | terminate thread => exact terminateThread_change thread v
  | unpark thread => exact unpark_change thread v
  | setBreakpoint r => exact setBreakpoint_change r v
  | clearBreakpoint l => exact .clearsBreakpoint l
  | setBreakOnUncaught enabled => exact .breaksOnUncaught enabled
  | step thread => exact step?_change thread v

/-! ## 5. Letting the threads run -/

theorem stepAny?_some (h : v.stepAny? = some w) : ∃ id, v.step? id = some w := by
  unfold stepAny? at h
  obtain ⟨⟨id, t⟩, member, step⟩ := List.exists_of_findSome?_eq_some h
  have there : v.threads[id]? = some t := TreeMap.mem_toList_iff_getElem?_eq_some.mp member
  obtain ⟨r, hs, rfl⟩ := Option.map_eq_some_iff.mp step
  refine ⟨id, ?_⟩
  unfold step?
  rw [there]
  simp only [Option.bind_eq_bind, Option.bind_some, hs]
  rfl

theorem run_after (fuel : Nat) (v : Vm) :
    ∃ ids : List ThreadId, run fuel v = v.after (ids.map .step) := by
  induction fuel generalizing v with
  | zero => exact ⟨[], rfl⟩
  | succ fuel ih =>
    simp only [run]
    cases h : v.stepAny? with
    | none => exact ⟨[], rfl⟩
    | some w =>
      obtain ⟨id, step⟩ := stepAny?_some h
      obtain ⟨ids, eq⟩ := ih w
      refine ⟨id :: ids, ?_⟩
      have first : Deed.run v (.step id) = w := by
        show (v.step? id).getD v = w
        rw [step]
        rfl
      show run fuel w = (Deed.run v (.step id)).after (ids.map .step)
      rw [first]
      exact eq

/-- **Letting the threads run is a list of their steps.** -/
theorem settle_after (v : Vm) : ∃ ids : List ThreadId, v.settle = v.after (ids.map .step) :=
  run_after patience v

end Vm

end Debugger
