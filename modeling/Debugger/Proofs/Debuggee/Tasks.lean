import Mathlib.Data.List.Induction
import Mathlib.Logic.Relation
import Debugger.Proofs.Debuggee.Counters
import Debugger.Proofs.Thread.Calls
/-!
# Where the tasks of threads come from

A thread is given tasks from outside, and from then on it is on its own: it takes them up one after the
other, and whatever is done about a task is done by a step of the thread that has it. So what a thread
is at can be traced back to the deed that gave it the task, under the number that was next.

* `Thread.Fares`, `Vm.Touch` - what else happens to a thread, and to the threads of a debuggee: none of
  it gives a thread a task.
* `Vm.Deed.undergone` - a deed submits a task, or it is made of such touches.
* `Vm.tasks_after` - what holds of each task when it is submitted holds of each task a thread has.

## 1. What happens to a thread

## 2. What happens to the threads of a debuggee

## 3. Every deed is that

## 4. Making a call

## 5. Tasks that were not begun
-/

namespace Debugger

open Std (TreeMap)

/-! ## 1. What happens to a thread -/

namespace Thread

variable {t t' : Thread} {s s' : Shared}

/-- What becomes of a thread, other than that it is given a task. -/
inductive Fares (t : Thread) (s : Shared) : Thread → Shared → Prop
  | steps {t' : Thread} {s' : Shared} (step : t.step s = some (t', s')) : Fares t s t' s'
  /-- A controller sets what it may set. -/
  | steered {t' : Thread} {s' : Shared} (id : t'.id = t.id) (inbox : t'.inbox = t.inbox)
      (worker : t'.worker = t.worker) (told : s'.completed = s.completed) : Fares t s t' s'
  | unparks {t' : Thread} (granted : t.unpark? = some t') : Fares t s t' s
  /-- It is terminated, and may go off the list. -/
  | dies {t' : Thread} {s' : Shared} (id : t'.id = t.id)
      (inbox : t'.inbox = (t.terminate s).1.inbox) (worker : t'.worker = t.worker)
      (told : s'.completed = (t.terminate s).2.completed) : Fares t s t' s'

theorem Fares.same_id (f : t.Fares s t' s') : t'.id = t.id := by
  cases f with
  | steps step => exact (step_effect step).same.1
  | steered id | dies id => exact id
  | unparks granted =>
    obtain ⟨a, next, -, -, rfl⟩ := unpark?_some granted
    rfl

theorem terminate_worker (t : Thread) (s : Shared) : (t.terminate s).1.worker = t.worker := by
  rcases t.terminate_cases s with same | died
  · rw [same]
  · rw [died]

end Thread

/-! ## 2. What happens to the threads of a debuggee -/

namespace Vm

variable {v w x : Vm}

/-- A single change of the threads, of what callers were told, and of nothing else that matters to
tasks. -/
inductive Touch (v : Vm) : Vm → Prop
  | aside {w : Vm} (threads : w.threads = v.threads) (told : w.shared.completed = v.shared.completed)
      (counted : w.lastCall = v.lastCall) : Touch v w
  | starts {w : Vm} (name group : String) (new : v.threads[v.lastThread + 1]? = none)
      (threads : w.threads =
        v.threads.insert (v.lastThread + 1) { id := v.lastThread + 1, name, group })
      (told : w.shared.completed = v.shared.completed) (counted : w.lastCall = v.lastCall) : Touch v w
  | fares {w : Vm} {t t' : Thread} {s' : Shared} (there : v.threads[t.id]? = some t)
      (fares : t.Fares v.shared t' s') (threads : w.threads = v.threads.insert t.id t')
      (told : w.shared.completed = s'.completed) (counted : w.lastCall = v.lastCall) : Touch v w

/-- Any number of touches. -/
def Touches : Vm → Vm → Prop := Relation.ReflTransGen Touch

/-- The task that a deed gives a thread if there is nothing against it. -/
def Deed.task? (v : Vm) : Deed → Option Task
  | submit _ task => some task
  | newInstance className types args => do
    let c ← v.shared.class? className
    let constructor ← c.findConstructor? (.types types) types.isEmpty
    return .invoke (.construct c constructor args)
  | invokeStatic className method types args => do
    let c ← v.shared.class? className
    let m ← c.findMethod? method .static (.types types)
    return .invoke (.method c m none args)
  | invokeMethod receiver method types args => do
    let o ← v.shared.heap.object? receiver.id
    let m ← o.classDef.findMethod? method .virtual (.types types)
    return .invoke (.method o.classDef m (some receiver) args)
  | _ => none

/-- The state after a task was submitted to a thread, under the next number. -/
def submitted (v : Vm) (t : Thread) (task : Task) : Vm :=
  { v.putThread (t.submit (v.lastCall + 1) task v.shared).1
      (t.submit (v.lastCall + 1) task v.shared).2 with
    lastCall := v.lastCall + 1 }

theorem submitted_threads (v : Vm) (t : Thread) (task : Task) : (v.submitted t task).threads =
    v.threads.insert t.id (t.submit (v.lastCall + 1) task v.shared).1 := by
  have same : (t.submit (v.lastCall + 1) task v.shared).1.id = t.id := by
    rcases t.submit_cases (v.lastCall + 1) task v.shared with kept | queued
    · rw [kept]
    · rw [queued]
  show v.threads.insert _ _ = _
  rw [same]

/-- What a deed makes of the threads and their tasks. -/
inductive Undergone (v : Vm) (d : Deed) : Vm → Prop
  | touched {w : Vm} (touches : Touches v w) : Undergone v d w
  | submitted {t : Thread} {task : Task} (named : d.task? v = some task)
      (there : v.threads[t.id]? = some t) : Undergone v d (v.submitted t task)

/-! ## 3. Every deed is that -/

/-- Work that leaves the threads to themselves. -/
def Spares (v w : Vm) : Prop :=
  w.threads = v.threads ∧ w.shared.completed = v.shared.completed ∧ w.lastCall = v.lastCall

instance : Std.Refl Spares := ⟨fun _ => ⟨rfl, rfl, rfl⟩⟩

instance : Trans Spares Spares Spares where
  trans h h' := ⟨h'.1.trans h.1, h'.2.1.trans h.2.1, h'.2.2.trans h.2.2⟩

theorem Spares.touches (h : Spares v w) : Touches v w := .single (.aside h.1 h.2.1 h.2.2)

theorem spares_newString (text : String) : Action.Within Spares (newString text) :=
  Action.Within.bind (.of_reads reads_requireLaunched) fun _ _ => ⟨rfl, rfl, rfl⟩

theorem spares_boxValue (p : Primitive) : Action.Within Spares (boxValue p) := by
  refine Action.Within.bind (.of_reads reads_requireLaunched) fun _ => Action.Within.bind ?_ ?_
  · exact fun v => ⟨rfl, Thread.box_completed v.shared p, rfl⟩
  · intro holder
    cases holder with
    | none => exact .throw _
    | some o => exact .pure o

theorem spares_installTransport (id : ObjectId) : Action.Within Spares (installTransport id) := by
  refine Action.Within.bind (.of_reads (reads_requireObject id)) fun o => .get_bind fun v => ?_
  dsimp only
  cases v.shared.heap.setStatic? transportClass.name transportField (.object (o.ref id)) with
  | none => exact .throw _
  | some heap => exact .modify fun _ => ⟨rfl, rfl, rfl⟩

theorem spares_takeTransport : Action.Within Spares takeTransport := by
  intro v
  rcases v.takeTransport_cases with ⟨e, eq⟩ | ⟨o, heap, -, -, eq⟩
  · rw [eq]
    exact ⟨rfl, rfl, rfl⟩
  · rw [eq]
    exact ⟨rfl, rfl, rfl⟩

theorem spares_release (handle : Handle) : Action.Within Spares (release handle) := by
  refine .get_bind fun v => ?_
  dsimp only
  split
  · exact .modify fun _ => ⟨rfl, rfl, rfl⟩
  · exact .throw _

theorem spares_setBreakpoint (r : BreakpointRequest) : Action.Within Spares (setBreakpoint r) := by
  intro v
  rcases setBreakpoint_cases r v with ⟨e, eq⟩ | eq
  · rw [eq]
    exact ⟨rfl, rfl, rfl⟩
  · rw [eq]
    exact ⟨rfl, rfl, rfl⟩

theorem Sound.touch_start (h : v.Sound) (name group : String) :
    Touch v (v.startThread name group).2 := by
  refine .starts name group ?_ rfl rfl rfl
  cases there : v.threads[v.lastThread + 1]? with
  | none => rfl
  | some t => exact absurd (h.threads _ t there).2 (Nat.not_succ_le_self _)

theorem Sound.touches_startAll (h : v.Sound) (names : List String) :
    Touches v (names.foldl (fun vm name => (vm.startThread name systemGroup).2) v) := by
  induction names generalizing v with
  | nil => exact .refl
  | cons name rest ih =>
    exact .head (h.touch_start name systemGroup) (ih (h.start name systemGroup).sound)

theorem Sound.touches_launch (h : v.Sound) : Touches v v.launch := by
  cases up : v.launched with
  | true =>
    rw [launch_of_up up]
    exact .refl
  | false =>
    have lit : Touch v v.ignited := .aside rfl rfl rfl
    have main := h.ignite.sound.touch_start "main" mainGroup
    have started := h.ignite.sound.start "main" mainGroup
    have known : Touch (v.ignited.startThread "main" mainGroup).2
        { (v.ignited.startThread "main" mainGroup).2 with
          mainThread := some (v.ignited.startThread "main" mainGroup).1 } := .aside rfl rfl rfl
    have kept : Onward (v.ignited.startThread "main" mainGroup).2
        { (v.ignited.startThread "main" mainGroup).2 with
          mainThread := some (v.ignited.startThread "main" mainGroup).1 } :=
      started.sound.aside rfl rfl rfl rfl rfl
    rw [launch_eq up]
    exact .head lit (.head main (.head known (kept.sound.touches_startAll systemThreads)))

theorem touch_retire {t : Thread} (there : v.threads[t.id]? = some t) : Touch v (v.retire t) := by
  have dies : t.Fares v.shared { (t.terminate v.shared).1 with listed := false }
      (t.terminate v.shared).2 :=
    .dies (t.terminate_later v.shared).id rfl (t.terminate_worker v.shared) rfl
  have own : (t.terminate v.shared).1.id = t.id := (t.terminate_later v.shared).id
  exact .fares there dies (congrArg (v.threads.insert · _) own) rfl rfl

theorem touches_retireAll {ts : List Thread} (there : ∀ t ∈ ts, v.threads[t.id]? = some t)
    (distinct : (ts.map (·.id)).Nodup) : Touches v (ts.foldl retire v) := by
  induction ts generalizing v with
  | nil => exact .refl
  | cons u rest ih =>
    rw [List.map_cons, List.nodup_cons] at distinct
    refine .head (touch_retire (there u List.mem_cons_self)) (ih (fun t ht => ?_) distinct.2)
    have apart : u.id ≠ t.id := fun same => distinct.1 (same ▸ List.mem_map_of_mem ht)
    rw [retire_getElem?, if_neg apart]
    exact there t (List.mem_cons_of_mem _ ht)

theorem Sound.touches_shutdown (h : v.Sound) : Touches v v.shutdown := by
  cases up : v.launched with
  | false =>
    rw [shutdown_of_down up]
    exact .refl
  | true =>
    have down : Onward v { v with launched := false, mainThread := none } :=
      h.aside rfl rfl rfl rfl rfl
    obtain ⟨there, distinct, -⟩ := down.sound.listedThreads
    have retired : Touches { v with launched := false, mainThread := none } v.extinguished :=
      touches_retireAll there distinct
    have falls : Touch v { v with launched := false, mainThread := none } := .aside rfl rfl rfl
    rw [shutdown_eq up]
    exact .head falls (.tail retired (.aside rfl rfl rfl))

/-- One thread fares well or ill. -/
theorem Sound.touches_put (h : v.Sound) {id : ThreadId} {t t' : Thread} {s' : Shared}
    (there : v.threads[id]? = some t) (fares : t.Fares v.shared t' s') :
    Touches v (v.putThread t' s') := by
  obtain ⟨rfl, -⟩ := h.threads id t there
  refine .single (.fares there fares ?_ rfl rfl)
  show v.threads.insert t'.id t' = _
  rw [fares.same_id]

theorem Sound.touches_step (h : v.Sound) (id : ThreadId) : Touches v ((v.step? id).getD v) := by
  unfold step?
  cases there : v.threads[id]? with
  | none => exact .refl
  | some t =>
    cases step : t.step v.shared with
    | none =>
      simp only [Option.bind_eq_bind, Option.bind_some, step]
      exact .refl
    | some r =>
      simp only [Option.bind_eq_bind, Option.bind_some, step]
      exact h.touches_put there (.steps step)

theorem Sound.touches_resume (h : v.Sound) (id : ThreadId) (kind : Option StepKind) :
    Touches v ((resume id kind).run v).2 := by
  unfold resume
  rcases (reads_requireThread id).cases _ v with ⟨e, -, eq⟩ | ⟨t, ok, eq⟩
  · rw [eq]
    exact .refl
  rw [eq, Action.run_get_bind]
  cases granted : t.resume kind v.shared with
  | error e => exact .refl
  | ok r =>
    obtain ⟨-, -, same, told⟩ := Thread.resume_ok granted
    have steered : t.Fares v.shared r.1 r.2 :=
      .steered (by rw [same]) (by rw [same]) (by rw [same]) (by rw [told]; rfl)
    exact h.touches_put (thread?_of_ok ok).1 steered

theorem Sound.touches_halt (h : v.Sound) (id : ThreadId) : Touches v ((halt id).run v).2 := by
  unfold halt
  rcases (reads_requireThread id).cases _ v with ⟨e, -, eq⟩ | ⟨t, ok, eq⟩
  · rw [eq]
    exact .refl
  rw [eq]
  cases granted : t.halt with
  | error e => exact .refl
  | ok t' =>
    have steered : t.Fares v.shared t' v.shared := by
      obtain ⟨-, rfl | rfl⟩ := Thread.halt_ok granted <;> exact .steered rfl rfl rfl rfl
    exact h.touches_put (thread?_of_ok ok).1 steered

theorem Sound.touches_terminate (h : v.Sound) (id : ThreadId) :
    Touches v ((terminateThread id).run v).2 := by
  unfold terminateThread
  rcases (reads_requireThread id).cases _ v with ⟨e, -, eq⟩ | ⟨t, ok, eq⟩
  · rw [eq]
    exact .refl
  · rw [eq]
    exact h.touches_put (thread?_of_ok ok).1
      (.dies (t.terminate_later v.shared).id rfl (t.terminate_worker v.shared) rfl)

theorem Sound.touches_unpark (h : v.Sound) (id : ThreadId) : Touches v (v.unpark id).2 := by
  unfold unpark
  cases there : v.threads[id]? with
  | none => exact .refl
  | some t =>
    cases granted : t.unpark? with
    | none =>
      rw [Option.bind_some, granted]
      exact .refl
    | some t' =>
      rw [Option.bind_some, granted]
      exact h.touches_put there (.unparks granted)

theorem Sound.undergone_submit (h : v.Sound) {d : Deed} {task : Task} (named : d.task? v = some task)
    (id : ThreadId) : Undergone v d ((submit id task).run v).2 := by
  unfold submit
  rcases (reads_requireThread id).cases _ v with ⟨e, -, eq⟩ | ⟨t, ok, eq⟩
  · rw [eq]
    exact .touched .refl
  · rw [eq]
    obtain ⟨there, -⟩ := thread?_of_ok ok
    obtain ⟨rfl, -⟩ := h.threads id t there
    exact .submitted named there

theorem Sound.undergone_submitToMain (h : v.Sound) {d : Deed} {task : Task}
    (named : d.task? v = some task) : Undergone v d ((submitToMain task).run v).2 := by
  unfold submitToMain
  rcases reads_requireMain.cases _ v with ⟨e, -, eq⟩ | ⟨id, -, eq⟩
  · rw [eq]
    exact .touched .refl
  · rw [eq]
    exact h.undergone_submit named id

theorem class?_of_ok {name : String} {c : ClassDef} (h : (requireClass name).run v = (.ok c, w)) :
    v.shared.class? name = some c := by
  unfold requireClass at h
  rw [Action.run_get_bind] at h
  cases hc : v.shared.class? name with
  | none =>
    rw [hc] at h
    cases h
  | some c' =>
    rw [hc] at h
    cases h
    rfl

theorem Sound.undergone_newInstance (h : v.Sound) (className : String) (types : List String)
    (args : List Value) :
    Undergone v (.newInstance className types args) ((newInstance className types args).run v).2 := by
  unfold newInstance
  rcases reads_requireLaunched.cases _ v with ⟨e, -, eq⟩ | ⟨_, -, eq⟩
  · rw [eq]
    exact .touched .refl
  rw [eq]
  rcases (reads_requireClass className).cases _ v with ⟨e, -, eq⟩ | ⟨c, ok, eq⟩
  · rw [eq]
    exact .touched .refl
  rw [eq]
  cases found : c.findConstructor? (.types types) types.isEmpty with
  | none => exact .touched .refl
  | some constructor =>
    refine h.undergone_submitToMain ?_
    simp only [Deed.task?, class?_of_ok ok, Option.bind_eq_bind, Option.bind_some, found]
    rfl

theorem Sound.undergone_invokeStatic (h : v.Sound) (className method : String) (types : List String)
    (args : List Value) : Undergone v (.invokeStatic className method types args)
      ((invokeStatic className method types args).run v).2 := by
  unfold invokeStatic
  rcases reads_requireLaunched.cases _ v with ⟨e, -, eq⟩ | ⟨_, -, eq⟩
  · rw [eq]
    exact .touched .refl
  rw [eq]
  rcases (reads_requireClass className).cases _ v with ⟨e, -, eq⟩ | ⟨c, ok, eq⟩
  · rw [eq]
    exact .touched .refl
  rw [eq]
  cases found : c.findMethod? method .static (.types types) with
  | none => exact .touched .refl
  | some m =>
    refine h.undergone_submitToMain ?_
    simp only [Deed.task?, class?_of_ok ok, Option.bind_eq_bind, Option.bind_some, found]
    rfl

theorem Sound.undergone_invokeMethod (h : v.Sound) (receiver : ObjectRef) (method : String)
    (types : List String) (args : List Value) : Undergone v (.invokeMethod receiver method types args)
      ((invokeMethod receiver method types args).run v).2 := by
  unfold invokeMethod
  rcases reads_requireLaunched.cases _ v with ⟨e, -, eq⟩ | ⟨_, -, eq⟩
  · rw [eq]
    exact .touched .refl
  rw [eq]
  rcases (reads_requireObject receiver.id).cases _ v with ⟨e, -, eq⟩ | ⟨o, ok, eq⟩
  · rw [eq]
    exact .touched .refl
  rw [eq]
  cases found : o.classDef.findMethod? method .virtual (.types types) with
  | none => exact .touched .refl
  | some m =>
    refine h.undergone_submitToMain ?_
    simp only [Deed.task?, object?_of_ok ok, Option.bind_eq_bind, Option.bind_some, found]
    rfl

/-- **A deed submits its task, or it gives no thread any.** -/
theorem Sound.undergone (h : v.Sound) (d : Deed) : Undergone v d (d.run v) := by
  cases d with
  | define c => exact .touched (.single (.aside rfl rfl rfl))
  | launch => exact .touched h.touches_launch
  | shutdown => exact .touched h.touches_shutdown
  | spawn name =>
    show Undergone v _ ((spawnThread name).run v).2
    unfold spawnThread
    rcases reads_requireLaunched.cases _ v with ⟨e, -, eq⟩ | ⟨_, -, eq⟩
    · rw [eq]
      exact .touched .refl
    · rw [eq]
      exact .touched (.single (h.touch_start name mainGroup))
  | newString text => exact .touched (spares_newString text v).touches
  | boxValue p => exact .touched (spares_boxValue p v).touches
  | newInstance className types args => exact h.undergone_newInstance className types args
  | invokeStatic className method types args =>
    exact h.undergone_invokeStatic className method types args
  | invokeMethod receiver method types args =>
    exact h.undergone_invokeMethod receiver method types args
  | submit thread task => exact h.undergone_submit rfl thread
  | installTransport id => exact .touched (spares_installTransport id v).touches
  | takeTransport => exact .touched (spares_takeTransport v).touches
  | release handle => exact .touched (spares_release handle v).touches
  | resume thread kind => exact .touched (h.touches_resume thread kind)
  | halt thread => exact .touched (h.touches_halt thread)
  | terminate thread => exact .touched (h.touches_terminate thread)
  | unpark thread => exact .touched (h.touches_unpark thread)
  | setBreakpoint r => exact .touched (spares_setBreakpoint r v).touches
  | clearBreakpoint l => exact .touched (.single (.aside rfl rfl rfl))
  | setBreakOnUncaught enabled => exact .touched (.single (.aside rfl rfl rfl))
  | step thread => exact .touched (h.touches_step thread)

end Vm

/-! ## 4. Making a call -/

/-- A task makes a call: the one it was given for, or one that its running body asks for. -/
inductive Activity.Calls (a : Activity) (s : Shared) :
    Invocation → (Except Thrown Value → Body) → Prop
  | byTask {i : Invocation} (given : a.position = .starting i) : Calls a s i .done
  | byBody {c : Call} {i : Invocation} {next : Except Thrown Value → Body}
      (asked : a.position = .running (.call c next)) (resolved : s.resolve c = .ok i) : Calls a s i next

/-- Whether a body is about to be entered: its call is still to be made, or its frame has just been
pushed. -/
def Position.isEntrance : Position → Bool
  | starting _ | entering _ => true
  | _ => false

namespace Thread

variable {t t' : Thread} {a : Activity} {s s' : Shared} {call : CallId} {task : Task}

/-- The thread is not about to enter a body. -/
def PastEntrance (t : Thread) : Prop :=
  ∀ a, t.worker = .busy a → a.position.isEntrance = false

theorem goTo_past {p : Position} (past : p.isEntrance = false) : (t.goTo a p).PastEntrance := by
  intro b busy
  cases busy
  exact past

theorem reachLine_past (n : Line) (next : Except Thrown Unit → Body) :
    (t.reachLine a n next s).1.PastEntrance := by
  unfold reachLine
  split
  · exact goTo_past rfl
  · cases t.frames with
    | nil => exact goTo_past rfl
    | cons f fs =>
      dsimp only
      split
      · intro b busy
        cases busy
        rfl
      · exact goTo_past rfl

theorem enter_past (body : Body) : (t.enter a body s).1.PastEntrance := by
  unfold enter
  split
  · exact goTo_past rfl
  · cases t.frames with
    | nil => exact goTo_past rfl
    | cons f fs =>
      dsimp only
      split
      · intro b busy
        cases busy
        rfl
      · exact goTo_past rfl

theorem conclude_past (result : Except Thrown Value) : (t.conclude a result s).1.PastEntrance := by
  intro b busy
  cases result with
  | ok v => cases busy
  | error thrown =>
    cases thrown with
    | threadDeath => cases busy
    | exception typeName message frames =>
      simp only [conclude] at busy
      split at busy
      · split at busy
        · cases busy
        · cases busy
          rfl
      · cases busy

/-- Running a body makes a call, or it leads past every entrance. -/
theorem run_calls (body : Body) (here : a.position = .running body) :
    (∃ i next, a.Calls s i next ∧ t.run a body s = t.invoke a i next s) ∨
      (t.run a body s).1.PastEntrance := by
  cases body with
  | done result =>
    right
    simp only [run]
    cases a.callers with
    | nil => exact conclude_past result
    | cons next callers => exact goTo_past rfl
  | line n next => exact .inr (reachLine_past n next)
  | call c next =>
    simp only [run]
    cases resolved : s.resolve c with
    | ok i => exact .inl ⟨i, next, .byBody here resolved, rfl⟩
    | error e => exact .inr (goTo_past rfl)
  | panic | ask | park | note => exact .inr (goTo_past rfl)

/-- **What a thread does about its task:** it makes a call, or it leads past every entrance. -/
theorem proceed_calls (h : t.proceed a s = some (t', s')) :
    (∃ i next, a.Calls s i next ∧ t.invoke a i next s = (t', s')) ∨ t'.PastEntrance := by
  have past {r : Thread × Shared} (made : some r = some (t', s')) (past : r.1.PastEntrance) :
      t'.PastEntrance := by
    cases made
    exact past
  unfold proceed at h
  cases here : a.position with
  | starting i =>
    rw [here] at h
    exact .inl ⟨i, _, .byTask here, Option.some.inj h⟩
  | running body =>
    rw [here] at h
    rcases run_calls (t := t) (s := s) body here with ⟨i, next, calls, made⟩ | led
    · exact .inl ⟨i, next, calls, made.symm.trans (Option.some.inj h)⟩
    · exact .inr (past h led)
  | entering body =>
    rw [here] at h
    exact .inr (past h (enter_past body))
  | atLine | atEntry =>
    rw [here] at h
    dsimp only at h
    split at h <;> cases h <;> exact .inr (goTo_past rfl)
  | atException =>
    rw [here] at h
    dsimp only at h
    split at h <;> cases h <;> exact .inr (fun b busy => nomatch busy)
  | parked =>
    rw [here] at h
    cases h

/-- A call is not the call of the task any more when it has been made. -/
theorem invoke_begun (i : Invocation) (next : Except Thrown Value → Body) {j : Invocation}
    {b : Activity} (busy : (t.invoke a i next s).1.worker = .busy b) : b.position ≠ .starting j := by
  cases i with
  | method c m receiver args =>
    cases busy
    exact nofun
  | construct c constructor args =>
    cases constructor with
    | none =>
      cases busy
      exact nofun
    | some m =>
      cases busy
      exact nofun

/-! ## 5. Tasks that were not begun -/

/-- A thread has a task that it has not begun, or of which it has yet to make the call. -/
inductive HasTask (t : Thread) (call : CallId) : Task → Prop
  | queued {task : Task} (waits : .run call task ∈ t.inbox) : HasTask t call task
  | held {task : Task} (held : t.worker = .holding call task) : HasTask t call task
  | starting {i : Invocation} {callers : List (Except Thrown Value → Body)}
      (busy : t.worker = .busy ⟨call, .starting i, callers⟩) : HasTask t call (.invoke i)

theorem HasTask.of_same (h : t'.HasTask call task) (inbox : t'.inbox = t.inbox)
    (worker : t'.worker = t.worker) : t.HasTask call task := by
  cases h with
  | queued waits => exact .queued (inbox ▸ waits)
  | held held => exact .held (worker ▸ held)
  | starting busy => exact .starting (worker ▸ busy)

/-- A thread that is at no task it would have to begin has only those of its inbox. -/
theorem HasTask.of_queued (h : t'.HasTask call task) (inbox : ∀ m ∈ t'.inbox, m ∈ t.inbox)
    (free : t'.worker.held = []) (begun : ∀ i callers, t'.worker ≠ .busy ⟨call, .starting i, callers⟩) :
    t.HasTask call task := by
  cases h with
  | queued waits => exact .queued (inbox _ waits)
  | held held =>
    rw [held] at free
    cases free
  | starting busy => exact absurd busy (begun _ _)

theorem begin_hasTask {held : CallId} {taken : Task} (holds : t.worker = .holding held taken)
    (h : (t.begin held taken s).1.HasTask call task) : t.HasTask call task := by
  unfold «begin» at h
  split at h
  · exact h.of_queued (fun _ waits => waits) rfl nofun
  · cases taken with
    | body b =>
      exact h.of_queued (fun _ waits => waits) rfl nofun
    | invoke i =>
      cases h with
      | queued waits => exact .queued waits
      | held held => cases held
      | starting busy =>
        cases busy
        exact .held holds

theorem step_hasTask (step : t.step s = some (t', s')) (h : t'.HasTask call task) :
    t.HasTask call task := by
  unfold Thread.step at step
  cases hw : t.worker with
  | waiting =>
    rw [hw] at step
    cases hi : t.inbox with
    | nil =>
      rw [hi] at step
      cases step
    | cons m rest =>
      rw [hi] at step
      cases m with
      | run first taken =>
        cases step
        cases h with
        | queued waits => exact .queued (hi ▸ List.mem_cons_of_mem _ waits)
        | held held =>
          cases held
          exact .queued (hi ▸ List.mem_cons_self)
        | starting busy => cases busy
      | shutdown =>
        cases step
        exact h.of_queued (fun _ waits => hi ▸ List.mem_cons_of_mem _ waits) rfl nofun
  | holding held taken =>
    rw [hw] at step
    have begun := Option.some.inj step
    exact begin_hasTask hw (s := s) (begun ▸ h)
  | busy a =>
    rw [hw] at step
    have kept := (proceed_progress step).keepsCalls hw
    refine h.of_queued (fun _ waits => kept.inbox ▸ waits) ?_ ?_
    · rw [kept.held, hw]
      rfl
    · intro i callers busy
      rcases proceed_calls step with ⟨j, next, -, made⟩ | past
      · obtain rfl : (t.invoke a j next s).1 = t' := congrArg Prod.fst made
        exact invoke_begun j next busy rfl
      · cases past _ busy
  | ended =>
    rw [hw] at step
    cases step
    exact h.of_queued (fun _ waits => waits) rfl nofun
  | telling =>
    rw [hw] at step
    cases step
    exact h.of_queued (fun _ waits => waits) rfl nofun
  | exited =>
    rw [hw] at step
    cases step

/-- **Whatever happens to a thread, it comes by no task that it was not given.** -/
theorem Fares.hasTask (f : t.Fares s t' s') (h : t'.HasTask call task) : t.HasTask call task := by
  cases f with
  | steps step => exact step_hasTask step h
  | steered id inbox worker => exact h.of_same inbox worker
  | unparks granted =>
    obtain ⟨a, next, -, -, rfl⟩ := unpark?_some granted
    exact h.of_queued (fun _ waits => waits) rfl nofun
  | dies id inbox worker =>
    rcases t.terminate_cases s with same | died
    · exact h.of_same (by rw [inbox, same]) worker
    · cases h with
      | queued waits =>
        rw [inbox, died] at waits
        cases List.mem_singleton.mp waits
      | held held => exact .held (worker ▸ held)
      | starting busy => exact .starting (worker ▸ busy)

/-- A thread has the tasks it had and the one it is given. -/
theorem submit_hasTask {given : CallId} {new : Task}
    (h : (t.submit given new s).1.HasTask call task) :
    t.HasTask call task ∨ call = given ∧ task = new := by
  rcases t.submit_cases given new s with same | queued
  · rw [same] at h
    exact .inl h
  · rw [queued] at h
    cases h with
    | queued waits =>
      rcases List.mem_append.mp waits with old | added
      · exact .inl (.queued old)
      · cases List.mem_singleton.mp added
        exact .inr ⟨rfl, rfl⟩
    | held held => exact .inl (.held held)
    | starting busy => exact .inl (.starting busy)

end Thread

namespace Vm

variable {v w : Vm} {P : CallId → Task → Prop}

/-- Each task that a thread has is of a kind. -/
def EachTask (P : CallId → Task → Prop) (v : Vm) : Prop :=
  ∀ (id : ThreadId) (t : Thread), v.threads[id]? = some t → ∀ call task, t.HasTask call task →
    P call task

theorem EachTask.insert (h : v.EachTask P) {id : ThreadId} {t : Thread}
    (threads : w.threads = v.threads.insert id t)
    (own : ∀ call task, t.HasTask call task → P call task) : w.EachTask P := by
  intro i u there
  rw [threads, TreeMap.getElem?_insert] at there
  split at there
  · cases there
    exact own
  · exact h i u there

theorem Touch.eachTask (m : Touch v w) (h : v.EachTask P) : w.EachTask P := by
  cases m with
  | aside threads =>
    intro id t there
    rw [threads] at there
    exact h id t there
  | starts name group _ threads =>
    refine h.insert threads fun call task has => ?_
    cases has with
    | queued waits => cases waits
    | held held => cases held
    | starting busy => cases busy
  | fares there fares threads =>
    exact h.insert threads fun call task has => h _ _ there call task (fares.hasTask has)

theorem Undergone.eachTask {d : Deed} (u : Undergone v d w) (h : v.EachTask P)
    (new : ∀ task, d.task? v = some task → w.lastCall = v.lastCall + 1 → P (v.lastCall + 1) task) :
    w.EachTask P := by
  cases u with
  | touched touches =>
    clear new
    induction touches with
    | refl => exact h
    | tail _ touch ih => exact touch.eachTask ih
  | submitted named there =>
    refine h.insert (v.submitted_threads _ _) fun call task has => ?_
    rcases Thread.submit_hasTask has with old | ⟨rfl, rfl⟩
    · exact h _ _ there call task old
    · exact new _ named rfl

theorem Touch.lastCall (m : Touch v w) : w.lastCall = v.lastCall := by
  cases m with
  | aside _ _ counted | starts _ _ _ _ _ counted | fares _ _ _ _ counted => exact counted

theorem Undergone.lastCall_le {d : Deed} (u : Undergone v d w) : v.lastCall ≤ w.lastCall := by
  cases u with
  | touched touches =>
    induction touches with
    | refl => exact Nat.le_refl _
    | tail _ touch ih => exact Nat.le_trans ih (Nat.le_of_eq touch.lastCall.symm)
  | submitted => exact Nat.le_succ _

/-- The number that was given to a call last never goes back. -/
theorem Sound.lastCall_le (h : v.Sound) (ds : List Deed) : v.lastCall ≤ (v.after ds).lastCall := by
  induction ds generalizing v with
  | nil => exact Nat.le_refl _
  | cons d rest ih => exact Nat.le_trans (h.undergone d).lastCall_le (ih (h.after [d]).sound)

/-- A deed of a history gave a thread this task, under the number that was next then. -/
def Submitted (ds : List Deed) (call : CallId) (task : Task) : Prop :=
  ∃ before d later, ds = before ++ d :: later ∧ d.task? (fresh.after before) = some task ∧
    call = (fresh.after before).lastCall + 1 ∧ (fresh.after (before ++ [d])).lastCall = call

/-- **Each task that a thread has was submitted to it.** -/
theorem tasks_after (ds : List Deed) : (fresh.after ds).EachTask (Submitted ds) := by
  induction ds using List.reverseRecOn with
  | nil =>
    intro id t there
    have none : fresh.threads[id]? = none := TreeMap.getElem?_emptyc
    rw [show fresh.after [] = fresh from rfl, none] at there
    cases there
  | append_singleton ds d ih =>
    rw [after_append]
    refine ((sound_fresh.after ds).sound.undergone d).eachTask ?_ ?_
    · intro id t there call task has
      obtain ⟨before, e, later, rfl, named, number⟩ := ih id t there call task has
      exact ⟨before, e, later ++ [d], by simp, named, number⟩
    · intro task named counted
      exact ⟨ds, d, [], rfl, named, rfl, by rw [after_append]; exact counted⟩

end Vm

end Debugger
