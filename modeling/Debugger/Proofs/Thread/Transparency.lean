import Debugger.Proofs.Thread.Step
/-!
# Debugging is transparent

Breakpoints, halts, steps and stops at exceptions change when a task gets on, and nothing about what
it does. A debugged thread is compared with the same thread left to itself: no breakpoint, nobody who
asks anything of it.

The comparison is an erasure. `Scene.plain` takes out of a scene everything that only debugging puts
there, and reads a stopped thread as one that has gone on already. Then

* `Scene.Works.plain` - what a debugged thread does is one move of the plain thread, or nothing that
  the plain thread sees;
* `Scene.Asks.plain` - what a controller asks is nothing that the plain thread sees;
* `Scene.Debugged.simulated` - so a debugged run is a run of the plain thread with pauses in it, and
  there are at most two pauses to each move;
* `Scene.debugging_is_transparent` - so both come to the same end, and the debugged thread gets there
  if the plain one does.

The erasure forgets the events, because a stop is an event and so is an exception that nobody stopped
for. Everything else that the threads have in common is compared as it is.

## 1. The plain thread

## 2. The machine on a plain thread

## 3. A step of a plain thread

## 4. Scenes

## 5. Simulation

## 6. Transparency
-/

namespace Debugger

/-! ## 1. The plain thread -/

/-- A stop is over as soon as it begins. -/
def ThreadStatus.plain : ThreadStatus → ThreadStatus
  | suspended _ => running
  | status => status

/-- What a thread is at once it has gone on from where it stopped. -/
def Worker.plain : Worker → Worker
  | busy a =>
    match a.position with
    | .atLine next => busy { a with position := .running (next (.ok ())) }
    | .atEntry body => busy { a with position := .running body }
    | .atException d => ended a.call (.exception d)
    | _ => busy a
  | w => w

/-- The stack without the frames that an exception is shown on. -/
def Worker.plainFrames (frames : List Frame) : Worker → List Frame
  | busy a => if a.position.isException then [] else frames
  | _ => frames

theorem Worker.plain_eq {w : Worker} (h : w.isStopped = false) : w.plain = w := by
  cases w with
  | busy a =>
    obtain ⟨call, p, callers⟩ := a
    cases p with
    | atLine | atEntry | atException => cases h
    | starting | running | entering | parked => rfl
  | waiting | holding | ended | telling | exited => rfl

theorem Worker.plainFrames_eq {w : Worker} (frames : List Frame) (h : w.isStopped = false) :
    w.plainFrames frames = frames := by
  cases w with
  | busy a =>
    obtain ⟨call, p, callers⟩ := a
    cases p with
    | atException => cases h
    | starting | running | entering | atLine | atEntry | parked => rfl
  | waiting | holding | ended | telling | exited => rfl

namespace Shared

/-- Nothing to stop at, and other events. -/
def plain (s : Shared) (events : Array VmEvent) : Shared :=
  { s with breakpoints := ∅, breakOnUncaught := false, events }

end Shared

namespace Thread

/-- The thread without anything that was asked of it. -/
def calm (t : Thread) : Thread :=
  { t with status := t.status.plain, pendingStep := none, haltRequested := false, inbox := [] }

/-- The thread as it is when nobody debugs it. -/
def plain (t : Thread) : Thread :=
  { t.calm with frames := t.worker.plainFrames t.frames, worker := t.worker.plain }

variable {t t' : Thread} {a : Activity} {s s' : Shared} {events : Array VmEvent}

theorem plain_eq_calm (h : t.worker.isStopped = false) : t.plain = t.calm := by
  unfold plain
  rw [Worker.plain_eq h, Worker.plainFrames_eq _ h]
  rfl

theorem ne_terminated (hr : t.status.plain = .running) : t.status ≠ .terminated := by
  intro ht
  rw [ht] at hr
  cases hr

theorem calm_alive (h : t.status ≠ .terminated) : t.calm.status ≠ .terminated := by
  show t.status.plain ≠ .terminated
  intro ht
  cases hs : t.status with
  | terminated => exact h hs
  | idle | running | suspended =>
    rw [hs] at ht
    cases ht

/-- Stopping is nothing that the plain thread sees. -/
theorem suspend_plain (hr : t.status.plain = .running) (reason : StopReason)
    (exception : Option ExceptionDescription) :
    ((t.suspend reason exception s).1.plain, (t.suspend reason exception s).2.plain events) =
      (t.plain, s.plain events) := by
  have h : { t.plain with status := .running } = t.plain := by
    rw [← hr]
    rfl
  rw [← h]
  rfl

/-! ## 2. The machine on a plain thread -/

theorem pass_empty (location : BreakpointLocation) :
    BreakpointTable.pass ∅ location = (false, ∅) := by
  unfold BreakpointTable.pass
  rw [Std.TreeMap.getElem?_emptyc]

theorem stopReason?_quiet (hh : t.haltRequested = false) (hp : t.pendingStep = none) :
    t.stopReason? false = none := by
  unfold stopReason?
  rw [hh, hp]
  rfl

theorem answer_plain (q : Query) :
    t.calm.answer (s.plain events) q =
      ((t.answer s q).1, (t.answer s q).2.1.calm, (t.answer s q).2.2.plain events) := by
  cases q with
  | setLocal name value =>
    simp only [answer]
    have same : t.calm.frames = t.frames := rfl
    rw [same]
    cases t.frames <;> rfl
  | setField object name value =>
    simp only [answer]
    have same : (s.plain events).heap = s.heap := rfl
    rw [same]
    cases s.heap.setField? object name value <;> rfl
  | setStaticField className field value =>
    simp only [answer]
    have same : (s.plain events).heap = s.heap := rfl
    rw [same]
    cases s.heap.setStatic? className field value <;> rfl
  | receiver | depth | frames | readLocal | field | staticField | newString | stringOf => rfl

theorem resolve_plain (c : Call) : (s.plain events).resolve c = s.resolve c := by
  cases c <;> rfl

theorem box_plain (p : Primitive) :
    (s.plain events).box p = ((s.box p).1, (s.box p).2.plain events) := by
  unfold Shared.box
  have same : (s.plain events).class? p.kind.holderClass = s.class? p.kind.holderClass := rfl
  rw [same]
  cases s.class? p.kind.holderClass with
  | none => rfl
  | some c =>
    dsimp only
    have same : (s.plain events).heap = s.heap := rfl
    rw [same]
    cases (s.heap.allocate c).2.setField? (s.heap.allocate c).1.id "value" (.primitive p) <;> rfl

theorem adapt_plain (v : Value) :
    adapt v (s.plain events) = ((adapt v s).1, (adapt v s).2.plain events) := by
  cases v with
  | null | void | object => rfl
  | primitive p =>
    simp only [adapt, box_plain]
    rcases s.box p with ⟨holder | o, s'⟩ <;> rfl

theorem invoke_plain (i : Invocation) (next : Except Thrown Value → Body) :
    t.calm.invoke a i next (s.plain events) =
      ((t.invoke a i next s).1.plain, (t.invoke a i next s).2.plain events) := by
  cases i with
  | method c m receiver args => rfl
  | construct c constructor args => cases constructor <;> rfl

/-- A line is passed where the debugged thread passes it or stops at it. -/
theorem reachLine_plain (hr : t.status.plain = .running) (n : Line)
    (next : Except Thrown Unit → Body) :
    t.calm.reachLine a n next (s.plain events) =
      ((t.reachLine a n next s).1.plain, (t.reachLine a n next s).2.plain events) := by
  unfold reachLine
  rw [if_neg (ne_terminated hr), if_neg (calm_alive (ne_terminated hr))]
  have same : t.calm.frames = t.frames := rfl
  rw [same]
  cases t.frames with
  | nil => rfl
  | cons f fs =>
    have clear : (s.plain events).breakpoints = ∅ := rfl
    dsimp only
    rw [clear, pass_empty]
    rcases s.breakpoints.pass (.line f.className n) with ⟨hit, breakpoints⟩
    dsimp only
    rw [stopReason?_quiet]
    · dsimp only
      split
      · rw [suspend_plain]
        · rfl
        · exact hr
      · rfl
    · rfl
    · rfl

theorem enter_plain (hr : t.status.plain = .running) (body : Body) :
    t.calm.enter a body (s.plain events) =
      ((t.enter a body s).1.plain, (t.enter a body s).2.plain events) := by
  unfold enter
  rw [if_neg (ne_terminated hr), if_neg (calm_alive (ne_terminated hr))]
  have same : t.calm.frames = t.frames := rfl
  rw [same]
  cases t.frames with
  | nil => rfl
  | cons f fs =>
    have clear : (s.plain events).breakpoints = ∅ := rfl
    dsimp only
    rw [clear, pass_empty]
    rcases s.breakpoints.pass (.method f.className f.methodName) with ⟨hit, breakpoints⟩
    cases hit with
    | false => rfl
    | true =>
      dsimp only
      rw [if_neg Bool.false_ne_true, if_pos rfl, suspend_plain]
      · rfl
      · exact hr

/-- A task ends where the debugged thread ends it or shows the exception that ends it. -/
theorem conclude_plain (hr : t.status.plain = .running) (empty : t.frames = [])
    (result : Except Thrown Value) (events : Array VmEvent) :
    ∃ events', t.calm.conclude a result (s.plain events) =
      ((t.conclude a result s).1.plain, (t.conclude a result s).2.plain events') := by
  cases result with
  | ok v =>
    refine ⟨events, ?_⟩
    simp only [conclude, adapt_plain]
    rfl
  | error thrown =>
    cases thrown with
    | threadDeath => exact ⟨events, rfl⟩
    | exception typeName message frames =>
      refine ⟨(s.plain events).events.push (.uncaughtException t.id
        (Thrown.exception typeName message frames).describe), ?_⟩
      simp only [conclude]
      have quiet : (s.plain events).breakOnUncaught = false := rfl
      rw [quiet, if_neg Bool.false_ne_true, if_neg (ne_terminated hr)]
      split
      · rw [suspend_plain]
        · -- The frames of the throw are shown on a stack that was empty.
          have bare : { t.calm with frames := [] } = t.calm := by
            rw [← empty]
            rfl
          rw [← bare]
          rfl
        · exact hr
      · rfl

theorem run_plain (hr : t.status.plain = .running) (empty : a.callers = [] → t.frames = [])
    (body : Body) (events : Array VmEvent) :
    ∃ events', t.calm.run a body (s.plain events) =
      ((t.run a body s).1.plain, (t.run a body s).2.plain events') := by
  cases body with
  | done result =>
    cases hc : a.callers with
    | nil =>
      obtain ⟨events', h⟩ := @conclude_plain t a s hr (empty hc) result events
      refine ⟨events', ?_⟩
      simp only [run, hc]
      exact h
    | cons next callers =>
      refine ⟨events, ?_⟩
      simp only [run, hc]
      rfl
  | panic message => exact ⟨events, rfl⟩
  | ask q next =>
    refine ⟨events, ?_⟩
    simp only [run]
    rw [answer_plain]
    rfl
  | line n next => exact ⟨events, reachLine_plain hr n next⟩
  | call c next =>
    refine ⟨events, ?_⟩
    simp only [run, resolve_plain]
    cases s.resolve c with
    | ok i => exact invoke_plain i next
    | error e => rfl
  | park next => exact ⟨events, rfl⟩
  | note n next => exact ⟨events, rfl⟩

/-! ## 3. A step of a plain thread -/

/-- A thread that is on its way to tell how a task ended, and can be debugged. -/
structure Sound (t : Thread) : Prop where
  alive : t.status ≠ .terminated
  balanced : t.Balanced
  running : ∀ a, t.worker = .busy a → t.status.plain = .running
  here : t.worker ≠ .exited

/-- How often the thread must still be moved before it has gone on from where it stopped. -/
def debt (t : Thread) : Nat := t.status.isSuspended.toNat + t.worker.isStopped.toNat

theorem debt_le (t : Thread) : t.debt ≤ 2 := by
  have := Bool.toNat_le t.status.isSuspended
  have := Bool.toNat_le t.worker.isStopped
  unfold debt
  omega

theorem debt_lt (status : t'.status = t.status) (stopped : t.worker.isStopped = true)
    (going : t'.worker.isStopped = false) : t'.debt < t.debt := by
  unfold debt
  rw [status, stopped, going]
  exact Nat.lt_succ_self _

theorem Progress.sound (p : Progress t a s t' s') (hw : t.worker = .busy a) (h : t.Sound) :
    t'.Sound := by
  have balanced := p.balanced hw h.balanced
  have kept := p.keepsCalls hw
  refine ⟨fun ht => h.alive (kept.dead.mp ht), balanced, ?_, fun hx => h.here (kept.here.mp hx)⟩
  intro b hb
  cases p with
  | within | calls | returns => exact h.running a hw
  | stops | shows => rfl
  | ends => cases hb

theorem Stepped.sound (p : Stepped t s t' s') (h : t.Sound) (unfinished : t.worker ≠ .waiting) :
    t'.Sound := by
  have balanced := p.balanced h.balanced
  cases p with
  | takes free | exits free => exact absurd free unfinished
  | refuses held dead => exact absurd dead h.alive
  | begins => exact ⟨nofun, balanced, fun _ _ => rfl, nofun⟩
  | proceeds busy progress => exact progress.sound busy h
  | finishes ended =>
    have kept := finish_keepsCalls ended
    exact ⟨fun ht => h.alive (kept.dead.mp ht), balanced, nofun, nofun⟩
  | tells => exact ⟨h.alive, balanced, nofun, nofun⟩

/-- A move that the plain thread does not see. There are only so many of them in a row, because each
takes a thread further from where it stopped. -/
structure Unseen (t : Thread) (s : Shared) (t' : Thread) (s' : Shared) : Prop where
  thread : t'.plain = t.plain
  shared : ∀ events, s'.plain events = s.plain events
  debt : t'.debt < t.debt

/-- Either the plain thread makes the same step, or it has made it before. -/
def Followed (t : Thread) (s : Shared) (t' : Thread) (s' : Shared) : Prop :=
  Unseen t s t' s' ∨
    ∀ events, ∃ events', t.plain.step (s.plain events) = some (t'.plain, s'.plain events')

/-- Going on from where a task stopped is a step that the plain thread has made before. -/
theorem unseen_of_stopped (hw : t.worker = .busy a) (stopped : a.position.isStop = true)
    (alive : t.status ≠ .terminated) (h : t.proceed a s = some (t', s')) : Unseen t s t' s' := by
  have here : t.worker.isStopped = true := by
    rw [hw]
    exact stopped
  obtain ⟨call, p, callers⟩ := a
  cases p with
  | starting | running | entering | parked => cases stopped
  | atLine | atEntry | atException =>
    simp only [proceed] at h
    split at h
    · cases h
    · next ht => exact absurd ht alive
    · cases h
      refine ⟨?_, fun _ => rfl, debt_lt rfl here rfl⟩
      unfold plain
      rw [hw]
      rfl

theorem results_of_some {r : Thread × Shared} (h : some r = some (t', s')) : r.1 = t' ∧ r.2 = s' := by
  cases h
  exact ⟨rfl, rfl⟩

/-- Elsewhere the plain thread makes the same step. -/
theorem proceed_plain (hw : t.worker = .busy a) (going : a.position.isStop = false) (sound : t.Sound)
    (h : t.proceed a s = some (t', s')) (events : Array VmEvent) :
    ∃ events', t.calm.proceed a (s.plain events) = some (t'.plain, s'.plain events') := by
  have hr := sound.running a hw
  have empty : a.position.isException = false → a.callers = [] → t.frames = [] := by
    intro inside hc
    have := sound.balanced sound.alive a hw inside
    rw [hc] at this
    exact List.eq_nil_of_length_eq_zero this
  obtain ⟨call, p, callers⟩ := a
  cases p with
  | starting i =>
    obtain ⟨rfl, rfl⟩ := results_of_some h
    exact ⟨events, congrArg some (invoke_plain i .done)⟩
  | running body =>
    obtain ⟨rfl, rfl⟩ := results_of_some h
    obtain ⟨events', h'⟩ := run_plain hr (empty rfl) body events
    exact ⟨events', congrArg some h'⟩
  | entering body =>
    obtain ⟨rfl, rfl⟩ := results_of_some h
    exact ⟨events, congrArg some (enter_plain hr body)⟩
  | parked next => cases h
  | atLine | atEntry | atException => cases going

/-- **What a debugged thread does, the plain thread does or has done.** -/
theorem step_followed (sound : t.Sound) (unfinished : t.worker ≠ .waiting)
    (h : t.step s = some (t', s')) : Followed t s t' s' := by
  cases hw : t.worker with
  | waiting => exact absurd hw unfinished
  | exited => exact absurd hw sound.here
  | holding call task =>
    refine .inr fun events => ⟨events, ?_⟩
    have calm : t.plain = t.calm := plain_eq_calm (by rw [hw]; rfl)
    have held : t.calm.worker = .holding call task := hw
    simp only [step, hw, «begin», if_neg sound.alive] at h
    simp only [step, calm, held, «begin», if_neg (calm_alive sound.alive)]
    cases h
    cases task <;> rfl
  | busy a =>
    have h' : t.proceed a s = some (t', s') := by
      simpa only [step, hw] using h
    by_cases stopped : a.position.isStop = true
    · exact .inl (unseen_of_stopped hw stopped sound.alive h')
    · have going := Bool.of_not_eq_true stopped
      refine .inr ?_
      intro events
      have calm : t.plain = t.calm := plain_eq_calm (by rw [hw]; exact going)
      obtain ⟨events', h'⟩ := proceed_plain hw going sound h' events
      have busy : t.calm.worker = .busy a := hw
      refine ⟨events', ?_⟩
      simp only [step, calm, busy]
      exact h'
  | ended call outcome =>
    refine .inr fun events => ⟨events, ?_⟩
    have calm : t.plain = t.calm := plain_eq_calm (by rw [hw]; rfl)
    have ended : t.calm.worker = .ended call outcome := hw
    simp only [step, hw, finish, if_neg sound.alive] at h
    simp only [step, calm, ended, finish, if_neg (calm_alive sound.alive)]
    cases h
    rfl
  | telling call outcome =>
    refine .inr fun events => ⟨events, ?_⟩
    have calm : t.plain = t.calm := plain_eq_calm (by rw [hw]; rfl)
    have ended : t.calm.worker = .telling call outcome := hw
    simp only [step, hw] at h
    simp only [step, calm, ended]
    cases h
    rfl

end Thread

/-! ## 4. Scenes -/

/-- A thread and what it has in common with others. -/
structure Scene where
  thread : Thread
  shared : Shared

namespace Scene

variable {x y z : Scene} {n m k : Nat} {events : Array VmEvent}

/-- The scene without debugging. -/
def plain (x : Scene) (events : Array VmEvent) : Scene := ⟨x.thread.plain, x.shared.plain events⟩

/-- The next moment of a thread that is left to itself. Whoever opens the gate opens it. -/
def alone (x : Scene) : Scene :=
  match x.thread.step x.shared with
  | some (t, s) => ⟨t, s⟩
  | none =>
    match x.thread.unpark? with
    | some t => { x with thread := t }
    | none => x

def after (x : Scene) : Nat → Scene
  | 0 => x
  | n + 1 => (x.after n).alone

/-- What brings a debugged task forward. It is over when the thread waits again. -/
inductive Works : Scene → Scene → Prop
  | own {x : Scene} {t : Thread} {s : Shared} (unfinished : x.thread.worker ≠ .waiting)
      (step : x.thread.step x.shared = some (t, s)) : Works x ⟨t, s⟩
  /-- A stopped thread is told to continue, or to make a step of either kind. -/
  | resumes {x : Scene} {kind : Option StepKind} {t : Thread} {s : Shared}
      (granted : x.thread.resume kind x.shared = .ok (t, s)) : Works x ⟨t, s⟩
  | unparks {x : Scene} {t : Thread} (granted : x.thread.unpark? = some t) :
      Works x { x with thread := t }

/-- What is asked while a task is debugged. -/
inductive Asks : Scene → Scene → Prop
  | halts {x : Scene} {t : Thread} (granted : x.thread.halt = .ok t) : Asks x { x with thread := t }
  /-- Somebody queues another task. -/
  | submits {x : Scene} (call : CallId) (task : Task) :
      Asks x ⟨(x.thread.submit call task x.shared).1, (x.thread.submit call task x.shared).2⟩
  /-- Breakpoints with any hit counts are set and removed, and uncaught exceptions made to stop the
  thread or not. -/
  | arranges {x : Scene} (breakpoints : BreakpointTable) (breakOnUncaught : Bool) :
      Asks x { x with shared := { x.shared with breakpoints, breakOnUncaught } }

/-- A debugged run, with the number of moves that bring the task forward. -/
inductive Debugged : Nat → Scene → Scene → Prop
  | refl (x : Scene) : Debugged 0 x x
  | works {n : Nat} {x y z : Scene} : Debugged n x y → Works y z → Debugged (n + 1) x z
  | asks {n : Nat} {x y z : Scene} : Debugged n x y → Asks y z → Debugged n x z

theorem alone_of_step {t : Thread} {s : Shared} (h : x.thread.step x.shared = some (t, s)) :
    x.alone = ⟨t, s⟩ := by
  unfold alone
  rw [h]

theorem alone_of_unpark {t : Thread} (hs : x.thread.step x.shared = none)
    (hu : x.thread.unpark? = some t) : x.alone = { x with thread := t } := by
  unfold alone
  rw [hs, hu]

/-- A thread that has nothing to do stays as it is. -/
theorem alone_of_waiting (hw : x.thread.worker = .waiting) (hi : x.thread.inbox = []) :
    x.alone = x := by
  have hs : x.thread.step x.shared = none := by
    unfold Thread.step
    rw [hw, hi]
  have hu : x.thread.unpark? = none := by
    unfold Thread.unpark?
    rw [hw]
  unfold alone
  rw [hs, hu]

theorem after_of_fixed (fixed : (x.after m).alone = x.after m) (h : m ≤ k) :
    x.after k = x.after m := by
  induction h with
  | refl => rfl
  | step _ ih =>
    show (x.after _).alone = x.after m
    rw [ih, fixed]

/-! ## 5. Simulation -/

/-- What a controller asks does not bring the thread forward, and the plain thread does not see
it. -/
theorem Asks.plain (h : Asks x y) (sound : x.thread.Sound) :
    y.thread.Sound ∧ y.thread.debt = x.thread.debt ∧ ∀ events, y.plain events = x.plain events := by
  cases h with
  | halts granted =>
    obtain ⟨-, rfl | rfl⟩ := Thread.halt_ok granted
    · exact ⟨sound, rfl, fun _ => rfl⟩
    · exact ⟨⟨sound.alive, sound.balanced, sound.running, sound.here⟩, rfl, fun _ => rfl⟩
  | submits call task =>
    unfold Thread.submit
    rw [if_neg sound.alive]
    exact ⟨⟨sound.alive, sound.balanced, sound.running, sound.here⟩, rfl, fun _ => rfl⟩
  | arranges => exact ⟨sound, rfl, fun _ => rfl⟩

/-- What brings a debugged task forward is a move of the plain thread, or it takes the debugged one
further from where it stopped and the plain thread does not see it. -/
theorem Works.plain (h : Works x y) (sound : x.thread.Sound) :
    y.thread.Sound ∧
      ((y.thread.debt < x.thread.debt ∧ ∀ events, y.plain events = x.plain events) ∨
        (x.thread.worker ≠ .waiting ∧
          ∀ events, ∃ events', (x.plain events).alone = y.plain events')) := by
  cases h with
  | @own t s unfinished step =>
    refine ⟨(Thread.step_stepped step).sound sound unfinished, ?_⟩
    rcases Thread.step_followed sound unfinished step with unseen | followed
    · refine .inl ⟨unseen.debt, ?_⟩
      intro events
      show (⟨t.plain, s.plain events⟩ : Scene) = _
      rw [unseen.thread, unseen.shared]
      rfl
    · refine .inr ⟨unfinished, ?_⟩
      intro events
      obtain ⟨events', step'⟩ := followed events
      exact ⟨events', alone_of_step step'⟩
  | resumes granted =>
    have balanced := Thread.resume_balanced granted sound.balanced
    obtain ⟨reason, hs, rfl, rfl⟩ := Thread.resume_ok granted
    refine ⟨⟨nofun, balanced, fun _ _ => rfl, sound.here⟩,
      .inl ⟨?_, ?_⟩⟩
    · unfold Thread.debt
      rw [hs]
      show 0 + x.thread.worker.isStopped.toNat < 1 + x.thread.worker.isStopped.toNat
      omega
    · intro events
      unfold Scene.plain Thread.plain Thread.calm
      rw [hs]
      rfl
  | unparks granted =>
    have balanced := Thread.unpark?_balanced granted sound.balanced
    obtain ⟨a, next, hw, hp, rfl⟩ := Thread.unpark?_some granted
    have unfinished : x.thread.worker ≠ .waiting := by
      rw [hw]
      exact nofun
    have going : x.thread.worker.isStopped = false := by
      rw [hw]
      show a.position.isStop = false
      rw [hp]
      rfl
    refine ⟨⟨sound.alive, balanced, fun _ _ => sound.running a hw, nofun⟩, .inr ⟨unfinished,
      fun events => ⟨events, ?_⟩⟩⟩
    have calm : x.thread.plain = x.thread.calm := Thread.plain_eq_calm going
    have parked : x.thread.calm.worker = .busy a := hw
    have hs : (x.plain events).thread.step (x.plain events).shared = none := by
      simp only [Scene.plain, calm, Thread.step, parked, Thread.proceed, hp]
    have hu : (x.plain events).thread.unpark? =
        some { x.thread.calm with
          worker := .busy { a with position := .running (next ()) } } := by
      simp only [Scene.plain, calm, Thread.unpark?, parked, hp]
    rw [alone_of_unpark hs hu]
    rfl

theorem plain_eq_waiting {w : Worker} : w.plain = .waiting ↔ w = .waiting := by
  cases w with
  | busy a =>
    obtain ⟨call, p, callers⟩ := a
    cases p <;> exact ⟨nofun, nofun⟩
  | waiting => exact Iff.rfl
  | holding | ended | telling | exited => exact Iff.rfl

/-- **A debugged run is a run of the plain thread with pauses in it.** -/
theorem Debugged.simulated (d : Debugged n x y) (sound : x.thread.Sound)
    (events : Array VmEvent) :
    y.thread.Sound ∧ ∃ m events',
      (x.plain events).after m = y.plain events' ∧
      n + y.thread.debt ≤ 3 * m + x.thread.debt ∧
      ∀ j < m, ((x.plain events).after j).thread.worker ≠ .waiting := by
  -- `m` counts the moves of the plain thread. The debt pays for the moves that it does not see.
  induction d with
  | refl x =>
    refine ⟨sound, 0, events, rfl, ?_, fun j hj => absurd hj (Nat.not_lt_zero j)⟩
    omega
  | @asks n x y z _ h ih =>
    obtain ⟨sound', m, events', same, bound, before⟩ := ih sound
    obtain ⟨sound'', debt, unseen⟩ := h.plain sound'
    refine ⟨sound'', m, events', ?_, ?_, before⟩
    · rw [same, unseen]
    · rw [debt]
      exact bound
  | @works n x y z _ h ih =>
    obtain ⟨sound', m, events', same, bound, before⟩ := ih sound
    obtain ⟨sound'', ⟨debt, unseen⟩ | ⟨unfinished, moved⟩⟩ := h.plain sound'
    · refine ⟨sound'', m, events', ?_, ?_, before⟩
      · rw [same, unseen]
      · omega
    · obtain ⟨events'', moved⟩ := moved events'
      refine ⟨sound'', m + 1, events'', ?_, ?_, ?_⟩
      · show ((x.plain events).after m).alone = _
        rw [same, moved]
      -- A move of the plain thread may bring the debugged one to a stop, with two pauses to come.
      · have := z.thread.debt_le
        omega
      · intro j hj
        rcases Nat.lt_succ_iff_lt_or_eq.mp hj with hj | rfl
        · exact before j hj
        · rw [same]
          intro hw
          exact unfinished (plain_eq_waiting.mp hw)

theorem resume_of_suspended {t : Thread} {reason : StopReason} (h : t.status = .suspended reason)
    (kind : Option StepKind) (s : Shared) : ∃ t' s', t.resume kind s = .ok (t', s') := by
  unfold Thread.resume
  rw [h]
  exact ⟨_, _, rfl⟩

/-- A debugged task is never stuck: the thread can be moved until the caller has been told. -/
theorem works_of_sound (sound : x.thread.Sound) (unfinished : x.thread.worker ≠ .waiting) :
    ∃ y, Works x y := by
  have own : (x.thread.step x.shared).isSome = true → ∃ y, Works x y := by
    intro h
    obtain ⟨⟨t, s⟩, h⟩ := Option.isSome_iff_exists.mp h
    exact ⟨_, .own unfinished h⟩
  have resume : ∀ {reason}, x.thread.status = .suspended reason → ∃ y, Works x y := by
    intro reason h
    obtain ⟨t, s, h⟩ := resume_of_suspended h none x.shared
    exact ⟨_, .resumes h⟩
  cases hw : x.thread.worker with
  | waiting => exact absurd hw unfinished
  | exited => exact absurd hw sound.here
  | holding | ended | telling => exact own (by simp only [Thread.step, hw]; rfl)
  | busy a =>
    obtain ⟨call, p, callers⟩ := a
    cases p with
    | starting | running | entering => exact own (by simp only [Thread.step, hw]; rfl)
    -- Only somebody else can open the gate, or resume a stopped thread.
    | parked next =>
      have granted : ∃ t, x.thread.unpark? = some t := by
        unfold Thread.unpark?
        rw [hw]
        exact ⟨_, rfl⟩
      obtain ⟨t, granted⟩ := granted
      exact ⟨_, .unparks granted⟩
    | atLine | atEntry | atException =>
      cases hs : x.thread.status with
      | suspended reason => exact resume hs
      | terminated => exact absurd hs sound.alive
      | idle | running => exact own (by simp only [Thread.step, hw, Thread.proceed, hs]; rfl)

/-! ## 6. Transparency -/

/-- What a task is for: two scenes agree on classes, objects, static fields, the notes that bodies
wrote, and what callers were told. -/
structure SameEffects (x y : Scene) : Prop where
  classes : y.shared.classes = x.shared.classes
  heap : y.shared.heap = x.shared.heap
  journal : y.shared.journal = x.shared.journal
  completed : y.shared.completed = x.shared.completed

/-- **Debugging is transparent.** Let a thread begin a task, and compare all debugged runs from there
with the run of the plain thread.

* At every moment of a debugged run the effects so far are those of a moment of the plain run, and if
  the caller has been told there, it has been told here the same.
* If the plain run comes to its end, every debugged run does too, and with the same effects: only so
  many moves bring the task forward, and as long as the caller has not been told there is one. -/
theorem debugging_is_transparent {call : CallId} {task : Task}
    (held : x.thread.worker = .holding call task) (alive : x.thread.status ≠ .terminated)
    (events : Array VmEvent) :
    (∀ n y, Debugged n x y →
      ∃ m, SameEffects y ((x.plain events).after m) ∧
        (((x.plain events).after m).thread.worker = .waiting ↔ y.thread.worker = .waiting)) ∧
    ∀ k, ((x.plain events).after k).thread.worker = .waiting →
      ∀ n y, Debugged n x y →
        n ≤ 3 * (k + 1) ∧
        (y.thread.worker = .waiting → SameEffects y ((x.plain events).after k)) ∧
        (y.thread.worker ≠ .waiting → ∃ z, Works y z) := by
  have sound : x.thread.Sound := by
    refine ⟨alive, ?_, ?_, ?_⟩
    · intro _ a ha
      rw [held] at ha
      cases ha
    · intro a ha
      rw [held] at ha
      cases ha
    · intro hx
      rw [held] at hx
      cases hx
  constructor
  · intro n y d
    obtain ⟨-, m, events', same, -⟩ := d.simulated sound events
    refine ⟨m, ?_⟩
    rw [same]
    -- The erasure touches nothing that a task is for.
    exact ⟨⟨rfl, rfl, rfl, rfl⟩, plain_eq_waiting⟩
  · intro k ended n y d
    obtain ⟨sound', m, events', same, bound, before⟩ := d.simulated sound events
    have short : m ≤ k := Nat.le_of_not_lt fun hk => before k hk ended
    refine ⟨?_, ?_, works_of_sound sound'⟩
    · have := x.thread.debt_le
      omega
    · intro told
      have hw : ((x.plain events).after m).thread.worker = .waiting := by
        rw [same]
        exact plain_eq_waiting.mpr told
      have hi : ((x.plain events).after m).thread.inbox = [] := by
        rw [same]
        rfl
      -- The plain thread has come to its end after `m` moves already.
      rw [after_of_fixed (alone_of_waiting hw hi) short, same]
      exact ⟨rfl, rfl, rfl, rfl⟩

/-- A method with a line and a note after it. -/
def greet : Method where
  name := "greet"
  params := []
  returnType := "void"
  kind := .static
  lines := [1]
  body _ := .line 1 fun
    | .ok () => .note (.value .null) fun () => .done (.ok .void)
    | .error thrown => .done (.error thrown)

/-- A thread that is about to call the method, with a breakpoint on the line. -/
def greeting : Scene where
  thread :=
    { id := 1, name := "main", group := "system"
      worker := .holding 1
        (.invoke (.method { ClassDef.empty "Greeter" .plain with methods := [greet] } greet none [])) }
  shared := { breakpoints := BreakpointTable.install ∅ ⟨.line "Greeter" 1, none⟩ }

/-- Debugged runs of it do stop, and they all end within a few moves and with the one note. -/
theorem greeting_transparent :
    (∃ y, Debugged 4 greeting y ∧ y.thread.status = .suspended .breakpoint) ∧
    ∀ n y, Debugged n greeting y →
      n ≤ 30 ∧ (y.thread.worker = .waiting → y.shared.journal = #[.value .null]) := by
  constructor
  · have begun := (Debugged.refl greeting).works (.own nofun rfl)
    have called := begun.works (.own nofun rfl)
    have entered := called.works (.own nofun rfl)
    exact ⟨_, entered.works (.own nofun rfl), rfl⟩
  · have ended : ((greeting.plain #[]).after 9).thread.worker = .waiting := rfl
    have held : greeting.thread.worker = .holding 1 _ := rfl
    intro n y d
    obtain ⟨few, same, -⟩ := (debugging_is_transparent held (by decide) #[]).2 9 ended n y d
    exact ⟨few, fun told => (same told).journal.symm⟩

end Scene

end Debugger
