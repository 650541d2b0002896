import Debugger.Proofs.Thread.Effects
import Debugger.Proofs.Thread.Step
/-!
# What becomes of an exception that nobody catches

When the body of a task lets an exception out, the thread says so by itself: it stops, to show the
exception, or it emits an event. In the meantime the thread is at everybody's mercy. It may be let
go on, halted or terminated, before the exception gets out, while it is shown, and after.

`Solo` is a thread with what the threads have in common, and `Solo.Move` is everything that can
happen to the two, with the words that the thread says of its own accord. What the others do to the
state in common is arbitrary.

* `Solo.exception_is_reported` - when the thread reports an exception, how, and how often; and what
  the caller is told.
* `Solo.terminated_exception_is_unreported` - the one case in which it does not.

## 1. What a thread says

## 2. Where words come from

## 3. A thread among others

## 4. Until the exception is out, and after

## 5. Exceptions are reported
-/

namespace Debugger

/-! ## 1. What a thread says -/

/-- The description of an exception in an event, if there is one. -/
def VmEvent.description? : VmEvent → Option ExceptionDescription
  | suspended _ _ _ description => description
  | uncaughtException _ description => some description
  | _ => none

namespace Shared

variable {s s' : Shared}

/-- The events with a description that were emitted in between. -/
def reports (s s' : Shared) : List VmEvent :=
  (s'.events.toList.drop s.events.size).filter (·.description?.isSome)

/-- The callers that were told in between. -/
def answers (s s' : Shared) : List (CallId × Outcome) :=
  s'.completed.toList.drop s.completed.size

theorem reports_of_eq (h : s'.events = s.events) : reports s s' = [] := by
  unfold reports
  rw [h, List.drop_eq_nil_of_le (Nat.le_of_eq s.events.length_toList)]
  rfl

theorem reports_of_push {e : VmEvent} (h : s'.events = s.events.push e) :
    reports s s' = [e].filter (·.description?.isSome) := by
  simp [reports, h]

theorem answers_of_eq (h : s'.completed = s.completed) : answers s s' = [] := by
  simp [answers, h]

theorem answers_complete (s : Shared) (call : CallId) (outcome : Outcome) :
    answers s (s.complete call outcome) = [(call, outcome)] := by
  simp [answers, complete]

@[simp] theorem reports_self (s : Shared) : reports s s = [] := reports_of_eq rfl

@[simp] theorem answers_self (s : Shared) : answers s s = [] := answers_of_eq rfl

end Shared

/-! ## 2. Where words come from -/

namespace Thread

open Shared (reports answers)

variable {t t' : Thread} {a : Activity} {s s' : Shared} {call : CallId}

/-- The body of a task has ended with an exception, and the thread is about to deal with it. -/
def Escaping (t : Thread) (call : CallId) (e : Thrown) : Prop :=
  t.worker = .busy ⟨call, .running (.done (.error e)), []⟩

theorem answer_unreported (q : Query) {reply : q.Answer} (h : t.answer s q = (reply, t', s')) :
    reports s s' = [] := by
  apply Shared.reports_of_eq
  cases q with
  | setLocal | setField | setStaticField =>
    simp only [answer] at h
    split at h <;> cases h <;> rfl
  | _ =>
    cases h
    rfl

theorem invoke_unreported (i : Invocation) (next : Except Thrown Value → Body) :
    reports s (t.invoke a i next s).2 = [] := by
  apply Shared.reports_of_eq
  cases i with
  | method => rfl
  | construct c constructor args => cases constructor <;> rfl

theorem reachLine_unreported (n : Line) (next : Except Thrown Unit → Body) :
    reports s (t.reachLine a n next s).2 = [] := by
  unfold reachLine
  by_cases ht : t.status = .terminated
  · simp [ht]
  · cases t.frames with
    | nil => simp [ht]
    | cons f fs =>
      simp only [ht, if_false]
      split
      · rw [Shared.reports_of_push (by rfl)]
        rfl
      · exact Shared.reports_of_eq rfl

theorem enter_unreported (body : Body) : reports s (t.enter a body s).2 = [] := by
  unfold enter
  by_cases ht : t.status = .terminated
  · simp [ht]
  · cases t.frames with
    | nil => simp [ht]
    | cons f fs =>
      simp only [ht, if_false]
      split
      · rw [Shared.reports_of_push (by rfl)]
        rfl
      · exact Shared.reports_of_eq rfl

theorem adapt_unreported (v : Value) (s : Shared) : reports s (adapt v s).2 = [] := by
  obtain ⟨heap, eq, -⟩ := adapt_worked v s
  rw [eq]
  exact Shared.reports_of_eq rfl

theorem run_unreported (body : Body)
    (quiet : ∀ e : Thrown, e.isThreadDeath = false → body = .done (.error e) → a.callers ≠ []) :
    reports s (t.run a body s).2 = [] := by
  cases body with
  | done result =>
    cases hc : a.callers with
    | cons next callers => simp [run, hc]
    | nil =>
      simp only [run, hc]
      cases result with
      | ok v => exact adapt_unreported v s
      | error e =>
        cases e with
        | threadDeath => exact Shared.reports_self s
        | exception typeName message frames => exact absurd hc (quiet _ rfl rfl)
  | panic | park | note => exact Shared.reports_of_eq rfl
  | ask q next =>
    rcases hq : t.answer s q with ⟨reply, t', s'⟩
    simp only [run, hq]
    exact answer_unreported q hq
  | line n next => exact reachLine_unreported n next
  | call c next =>
    simp only [run]
    cases s.resolve c with
    | ok i => exact invoke_unreported i next
    | error e => exact Shared.reports_self s

theorem unreported_of_eq {r : Thread × Shared} (h : some r = some (t', s'))
    (silent : reports s r.2 = []) : reports s s' = [] := by
  cases h
  exact silent

theorem proceed_unreported (quiet : ∀ e : Thrown, e.isThreadDeath = false →
      a ≠ ⟨a.call, .running (.done (.error e)), []⟩)
    (h : t.proceed a s = some (t', s')) : reports s s' = [] := by
  obtain ⟨call, position, callers⟩ := a
  unfold proceed at h
  cases position with
  | starting i => exact unreported_of_eq h (invoke_unreported i _)
  | running body =>
    apply unreported_of_eq h
    apply run_unreported
    rintro e thrown rfl rfl
    exact quiet e thrown rfl
  | entering body => exact unreported_of_eq h (enter_unreported body)
  | atLine | atEntry | atException =>
    dsimp only at h
    split at h <;> cases h <;> exact Shared.reports_self s
  | parked next => cases h

/-- **A thread reports an exception only when it gets out of the body of the task.** -/
theorem step_unreported (quiet : ∀ call e, e.isThreadDeath = false → ¬t.Escaping call e)
    (h : t.step s = some (t', s')) : reports s s' = [] := by
  unfold step at h
  cases hw : t.worker with
  | waiting =>
    rw [hw] at h
    dsimp only at h
    split at h <;> cases h <;> exact Shared.reports_self s
  | holding call task =>
    rw [hw] at h
    apply unreported_of_eq h
    unfold «begin»
    split
    · exact Shared.reports_of_eq rfl
    · exact Shared.reports_self s
  | busy a =>
    rw [hw] at h
    refine proceed_unreported ?_ h
    intro e thrown same
    exact quiet a.call e thrown (hw.trans (congrArg Worker.busy same))
  | ended call outcome =>
    rw [hw] at h
    cases h
    exact Shared.reports_self s
  | telling call outcome =>
    rw [hw] at h
    cases h
    exact Shared.reports_of_eq rfl
  | exited =>
    rw [hw] at h
    cases h

end Thread

/-! ## 3. A thread among others -/

/-- A thread, and what it has in common with others. -/
structure Solo where
  thread : Thread
  shared : Shared

namespace Solo

open Shared (reports answers)

variable {x y z : Solo} {es fs : List VmEvent} {as bs : List (CallId × Outcome)} {call : CallId}
  {d : ExceptionDescription}

/-- Whatever can happen to a thread, with the exceptions that it reports and the callers that it
tells of its own accord. -/
inductive Move : Solo → List VmEvent → List (CallId × Outcome) → Solo → Prop
  | own {x : Solo} {t : Thread} {s : Shared} (step : x.thread.step x.shared = some (t, s)) :
      Move x (reports x.shared s) (answers x.shared s) ⟨t, s⟩
  | resumes {x : Solo} (kind : Option StepKind) {t : Thread} {s : Shared}
      (granted : x.thread.resume kind x.shared = .ok (t, s)) : Move x [] [] ⟨t, s⟩
  | halts {x : Solo} {t : Thread} (granted : x.thread.halt = .ok t) : Move x [] [] ⟨t, x.shared⟩
  | unparks {x : Solo} {t : Thread} (granted : x.thread.unpark? = some t) :
      Move x [] [] ⟨t, x.shared⟩
  | strikes {x : Solo} :
      Move x [] []
        ⟨{ x.thread with status := .terminated, frames := [], pendingStep := none }, x.shared⟩
  /-- A task is queued, or the inbox is cleared for termination. -/
  | delivers {x : Solo} (inbox : List Message) :
      Move x [] [] ⟨{ x.thread with inbox }, x.shared⟩
  | unlists {x : Solo} : Move x [] [] ⟨{ x.thread with listed := false }, x.shared⟩
  | elsewhere {x : Solo} (s : Shared) : Move x [] [] ⟨x.thread, s⟩

/-- Any number of moves, with all that the thread said. -/
inductive Run : Solo → List VmEvent → List (CallId × Outcome) → Solo → Prop
  | refl (x : Solo) : Run x [] [] x
  | move {x y z : Solo} {es fs : List VmEvent} {as bs : List (CallId × Outcome)} :
      Run x es as y → Move y fs bs z → Run x (es ++ fs) (as ++ bs) z

/-- What others do leaves the thread where it is in its work, and a dead thread dead. -/
theorem Move.cases_own (m : Move x es as y) :
    (∃ t s, x.thread.step x.shared = some (t, s) ∧ y = ⟨t, s⟩ ∧ es = reports x.shared s ∧
      as = answers x.shared s) ∨
    (es = [] ∧ as = [] ∧ (y.thread.worker = x.thread.worker ∨
      ∃ a next, x.thread.worker = .busy a ∧ a.position = .parked next ∧
        y.thread.worker = .busy { a with position := .running (next ()) }) ∧
      (x.thread.status = .terminated → y.thread.status = .terminated)) := by
  cases m with
  | own step => exact .inl ⟨_, _, step, rfl, rfl, rfl⟩
  | resumes kind granted =>
    obtain ⟨reason, stopped, rfl, rfl⟩ := Thread.resume_ok granted
    exact .inr ⟨rfl, rfl, .inl rfl, by simp [stopped]⟩
  | halts granted =>
    obtain ⟨alive, rfl | rfl⟩ := Thread.halt_ok granted
    · exact .inr ⟨rfl, rfl, .inl rfl, id⟩
    · exact .inr ⟨rfl, rfl, .inl rfl, id⟩
  | unparks granted =>
    obtain ⟨a, next, busy, parked, rfl⟩ := Thread.unpark?_some granted
    exact .inr ⟨rfl, rfl, .inr ⟨a, next, busy, parked, rfl⟩, id⟩
  | strikes => exact .inr ⟨rfl, rfl, .inl rfl, fun _ => rfl⟩
  | delivers | unlists | elsewhere => exact .inr ⟨rfl, rfl, .inl rfl, id⟩

/-- **Terminating a thread in one go is one order of the finer moves.** -/
theorem terminate_run (x : Solo) :
    Run x [] [] ⟨(x.thread.terminate x.shared).1, (x.thread.terminate x.shared).2⟩ := by
  rcases x.thread.terminate_cases x.shared with same | dead
  · rw [same]
    exact .refl x
  · rw [dead]
    exact (((Run.refl x).move .strikes).move (.delivers [.shutdown])).move (.elsewhere _)

/-- So is queueing a task, which is turned down when the thread is dead. -/
theorem submit_run (x : Solo) (call : CallId) (task : Task) :
    Run x [] [] ⟨(x.thread.submit call task x.shared).1, (x.thread.submit call task x.shared).2⟩ := by
  rcases x.thread.submit_cases call task x.shared with same | queued
  · rw [same]
    exact (Run.refl x).move (.elsewhere _)
  · rw [queued]
    exact ((Run.refl x).move (.delivers _)).move (.elsewhere _)

/-! ## 4. Until the exception is out, and after -/

/-- The thread holds the task of a call or is at it, and no exception has got out. -/
inductive Before (call : CallId) : Worker → Prop
  | holding (task : Task) : Before call (.holding call task)
  | busy (a : Activity) (same : a.call = call) (inside : a.position.isException = false) :
      Before call (.busy a)

/-- The body of the task is over. -/
def isOver : Worker → Bool
  | .busy a => a.position.isException
  | .ended .. | .telling .. => true
  | _ => false

/-- What there is to be told of a call whose body let an exception out. -/
def Fits (d : ExceptionDescription) (status : ThreadStatus) (outcome : Outcome) : Prop :=
  outcome = .exception d ∨ outcome = .terminated ∧ status = .terminated

/-- An exception has got out, and the caller has not been told. -/
inductive After (call : CallId) (d : ExceptionDescription) (t : Thread) : Prop
  | shown (busy : t.worker = .busy ⟨call, .atException d, []⟩)
  | ended {outcome : Outcome} (busy : t.worker = .ended call outcome)
      (fits : Fits d t.status outcome)
  | telling {outcome : Outcome} (busy : t.worker = .telling call outcome)
      (fits : Fits d t.status outcome)

theorem own_before {t t' : Thread} {s s' : Shared} (b : Before call t.worker)
    (h : t.step s = some (t', s')) (untold : answers s s' = []) :
    Before call t'.worker ∨ isOver t'.worker = true := by
  cases Thread.step_stepped h with
  | takes free | exits free | finishes free | tells free =>
    rw [free] at b
    cases b
  | refuses => simp [Shared.answers_complete] at untold
  | @begins c _ p held alive quiet =>
    rw [held] at b
    cases b
    exact .inl (.busy _ rfl quiet)
  | @proceeds a _ _ busy progress =>
    rw [busy] at b
    cases b with
    | busy _ same inside =>
      cases progress with
      | within _ quiet | returns _ quiet => exact .inl (.busy _ same quiet)
      | calls => exact .inl (.busy _ same rfl)
      | @stops p =>
        cases hp : p.isException with
        | false => exact .inl (.busy _ same hp)
        | true => exact .inr hp
      | shows | ends => exact .inr rfl

theorem own_over {t t' : Thread} {s s' : Shared} (o : isOver t.worker = true)
    (h : t.step s = some (t', s')) (untold : answers s s' = []) : isOver t'.worker = true := by
  cases Thread.step_stepped h with
  | takes free | exits free => simp [free, isOver] at o
  | refuses held | begins held => simp [held, isOver] at o
  | tells => simp [Shared.answers_complete] at untold
  | finishes => rfl
  | @proceeds a _ _ busy progress =>
    rw [busy] at o
    cases progress with
    | within inside | calls inside | returns inside | stops inside =>
      exact absurd o (by simp [isOver, inside])
    | shows | ends => rfl

/-- What a thread does about an exception that gets out of the body of a task. -/
theorem own_escaping {t : Thread} {e : Thrown} (s : Shared) (esc : t.Escaping call e)
    (thrown : e.isThreadDeath = false) :
    ∃ t' s', t.step s = some (t', s') ∧ After call e.describe t' ∧ answers s s' = [] ∧
      reports s s' =
        if s.breakOnUncaught then
          if t.status = .terminated then []
          else [.suspended t.id .exception (e.frames.head?.map Frame.location) (some e.describe)]
        else [.uncaughtException t.id e.describe] := by
  let a : Activity := ⟨call, .running (.done (.error e)), []⟩
  have step : t.step s = some (t.conclude a (.error e) s) := by
    unfold Thread.step
    rw [show t.worker = .busy a from esc]
    rfl
  cases e with
  | threadDeath => simp [Thrown.isThreadDeath] at thrown
  | exception typeName message frames =>
  let d := (Thrown.exception typeName message frames).describe
  by_cases armed : s.breakOnUncaught = true
  · by_cases dead : t.status = .terminated
    · have ends : t.step s = some ({ t with worker := .ended call .terminated }, s) := by
        rw [step]
        simp [Thread.conclude, armed, dead, a]
      refine ⟨_, _, ends, .ended rfl (.inr ⟨rfl, dead⟩), Shared.answers_self s, ?_⟩
      simp [armed, dead]
    · have shows : t.step s = some
          (({ t with frames }.goTo a (.atException d)).suspend .exception (some d) s) := by
        rw [step]
        simp [Thread.conclude, armed, dead, d]
      refine ⟨_, _, shows, .shown rfl, Shared.answers_of_eq rfl, ?_⟩
      rw [if_pos armed, if_neg dead, Shared.reports_of_push (by rfl)]
      rfl
  · have ends : t.step s = some ({ t with worker := .ended call (.exception d) },
        s.emit (.uncaughtException t.id d)) := by
      rw [step]
      simp [Thread.conclude, armed, a, d]
    refine ⟨_, _, ends, .ended rfl (.inl rfl), Shared.answers_of_eq rfl, ?_⟩
    rw [if_neg armed, Shared.reports_of_push (by rfl)]
    rfl

theorem After.isOver {t : Thread} (a : After call d t) : isOver t.worker = true := by
  cases a with
  | shown busy | ended busy | telling busy => rw [busy]; rfl

/-- Until the exception is out, the thread has reported none. -/
theorem Run.before (r : Run x es as y) (b : Before call x.thread.worker) (untold : as = []) :
    (Before call y.thread.worker ∧ es = []) ∨ isOver y.thread.worker = true := by
  induction r with
  | refl => exact .inl ⟨b, rfl⟩
  | @move y z es fs as bs r m ih =>
    obtain ⟨rfl, rfl⟩ := List.append_eq_nil_iff.1 untold
    rcases m.cases_own with ⟨t, s, step, rfl, rfl, silent⟩ | ⟨rfl, -, same, -⟩
    · rcases ih rfl with ⟨b', rfl⟩ | out
      · by_cases esc : ∃ call e, e.isThreadDeath = false ∧ y.thread.Escaping call e
        · obtain ⟨c, e, thrown, esc⟩ := esc
          obtain ⟨t', s', step', after, -⟩ := own_escaping y.shared esc thrown
          rw [step] at step'
          cases step'
          exact .inr after.isOver
        · have quiet := Thread.step_unreported (by simpa using esc) step
          rw [quiet]
          exact (own_before b' step silent.symm).imp (⟨·, rfl⟩) id
      · exact .inr (own_over out step silent.symm)
    · rcases same with same | ⟨a, next, busy, parked, now⟩
      · rw [same, List.append_nil]
        exact ih rfl
      · rcases ih rfl with ⟨b', rfl⟩ | out
        · rw [busy] at b'
          cases b' with
          | busy _ own inside =>
            rw [now]
            exact .inl ⟨.busy _ own rfl, rfl⟩
        · simp [busy, isOver, parked, Position.isException] at out

/-- How many steps there are to be made before the caller is told, at most. -/
def togo : Worker → Nat
  | .busy _ => 2
  | .ended .. => 1
  | _ => 0

theorem After.own {t t' : Thread} {s s' : Shared} (a : After call d t)
    (h : t.step s = some (t', s')) :
    reports s s' = [] ∧
      (After call d t' ∧ answers s s' = [] ∧ togo t'.worker < togo t.worker ∨
        ∃ outcome, Fits d t.status outcome ∧ answers s s' = [(call, outcome)]) := by
  cases a with
  | shown busy =>
    unfold Thread.step at h
    rw [busy] at h
    simp only [Thread.proceed] at h
    split at h
    · cases h
    · next dead =>
      cases h
      exact ⟨by simp, .inl ⟨.ended rfl (.inr ⟨rfl, dead⟩), by simp, by simp [busy, togo]⟩⟩
    · cases h
      exact ⟨by simp, .inl ⟨.ended rfl (.inl rfl), by simp, by simp [busy, togo]⟩⟩
  | @ended outcome busy fits =>
    unfold Thread.step at h
    rw [busy] at h
    cases h
    refine ⟨by simp, .inl ⟨.telling rfl ?_, by simp, by simp [busy, togo, Thread.finish]⟩⟩
    rcases fits with rfl | ⟨rfl, dead⟩
    · exact .inl rfl
    · exact .inr ⟨rfl, if_pos dead⟩
  | @telling outcome busy fits =>
    unfold Thread.step at h
    rw [busy] at h
    cases h
    exact ⟨Shared.reports_of_eq rfl, .inr ⟨outcome, fits, Shared.answers_complete ..⟩⟩

theorem Run.after (r : Run x es as y) (a : After call d x.thread) (untold : as = []) :
    After call d y.thread ∧ es = [] := by
  induction r with
  | refl => exact ⟨a, rfl⟩
  | @move y z es fs as bs r m ih =>
    obtain ⟨rfl, rfl⟩ := List.append_eq_nil_iff.1 untold
    obtain ⟨a', rfl⟩ := ih rfl
    rcases m.cases_own with ⟨t, s, step, rfl, rfl, silent⟩ | ⟨rfl, -, same, dead⟩
    · obtain ⟨quiet, ⟨later, -⟩ | ⟨outcome, -, told⟩⟩ := a'.own step
      · exact ⟨later, quiet⟩
      · simp [told] at silent
    · refine ⟨?_, rfl⟩
      rcases same with same | ⟨b, next, busy, parked, -⟩
      · cases a' with
        | shown busy => exact .shown (same.trans busy)
        | ended busy fits => exact .ended (same.trans busy) (fits.imp_right fun h => ⟨h.1, dead h.2⟩)
        | telling busy fits =>
          exact .telling (same.trans busy) (fits.imp_right fun h => ⟨h.1, dead h.2⟩)
      · have out := a'.isOver
        simp [busy, isOver, parked, Position.isException] at out

/-- A thread that shows no exception any more goes on until the caller is told. -/
theorem After.going {t : Thread} (a : After call d t) (s : Shared) :
    t.status.isSuspended = true ∨ ∃ t' s', t.step s = some (t', s') := by
  cases a with
  | shown busy =>
    unfold Thread.step
    rw [busy]
    simp only [Thread.proceed]
    cases t.status with
    | suspended => exact .inl rfl
    | idle | running | terminated => exact .inr ⟨_, _, rfl⟩
  | ended busy | telling busy =>
    unfold Thread.step
    rw [busy]
    exact .inr ⟨_, _, rfl⟩

/-! ## 5. Exceptions are reported -/

/-- A panic gets out as an exception with the frames that were live. -/
theorem panic_escapes {t : Thread} {message : String} (s : Shared)
    (h : t.worker = .busy ⟨call, .running (.panic message), []⟩) :
    ∃ t', t.step s = some (t', s) ∧ t'.status = t.status ∧
      t'.Escaping call (.exception Thrown.panicType message t.frames) := by
  unfold Thread.step
  rw [h]
  exact ⟨_, rfl, rfl, rfl⟩

/-- **An exception that gets out of the body of a task is reported once,** whatever happens to the
thread meanwhile: by stopping the thread, or by an event if threads are not to stop on exceptions.
There is one case in which it is not reported at all: when threads are to stop and this one is dead
already. The caller is told the same description, unless the thread is terminated by then. A panic
counts as an exception. -/
theorem exception_is_reported {task : Task} (held : x.thread.worker = .holding call task)
    (r : Run x es [] y) :
    (∀ message, y.thread.worker = .busy ⟨call, .running (.panic message), []⟩ →
      ∃ t, y.thread.step y.shared = some (t, y.shared) ∧ t.status = y.thread.status ∧
        t.Escaping call (.exception Thrown.panicType message y.thread.frames)) ∧
    ∀ e : Thrown, e.isThreadDeath = false → y.thread.Escaping call e →
      es = [] ∧ ∃ t s, y.thread.step y.shared = some (t, s) ∧
        answers y.shared s = [] ∧
        reports y.shared s =
          (if y.shared.breakOnUncaught then
            if y.thread.status = .terminated then []
            else [.suspended y.thread.id .exception (e.frames.head?.map Frame.location)
              (some e.describe)]
          else [.uncaughtException y.thread.id e.describe]) ∧
        ∀ fs z, Run ⟨t, s⟩ fs [] z →
          fs = [] ∧
          (z.thread.status.isSuspended = true ∨ ∃ t' s', z.thread.step z.shared = some (t', s')) ∧
          ∀ t' s', z.thread.step z.shared = some (t', s') →
            reports z.shared s' = [] ∧
            (answers z.shared s' = [] ∧ togo t'.worker < togo z.thread.worker ∨
              ∃ outcome, answers z.shared s' = [(call, outcome)] ∧
                (outcome = .exception e.describe ∨
                  outcome = .terminated ∧ z.thread.status = .terminated)) := by
  refine ⟨fun message => panic_escapes y.shared, ?_⟩
  intro e thrown esc
  have silent : es = [] := by
    have before : Before call x.thread.worker := held ▸ .holding task
    rcases r.before before rfl with ⟨-, silent⟩ | out
    · exact silent
    · have inside : isOver y.thread.worker = false := by rw [show y.thread.worker = _ from esc]; rfl
      simp [inside] at out
  obtain ⟨t, s, step, after, untold, told⟩ := own_escaping y.shared esc thrown
  refine ⟨silent, t, s, step, untold, told, ?_⟩
  intro fs z later
  obtain ⟨after, quiet⟩ := later.after after rfl
  refine ⟨quiet, after.going z.shared, ?_⟩
  intro t' s' step'
  obtain ⟨quiet, ⟨-, untold, nearer⟩ | ⟨outcome, fits, told⟩⟩ := after.own step'
  · exact ⟨quiet, .inl ⟨untold, nearer⟩⟩
  · exact ⟨quiet, .inr ⟨outcome, told, fits⟩⟩

/-- A body that waits at the gate and then raises an exception. -/
def lateRaise : Body := .park fun _ => .done (.error (.exception "E" "boom" []))

/-- A thread that has taken this body, where threads stop on exceptions. -/
def lateRaiser : Solo where
  thread := { id := 1, name := "main", group := "main", worker := .holding 1 (.body lateRaise) }
  shared := { breakOnUncaught := true }

/-- The same thread when the exception gets out. -/
def lateEscaper (status : ThreadStatus) : Solo :=
  { lateRaiser with
    thread := { lateRaiser.thread with
      status
      worker := .busy ⟨1, .running (.done (.error (.exception "E" "boom" []))), []⟩ } }

/-- The thread stops to show the exception. -/
theorem lateRaiser_reports :
    Run lateRaiser [] [] (lateEscaper .running) ∧
      ∃ t s, (lateEscaper .running).thread.step lateRaiser.shared = some (t, s) ∧
        reports lateRaiser.shared s =
          [.suspended 1 .exception none (some ⟨.user, "E", some "boom", []⟩)] := by
  have r : Run lateRaiser [] [] (lateEscaper .running) :=
    (Run.refl lateRaiser).move (.own rfl) |>.move (.own rfl) |>.move (.unparks rfl)
  obtain ⟨-, reported⟩ := exception_is_reported rfl r
  obtain ⟨-, t, s, step, -, told, -⟩ := reported (.exception "E" "boom" []) rfl rfl
  exact ⟨r, t, s, step, told⟩

/-- An exception that gets out after its thread was terminated is not reported by anything, when
threads are to stop on exceptions. -/
theorem terminated_exception_is_unreported :
    ¬∀ (x y z : Solo) (call : CallId) (task : Task) (e : Thrown) (outcome : Outcome)
      (es fs : List VmEvent), x.thread.worker = .holding call task → Run x es [] y →
      e.isThreadDeath = false → y.thread.Escaping call e → Run y fs [(call, outcome)] z →
      ((es ++ fs).filter (·.description? = some e.describe)).length = 1 := by
  intro claim
  have r : Run lateRaiser [] [] (lateEscaper .terminated) :=
    (Run.refl lateRaiser).move (.own rfl) |>.move (.own rfl)
      |>.move .strikes |>.move (.unparks rfl)
  have told := (Run.refl (lateEscaper .terminated)).move (.own rfl)
    |>.move (.own rfl) |>.move (.own rfl)
  have counted := claim _ _ _ 1 (.body lateRaise) (.exception "E" "boom" []) .terminated _ [] rfl r
    rfl rfl told
  exact absurd counted (by decide)

end Solo

end Debugger
