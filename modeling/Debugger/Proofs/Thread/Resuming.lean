import Mathlib.Logic.Relation
import Debugger.Proofs.Thread.SafePoints
import Debugger.Proofs.Thread.Suspension
/-!
# How far a resumed thread gets

A suspended thread is let go on, to run freely or to make a step. Two things are asked of that. It
must not go too far: a breakpoint that fires stops it, a step into stops at the first line within a
frame, and a step over at the first line in the frame it was asked for in, or in one that this one
returns to. And it must not stop without a cause: a request is forgotten with the task it was made
during, so a later task stops for what is asked of it and for nothing else.

* `Watched.Due` - where a resumed thread has to stop at the latest.
* `Watched.Due.stops` - it does.
* `Watched.Prompted` - what happens to a thread while nobody asks it to stop, or while only stops of
  some kinds are asked for.
* `Thread.Clear` - nothing of another kind is asked of the thread. It holds when a task begins, when
  a thread is let go on without a step, and from then on.
* `Watched.resumed_stops_in_time` - both together.

## 1. Where a thread has to stop

## 2. While no stop is asked for

## 3. Stops and their causes
-/

namespace Debugger

open Relation (ReflTransGen)

/-! ## 1. Where a thread has to stop -/

namespace Watched

variable {x y z : Watched} {ys : List Watched} {kind : Option StepKind}

/-- The point `y` is one that a thread which was let go on at `x` does not pass. -/
inductive Due (x y : Watched) : Option StepKind → Prop
  | breakpoint {kind : Option StepKind} (fired : y.thread.fires y.shared = true) : Due x y kind
  | into (here : y.thread.worker.atLine = true) (deep : y.thread.frames ≠ []) :
      Due x y (some .into)
  /-- The line is reported by an activation that was there when the step was asked for. -/
  | level {b : Nat} (here : y.thread.worker.atLine = true) (top : y.births.head? = some b)
      (old : b ∈ x.births) : Due x y (some .over)

theorem atLine_cases {w : Worker} (h : w.atLine = true) :
    ∃ a n next, w = .busy a ∧ a.position = .running (.line n next) := by
  cases w with
  | waiting | holding | ended | telling | exited => cases h
  | busy a =>
    obtain ⟨call, p, callers⟩ := a
    cases p with
    | starting | entering | atLine | atEntry | atException | parked => cases h
    | running body =>
      cases body with
      | done | panic | ask | call | park | note => cases h
      | line n next => exact ⟨_, n, next, rfl, rfl⟩

/-- Within a task that has not ended in an exception, the frames and the activations of a living
thread correspond. -/
theorem Kept.frames_length {a : Activity} (h : Kept x) (alive : x.thread.status ≠ .terminated)
    (hw : x.thread.worker = .busy a) (inside : a.position.isException = false) :
    x.thread.frames.length = x.births.length := by
  rw [h.height, h.balanced alive a hw inside, hw]
  rfl

/-- An old activation is on top only while no later one is live. -/
theorem Since.top_old {low b : Nat} {news : List Nat} (h : Since x ys y low news)
    (past : ∀ b ∈ x.births, b < x.now) (top : y.births.head? = some b) (old : b ∈ x.births) :
    y.births.length ≤ x.births.length := by
  cases news with
  | nil =>
    rw [h.length_eq, List.length_nil, Nat.zero_add]
    exact h.low_le
  | cons c rest =>
    rw [h.split] at top
    cases top
    have early := past b old
    have late := h.recent b List.mem_cons_self
    omega

/-- **A resumed thread does not go too far.** -/
theorem Due.stops {a : Activity} {t : Thread} {s : Shared} (due : Due x y kind) (hx : Reached x)
    (hw : x.thread.worker = .busy a) (inside : a.position.isException = false)
    (asked : x.thread.resume kind x.shared = .ok (t, s))
    (run : Onward { x with thread := t, shared := s } ys y)
    (task : ∀ w ∈ ys ++ [y], Underway w) (going : y.thread.status.isSuspended = false) :
    ∃ t' s' reason, y.thread.step y.shared = some (t', s') ∧ t'.status = .suspended reason := by
  have kept := hx.kept
  have keptNow : Kept y := run.kept (kept.move (.resumes asked))
  have alive : y.thread.status ≠ .terminated :=
    (task y (List.mem_append_right _ (List.mem_singleton_self y))).alive
  have pending : y.thread.pendingStep = kind.map fun kind => ⟨kind, x.thread.frames.length⟩ := by
    rw [(run.waits task going).1]
    obtain ⟨-, -, rfl, -⟩ := Thread.resume_ok asked
    rfl
  -- A request that has come to its end stops the thread at a line within a frame.
  have ends (here : y.thread.worker.atLine = true) (deep : y.thread.frames ≠ [])
      (reached : y.thread.pendingStep.any (·.reached y.thread.frames.length) = true) :
      ∃ t' s' reason, y.thread.step y.shared = some (t', s') ∧ t'.status = .suspended reason := by
    obtain ⟨a, n, next, hw, hp⟩ := atLine_cases here
    obtain ⟨reason, wanted⟩ := Thread.wanted_step reached
    obtain ⟨t', s', step, stopped, -⟩ := Thread.reachLine_stops hw hp alive deep wanted
    exact ⟨t', s', reason, step, stopped⟩
  cases due with
  | breakpoint fired =>
    obtain ⟨t', s', step, stopped⟩ := Thread.stops_of_fires alive fired
    exact ⟨t', s', .breakpoint, step, stopped⟩
  | into here deep =>
    apply ends here deep
    rw [pending]
    rfl
  | level here top old =>
    obtain ⟨now, n, next, hnow, hp⟩ := atLine_cases here
    have height : y.thread.frames.length = y.births.length :=
      keptNow.frames_length alive hnow (by rw [hp]; rfl)
    have began : x.thread.frames.length = x.births.length := by
      obtain ⟨reason, stopped, -⟩ := Thread.resume_ok asked
      exact kept.frames_length (by rw [stopped]; exact nofun) hw inside
    obtain ⟨low, news, since⟩ := run.since
    have lower : y.births.length ≤ x.births.length := since.top_old kept.past top old
    refine ends here ?_ ?_
    · intro bare
      rw [bare] at height
      rw [List.eq_nil_of_length_eq_zero height.symm] at top
      cases top
    · rw [pending]
      show decide (y.thread.frames.length ≤ x.thread.frames.length) = true
      rw [height, began]
      exact decide_eq_true lower

end Watched

/-! ## 2. While no stop is asked for -/

namespace Thread

variable {t t' : Thread} {s s' : Shared} {may : StopReason → Prop} {reason : StopReason}

/-- No stop is asked of the thread but of the kinds that may be. -/
structure Clear (may : StopReason → Prop) (t : Thread) : Prop where
  halt : t.haltRequested = true → may .halt
  step : t.pendingStep.isSome = true → may .step

theorem Clear.of_same (h : t.Clear may) (halt : t'.haltRequested = t.haltRequested)
    (step : t'.pendingStep = t.pendingStep) : t'.Clear may where
  halt asked := h.halt (halt ▸ asked)
  step asked := h.step (step ▸ asked)

/-- A thread asks nothing of itself. -/
theorem Stepped.clear (p : Stepped t s t' s') (h : t.Clear may) : t'.Clear may := by
  cases p with
  | takes | exits | refuses | tells => exact h.of_same rfl rfl
  | begins => exact ⟨nofun, nofun⟩
  | finishes => exact ⟨h.halt, nofun⟩
  | proceeds _ progress =>
    cases progress with
    | within | calls | returns | ends => exact h.of_same rfl rfl
    | stops | shows => exact ⟨nofun, nofun⟩

/-- Nothing is left of the requests made during an earlier task when a task begins. -/
theorem begin_clear (call : CallId) (task : Task) (s : Shared) (alive : t.status ≠ .terminated) :
    (t.begin call task s).1.Clear may := by
  simp only [«begin», if_neg alive]
  constructor
  · intro asked
    exact absurd asked Bool.false_ne_true
  · intro pending
    exact absurd pending Bool.false_ne_true

/-- A thread of which nothing is asked stops for a breakpoint or an exception. -/
theorem Clear.stop (h : t.Clear may) (stop : Stop t s reason) :
    (reason = .breakpoint ∧ t.fires s = true) ∨ reason = .exception ∨ may reason := by
  cases stop with
  | breakpoint fired => exact .inl ⟨rfl, fired⟩
  | exception => exact .inr (.inl rfl)
  | halt _ _ asked => exact .inr (.inr (h.halt asked))
  | step _ _ reached =>
    obtain ⟨p, hp, -⟩ := (Option.any_eq_true _ _).mp reached
    exact .inr (.inr (h.step (by rw [hp]; rfl)))

end Thread

namespace Watched

variable {x y z : Watched} {may : StopReason → Prop}

/-- What happens to a thread while no stop is asked of it but of the kinds that may be. -/
inductive Prompted (may : StopReason → Prop) : Watched → Watched → Prop
  | own {x : Watched} {t : Thread} {s : Shared} (step : x.thread.step x.shared = some (t, s)) :
      Prompted may x
        { thread := t
          shared := s
          now := x.now + 1
          births := restack x.now x.births t.worker.depth }
  | submits {x : Watched} (call : CallId) (task : Task) :
      Prompted may x
        { x with
          thread := (x.thread.submit call task x.shared).1
          shared := (x.thread.submit call task x.shared).2 }
  | goes {x : Watched} {t : Thread} {s : Shared}
      (granted : x.thread.resume none x.shared = .ok (t, s)) :
      Prompted may x { x with thread := t, shared := s }
  | steps {x : Watched} {kind : StepKind} {t : Thread} {s : Shared} (asks : may .step)
      (granted : x.thread.resume (some kind) x.shared = .ok (t, s)) :
      Prompted may x { x with thread := t, shared := s }
  | halts {x : Watched} {t : Thread} (asks : may .halt) (granted : x.thread.halt = .ok t) :
      Prompted may x { x with thread := t }
  | terminates {x : Watched} :
      Prompted may x
        { x with
          thread := (x.thread.terminate x.shared).1
          shared := (x.thread.terminate x.shared).2 }
  | unparks {x : Watched} {t : Thread} (granted : x.thread.unpark? = some t) :
      Prompted may x { x with thread := t }
  | elsewhere {x : Watched} (s : Shared) : Prompted may x { x with shared := s }

theorem Prompted.toMove (m : Prompted may x y) : Move x y := by
  cases m with
  | own step => exact .own step
  | submits call task => exact .submits call task
  | goes granted => exact .resumes granted
  | steps _ granted => exact .resumes granted
  | halts _ granted => exact .halts granted
  | terminates => exact .terminates
  | unparks granted => exact .unparks granted
  | elsewhere s => exact .elsewhere s

theorem Prompted.clear (m : Prompted may x y) (h : x.thread.Clear may) : y.thread.Clear may := by
  cases m with
  | own step => exact (Thread.step_stepped step).clear h
  | submits call task =>
    rcases x.thread.submit_cases call task x.shared with same | same
    · rw [same]
      exact h
    · rw [same]
      exact h.of_same rfl rfl
  | goes granted =>
    obtain ⟨reason, -, rfl, -⟩ := Thread.resume_ok granted
    exact ⟨h.halt, nofun⟩
  | steps asks granted =>
    obtain ⟨reason, -, rfl, -⟩ := Thread.resume_ok granted
    exact ⟨h.halt, fun _ => asks⟩
  | halts asks granted =>
    obtain ⟨-, rfl | rfl⟩ := Thread.halt_ok granted
    · exact h
    · exact ⟨fun _ => asks, h.step⟩
  | terminates =>
    rcases x.thread.terminate_cases x.shared with same | same
    · rw [same]
      exact h
    · rw [same]
      exact ⟨h.halt, nofun⟩
  | unparks granted =>
    obtain ⟨a, next, -, -, rfl⟩ := Thread.unpark?_some granted
    exact h.of_same rfl rfl
  | elsewhere s => exact h

theorem Move.poised (m : Move x y) (h : x.thread.Poised) : y.thread.Poised := by
  cases m with
  | own step => exact (Thread.step_stepped step).poised (h.going step) h
  | submits call task =>
    rcases x.thread.submit_cases call task x.shared with same | same
    · rw [same]
      exact h
    · rw [same]
      exact ⟨h.stopped, h.stepping⟩
  | resumes granted =>
    obtain ⟨reason, -, rfl, -⟩ := Thread.resume_ok granted
    exact ⟨fun stopped => absurd stopped Bool.false_ne_true, fun _ => rfl⟩
  | @halts t granted =>
    simp only [Thread.halt] at granted
    split at granted
    · next running =>
      cases granted
      refine ⟨fun stopped => ?_, h.stepping⟩
      rw [show ThreadStatus.isSuspended _ = _ from congrArg _ running] at stopped
      cases stopped
    · cases granted
    · cases granted
      exact h
  | terminates =>
    rcases x.thread.terminate_cases x.shared with same | same
    · rw [same]
      exact h
    · rw [same]
      constructor
      · intro stopped
        exact absurd stopped Bool.false_ne_true
      · intro pending
        exact absurd pending Bool.false_ne_true
  | unparks granted =>
    obtain ⟨a, next, hw, hp, rfl⟩ := Thread.unpark?_some granted
    refine ⟨fun stopped => ?_, h.stepping⟩
    have here := (h.stopped stopped).1
    rw [hw] at here
    simp only [Worker.isStopped, hp, Position.isStop] at here
    cases here
  | elsewhere s => exact h

theorem Reached.poised (h : Reached x) : x.thread.Poised := by
  induction h with
  | fresh => exact ⟨nofun, nofun⟩
  | move _ m ih => exact m.poised ih

/-! ## 3. Stops and their causes -/

theorem Reached.still_clear (hx : Reached x) (clear : x.thread.Clear may)
    (run : ReflTransGen (Prompted may) x y) : Reached y ∧ y.thread.Clear may := by
  induction run with
  | refl => exact ⟨hx, clear⟩
  | tail _ m ih => exact ⟨ih.1.move m.toMove, m.clear ih.2⟩

/-- From a moment when nothing of another kind is asked, every stop is for a breakpoint, for an
exception, or of a kind that may be asked for. -/
theorem stop_of_clear {t' : Thread} {s' : Shared} {reason : StopReason} (hx : Reached x)
    (clear : x.thread.Clear may) (run : ReflTransGen (Prompted may) x y)
    (step : y.thread.step y.shared = some (t', s')) (stopped : t'.status = .suspended reason) :
    (reason = .breakpoint ∧ y.thread.fires y.shared = true) ∨ reason = .exception ∨
      may reason := by
  obtain ⟨hy, still⟩ := hx.still_clear clear run
  exact still.stop (Thread.step_stop (hy.poised.going step) step stopped)

/-- **A resumed thread stops in time, and what was asked of it is forgotten with the task.**

A thread that is let go on at a line or at an entry stops at the latest where it has to, while its
task goes on. Let go on without a step, and asked for nothing further, it stops only for a
breakpoint that fires or for an exception. And whatever was asked of a thread before it began a
task, from then on it stops only for a breakpoint that fires, for an exception, or for what is asked
of it after the task began. -/
theorem resumed_stops_in_time :
    (∀ x kind a t s ys y, Reached x → x.thread.worker = .busy a →
      a.position.isException = false → x.thread.resume kind x.shared = .ok (t, s) →
      Onward { x with thread := t, shared := s } ys y → (∀ w ∈ ys ++ [y], Underway w) →
      y.thread.status.isSuspended = false → Due x y kind →
      ∃ t' s' reason, y.thread.step y.shared = some (t', s') ∧ t'.status = .suspended reason) ∧
    (∀ x t s y t' s' reason, Reached x → x.thread.resume none x.shared = .ok (t, s) →
      ReflTransGen (Prompted fun _ => False) { x with thread := t, shared := s } y →
      y.thread.step y.shared = some (t', s') → t'.status = .suspended reason →
      (reason = .breakpoint ∧ y.thread.fires y.shared = true) ∨ reason = .exception) ∧
    (∀ may x call task t s z t' s' reason, Reached x → x.thread.worker = .holding call task →
      x.thread.status ≠ .terminated → x.thread.step x.shared = some (t, s) →
      ReflTransGen (Prompted may) ⟨t, s, x.now + 1, restack x.now x.births t.worker.depth⟩ z →
      z.thread.step z.shared = some (t', s') → t'.status = .suspended reason →
      (reason = .breakpoint ∧ z.thread.fires z.shared = true) ∨ reason = .exception ∨
        may reason) := by
  refine ⟨?_, ?_, ?_⟩
  · intro x kind a t s ys y hx hw inside asked run task going due
    exact due.stops hx hw inside asked run task going
  · intro x t s y t' s' reason hx asked run step stopped
    have clear : t.Clear fun _ => False := by
      obtain ⟨why, was, rfl, -⟩ := Thread.resume_ok asked
      have nothing := (hx.poised.stopped (by rw [was]; rfl)).2.2
      exact ⟨fun halt => absurd (nothing.symm.trans halt) Bool.false_ne_true, nofun⟩
    rcases stop_of_clear (hx.move (.resumes asked)) clear run step stopped with h | h | h
    · exact .inl h
    · exact .inr h
    · exact h.elim
  · intro may x call task t s z t' s' reason hx held alive begins run step stopped
    have clear : t.Clear may := by
      have begun : x.thread.begin call task x.shared = (t, s) := by
        rw [Thread.step, held] at begins
        exact Option.some.inj begins
      have clear : (x.thread.begin call task x.shared).1.Clear may :=
        Thread.begin_clear call task x.shared alive
      rwa [begun] at clear
    exact stop_of_clear (hx.move (.own begins)) clear run step stopped

/-- Three stops that were due: of a step over at the next line of its method, of a thread that runs
freely at a breakpoint, and of a task at a breakpoint after one that was halted and ended. -/
theorem resumed_threads_stop :
    (∃ (x y : Watched) (t' : Thread) (s' : Shared) (reason : StopReason), Reached x ∧
      Due x y (some .over) ∧ y.thread.step y.shared = some (t', s') ∧
      t'.status = .suspended reason) ∧
    (∃ (x y : Watched) (t' : Thread) (s' : Shared), Reached x ∧
      y.thread.step y.shared = some (t', s') ∧ t'.status = .suspended .breakpoint ∧
      y.thread.fires y.shared = true) ∧
    (∃ (x z : Watched) (t' : Thread) (s' : Shared), Reached x ∧ x.thread.haltRequested = true ∧
      z.thread.step z.shared = some (t', s') ∧ t'.status = .suspended .breakpoint ∧
      z.thread.fires z.shared = true) := by
  obtain ⟨inTime, breakpoints, forgotten⟩ := resumed_stops_in_time
  have task (n : Line) := (Reached.fresh 1 "main" "system" (loaded n)).move
    (.submits 1 (.invoke (.method branches trunk none [])))
  refine ⟨?_, ?_, ?_⟩
  · have entered := ((((task 1).move (.own rfl)).move (.own rfl)).move (.own rfl)).move (.own rfl)
    have stopped := entered.move (.own rfl)
    obtain ⟨t', s', reason, step, suspended⟩ := inTime _ (some .over) _ _ _ _ _ stopped rfl rfl rfl
      (.move (.move (.move (.move (.move (.move (.move (.move (.move .start
        rfl (.own rfl)) rfl (.own rfl)) rfl (.own rfl)) rfl (.own rfl)) rfl (.own rfl))
        rfl (.own rfl)) rfl (.own rfl)) rfl (.own rfl)) rfl (.own rfl))
      (by
        intro w hw
        simp only [List.nil_append, List.cons_append, List.mem_cons, List.not_mem_nil,
          or_false] at hw
        rcases hw with rfl | rfl | rfl | rfl | rfl | rfl | rfl | rfl | rfl | rfl <;>
          exact ⟨rfl, nofun⟩)
      rfl (.level rfl rfl (List.mem_singleton_self 2))
    exact ⟨_, _, t', s', reason, stopped, .level rfl rfl (List.mem_singleton_self 2), step,
      suspended⟩
  · have begun := ((task 10).move (.own rfl)).move (.own rfl)
    have stopped := (((begun.move (.halts rfl)).move (.own rfl)).move (.own rfl)).move (.own rfl)
    have fired := breakpoints _ _ _ _ _ _ _ stopped rfl
      (.tail (.tail (.tail .refl (.own rfl)) (.own rfl)) (.own rfl)) rfl rfl
    exact ⟨_, _, _, _, stopped, rfl, rfl, (fired.resolve_right nofun).2⟩
  · have queued := ((Reached.fresh 1 "main" "system" (loaded 1)).move
      (.submits 1 (.body closure))).move (.submits 2 (.invoke (.method branches trunk none [])))
    have halted := ((queued.move (.own rfl)).move (.own rfl)).move (.halts rfl)
    have ended := (((halted.move (.own rfl)).move (.own rfl)).move (.own rfl)).move (.own rfl)
    have taken := ended.move (.own rfl)
    have fired := forgotten (fun _ => False) _ _ _ _ _ _ _ _ _ taken rfl nofun rfl
      (.tail (.tail .refl (.own rfl)) (.own rfl)) rfl rfl
    exact ⟨_, _, _, _, taken, rfl, rfl, rfl, (fired.resolve_right (by simp)).2⟩

end Watched

end Debugger
