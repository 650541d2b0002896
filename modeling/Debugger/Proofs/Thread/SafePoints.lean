import Debugger.Proofs.Thread.Stepping
/-!
# Where a thread stops

A thread stops of itself at a safe point, and at the end of a task whose exception nobody caught.
`Stepped` leaves open why it stopped. Here the reason is exact: `Thread.Stop` says for each reason
what must have been the case before the step, and `Thread.reachLine_stops` and
`Thread.enter_stops` say that it was enough.

What is asked of a running thread waits until the next suspension, whatever the thread does in the
meantime, as long as the task goes on: `Watched.Onward.waits`. For a halt the two together say where
it takes effect. It does so at the next line that is reported from within a frame. A body that was
given to the thread as it is, and not as a call, has no frame, and the lines it reports pass the
halt by.

## 1. The next safe point

## 2. Stopping at it

## 3. Why a thread stopped

## 4. Requests that wait

## 5. Halting
-/

namespace Debugger

/-! ## 1. The next safe point -/

/-- Whether the next thing that the task does is to report a line. -/
def Position.isLine : Position → Bool
  | running (.line ..) => true
  | _ => false

namespace Worker

/-- Whether a task is in progress. -/
def isBusy : Worker → Bool
  | busy _ => true
  | _ => false

def atLine : Worker → Bool
  | busy a => a.position.isLine
  | _ => false

end Worker

namespace Thread

/-- The safe point that the thread is about to reach, if the next thing it does is to reach one. A
body without a frame reaches none. -/
def location? (t : Thread) : Option BreakpointLocation :=
  match t.worker, t.frames with
  | .busy ⟨_, .running (.line n _), _⟩, f :: _ => some (.line f.className n)
  | .busy ⟨_, .entering _, _⟩, f :: _ => some (.method f.className f.methodName)
  | _, _ => none

/-- Whether a breakpoint fires there. -/
def fires (t : Thread) (s : Shared) : Bool :=
  t.location?.any fun l => (s.breakpoints.pass l).1

variable {t t' : Thread} {a : Activity} {s s' : Shared} {n : Line} {reason : StopReason}
  {next : Except Thrown Unit → Body} {f : Frame} {fs : List Frame}

theorem fires_line (hw : t.worker = .busy a) (hp : a.position = .running (.line n next))
    (hf : t.frames = f :: fs) : t.fires s = (s.breakpoints.pass (.line f.className n)).1 := by
  obtain ⟨call, p, callers⟩ := a
  cases hp
  simp [fires, location?, hw, hf]

theorem fires_entry {body : Body} (hw : t.worker = .busy a) (hp : a.position = .entering body)
    (hf : t.frames = f :: fs) :
    t.fires s = (s.breakpoints.pass (.method f.className f.methodName)).1 := by
  obtain ⟨call, p, callers⟩ := a
  cases hp
  simp [fires, location?, hw, hf]

/-- A breakpoint fires at a line or at an entry, within a frame. -/
theorem fires_cases (h : t.fires s = true) : ∃ a f fs, t.worker = .busy a ∧ t.frames = f :: fs ∧
    ((∃ n next, a.position = .running (.line n next)) ∨ ∃ body, a.position = .entering body) := by
  obtain ⟨l, hl, -⟩ := (Option.any_eq_true _ _).mp h
  unfold location? at hl
  split at hl
  · next hw hf => exact ⟨_, _, _, hw, hf, .inl ⟨_, _, rfl⟩⟩
  · next hw hf => exact ⟨_, _, _, hw, hf, .inr ⟨_, rfl⟩⟩
  · cases hl

/-! ## 2. Stopping at it -/

theorem step_line (hw : t.worker = .busy a) (hp : a.position = .running (.line n next)) :
    t.step s = some (t.reachLine a n next s) := by
  simp only [step, hw, proceed, hp, run]

theorem step_entry {body : Body} (hw : t.worker = .busy a) (hp : a.position = .entering body) :
    t.step s = some (t.enter a body s) := by
  simp only [step, hw, proceed, hp]

/-- Why a living thread stops at a line, when it does. -/
def Wanted (t : Thread) (s : Shared) (reason : StopReason) : Prop :=
  t.stopReason? (t.fires s) = some reason

theorem wanted_breakpoint (h : t.fires s = true) : t.Wanted s .breakpoint := by
  simp [Wanted, stopReason?, h]

theorem wanted_halt (h : t.haltRequested = true) :
    t.Wanted s (if t.fires s then .breakpoint else .halt) := by
  cases hf : t.fires s <;> simp [Wanted, stopReason?, h, hf]

/-- A request that has come to its end stops the thread, unless something else does. -/
theorem wanted_step (h : t.pendingStep.any (·.reached t.frames.length) = true) :
    ∃ reason, t.Wanted s reason := by
  cases hf : t.fires s <;> cases hh : t.haltRequested <;> simp [Wanted, stopReason?, h, hf, hh]

/-- At a line within a frame a thread stops if it has a reason to. -/
theorem reachLine_stops (hw : t.worker = .busy a) (hp : a.position = .running (.line n next))
    (alive : t.status ≠ .terminated) (deep : t.frames ≠ []) (wanted : t.Wanted s reason) :
    ∃ t' s', t.step s = some (t', s') ∧ t'.status = .suspended reason ∧
      t'.worker = .busy { a with position := .atLine next } ∧
      t'.frames.head?.map Frame.line = some n ∧
      s'.events = s.events.push
        (.suspended t.id reason (t'.frames.head?.map Frame.location) none) := by
  obtain ⟨f, fs, hf⟩ := List.exists_cons_of_ne_nil deep
  -- Whether to stop is asked of the thread with its line set, which says the same.
  have why : { t with frames := { f with line := n } :: fs }.stopReason?
      (s.breakpoints.pass (.line f.className n)).1 = some reason := by
    rw [← fires_line hw hp hf, ← wanted]
    simp only [stopReason?, hf, List.length_cons]
  have stops : t.reachLine a n next s =
      ({ t with frames := { f with line := n } :: fs }.goTo a (.atLine next)).suspend reason none
        { s with breakpoints := (s.breakpoints.pass (.line f.className n)).2 } := by
    simp only [reachLine, if_neg alive, hf, why]
  exact ⟨_, _, (step_line hw hp).trans (congrArg some stops), rfl, rfl, rfl, rfl⟩

/-- Without a frame a line has no effect. -/
theorem reachLine_frameless (hw : t.worker = .busy a) (hp : a.position = .running (.line n next))
    (alive : t.status ≠ .terminated) (bare : t.frames = []) :
    t.step s = some (t.goTo a (.running (next (.ok ()))), s) := by
  rw [step_line hw hp]
  simp only [reachLine, if_neg alive, bare]

/-- At the entry of a method a thread stops if a breakpoint fires there. -/
theorem enter_stops {body : Body} (hw : t.worker = .busy a) (hp : a.position = .entering body)
    (alive : t.status ≠ .terminated) (deep : t.frames ≠ []) (fired : t.fires s = true) :
    ∃ t' s', t.step s = some (t', s') ∧ t'.status = .suspended .breakpoint := by
  obtain ⟨f, fs, hf⟩ := List.exists_cons_of_ne_nil deep
  rw [fires_entry hw hp hf] at fired
  have stops : t.enter a body s = (t.goTo a (.atEntry body)).suspend .breakpoint none
      { s with breakpoints := (s.breakpoints.pass (.method f.className f.methodName)).2 } := by
    simp only [enter, if_neg alive, hf, fired, if_true]
  exact ⟨_, _, (step_entry hw hp).trans (congrArg some stops), rfl⟩

/-- **No breakpoint that fires is passed by.** -/
theorem stops_of_fires (alive : t.status ≠ .terminated) (fired : t.fires s = true) :
    ∃ t' s', t.step s = some (t', s') ∧ t'.status = .suspended .breakpoint := by
  obtain ⟨a, f, fs, hw, hf, ⟨n, next, hp⟩ | ⟨body, hp⟩⟩ := fires_cases fired
  · obtain ⟨t', s', step, stopped, -⟩ := reachLine_stops hw hp alive
      (by rw [hf]; exact List.cons_ne_nil _ _) (wanted_breakpoint fired)
    exact ⟨t', s', step, stopped⟩
  · exact enter_stops hw hp alive (by rw [hf]; exact List.cons_ne_nil _ _) fired

/-! ## 3. Why a thread stopped -/

/-- What was the case when a thread stopped for a reason. -/
inductive Stop (t : Thread) (s : Shared) : StopReason → Prop
  | breakpoint (fired : t.fires s = true) : Stop t s .breakpoint
  | halt (here : t.worker.atLine = true) (deep : t.frames ≠ [])
      (asked : t.haltRequested = true) : Stop t s .halt
  | step (here : t.worker.atLine = true) (deep : t.frames ≠ [])
      (reached : t.pendingStep.any (·.reached t.frames.length) = true) : Stop t s .step
  /-- The task has ended in an exception that no body caught. -/
  | exception {a : Activity} {typeName message : String} {frames : List Frame}
      (hw : t.worker = .busy a) (outermost : a.callers = [])
      (thrown : a.position = .running (.done (.error (.exception typeName message frames))))
      (armed : s.breakOnUncaught = true) : Stop t s .exception

theorem Wanted.stop (h : t.Wanted s reason) (here : t.worker.atLine = true)
    (deep : t.frames ≠ []) : Stop t s reason := by
  simp only [Wanted, stopReason?] at h
  split at h
  · next fired =>
    cases h
    exact .breakpoint fired
  · split at h
    · next asked =>
      cases h
      exact .halt here deep asked
    · split at h
      · next reached =>
        cases h
        exact .step here deep reached
      · cases h

theorem ne_suspended (going : t.status.isSuspended = false) : t.status ≠ .suspended reason := by
  intro h
  rw [h] at going
  cases going

theorem reachLine_stop (hw : t.worker = .busy a) (hp : a.position = .running (.line n next))
    (going : t.status.isSuspended = false)
    (hs : (t.reachLine a n next s).1.status = .suspended reason) : Stop t s reason := by
  have was : t.status ≠ .suspended reason := ne_suspended going
  have here : t.worker.atLine = true := by
    rw [hw]
    show a.position.isLine = true
    rw [hp]
    rfl
  by_cases alive : t.status = .terminated
  · rw [reachLine, if_pos alive] at hs
    exact absurd hs was
  cases hf : t.frames with
  | nil =>
    simp only [reachLine, if_neg alive, hf] at hs
    exact absurd hs was
  | cons f fs =>
    have fired := fires_line (s := s) hw hp hf
    simp only [reachLine, if_neg alive, hf, ← fired] at hs
    split at hs
    · next why wanted =>
      cases hs
      refine Wanted.stop (Eq.trans ?_ wanted) here (by rw [hf]; exact List.cons_ne_nil _ _)
      simp only [stopReason?, hf, List.length_cons]
    · exact absurd hs was

theorem enter_stop {body : Body} (hw : t.worker = .busy a) (hp : a.position = .entering body)
    (going : t.status.isSuspended = false)
    (hs : (t.enter a body s).1.status = .suspended reason) : Stop t s reason := by
  have was : t.status ≠ .suspended reason := ne_suspended going
  by_cases alive : t.status = .terminated
  · rw [enter, if_pos alive] at hs
    exact absurd hs was
  cases hf : t.frames with
  | nil =>
    simp only [enter, if_neg alive, hf] at hs
    exact absurd hs was
  | cons f fs =>
    have fired := fires_entry (s := s) hw hp hf
    simp only [enter, if_neg alive, hf, ← fired] at hs
    split at hs
    · next fired =>
      cases hs
      exact .breakpoint fired
    · exact absurd hs was

theorem invoke_status (i : Invocation) (next : Except Thrown Value → Body) :
    (t.invoke a i next s).1.status = t.status := by
  cases i with
  | method => rfl
  | construct c constructor args => cases constructor <;> rfl

/-- A body stops its thread at a line, or with the exception it ends in. -/
theorem run_stop {body : Body} (hw : t.worker = .busy a) (hp : a.position = .running body)
    (going : t.status.isSuspended = false)
    (hs : (t.run a body s).1.status = .suspended reason) : Stop t s reason := by
  have was : t.status ≠ .suspended reason := ne_suspended going
  cases body with
  | panic | park | note => exact absurd hs was
  | line n next => exact reachLine_stop hw hp going hs
  | ask q next =>
    rcases hq : t.answer s q with ⟨reply, t', s'⟩
    obtain ⟨fs, rfl, -⟩ := answer_kept hq
    simp only [run, hq] at hs
    exact absurd hs was
  | call c next =>
    simp only [run] at hs
    split at hs
    · rw [invoke_status] at hs
      exact absurd hs was
    · exact absurd hs was
  | done result =>
    cases hc : a.callers with
    | cons next callers =>
      simp only [run, hc] at hs
      exact absurd hs was
    | nil =>
      simp only [run, hc] at hs
      cases result with
      | ok v => exact absurd hs was
      | error thrown =>
        cases thrown with
        | threadDeath => exact absurd hs was
        | exception typeName message frames =>
          simp only [conclude] at hs
          split at hs
          · next armed =>
            split at hs
            · exact absurd hs was
            · cases hs
              exact .exception hw hc hp armed
          · exact absurd hs was

/-- **A thread that stops has a reason to.** -/
theorem step_stop (going : t.status.isSuspended = false) (h : t.step s = some (t', s'))
    (hs : t'.status = .suspended reason) : Stop t s reason := by
  have was : t'.status ≠ t.status := by
    intro same
    rw [← same, hs] at going
    cases going
  unfold step at h
  cases hw : t.worker with
  | waiting =>
    rw [hw] at h
    dsimp only at h
    split at h <;> cases h <;> exact absurd rfl was
  | holding call task =>
    rw [hw] at h
    simp only [«begin»] at h
    split at h
    · cases h
      exact absurd rfl was
    · cases h
      cases hs
  | ended call outcome =>
    rw [hw] at h
    cases h
    simp only [finish] at hs
    split at hs <;> cases hs
  | telling call outcome =>
    rw [hw] at h
    cases h
    exact absurd rfl was
  | exited =>
    rw [hw] at h
    cases h
  | busy a =>
    rw [hw] at h
    simp only [proceed] at h
    cases hp : a.position with
    | starting i =>
      rw [hp] at h
      have := invoke_status (t := t) (a := a) (s := s) i .done
      rw [Option.some.inj h] at this
      exact absurd this was
    | running body =>
      rw [hp] at h
      have ran := Option.some.inj h
      exact run_stop hw hp going (by rw [ran]; exact hs)
    | entering body =>
      rw [hp] at h
      have ran := Option.some.inj h
      exact enter_stop hw hp going (by rw [ran]; exact hs)
    | atLine next =>
      rw [hp] at h
      dsimp only at h
      split at h <;> cases h <;> exact absurd rfl was
    | atEntry body =>
      rw [hp] at h
      dsimp only at h
      split at h <;> cases h <;> exact absurd rfl was
    | atException d =>
      rw [hp] at h
      dsimp only at h
      split at h <;> cases h <;> exact absurd rfl was
    | parked next =>
      rw [hp] at h
      cases h

/-! ## 4. Requests that wait -/

/-- While a task goes on, what was asked of its thread stays asked. -/
theorem Stepped.waits (h : Stepped t s t' s') (busy : t.worker.isBusy = true)
    (on : t'.status.isSuspended = false) :
    t'.pendingStep = t.pendingStep ∧ t'.haltRequested = t.haltRequested := by
  cases h with
  | takes free | exits free =>
    rw [free] at busy
    cases busy
  | refuses held | begins held =>
    rw [held] at busy
    cases busy
  | finishes ended | tells ended =>
    rw [ended] at busy
    cases busy
  | proceeds _ progress =>
    cases progress with
    | within | calls | returns | ends => exact ⟨rfl, rfl⟩
    | stops | shows => cases on

end Thread

namespace Watched

variable {x y z : Watched} {ys : List Watched}

/-- A task is in progress and may go on. -/
structure Underway (w : Watched) : Prop where
  busy : w.thread.worker.isBusy = true
  alive : w.thread.status ≠ .terminated

theorem Move.waits (m : Move y z) (busy : y.thread.worker.isBusy = true)
    (going : y.thread.status.isSuspended = false) (on : z.thread.status.isSuspended = false)
    (alive : z.thread.status ≠ .terminated) :
    z.thread.pendingStep = y.thread.pendingStep ∧
      (y.thread.haltRequested = true → z.thread.haltRequested = true) := by
  cases m with
  | own step =>
    obtain ⟨pending, halt⟩ := (Thread.step_stepped step).waits busy on
    exact ⟨pending, fun asked => halt.trans asked⟩
  | submits call task =>
    rcases y.thread.submit_cases call task y.shared with same | same
    · rw [same]
      exact ⟨rfl, id⟩
    · rw [same]
      exact ⟨rfl, id⟩
  | resumes granted =>
    obtain ⟨reason, stopped, -⟩ := Thread.resume_ok granted
    rw [stopped] at going
    cases going
  | halts granted =>
    obtain ⟨-, rfl | rfl⟩ := Thread.halt_ok granted
    · exact ⟨rfl, id⟩
    · exact ⟨rfl, fun _ => rfl⟩
  | terminates =>
    rcases y.thread.terminate_cases y.shared with same | same
    · rw [same]
      exact ⟨rfl, id⟩
    · rw [same] at alive
      exact absurd rfl alive
  | unparks granted =>
    obtain ⟨a, next, -, -, rfl⟩ := Thread.unpark?_some granted
    exact ⟨rfl, id⟩
  | elsewhere => exact ⟨rfl, id⟩

/-- **What was asked of a thread waits as long as the task goes on without a stop.** -/
theorem Onward.waits (run : Onward x ys y) (task : ∀ w ∈ ys ++ [y], Underway w)
    (going : y.thread.status.isSuspended = false) :
    y.thread.pendingStep = x.thread.pendingStep ∧
      (x.thread.haltRequested = true → y.thread.haltRequested = true) := by
  induction run with
  | start => exact ⟨rfl, id⟩
  | @move ys y z before free m ih =>
    have earlier : ∀ w ∈ ys ++ [y], Underway w :=
      fun w hw => task w (List.mem_append_left _ hw)
    have here := earlier y (List.mem_append_right _ (List.mem_singleton_self y))
    have there := task z (List.mem_append_right _ (List.mem_singleton_self z))
    obtain ⟨pending, halt⟩ := ih earlier free
    obtain ⟨pending', halt'⟩ := m.waits here.busy free going there.alive
    exact ⟨pending'.trans pending, fun asked => halt' (halt asked)⟩

/-! ## 5. Halting -/

/-- **Where a halt takes effect.** Let a running thread be halted, and let its task go on from there
without a stop. Then the halt still waits. At the next line that is reported from within a frame the
thread stops, whatever else it may stop there for; a line that is reported from no frame changes
nothing. If the thread stops elsewhere, a breakpoint fired at the entry of a method, or the task is
over and shows its exception. -/
theorem halt_takes_effect {t : Thread} (running : x.thread.status = .running)
    (granted : x.thread.halt = .ok t) (run : Onward { x with thread := t } ys y)
    (task : ∀ w ∈ ys ++ [y], Underway w) (going : y.thread.status.isSuspended = false) :
    y.thread.haltRequested = true ∧
    (∀ a n next, y.thread.worker = .busy a → a.position = .running (.line n next) →
      if y.thread.frames = [] then
        y.thread.step y.shared = some (y.thread.goTo a (.running (next (.ok ()))), y.shared)
      else ∃ t' s', y.thread.step y.shared = some (t', s') ∧
        t'.status = .suspended (if y.thread.fires y.shared then .breakpoint else .halt) ∧
        t'.worker = .busy { a with position := .atLine next } ∧
        t'.frames.head?.map Frame.line = some n) ∧
    (∀ t' s' reason, y.thread.step y.shared = some (t', s') → t'.status = .suspended reason →
      y.thread.worker.atLine = false →
      (reason = .breakpoint ∧ y.thread.fires y.shared = true) ∨ reason = .exception) := by
  have alive : y.thread.status ≠ .terminated :=
    (task y (List.mem_append_right _ (List.mem_singleton_self y))).alive
  have asked : t.haltRequested = true := by
    simp only [Thread.halt, running] at granted
    cases granted
    rfl
  have waits : y.thread.haltRequested = true := (run.waits task going).2 asked
  refine ⟨waits, ?_, ?_⟩
  · intro a n next hw hp
    split
    · next bare => exact Thread.reachLine_frameless hw hp alive bare
    · next deep =>
      obtain ⟨t', s', step, stopped, here, line, -⟩ :=
        Thread.reachLine_stops hw hp alive deep (Thread.wanted_halt waits)
      exact ⟨t', s', step, stopped, here, line⟩
  · intro t' s' reason step stopped elsewhere
    cases Thread.step_stop going step stopped with
    | breakpoint fired => exact .inl ⟨rfl, fired⟩
    | halt here | step here => exact absurd (elsewhere.symm.trans here) Bool.false_ne_true
    | exception => exact .inr rfl

/-- A thread that is about to call a method with one line. -/
def calling : Watched where
  thread :=
    { id := 1
      name := "main"
      group := "system"
      status := .running
      worker := .busy ⟨1, .starting (.method branches (leaf "f" 10) none []), []⟩ }
  shared := loaded 1
  now := 2

/-- A method that is halted before its line stops at it. -/
theorem halted_method_stops :
    ∃ (t : Thread) (ys : List Watched) (y : Watched) (t' : Thread) (s' : Shared),
      Reached calling ∧ calling.thread.halt = .ok t ∧
      Onward { calling with thread := t } ys y ∧ y.thread.step y.shared = some (t', s') ∧
      t'.status = .suspended .halt ∧ t'.frames.head?.map Frame.line = some 10 := by
  have task := (Reached.fresh 1 "main" "system" (loaded 1)).move
    (.submits 1 (.invoke (.method branches (leaf "f" 10) none [])))
  have called : Reached calling := (task.move (.own rfl)).move (.own rfl)
  have run : Onward { calling with thread := { calling.thread with haltRequested := true } } _ _ :=
    .move (.move .start rfl (.own rfl)) rfl (.own rfl)
  have effect := halt_takes_effect rfl rfl run
    (by
      intro w hw
      simp only [List.nil_append, List.cons_append, List.mem_cons, List.not_mem_nil,
        or_false] at hw
      rcases hw with rfl | rfl | rfl <;> exact ⟨rfl, nofun⟩)
    rfl
  obtain ⟨t', s', step, stopped, -, line⟩ := effect.2.1 _ _ _ rfl rfl
  exact ⟨_, _, _, t', s', called, rfl, run, step, stopped, line⟩

/-- A body without a frame that reports a line. -/
def closure : Body := .line 1 fun r => .done (r.map fun () => .void)

/-- **A halt passes by a line that no frame reports.** -/
theorem halt_misses_frameless_line :
    ¬∀ x t ys y, Reached x → x.thread.status = .running → x.thread.halt = .ok t →
      Onward { x with thread := t } ys y → (∀ w ∈ ys ++ [y], Underway w) →
      y.thread.status.isSuspended = false → y.thread.worker.atLine = true →
      ∃ t' s' reason, y.thread.step y.shared = some (t', s') ∧ t'.status = .suspended reason := by
  intro claim
  have task := (Reached.fresh 1 "main" "system" {}).move (.submits 1 (.body closure))
  have begun := (task.move (.own rfl)).move (.own rfl)
  obtain ⟨t', s', reason, step, stopped⟩ := claim _ _ [] _ begun rfl rfl .start
    (by
      intro w hw
      rw [List.mem_singleton.mp hw]
      exact ⟨rfl, nofun⟩)
    rfl rfl
  cases step
  cases stopped

end Watched

end Debugger
