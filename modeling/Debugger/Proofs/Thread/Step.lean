import Debugger.Debuggee.Machine
/-!
# What a thread does in one step

`Thread.step` is spread over a dozen functions, one for each place a task can be at. This file says
once what all of them together can do, so that an invariant of threads is a case analysis over a
handful of changes and never opens the machine again.

* `Progress` is what a thread does about its task: it goes on within the same frames, pushes one,
  pops one, stops at a safe point, shows an exception, or ends the task.
* `Stepped` is a whole step: the same, or one of the moves between two tasks.

Both are upper bounds, `Thread.proceed_progress` and `Thread.step_stepped`. They leave open what a
body computes, and they are exact about control: status, pending step, inbox, the call that is
under way, how many frames there are, and which callers have been told.

## 1. Stacks and places

## 2. Progress of a task

## 3. A step of a thread

## 4. Balance

A frame is live for every call the task has made and not left. The one exception is an exception:
while it is shown, the stack is the one it was raised with.

## 5. What a controller does

## 6. Calls

Most of what happens to a thread leaves the calls it owes an answer to where they are.
-/

namespace Debugger

/-! ## 1. Stacks and places -/

/-- Two stacks of the same height that differ in the innermost frame at most. -/
structure KeepsStack (fs fs' : List Frame) : Prop where
  length_eq : fs'.length = fs.length
  tail_eq : fs'.tail = fs.tail

theorem KeepsStack.refl (fs : List Frame) : KeepsStack fs fs := ⟨rfl, rfl⟩

theorem KeepsStack.cons (f f' : Frame) (fs : List Frame) : KeepsStack (f :: fs) (f' :: fs) :=
  ⟨rfl, rfl⟩

namespace Position

/-- Whether the thread shows an exception that no body caught. -/
def isException : Position → Bool
  | atException _ => true
  | _ => false

/-- Whether the task is where it stopped, or about to go on from there. -/
def isStop : Position → Bool
  | atLine _ | atEntry _ | atException _ => true
  | _ => false

end Position

namespace Worker

/-- The call of a task that was taken and not begun. -/
def held : Worker → List CallId
  | holding call _ => [call]
  | _ => []

/-- The call of a task that was begun and whose caller has not been told. -/
def underway : Worker → List CallId
  | busy a => [a.call]
  | ended call _ => [call]
  | telling call _ => [call]
  | _ => []

def isStopped : Worker → Bool
  | busy a => a.position.isStop
  | _ => false

end Worker

namespace Thread

/-! ## 2. Progress of a task -/

/-- What a thread can do about its task in one step. -/
inductive Progress (t : Thread) (a : Activity) (s : Shared) : Thread → Shared → Prop
  /-- Goes on in the frame it is in. -/
  | within {p : Position} {fs : List Frame} {s' : Shared}
      (inside : a.position.isException = false) (quiet : p.isException = false)
      (stack : KeepsStack t.frames fs) (told : s'.completed = s.completed) :
      Progress t a s
        { t with frames := fs, worker := .busy { a with position := p } } s'
  /-- Makes a call. -/
  | calls {f : Frame} {body : Body} {next : Except Thrown Value → Body} {s' : Shared}
      (inside : a.position.isException = false) (told : s'.completed = s.completed) :
      Progress t a s
        { t with
          frames := f :: t.frames
          worker := .busy ⟨a.call, .entering body, next :: a.callers⟩ } s'
  /-- Leaves a call. -/
  | returns {p : Position} {next : Except Thrown Value → Body}
      {callers : List (Except Thrown Value → Body)}
      (inside : a.position.isException = false) (quiet : p.isException = false)
      (made : a.callers = next :: callers) :
      Progress t a s
        { t with frames := t.frames.tail, worker := .busy ⟨a.call, p, callers⟩ } s
  /-- Stops at a line or at an entry. -/
  | stops {p : Position} {fs : List Frame} {reason : StopReason} {s' : Shared}
      (inside : a.position.isException = false) (here : p.isStop = true)
      (alive : t.status ≠ .terminated) (stack : KeepsStack t.frames fs)
      (deep : t.frames ≠ []) (ordinary : reason ≠ .exception)
      (reached : reason = .step → t.pendingStep.any (·.reached t.frames.length) = true)
      (told : s'.completed = s.completed) :
      Progress t a s
        { t with
          frames := fs
          status := .suspended reason
          pendingStep := none
          haltRequested := false
          worker := .busy { a with position := p } } s'
  /-- Stops to show an exception that nobody caught. -/
  | shows {d : ExceptionDescription} {fs : List Frame} {s' : Shared}
      (inside : a.position.isException = false) (alive : t.status ≠ .terminated)
      (made : a.callers = []) (told : s'.completed = s.completed) :
      Progress t a s
        { t with
          frames := fs
          status := .suspended .exception
          pendingStep := none
          haltRequested := false
          worker := .busy { a with position := .atException d } } s'
  /-- Ends the task. -/
  | ends {fs : List Frame} {outcome : Outcome} {s' : Shared} (told : s'.completed = s.completed) :
      Progress t a s { t with frames := fs, worker := .ended a.call outcome } s'

variable {t t' : Thread} {a : Activity} {s s' : Shared}

theorem box_completed (s : Shared) (p : Primitive) : (s.box p).2.completed = s.completed := by
  unfold Shared.box
  cases s.class? p.kind.holderClass with
  | none => rfl
  | some c =>
    dsimp only
    cases (s.heap.allocate c).2.setField? (s.heap.allocate c).1.id "value" (.primitive p) <;> rfl

theorem adapt_completed (v : Value) (s : Shared) : (adapt v s).2.completed = s.completed := by
  cases v with
  | null | void | object o => rfl
  | primitive p =>
    have h := box_completed s p
    simp only [adapt]
    cases hb : s.box p with
    | mk holder s' =>
      rw [hb] at h
      cases holder <;> exact h

/-- A query reads or writes the innermost frame or the heap, and nothing else. -/
theorem answer_kept {q : Query} {reply : q.Answer} (h : t.answer s q = (reply, t', s')) :
    ∃ fs, t' = { t with frames := fs } ∧ KeepsStack t.frames fs ∧
      s'.completed = s.completed := by
  cases q with
  | setLocal name value =>
    simp only [answer] at h
    split at h
    · cases h
      exact ⟨t.frames, rfl, .refl _, rfl⟩
    · next f fs hf =>
      cases h
      exact ⟨_, rfl, hf ▸ .cons .., rfl⟩
  | setField object name value =>
    simp only [answer] at h
    split at h <;> cases h <;> exact ⟨t.frames, rfl, .refl _, rfl⟩
  | setStaticField className field value =>
    simp only [answer] at h
    split at h <;> cases h <;> exact ⟨t.frames, rfl, .refl _, rfl⟩
  | receiver | depth | frames | readLocal | field | staticField | newString | stringOf =>
    cases h
    exact ⟨t.frames, rfl, .refl _, rfl⟩

theorem invoke_progress (inside : a.position.isException = false) (i : Invocation)
    (next : Except Thrown Value → Body) :
    Progress t a s (t.invoke a i next s).1 (t.invoke a i next s).2 := by
  cases i with
  | method c m receiver args => exact .calls inside rfl
  | construct c constructor args =>
    cases constructor with
    | none => exact .within inside rfl (.refl _) rfl
    | some m => exact .calls inside rfl

theorem stopReason?_step {hit : Bool} (h : t.stopReason? hit = some .step) :
    t.pendingStep.any (·.reached t.frames.length) = true := by
  unfold stopReason? at h
  split at h
  · cases h
  · split at h
    · cases h
    · split at h
      · assumption
      · cases h

theorem stopReason?_ordinary {hit : Bool} {reason : StopReason}
    (h : t.stopReason? hit = some reason) : reason ≠ .exception := by
  unfold stopReason? at h
  rintro rfl
  split at h
  · cases h
  · split at h
    · cases h
    · split at h <;> cases h

theorem reachLine_progress (inside : a.position.isException = false) (n : Line)
    (next : Except Thrown Unit → Body) :
    Progress t a s (t.reachLine a n next s).1 (t.reachLine a n next s).2 := by
  unfold reachLine
  by_cases ht : t.status = .terminated
  · rw [if_pos ht]
    exact .within inside rfl (.refl _) rfl
  rw [if_neg ht]
  cases hf : t.frames with
  | nil => exact .within inside rfl (.refl _) rfl
  | cons f fs =>
    have kept : KeepsStack t.frames ({ f with line := n } :: fs) := hf ▸ .cons ..
    dsimp only
    split
    · next reason hr =>
      refine .stops inside rfl ht kept (by rw [hf]; exact List.cons_ne_nil _ _)
        (stopReason?_ordinary hr) ?_ rfl
      rintro rfl
      have hr := stopReason?_step hr
      rwa [hf]
    · exact .within inside rfl kept rfl

theorem enter_progress (inside : a.position.isException = false) (body : Body) :
    Progress t a s (t.enter a body s).1 (t.enter a body s).2 := by
  unfold enter
  by_cases ht : t.status = .terminated
  · rw [if_pos ht]
    exact .within inside rfl (.refl _) rfl
  rw [if_neg ht]
  cases hf : t.frames with
  | nil => exact .within inside rfl (.refl _) rfl
  | cons f fs =>
    dsimp only
    split
    · exact .stops inside rfl ht (.refl _) (by rw [hf]; exact List.cons_ne_nil _ _) (by simp)
        (by simp) rfl
    · exact .within inside rfl (.refl _) rfl

theorem conclude_progress (inside : a.position.isException = false) (made : a.callers = [])
    (result : Except Thrown Value) :
    Progress t a s (t.conclude a result s).1 (t.conclude a result s).2 := by
  cases result with
  | ok v => exact .ends (adapt_completed v s)
  | error thrown =>
    cases thrown with
    | threadDeath => exact .ends rfl
    | exception typeName message frames =>
      simp only [conclude]
      split
      · split
        · exact .ends rfl
        · next ht => exact .shows inside ht made rfl
      · exact .ends rfl

theorem run_progress (inside : a.position.isException = false) (body : Body) :
    Progress t a s (t.run a body s).1 (t.run a body s).2 := by
  cases body with
  | done result =>
    simp only [run]
    cases hc : a.callers with
    | nil => exact conclude_progress inside hc result
    | cons next callers => exact .returns inside rfl hc
  | panic message => exact .within inside rfl (.refl _) rfl
  | ask q next =>
    rcases hq : t.answer s q with ⟨reply, t', s'⟩
    obtain ⟨fs, rfl, kept, told⟩ := answer_kept hq
    simp only [run, hq]
    exact .within inside rfl kept told
  | line n next => exact reachLine_progress inside n next
  | call c next =>
    simp only [run]
    cases s.resolve c with
    | ok i => exact invoke_progress inside i next
    | error e => exact .within inside rfl (.refl _) rfl
  | park next => exact .within inside rfl (.refl _) rfl
  | note n next => exact .within inside rfl (.refl _) rfl

theorem Progress.of_eq {r : Thread × Shared} (p : Progress t a s r.1 r.2)
    (h : some r = some (t', s')) : Progress t a s t' s' := by
  cases h
  exact p

/-- **Everything a thread can do about its task.** -/
theorem proceed_progress (h : t.proceed a s = some (t', s')) : Progress t a s t' s' := by
  unfold proceed at h
  cases hp : a.position with
  | starting i =>
    rw [hp] at h
    exact (invoke_progress (by rw [hp]; rfl) i _).of_eq h
  | running body =>
    rw [hp] at h
    exact (run_progress (by rw [hp]; rfl) body).of_eq h
  | entering body =>
    rw [hp] at h
    exact (enter_progress (by rw [hp]; rfl) body).of_eq h
  | atLine next =>
    rw [hp] at h
    have inside : a.position.isException = false := by rw [hp]; rfl
    dsimp only at h
    split at h <;> cases h <;> exact .within inside rfl (.refl _) rfl
  | atEntry body =>
    rw [hp] at h
    have inside : a.position.isException = false := by rw [hp]; rfl
    dsimp only at h
    split at h <;> cases h <;> exact .within inside rfl (.refl _) rfl
  | atException d =>
    rw [hp] at h
    dsimp only at h
    split at h <;> cases h <;> exact .ends rfl
  | parked next =>
    rw [hp] at h
    cases h

/-! ## 3. A step of a thread -/

/-- What a thread can do in one step. -/
inductive Stepped (t : Thread) (s : Shared) : Thread → Shared → Prop
  /-- Takes a task out of the inbox. -/
  | takes {call : CallId} {task : Task} {rest : List Message}
      (free : t.worker = .waiting) (first : t.inbox = .run call task :: rest) :
      Stepped t s { t with inbox := rest, worker := .holding call task } s
  | exits {rest : List Message}
      (free : t.worker = .waiting) (first : t.inbox = .shutdown :: rest) :
      Stepped t s { t with inbox := rest, worker := .exited } s
  /-- Gives back a task it took and may not begin any more. -/
  | refuses {call : CallId} {task : Task}
      (held : t.worker = .holding call task) (dead : t.status = .terminated) :
      Stepped t s { t with worker := .waiting } (s.complete call .terminated)
  | begins {call : CallId} {task : Task} {p : Position}
      (held : t.worker = .holding call task) (alive : t.status ≠ .terminated)
      (quiet : p.isException = false) :
      Stepped t s
        { t with
          status := .running
          frames := []
          pendingStep := none
          haltRequested := false
          worker := .busy ⟨call, p, []⟩ } s
  | proceeds {a : Activity} {t' : Thread} {s' : Shared}
      (busy : t.worker = .busy a) (progress : Progress t a s t' s') : Stepped t s t' s'
  | finishes {call : CallId} {outcome : Outcome} (ended : t.worker = .ended call outcome) :
      Stepped t s (t.finish call outcome) s
  | tells {call : CallId} {outcome : Outcome} (ended : t.worker = .telling call outcome) :
      Stepped t s { t with worker := .waiting } (s.complete call outcome)

theorem begin_stepped {call : CallId} {task : Task} (held : t.worker = .holding call task) :
    Stepped t s (t.begin call task s).1 (t.begin call task s).2 := by
  unfold «begin»
  by_cases ht : t.status = .terminated
  · rw [if_pos ht]
    exact .refuses held ht
  · rw [if_neg ht]
    cases task <;> exact .begins held ht rfl

/-- **Everything a thread can do.** -/
theorem step_stepped (h : t.step s = some (t', s')) : Stepped t s t' s' := by
  unfold step at h
  cases hw : t.worker with
  | waiting =>
    rw [hw] at h
    dsimp only at h
    split at h
    · cases h
    · next first =>
      cases h
      exact .takes hw first
    · next first =>
      cases h
      exact .exits hw first
  | holding call task =>
    rw [hw] at h
    have stepped : Stepped t s _ _ := begin_stepped hw
    rw [Option.some.inj h] at stepped
    exact stepped
  | busy a =>
    rw [hw] at h
    exact .proceeds hw (proceed_progress h)
  | ended call outcome =>
    rw [hw] at h
    cases h
    exact .finishes hw
  | telling call outcome =>
    rw [hw] at h
    cases h
    exact .tells hw
  | exited =>
    rw [hw] at h
    cases h

/-! ## 4. Balance -/

/-- The stack has one frame for each call that the task has made and not left. A terminated thread
has lost its stack, and one that shows an exception has it replaced. -/
def Balanced (t : Thread) : Prop :=
  t.status ≠ .terminated → ∀ a, t.worker = .busy a → a.position.isException = false →
    t.frames.length = a.callers.length

theorem Progress.balanced (p : Progress t a s t' s') (hw : t.worker = .busy a)
    (hb : t.Balanced) : t'.Balanced := by
  intro alive' b hb' quiet'
  cases p with
  | within inside quiet stack told =>
    cases hb'
    exact stack.length_eq.trans (hb alive' a hw inside)
  | calls inside told =>
    cases hb'
    exact congrArg (· + 1) (hb alive' a hw inside)
  | returns inside quiet made =>
    cases hb'
    have h := hb alive' a hw inside
    rw [made, List.length_cons] at h
    rw [List.length_tail, h]
    rfl
  | stops inside here alive stack deep ordinary reached told =>
    cases hb'
    exact stack.length_eq.trans (hb alive a hw inside)
  | shows inside alive made told =>
    cases hb'
    cases quiet'
  | ends told => cases hb'

theorem Stepped.balanced (h : Stepped t s t' s') (hb : t.Balanced) : t'.Balanced := by
  cases h with
  | proceeds busy progress => exact progress.balanced busy hb
  | begins held alive quiet =>
    intro _ a ha _
    cases ha
    rfl
  | takes | exits | refuses | finishes | tells =>
    intro _ a ha
    cases ha

/-! ## 5. What a controller does -/

theorem resume_ok {kind : Option StepKind} (h : t.resume kind s = .ok (t', s')) :
    ∃ reason, t.status = .suspended reason ∧
      t' = { t with
        status := .running
        pendingStep := kind.map fun kind => ⟨kind, t.frames.length⟩ } ∧
      s' = s.emit (.resumed t.id) := by
  unfold resume at h
  split at h
  · next reason hs =>
    cases h
    exact ⟨reason, hs, rfl, rfl⟩
  · cases h
  · cases h

theorem halt_ok (h : t.halt = .ok t') :
    t.status ≠ .terminated ∧ (t' = t ∨ t' = { t with haltRequested := true }) := by
  unfold halt at h
  split at h
  · next hs =>
    cases h
    exact ⟨by rw [hs]; simp, .inr rfl⟩
  · cases h
  · next hs =>
    cases h
    exact ⟨hs, .inl rfl⟩

theorem unpark?_some (h : t.unpark? = some t') :
    ∃ a next, t.worker = .busy a ∧ a.position = .parked next ∧
      t' = { t with worker := .busy { a with position := .running (next ()) } } := by
  unfold unpark? at h
  split at h
  · next a hw =>
    split at h
    · next next hp =>
      cases h
      exact ⟨a, next, hw, hp, rfl⟩
    · cases h
  · cases h

theorem terminate_cases (t : Thread) (s : Shared) :
    t.terminate s = (t, s) ∨ (t.terminate s).1 =
      { t with status := .terminated, frames := [], pendingStep := none, inbox := [.shutdown] } := by
  unfold terminate
  by_cases ht : t.status = .terminated
  · rw [if_pos ht]
    exact .inl rfl
  · rw [if_neg ht]
    exact .inr rfl

theorem submit_cases (t : Thread) (call : CallId) (task : Task) (s : Shared) :
    (t.submit call task s).1 = t ∨
      (t.submit call task s).1 = { t with inbox := t.inbox ++ [.run call task] } := by
  unfold submit
  by_cases ht : t.status = .terminated
  · rw [if_pos ht]
    exact .inl rfl
  · rw [if_neg ht]
    exact .inr rfl

theorem resume_balanced {kind : Option StepKind} (h : t.resume kind s = .ok (t', s'))
    (hb : t.Balanced) : t'.Balanced := by
  obtain ⟨reason, hs, rfl, -⟩ := resume_ok h
  intro _ a hw inside
  exact hb (by rw [hs]; exact nofun) a hw inside

theorem halt_balanced (h : t.halt = .ok t') (hb : t.Balanced) : t'.Balanced := by
  obtain ⟨-, rfl | rfl⟩ := halt_ok h
  · exact hb
  · exact hb

theorem unpark?_balanced (h : t.unpark? = some t') (hb : t.Balanced) : t'.Balanced := by
  obtain ⟨a, next, hw, hp, rfl⟩ := unpark?_some h
  intro alive b hb' _
  cases hb'
  exact hb alive a hw (by rw [hp]; rfl)

theorem terminate_balanced (s : Shared) (hb : t.Balanced) : (t.terminate s).1.Balanced := by
  rcases t.terminate_cases s with h | h
  · rw [h]
    exact hb
  · rw [h]
    intro alive
    exact absurd rfl alive

theorem submit_balanced (call : CallId) (task : Task) (s : Shared) (hb : t.Balanced) :
    (t.submit call task s).1.Balanced := by
  rcases t.submit_cases call task s with h | h
  · rw [h]
    exact hb
  · rw [h]
    exact hb

/-! ## 6. Calls -/

/-- The thread owes the same answers as before, and it is as dead or alive as before. -/
structure KeepsCalls (t t' : Thread) : Prop where
  inbox : t'.inbox = t.inbox
  dead : t'.status = .terminated ↔ t.status = .terminated
  held : t'.worker.held = t.worker.held
  underway : t'.worker.underway = t.worker.underway
  here : t'.worker = .exited ↔ t.worker = .exited

theorem Progress.keepsCalls (p : Progress t a s t' s') (hw : t.worker = .busy a) :
    t.KeepsCalls t' := by
  cases p with
  | within | calls | returns | ends =>
    exact ⟨rfl, Iff.rfl, by rw [hw]; rfl, by rw [hw]; rfl, by simp [hw]⟩
  | stops _ _ alive | shows _ alive =>
    exact ⟨rfl, by simp [alive], by rw [hw]; rfl, by rw [hw]; rfl, by simp [hw]⟩

theorem Progress.completed_eq (p : Progress t a s t' s') : s'.completed = s.completed := by
  cases p with
  | returns => rfl
  | within _ _ _ told | calls _ told | stops _ _ _ _ _ _ _ told | shows _ _ _ told | ends told =>
    exact told

theorem finish_keepsCalls {call : CallId} {outcome : Outcome}
    (hw : t.worker = .ended call outcome) : t.KeepsCalls (t.finish call outcome) where
  inbox := rfl
  dead := by
    simp only [finish]
    split <;> simp_all
  held := by rw [hw]; rfl
  underway := by rw [hw]; rfl
  here := by simp [finish, hw]

theorem resume_keepsCalls {kind : Option StepKind} (h : t.resume kind s = .ok (t', s')) :
    t.KeepsCalls t' := by
  obtain ⟨reason, hs, rfl, -⟩ := resume_ok h
  exact ⟨rfl, by simp [hs], rfl, rfl, Iff.rfl⟩

theorem halt_keepsCalls (h : t.halt = .ok t') : t.KeepsCalls t' := by
  obtain ⟨-, rfl | rfl⟩ := halt_ok h <;> exact ⟨rfl, Iff.rfl, rfl, rfl, Iff.rfl⟩

theorem unpark?_keepsCalls (h : t.unpark? = some t') : t.KeepsCalls t' := by
  obtain ⟨a, next, hw, -, rfl⟩ := unpark?_some h
  exact ⟨rfl, Iff.rfl, by rw [hw]; rfl, by rw [hw]; rfl, by simp [hw]⟩

end Thread

end Debugger
