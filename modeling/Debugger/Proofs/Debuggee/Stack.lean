import Debugger.Proofs.Debuggee.Counters
/-!
# Calls leave the stack as they found it

A debuggee has one stack for each thread, and everything that is shown of a stopped thread is read off
it: where it stands, its variables, how far a step over may go. So a call must take away the frame it
pushed, however it is left, and must not touch the frames below.

A `Staged` is a thread together with the calls that its task has made and not left. What becomes of
these is read off the requests of the bodies, not off the frames, so that it can be held against them.

* `Staged.Turn` - what one step does to the frames, the calls and the callers of a task.
* `Staged.Faithful` - one frame for each call, with the line that was last reported in it.
* `Staged.Inside` - within a call, the frames of its caller stand below the ones pushed since.
* `Staged.calls_leave_the_stack` - when a call is left, they are the whole stack again.

## 1. Activations

## 2. A thread on the stage

## 3. One step of a task

## 4. The stack is the stack of calls

## 5. Within a call
-/

namespace Debugger

/-! ## 1. Activations -/

/-- A call that a task has made and not left, and the line that was reported in it last. -/
structure Activation where
  classDef : ClassDef
  method : Method
  reported : Option Line := none

namespace Activation

def report (n : Line) (c : Activation) : Activation := { c with reported := some n }

/-- Where the frame of the call stands. -/
def shown (c : Activation) : SourceLocation :=
  ⟨c.classDef.name, c.classDef.sourceFile, c.method.name, c.reported.getD c.method.firstLine⟩

end Activation

/-- The call that is made of a resolved target; there is none where an object needs no constructor. -/
def Invocation.activations : Invocation → List Activation
  | method c m _ _ => [⟨c, m, none⟩]
  | construct c (some m) _ => [⟨c, m, none⟩]
  | construct _ none _ => []

/-- How the task goes on after the call that it is about to make. -/
def Position.calling? : Position → Option (Except Thrown Value → Body)
  | starting _ => some .done
  | running (.call _ next) => some next
  | _ => none

namespace Worker

/-- Whether the thread is between two tasks. -/
def isFree : Worker → Bool
  | waiting | holding .. | telling .. | exited => true
  | busy _ | ended .. => false

end Worker

/-- What a controller does to the stack and the way on of a thread: a terminated thread loses its
stack, and one at the gate goes on. -/
theorem Vm.Asked.stack {t t' : Thread} {s s' : Shared} (asked : Vm.Asked t s t' s') :
    (t'.frames = t.frames ∨ t'.status = .terminated ∧ t'.frames = []) ∧
      (t'.worker = t.worker ∨ ∃ call next callers, t.worker = .busy ⟨call, .parked next, callers⟩ ∧
        t'.worker = .busy ⟨call, .running (next ()), callers⟩) := by
  cases asked with
  | submits call task =>
    rcases t.submit_cases call task s with same | queued
    · rw [same]
      exact ⟨.inl rfl, .inl rfl⟩
    · rw [queued]
      exact ⟨.inl rfl, .inl rfl⟩
  | resumes granted =>
    obtain ⟨reason, -, rfl, -⟩ := Thread.resume_ok granted
    exact ⟨.inl rfl, .inl rfl⟩
  | halts granted =>
    obtain ⟨-, rfl | rfl⟩ := Thread.halt_ok granted
    · exact ⟨.inl rfl, .inl rfl⟩
    · exact ⟨.inl rfl, .inl rfl⟩
  | terminates =>
    rcases t.terminate_cases s with same | died
    · rw [same]
      exact ⟨.inl rfl, .inl rfl⟩
    · rw [died]
      exact ⟨.inr ⟨rfl, rfl⟩, .inl rfl⟩
  | unparks granted =>
    obtain ⟨⟨call, p, callers⟩, next, busy, rfl, rfl⟩ := Thread.unpark?_some granted
    exact ⟨.inl rfl, .inr ⟨call, next, callers, busy, rfl⟩⟩

/-! ## 2. A thread on the stage -/

/-- A thread, and the calls that its task has made and not left, innermost first. -/
structure Staged where
  thread : Thread
  shared : Shared
  calls : List Activation := []

namespace Staged

variable {x y z : Staged} {a : Activity} {ys zs : List Staged}

/-- A thread that has just been started. -/
def fresh (id : ThreadId) (name group : String) (s : Shared) : Staged where
  thread := { id, name, group }
  shared := s

/-- What the next step makes of the calls. A line that a terminated thread comes to is not reported
any more. -/
def nextCalls (x : Staged) : List Activation :=
  match x.thread.worker with
  | .busy a =>
    match a.position with
    | .starting i => i.activations ++ x.calls
    | .running (.call c _) =>
      match x.shared.resolve c with
      | .ok i => i.activations ++ x.calls
      | .error _ => x.calls
    | .running (.line n _) =>
      if x.thread.status = .terminated then x.calls else x.calls.modifyHead (.report n)
    | .running (.done _) => x.calls.tail
    | _ => x.calls
  | _ => []

/-- What happens to a thread: it makes a step, a controller does something to it, or something
happens elsewhere in the debuggee. -/
inductive Move : Staged → Staged → Prop
  | own {x : Staged} {t : Thread} {s : Shared} (step : x.thread.step x.shared = some (t, s)) :
      Move x ⟨t, s, x.nextCalls⟩
  | asked {x : Staged} {t : Thread} {s : Shared} (asked : Vm.Asked x.thread x.shared t s) :
      Move x { x with thread := t, shared := s }
  | elsewhere {x : Staged} (s : Shared) : Move x { x with shared := s }

/-- Some time in the life of a thread, with the moments that were passed. -/
inductive Course (x : Staged) : List Staged → Staged → Prop
  | start : Course x [] x
  | move {ys : List Staged} {y z : Staged} : Course x ys y → Move y z → Course x (ys ++ [y]) z

theorem Course.trans (r : Course x ys y) (r' : Course y zs z) : Course x (ys ++ zs) z := by
  induction r' with
  | start => rwa [List.append_nil]
  | move _ m ih =>
    rw [← List.append_assoc]
    exact ih.move m

/-- A course passes the moment it starts from, unless it ends there. -/
theorem Course.head (r : Course x ys z) : ys = [] ∧ z = x ∨ x ∈ ys := by
  induction r with
  | start => exact .inl ⟨rfl, rfl⟩
  | move _ _ ih =>
    right
    rcases ih with ⟨rfl, rfl⟩ | passed
    · exact List.mem_singleton_self _
    · exact List.mem_append_left _ passed

theorem Move.later (m : Move x y) : x.thread.Later y.thread := by
  cases m with
  | own step => exact Thread.step_later step
  | asked asked => exact asked.later
  | elsewhere s => exact .refl _

theorem Move.alive (m : Move x y) (alive : y.thread.status ≠ .terminated) :
    x.thread.status ≠ .terminated :=
  fun dead => alive (m.later.dead dead)

/-! ## 3. One step of a task -/

/-- What a step about a task does to its frames, its calls, and the way on. -/
inductive Turn (x : Staged) (a : Activity) : List Frame → List Activation → Worker → Prop
  /-- Goes on in the frame it is in, or stops there. The frame may get other variables. -/
  | stays {p : Position} {g : Frame → Frame} (quiet : p.isException = false)
      (same : ∀ f, (g f).location = f.location) :
      Turn x a (x.thread.frames.modifyHead g) x.calls (.busy { a with position := p })
  | reports {n : Line} {p : Position} (quiet : p.isException = false) :
      Turn x a (x.thread.frames.modifyHead fun f => { f with line := n })
        (x.calls.modifyHead (.report n)) (.busy { a with position := p })
  | calls {f : Frame} {c : Activation} {body : Body} {next : Except Thrown Value → Body}
      (shows : f.location = c.shown) :
      Turn x a (f :: x.thread.frames) (c :: x.calls)
        (.busy ⟨a.call, .entering body, next :: a.callers⟩)
  | returns {result : Except Thrown Value} {next : Except Thrown Value → Body}
      {callers : List (Except Thrown Value → Body)} (made : a.callers = next :: callers) :
      Turn x a x.thread.frames.tail x.calls.tail
        (.busy ⟨a.call, .running (next result), callers⟩)
  /-- Shows an exception that no body caught. -/
  | shows {fs : List Frame} {d : ExceptionDescription} (last : a.callers = []) :
      Turn x a fs x.calls.tail (.busy ⟨a.call, .atException d, []⟩)
  | ends {outcome : Outcome} (last : a.callers = []) :
      Turn x a x.thread.frames x.calls.tail (.ended a.call outcome)

theorem Turn.remains {p : Position} (quiet : p.isException = false) :
    Turn x a x.thread.frames x.calls (.busy { a with position := p }) := by
  have same : x.thread.frames.modifyHead id = x.thread.frames := by rw [List.modifyHead_id]; rfl
  rw [← same]
  exact .stays quiet fun _ => rfl

variable {t t' : Thread} {s s' : Shared}

theorem answer_turn (q : Query) {reply : q.Answer} (h : x.thread.answer x.shared q = (reply, t, s))
    {p : Position} (quiet : p.isException = false) :
    Turn x a t.frames x.calls (.busy { a with position := p }) := by
  cases q with
  | setLocal name value =>
    have same : t.frames = x.thread.frames.modifyHead (·.setLocal name value) := by
      simp only [Thread.answer] at h
      split at h
      · next bare =>
        cases h
        rw [bare, List.modifyHead_nil]
      · next f fs deep =>
        cases h
        rw [deep, List.modifyHead_cons]
    rw [same]
    exact .stays quiet fun _ => rfl
  | setField object name value =>
    simp only [Thread.answer] at h
    split at h <;> cases h <;> exact .remains quiet
  | setStaticField className field value =>
    simp only [Thread.answer] at h
    split at h <;> cases h <;> exact .remains quiet
  | receiver | depth | frames | readLocal | field | staticField | newString | stringOf =>
    cases h
    exact .remains quiet

theorem invoke_turn (i : Invocation) (next : Except Thrown Value → Body) :
    Turn x a (x.thread.invoke a i next x.shared).1.frames (i.activations ++ x.calls)
      (x.thread.invoke a i next x.shared).1.worker := by
  cases i with
  | method c m receiver args => exact .calls rfl
  | construct c constructor args =>
    cases constructor with
    | none => exact .remains rfl
    | some m => exact .calls rfl

theorem reachLine_turn (n : Line) (next : Except Thrown Unit → Body) :
    Turn x a (x.thread.reachLine a n next x.shared).1.frames
      (if x.thread.status = .terminated then x.calls else x.calls.modifyHead (.report n))
      (x.thread.reachLine a n next x.shared).1.worker := by
  unfold Thread.reachLine
  by_cases dead : x.thread.status = .terminated
  · rw [if_pos dead, if_pos dead]
    exact .remains rfl
  · rw [if_neg dead, if_neg dead]
    have reports : ∀ p : Position, p.isException = false → Turn x a
        (x.thread.frames.modifyHead fun f => { f with line := n })
        (x.calls.modifyHead (.report n)) (.busy { a with position := p }) := fun p => .reports
    cases hf : x.thread.frames with
    | nil =>
      rw [hf] at reports
      show Turn x a x.thread.frames _ _
      rw [hf]
      exact reports (.running (next (.ok ()))) rfl
    | cons f fs =>
      rw [hf] at reports
      dsimp only
      split
      · exact reports (.atLine next) rfl
      · exact reports (.running (next (.ok ()))) rfl

theorem enter_turn (body : Body) :
    Turn x a (x.thread.enter a body x.shared).1.frames x.calls
      (x.thread.enter a body x.shared).1.worker := by
  unfold Thread.enter
  by_cases dead : x.thread.status = .terminated
  · rw [if_pos dead]
    exact .remains rfl
  · rw [if_neg dead]
    cases hf : x.thread.frames with
    | nil => exact .remains rfl
    | cons f fs =>
      dsimp only
      split <;> exact .remains rfl

theorem conclude_turn (last : a.callers = []) (result : Except Thrown Value) :
    Turn x a (x.thread.conclude a result x.shared).1.frames x.calls.tail
      (x.thread.conclude a result x.shared).1.worker := by
  cases result with
  | ok v => exact .ends last
  | error thrown =>
    cases thrown with
    | threadDeath => exact .ends last
    | exception typeName message frames =>
      simp only [Thread.conclude]
      split
      · split
        · exact .ends last
        · have shown : Turn x a frames x.calls.tail (.busy ⟨a.call, .atException
              (Thrown.exception typeName message frames).describe, []⟩) := .shows last
          rw [← last] at shown
          exact shown
      · exact .ends last

theorem Turn.of_eq {r : Thread × Shared} {calls : List Activation}
    (turn : Turn x a r.1.frames calls r.1.worker) (h : some r = some (t, s)) :
    Turn x a t.frames calls t.worker := by
  cases h
  exact turn

/-- **One step of a task**, unless it shows an exception. -/
theorem step_turn (busy : x.thread.worker = .busy a) (inside : a.position.isException = false)
    (step : x.thread.step x.shared = some (t, s)) : Turn x a t.frames x.nextCalls t.worker := by
  obtain ⟨call, position, callers⟩ := a
  simp only [Thread.step, busy] at step
  simp only [nextCalls, busy]
  cases position with
  | starting i => exact (invoke_turn i .done).of_eq step
  | entering body => exact (enter_turn body).of_eq step
  | atLine | atEntry =>
    simp only [Thread.proceed] at step
    split at step <;> cases step <;> exact .remains rfl
  | atException => cases inside
  | parked => cases step
  | running body =>
    cases body with
    | done result =>
      cases callers with
      | nil => exact (conclude_turn rfl result).of_eq step
      | cons next callers => exact Turn.of_eq (.returns rfl) step
    | ask q next =>
      rcases answer : x.thread.answer x.shared q with ⟨reply, t', s'⟩
      simp only [Thread.proceed, Thread.run, answer] at step
      have turn : Turn x ⟨call, .running (.ask q next), callers⟩ t'.frames x.calls _ :=
        answer_turn q answer (p := .running (next reply)) rfl
      exact turn.of_eq (r := (t'.goTo _ _, s')) step
    | line n next => exact (reachLine_turn n next).of_eq step
    | call c next =>
      simp only [Thread.proceed, Thread.run] at step
      cases resolved : x.shared.resolve c with
      | ok i =>
        simp only [resolved] at step ⊢
        exact (invoke_turn i next).of_eq step
      | error e =>
        simp only [resolved] at step ⊢
        cases step
        exact Turn.remains (p := .running _) rfl
    | panic | park | note =>
      simp only [Thread.proceed, Thread.run] at step
      cases step
      first
        | exact Turn.remains (p := .running _) rfl
        | exact Turn.remains (p := .parked _) rfl

/-! ## 4. The stack is the stack of calls -/

theorem map_modifyHead {α β : Type} {f : α → β} {g : α → α} (same : ∀ v, f (g v) = f v)
    (l : List α) : (l.modifyHead g).map f = l.map f := by
  cases l with
  | nil => rfl
  | cons v l => rw [List.modifyHead_cons, List.map_cons, List.map_cons, same]

theorem map_report {fs : List Frame} {calls : List Activation} (n : Line)
    (shown : fs.map Frame.location = calls.map Activation.shown) :
    (fs.modifyHead fun f => { f with line := n }).map Frame.location =
      (calls.modifyHead (.report n)).map Activation.shown := by
  cases fs with
  | nil =>
    cases calls with
    | nil => rfl
    | cons => cases shown
  | cons f fs =>
    cases calls with
    | nil => cases shown
    | cons c calls =>
      obtain ⟨here, rest⟩ := List.cons.inj shown
      obtain ⟨sameClass, sameFile, sameMethod, -⟩ := SourceLocation.mk.inj here
      have there : { f with line := n }.location = (c.report n).shown :=
        SourceLocation.mk.injEq .. |>.mpr ⟨sameClass, sameFile, sameMethod, rfl⟩
      rw [List.modifyHead_cons, List.modifyHead_cons, List.map_cons, List.map_cons, there, rest]

/-- The stack of a thread is that of its calls. A terminated thread has lost its stack, and one that
shows an exception has another one in its place, but not within a call. -/
inductive Faithful (x : Staged) : Prop
  | atTask {a : Activity} (busy : x.thread.worker = .busy a)
      (quiet : a.position.isException = false) (height : x.calls.length = a.callers.length)
      (shown : x.thread.status ≠ .terminated →
        x.thread.frames.map Frame.location = x.calls.map Activation.shown)
  | showing {call : CallId} {d : ExceptionDescription}
      (busy : x.thread.worker = .busy ⟨call, .atException d, []⟩) (left : x.calls = [])
  | ended {call : CallId} {outcome : Outcome} (done : x.thread.worker = .ended call outcome)
      (left : x.calls = [])
  | free (free : x.thread.worker.isFree = true) (left : x.calls = [])
      (bare : x.thread.frames = [])

theorem Faithful.turn {a : Activity} {calls : List Activation} (height : x.calls.length = a.callers.length)
    (shown : t.status ≠ .terminated →
      x.thread.frames.map Frame.location = x.calls.map Activation.shown)
    (turn : Turn x a t.frames calls t.worker) : Faithful ⟨t, s, calls⟩ := by
  generalize hfs : t.frames = fs at turn
  generalize hw : t.worker = w at turn
  cases turn with
  | stays quiet same =>
    refine .atTask hw quiet height fun living => ?_
    rw [hfs, map_modifyHead same]
    exact shown living
  | reports quiet =>
    refine .atTask hw quiet ?_ fun living => ?_
    · rw [List.length_modifyHead]
      exact height
    · rw [hfs]
      exact map_report _ (shown living)
  | calls shows =>
    refine .atTask hw rfl (congrArg (· + 1) height) fun living => ?_
    rw [hfs, List.map_cons, List.map_cons, shows, shown living]
  | returns made =>
    refine .atTask hw rfl ?_ fun living => ?_
    · rw [made, List.length_cons] at height
      show x.calls.tail.length = _
      rw [List.length_tail, height]
      rfl
    · rw [hfs, List.map_tail, List.map_tail, shown living]
  | shows last =>
    rw [last] at height
    refine .showing hw ?_
    rw [List.eq_nil_of_length_eq_zero height]
    rfl
  | ends last =>
    rw [last] at height
    refine .ended hw ?_
    rw [List.eq_nil_of_length_eq_zero height]
    rfl

theorem Faithful.own (h : Faithful x) (step : x.thread.step x.shared = some (t, s)) :
    Faithful ⟨t, s, x.nextCalls⟩ := by
  have later := Thread.step_later step
  have stepped := Thread.step_stepped step
  cases h with
  | atTask busy quiet height shown =>
    exact .turn height (fun living => shown fun dead => living (later.dead dead))
      (step_turn busy quiet step)
  | showing busy left =>
    have nothing : x.nextCalls = [] := by simp only [nextCalls, busy, left]
    simp only [Thread.step, busy, Thread.proceed] at step
    split at step <;> cases step <;> exact .ended rfl nothing
  | ended done left =>
    have nothing : x.nextCalls = [] := by simp only [nextCalls, done]
    simp only [Thread.step, done] at step
    cases step
    exact .free rfl nothing rfl
  | free free left bare =>
    cases stepped with
    | proceeds busy | finishes busy =>
      rw [busy] at free
      cases free
    | takes hw | exits hw | refuses hw | tells hw =>
      refine .free rfl ?_ bare
      simp only [nextCalls, hw]
    | begins hw alive quiet =>
      have nothing : x.nextCalls = [] := by simp only [nextCalls, hw]
      rw [nothing]
      exact .atTask rfl quiet rfl fun _ => rfl

theorem Faithful.asked (h : Faithful x) (asked : Vm.Asked x.thread x.shared t s) :
    Faithful { x with thread := t, shared := s } := by
  obtain ⟨stack, way⟩ := asked.stack
  have later := asked.later
  cases h with
  | atTask busy quiet height shown =>
    have shown' : t.status ≠ .terminated →
        t.frames.map Frame.location = x.calls.map Activation.shown := by
      intro living
      rcases stack with same | ⟨dead, -⟩
      · rw [same]
        exact shown fun dead => living (later.dead dead)
      · exact absurd dead living
    rcases way with same | ⟨call, next, callers, parked, freed⟩
    · exact .atTask (same.trans busy) quiet height shown'
    · cases busy.symm.trans parked
      exact .atTask freed rfl height shown'
  | showing busy left =>
    rcases way with same | ⟨call, next, callers, parked, -⟩
    · exact .showing (same.trans busy) left
    · cases busy.symm.trans parked
  | ended done left =>
    rcases way with same | ⟨call, next, callers, parked, -⟩
    · exact .ended (same.trans done) left
    · cases done.symm.trans parked
  | free free left bare =>
    rcases way with same | ⟨call, next, callers, parked, -⟩
    · refine .free (by rw [same]; exact free) left ?_
      rcases stack with same | ⟨-, gone⟩
      · exact same.trans bare
      · exact gone
    · rw [parked] at free
      cases free

/-- **Whatever happens to a thread, its stack is that of its calls.** -/
theorem Faithful.move (h : Faithful x) (m : Move x y) : Faithful y := by
  cases m with
  | own step => exact h.own step
  | asked asked => exact h.asked asked
  | elsewhere s =>
    cases h with
    | atTask busy quiet height shown => exact .atTask busy quiet height shown
    | showing busy left => exact .showing busy left
    | ended done left => exact .ended done left
    | free free left bare => exact .free free left bare

theorem Course.faithful (r : Course x ys y) (h : Faithful x) : Faithful y := by
  induction r with
  | start => exact h
  | move _ m ih => exact ih.move m

theorem Faithful.fresh (id : ThreadId) (name group : String) (s : Shared) :
    Faithful (fresh id name group s) :=
  .free rfl rfl rfl

/-! ## 5. Within a call -/

/-- The call that is to be gone on from with `next` has not been left: above the frames `base` of the
caller stands one frame for it and one for each call it has made. -/
def Inside (call : CallId) (next : Except Thrown Value → Body)
    (callers : List (Except Thrown Value → Body)) (base : List Frame) (t : Thread) : Prop :=
  ∃ p inner pushed, t.worker = .busy ⟨call, p, inner ++ next :: callers⟩ ∧ p.isException = false ∧
    pushed.length = inner.length + 1 ∧ t.frames = pushed ++ base

/-- The call has been left, and its caller goes on with what came of it. -/
def Back (call : CallId) (next : Except Thrown Value → Body)
    (callers : List (Except Thrown Value → Body)) (base : List Frame) (t : Thread) : Prop :=
  t.frames = base ∧ ∃ result, t.worker = .busy ⟨call, .running (next result), callers⟩

variable {call : CallId} {next : Except Thrown Value → Body}
  {callers : List (Except Thrown Value → Body)} {base : List Frame}

theorem Inside.depth (h : Inside call next callers base t) : callers.length < t.worker.depth := by
  obtain ⟨p, inner, pushed, busy, -⟩ := h
  rw [busy]
  show _ < (inner ++ next :: callers).length
  rw [List.length_append, List.length_cons]
  omega

theorem Back.depth (h : Back call next callers base t) : t.worker.depth = callers.length := by
  obtain ⟨-, result, busy⟩ := h
  rw [busy]
  rfl

/-- **A step within a call** stays within it or leaves it. -/
theorem Inside.own (h : Inside call next callers base x.thread)
    (step : x.thread.step x.shared = some (t, s)) :
    Inside call next callers base t ∨ Back call next callers base t := by
  obtain ⟨p, inner, pushed, busy, quiet, length, frames⟩ := h
  obtain ⟨f, fs, rfl⟩ := List.exists_cons_of_length_eq_add_one length
  have turn := step_turn busy quiet step
  generalize x.nextCalls = calls at turn
  generalize hfs : t.frames = after at turn
  generalize hw : t.worker = w at turn
  cases turn with
  | @stays p' g quiet' same =>
    left
    refine ⟨p', inner, g f :: fs, hw, quiet', length, ?_⟩
    rw [hfs, frames]
    rfl
  | @reports n p' quiet' =>
    left
    refine ⟨p', inner, { f with line := n } :: fs, hw, quiet', length, ?_⟩
    rw [hfs, frames]
    rfl
  | @calls f' c body next' shows =>
    left
    refine ⟨.entering body, next' :: inner, f' :: f :: fs, hw, rfl, congrArg (· + 1) length, ?_⟩
    rw [hfs, frames]
    rfl
  | @returns result next' callers' made =>
    rw [frames] at hfs
    cases inner with
    | nil =>
      right
      obtain ⟨rfl, rfl⟩ := List.cons.inj made
      cases List.eq_nil_of_length_eq_zero (Nat.succ.inj length)
      exact ⟨hfs, result, hw⟩
    | cons n inner =>
      left
      obtain ⟨rfl, rfl⟩ := List.cons.inj made
      exact ⟨_, inner, fs, hw, rfl, Nat.succ.inj length, hfs⟩
  | shows last | ends last => exact absurd last (by simp)

theorem Inside.move (h : Inside call next callers base x.thread) (m : Move x y)
    (alive : y.thread.status ≠ .terminated) :
    Inside call next callers base y.thread ∨ Back call next callers base y.thread := by
  cases m with
  | own step => exact h.own step
  | elsewhere => exact .inl h
  | asked asked =>
    left
    obtain ⟨p, inner, pushed, busy, quiet, length, frames⟩ := h
    obtain ⟨same | ⟨dead, -⟩, way⟩ := asked.stack
    · rcases way with still | ⟨call', n, callers', parked, freed⟩
      · exact ⟨p, inner, pushed, still.trans busy, quiet, length, same.trans frames⟩
      · cases busy.symm.trans parked
        exact ⟨_, inner, pushed, freed, rfl, length, same.trans frames⟩
    · exact absurd dead alive

/-- A call that was entered is still being made, or has just been left, as long as it has not been
left before. -/
theorem Inside.course (h : Inside call next callers base x.thread) (r : Course x ys z)
    (underway : ∀ w ∈ ys, callers.length < w.thread.worker.depth)
    (alive : z.thread.status ≠ .terminated) :
    Inside call next callers base z.thread ∨ Back call next callers base z.thread := by
  induction r with
  | start => exact .inl h
  | @move ys y z r m ih =>
    have deep := underway y (List.mem_append_right _ (List.mem_singleton_self y))
    rcases ih (fun w hw => underway w (List.mem_append_left _ hw)) (m.alive alive) with within | back
    · exact within.move m alive
    · exact absurd back.depth (Nat.ne_of_gt deep)

/-- A call is made by pushing a frame for it. Where there is nothing to run, and where the target of
the call is not to be found, the caller goes on at once. -/
theorem step_calling (busy : x.thread.worker = .busy a) (calling : a.position.calling? = some next)
    (step : x.thread.step x.shared = some (t, s)) :
    Back a.call next a.callers x.thread.frames t ∨
      ∃ way : Except Thrown Value → Body, (∀ r, ∃ r', way r = next r') ∧
        Inside a.call way a.callers x.thread.frames t := by
  obtain ⟨call, position, callers⟩ := a
  have invoked : ∀ (p : Position) (i : Invocation) (k : Except Thrown Value → Body),
      some (x.thread.invoke ⟨call, p, callers⟩ i k x.shared) = some (t, s) →
      Back call k callers x.thread.frames t ∨
        ∃ way : Except Thrown Value → Body, (∀ r, ∃ r', way r = k r') ∧
          Inside call way callers x.thread.frames t := by
    intro p i k made
    cases i with
    | method c m receiver args =>
      cases made
      exact .inr ⟨k, fun r => ⟨r, rfl⟩, .entering _, [], [_], rfl, rfl, rfl, rfl⟩
    | construct c constructor args =>
      cases constructor with
      | none =>
        cases made
        exact .inl ⟨rfl, _, rfl⟩
      | some m =>
        cases made
        exact .inr ⟨_, fun r => ⟨_, rfl⟩, .entering _, [], [_], rfl, rfl, rfl, rfl⟩
  simp only [Thread.step, busy, Thread.proceed] at step
  cases position with
  | starting i =>
    cases calling
    exact invoked _ i .done step
  | running body =>
    cases body with
    | call c k =>
      cases calling
      simp only [Thread.run] at step
      cases resolved : x.shared.resolve c with
      | ok i =>
        simp only [resolved] at step
        exact invoked _ i next step
      | error e =>
        simp only [resolved] at step
        cases step
        exact .inl ⟨rfl, _, rfl⟩
    | done | panic | ask | line | park | note => cases calling
  | entering | atLine | atEntry | atException | parked => cases calling

/-- **Calls leave the stack as they found it.** From the moment `x` at which a task is about to make a
call, and as long as it has not come back from it: while the call is being made, the frames of `x`
stand as they were below those pushed since; when it has been left, by a value, an exception, a panic
or a refusal, they are the whole stack, and the caller goes on. In between the thread may be stopped
and let go on at will, as long as it is not terminated. Between two tasks the stack is empty. -/
theorem calls_leave_the_stack :
    (∀ (x z : Staged) (a : Activity) (next : Except Thrown Value → Body) (t : Thread) (s : Shared)
      (ys : List Staged),
      x.thread.worker = .busy a → a.position.calling? = some next →
      x.thread.step x.shared = some (t, s) → Course ⟨t, s, x.nextCalls⟩ ys z →
      (∀ w ∈ ys, a.callers.length < w.thread.worker.depth) → z.thread.status ≠ .terminated →
      (a.callers.length < z.thread.worker.depth →
        ∃ pushed, pushed ≠ [] ∧ z.thread.frames = pushed ++ x.thread.frames) ∧
      (z.thread.worker.depth ≤ a.callers.length → z.thread.frames = x.thread.frames ∧
        ∃ result, z.thread.worker = .busy ⟨a.call, .running (next result), a.callers⟩)) ∧
    ∀ (id : ThreadId) (name group : String) (s : Shared) (z : Staged) (ys : List Staged),
      Course (fresh id name group s) ys z → z.thread.worker.isFree = true → z.thread.frames = [] := by
  refine ⟨fun x z a next t s ys busy calling step course underway alive => ?_,
    fun id name group s z ys course free => ?_⟩
  · have found : Back a.call next a.callers x.thread.frames z.thread ∨
        ∃ way : Except Thrown Value → Body, (∀ r, ∃ r', way r = next r') ∧
          Inside a.call way a.callers x.thread.frames z.thread := by
      rcases step_calling busy calling step with back | ⟨way, on, within⟩
      · rcases course.head with ⟨-, rfl⟩ | passed
        · exact .inl back
        · exact absurd back.depth (Nat.ne_of_gt (underway _ passed))
      · rcases within.course course underway alive with within | ⟨frames, result, back⟩
        · exact .inr ⟨way, on, within⟩
        · obtain ⟨result', same⟩ := on result
          rw [same] at back
          exact .inl ⟨frames, result', back⟩
    rcases found with back | ⟨way, -, within⟩
    · exact ⟨fun deep => absurd back.depth (Nat.ne_of_gt deep), fun _ => back⟩
    · refine ⟨fun _ => ?_, fun low => absurd within.depth (Nat.not_lt.mpr low)⟩
      obtain ⟨p, inner, pushed, -, -, length, frames⟩ := within
      exact ⟨pushed, List.ne_nil_of_length_eq_add_one length, frames⟩
  · cases course.faithful (.fresh id name group s) with
    | free _ _ bare => exact bare
    | atTask busy | showing busy | ended busy =>
      rw [busy] at free
      cases free

/-- The steps that a thread makes by itself, as many as it can of the given number. -/
def advance : Nat → Staged → List Staged × Staged
  | 0, x => ([], x)
  | n + 1, x =>
    match x.thread.step x.shared with
    | none => ([], x)
    | some (t, s) =>
      let (ys, z) := advance n ⟨t, s, x.nextCalls⟩
      (x :: ys, z)

theorem course_advance (n : Nat) (x : Staged) : Course x (advance n x).1 (advance n x).2 := by
  induction n generalizing x with
  | zero => exact .start
  | succ n ih =>
    unfold advance
    cases step : x.thread.step x.shared with
    | none => exact .start
    | some r =>
      obtain ⟨t, s⟩ := r
      have first : Course x [x] ⟨t, s, x.nextCalls⟩ := Course.start.move (.own step)
      exact first.trans (ih ⟨t, s, x.nextCalls⟩)

/-- A class whose main method calls one that panics after the exception of a third method. -/
def risky : ClassDef :=
  let method (name : String) (body : Body) : Method :=
    { name, params := [], returnType := "void", kind := .static, lines := [1], body := fun _ => body }
  { ClassDef.empty "A" .plain with
    methods := [
      method "main" (.line 3 fun _ => .ask (.setLocal "v" .null) fun _ =>
        .call (.static "A" "f" []) fun _ => .done (.ok .void)),
      method "f" (.call (.static "A" "g" []) fun _ => .line 5 fun _ => .panic "lost"),
      method "g" (.line 10 fun _ => .ask .frames fun fs =>
        .done (.error (.exception "E" "boom" fs)))] }

def riskyThread : Staged :=
  fresh 1 "main" "main"
    { classes := .ofList [("A", risky)]
      breakpoints := BreakpointTable.install ∅ ⟨.line "A" 10, none⟩ }

/-- The thread has been given the main method to run. -/
def riskyTask : Staged :=
  { riskyThread with
    thread := { riskyThread.thread with inbox := [.run 1 (.body (.call (.static "A" "main" []) .done))] } }

/-- The main method is about to make its call. -/
def callingF : Staged := (advance 6 riskyTask).2

def inF : Staged := (advance 1 callingF).2

/-- The thread has stopped in the innermost method. -/
def stoppedInG : Staged := (advance 5 inF).2

def resumedInG : Staged :=
  { stoppedInG with
    thread := { stoppedInG.thread with status := .running, pendingStep := none }
    shared := stoppedInG.shared.emit (.resumed 1) }

/-- Both methods have been left, one by an exception and one by a panic. -/
def backInMain : Staged := (advance 6 resumedInG).2

/-- The caller of the task has been told. -/
def taskOver : Staged := (advance 5 backInMain).2

/-- The frame of the main method is what it was, and it was there all the time. -/
theorem panicking_call_leaves_main :
    stoppedInG.thread.frames.length = 3 ∧
      (∃ pushed, pushed ≠ [] ∧ stoppedInG.thread.frames = pushed ++ callingF.thread.frames) ∧
      backInMain.thread.frames = callingF.thread.frames ∧ taskOver.thread.frames = [] := by
  obtain ⟨leaves, between⟩ := calls_leave_the_stack
  have submits : Move riskyThread riskyTask :=
    .asked (.submits 1 (.body (.call (.static "A" "main" []) .done)))
  have resumes : Move stoppedInG resumedInG :=
    .asked (@Vm.Asked.resumes _ _ none _ _ rfl)
  have untilStop : Course inF (advance 5 inF).1 stoppedInG := course_advance 5 inF
  have untilBack : Course inF _ backInMain :=
    (untilStop.move resumes).trans (course_advance 6 resumedInG)
  have untilOver : Course riskyThread _ taskOver :=
    ((Course.start.move submits).trans (course_advance 7 riskyTask)).trans
      (untilBack.trans (course_advance 5 backInMain))
  obtain ⟨within, -⟩ := leaves callingF stoppedInG _ _ _ _ _ rfl rfl rfl untilStop
    (by decide +kernel) (by decide +kernel)
  obtain ⟨-, back⟩ := leaves callingF backInMain _ _ _ _ _ rfl rfl rfl untilBack
    (by decide +kernel) (by decide +kernel)
  exact ⟨rfl, within (by decide +kernel), (back (by decide +kernel)).1,
    between _ _ _ _ _ _ untilOver (by decide +kernel)⟩

end Staged

end Debugger
