import Debugger.Proofs.Thread.Step
/-!
# Calls and their callers

Any number of callers hand tasks to a thread, and each of them waits until it is told how its call
ended. Somebody may terminate the thread at any moment. A caller that is forgotten waits for ever,
and one that is told twice takes an answer that is not its own, so the account of calls has to
balance in every order of events.

`Ledger` is a thread together with that account, and `Ledger.Move` is everything that can happen to
it. Terminating is finer there than `Thread.terminate`, which is one indivisible change: taking a
message out of the inbox needs no lock, so the thread can take one while the inbox is being cleared.
`Ledger.terminate_run` says that the indivisible change is one of the finer orders.

The account is kept by three invariants, one for each question that can be asked of it.

* `Accounted` - how often has a caller been told? Answered and waiting calls add up to the
  submitted ones.
* `Ordered` - which tasks ran, and when? What was begun, is held and waits in the inbox are the
  submitted calls in their order, with gaps.
* `Closing` - what does termination leave? No call stays in the inbox of a terminated thread, and no
  thread leaves before that.

`Ledger.every_call_is_answered` puts them together.

## 1. What callers are told

## 2. The account of a thread

## 3. Terminating in one go

## 4. Answered and waiting calls

## 5. The order of tasks

## 6. Closing down

## 7. Every call is answered
-/

namespace Debugger

/-! ## 1. What callers are told -/

namespace Shared

variable {s s' : Shared}

/-- What the caller of a call has been told, in that order. -/
def told (s : Shared) (call : CallId) : List Outcome :=
  (s.completed.toList.filter (·.1 == call)).map (·.2)

theorem told_congr (h : s'.completed = s.completed) (call : CallId) :
    s'.told call = s.told call := by
  unfold told
  rw [h]

theorem told_complete_self (s : Shared) (call : CallId) (outcome : Outcome) :
    (s.complete call outcome).told call = s.told call ++ [outcome] := by
  simp [told, complete]

theorem told_complete_ne (s : Shared) {call other : CallId} (outcome : Outcome)
    (h : call ≠ other) : (s.complete call outcome).told other = s.told other := by
  simp [told, complete, h]

end Shared

namespace Worker

/-- The call of the task that is running. -/
def running : Worker → List CallId
  | busy a => [a.call]
  | _ => []

/-- The call whose task begins when a thread goes from one control to the next. -/
def beginning : Worker → Worker → List CallId
  | holding call _, busy _ => [call]
  | _, _ => []

/-- The call whose task ends when a thread goes from one control to the next. -/
def ending : Worker → Worker → List CallId
  | busy _, ended call _ => [call]
  | _, _ => []

end Worker

def Message.call? : Message → Option CallId
  | run call _ => some call
  | shutdown => none

/-- The calls in an inbox, in order. -/
def queued (inbox : List Message) : List CallId := inbox.filterMap Message.call?

@[simp] theorem queued_nil : queued [] = [] := rfl

@[simp] theorem queued_run (call : CallId) (task : Task) (rest : List Message) :
    queued (.run call task :: rest) = call :: queued rest := rfl

@[simp] theorem queued_shutdown (rest : List Message) :
    queued (.shutdown :: rest) = queued rest := rfl

@[simp] theorem queued_append (inbox rest : List Message) :
    queued (inbox ++ rest) = queued inbox ++ queued rest := List.filterMap_append

/-! ## 2. The account of a thread -/

/-- A thread at work, and what has become of the calls that were submitted to it. -/
structure Ledger where
  thread : Thread
  shared : Shared
  /-- Whether somebody is clearing the inbox of the thread it has terminated. -/
  draining : Bool := false
  /-- The calls that were submitted, in order. -/
  submitted : List CallId := []
  /-- The calls whose tasks were begun, in order. -/
  begun : List CallId := []
  /-- The calls whose tasks ended after they were begun, in order. -/
  finished : List CallId := []

namespace Ledger

variable {x y z : Ledger}

/-- A thread that has just been started. Others may have been at work before. -/
def fresh (id : ThreadId) (name group : String) (s : Shared) : Ledger where
  thread := { id, name, group }
  shared := s

def submit (x : Ledger) (call : CallId) (task : Task) : Ledger :=
  { x with
    thread := (x.thread.submit call task x.shared).1
    shared := (x.thread.submit call task x.shared).2
    submitted := x.submitted ++ [call] }

theorem submit_terminated (h : x.thread.status = .terminated) {call : CallId} {task : Task} :
    x.submit call task =
      { x with
        shared := x.shared.complete call .terminated
        submitted := x.submitted ++ [call] } := by
  simp only [submit, Thread.submit, if_pos h]

theorem submit_alive (h : x.thread.status ≠ .terminated) {call : CallId} {task : Task} :
    x.submit call task =
      { x with
        thread := { x.thread with inbox := x.thread.inbox ++ [.run call task] }
        submitted := x.submitted ++ [call] } := by
  simp only [submit, Thread.submit, if_neg h]

/-- Termination takes effect: from here on no task is begun and none is queued. -/
def strike (x : Ledger) : Ledger :=
  { x with
    thread := { x.thread with status := .terminated, frames := [], pendingStep := none }
    draining := true }

/-- The first message of the inbox is taken out and its caller told. -/
def drain (x : Ledger) (message : Message) (rest : List Message) : Ledger :=
  { x with
    thread := { x.thread with inbox := rest }
    shared := Thread.discard [message] x.shared }

/-- The inbox is clear; the thread is told to leave, and everybody that it died. -/
def close (x : Ledger) : Ledger :=
  { x with
    thread := { x.thread with inbox := [.shutdown] }
    shared := x.shared.emit (.threadDied x.thread.id)
    draining := false }

inductive Move : Ledger → Ledger → Prop
  /-- The thread makes a step of its own. -/
  | own {x : Ledger} {t : Thread} {s : Shared} (step : x.thread.step x.shared = some (t, s)) :
      Move x
        { x with
          thread := t
          shared := s
          begun := x.begun ++ x.thread.worker.beginning t.worker
          finished := x.finished ++ x.thread.worker.ending t.worker }
  /-- Every call has a number of its own. -/
  | submits {x : Ledger} (call : CallId) (task : Task)
      (new : call ∉ x.submitted) (open' : x.shared.told call = []) : Move x (x.submit call task)
  | resumes {x : Ledger} {kind : Option StepKind} {t : Thread} {s : Shared}
      (granted : x.thread.resume kind x.shared = .ok (t, s)) :
      Move x { x with thread := t, shared := s }
  | halts {x : Ledger} {t : Thread} (granted : x.thread.halt = .ok t) : Move x { x with thread := t }
  | unparks {x : Ledger} {t : Thread} (granted : x.thread.unpark? = some t) :
      Move x { x with thread := t }
  | strikes {x : Ledger} (alive : x.thread.status ≠ .terminated) : Move x x.strike
  | drains {x : Ledger} {message : Message} {rest : List Message}
      (draining : x.draining = true) (first : x.thread.inbox = message :: rest) :
      Move x (x.drain message rest)
  | closes {x : Ledger} (draining : x.draining = true) (clear : x.thread.inbox = []) :
      Move x x.close
  /-- The debuggee itself is gone, after it terminated all its threads. One that holds a task gives
  it back and leaves. -/
  | abandons {x : Ledger} {call : CallId} {task : Task} (dead : x.thread.status = .terminated)
      (closed : x.draining = false) (held : x.thread.worker = .holding call task) :
      Move x
        { x with
          thread := { x.thread with worker := .exited }
          shared := x.shared.complete call .terminated }
  /-- Something happens elsewhere in the debuggee. Nobody else answers for this thread. -/
  | elsewhere {x : Ledger} (s : Shared)
      (apart : ∀ call ∈ x.submitted, s.told call = x.shared.told call) :
      Move x { x with shared := s }

inductive Run : Ledger → Ledger → Prop
  | refl (x : Ledger) : Run x x
  | move {x y z : Ledger} : Run x y → Move y z → Run x z

/-- What can become of a thread that has just been started. -/
def Reached (x : Ledger) : Prop := ∃ id name group s, Run (fresh id name group s) x

theorem Run.trans (h : Run x y) (h' : Run y z) : Run x z := by
  induction h' with
  | refl => exact h
  | move _ m ih => exact ih.move m

theorem Reached.run (h : Reached x) (r : Run x y) : Reached y := by
  obtain ⟨id, name, group, s, h⟩ := h
  exact ⟨id, name, group, s, h.trans r⟩

/-- A property of threads that are fresh, kept by every move, holds of whatever is reached. -/
theorem Reached.induct {P : Ledger → Prop} (start : ∀ id name group s, P (fresh id name group s))
    (move : ∀ x y, P x → Move x y → P y) (h : Reached x) : P x := by
  obtain ⟨id, name, group, s, h⟩ := h
  induction h with
  | refl => exact start ..
  | move _ m ih => exact move _ _ ih m

/-! ## 3. Terminating in one go -/

/-- Clearing an inbox message by message is what discarding it at once is. -/
theorem drain_run (x : Ledger) (h : x.draining = true) :
    Run x { x with
      thread := { x.thread with inbox := [] }
      shared := Thread.discard x.thread.inbox x.shared } := by
  generalize hi : x.thread.inbox = inbox
  induction inbox generalizing x with
  | nil =>
    obtain ⟨⟨⟩⟩ := x
    cases hi
    exact .refl _
  | cons message rest ih =>
    have first : Move x (x.drain message rest) := .drains h hi
    exact ((Run.refl x).move first).trans (ih (x.drain message rest) h rfl)

/-- **Terminating a thread in one go is one order of the finer moves.** -/
theorem terminate_run (x : Ledger) (h : x.draining = false) :
    Run x { x with
      thread := (x.thread.terminate x.shared).1
      shared := (x.thread.terminate x.shared).2 } := by
  unfold Thread.terminate
  by_cases ht : x.thread.status = .terminated
  · rw [if_pos ht]
    exact .refl x
  rw [if_neg ht]
  have struck : Run x x.strike := (Run.refl x).move (.strikes ht)
  have drained := drain_run x.strike rfl
  have closed := (struck.trans drained).move (.closes rfl rfl)
  rw [h]
  exact closed

/-! ## 4. Answered and waiting calls -/

/-- The calls whose callers are still waiting: for the task at hand and for the tasks in the inbox,
in the order in which they were submitted. -/
def pending (x : Ledger) : List CallId :=
  x.thread.worker.underway ++ (x.thread.worker.held ++ queued x.thread.inbox)

/-- Each submitted call has either been answered, once, or is pending, once. -/
structure Accounted (x : Ledger) : Prop where
  distinct : x.submitted.Nodup
  balance : ∀ call ∈ x.submitted, (x.shared.told call).length + x.pending.count call = 1
  known : ∀ call ∈ x.pending, call ∈ x.submitted

theorem Accounted.told_eq (h : Accounted x) {call : CallId} (hs : call ∈ x.submitted)
    (hp : call ∈ x.pending) : x.shared.told call = [] := by
  have := h.balance call hs
  have := List.count_pos_iff.mpr hp
  exact List.eq_nil_of_length_eq_zero (by omega)

/-- Nothing that keeps the waiting calls and the answers changes the account. -/
theorem Accounted.congr (h : Accounted x) (hs : y.submitted = x.submitted)
    (hp : y.pending = x.pending)
    (ht : ∀ call ∈ x.submitted, y.shared.told call = x.shared.told call) : Accounted y where
  distinct := by rw [hs]; exact h.distinct
  balance call hc := by
    rw [hs] at hc
    rw [hp, ht call hc]
    exact h.balance call hc
  known call hc := by
    rw [hp] at hc
    rw [hs]
    exact h.known call hc

/-- Answering a waiting call settles it. -/
theorem Accounted.answer (h : Accounted x) {call : CallId} {outcome : Outcome}
    (hs : y.submitted = x.submitted) (hp : x.pending.Perm (call :: y.pending))
    (ht : y.shared = x.shared.complete call outcome) : Accounted y where
  distinct := by rw [hs]; exact h.distinct
  balance other hc := by
    rw [hs] at hc
    have hb := h.balance other hc
    rw [hp.count_eq other, List.count_cons] at hb
    rw [ht]
    by_cases hco : call = other
    · subst hco
      rw [Shared.told_complete_self, List.length_append]
      simp only [beq_self_eq_true, if_true, List.length_singleton] at hb ⊢
      omega
    · rw [Shared.told_complete_ne _ _ hco]
      simp only [beq_iff_eq, hco, if_false] at hb
      omega
  known other hc := by
    rw [hs]
    exact h.known other (hp.mem_iff.mpr (List.mem_cons_of_mem _ hc))

theorem Accounted.submit (h : Accounted x) {call : CallId} (task : Task)
    (new : call ∉ x.submitted) (unheard : x.shared.told call = []) :
    Accounted (x.submit call task) := by
  have absent : x.pending.count call = 0 :=
    List.count_eq_zero.mpr fun hp => new (h.known call hp)
  have apart : ∀ other ∈ x.submitted, call ≠ other := by
    rintro other hc rfl
    exact new hc
  have distinct : (x.submitted ++ [call]).Nodup := by
    refine List.nodup_append.mpr ⟨h.distinct, List.pairwise_singleton .., ?_⟩
    intro a ha b hb
    rw [List.mem_singleton.mp hb]
    exact (apart a ha).symm
  by_cases ht : x.thread.status = .terminated
  -- The caller is told at once, and its call is never pending.
  · rw [submit_terminated ht]
    refine ⟨distinct, ?_, ?_⟩
    · intro other hc
      show ((x.shared.complete call .terminated).told other).length + x.pending.count other = 1
      rcases List.mem_append.mp hc with hc | hc
      · rw [Shared.told_complete_ne _ _ (apart other hc)]
        exact h.balance other hc
      · rw [List.mem_singleton.mp hc, Shared.told_complete_self, unheard, absent]
        rfl
    · intro other hc
      exact List.mem_append_left _ (h.known other hc)
  · have more : (x.submit call task).pending = x.pending ++ [call] := by
      rw [submit_alive ht]
      simp only [pending, queued_append, List.append_assoc]
      rfl
    have told : (x.submit call task).shared = x.shared := by rw [submit_alive ht]
    refine ⟨distinct, ?_, ?_⟩
    · intro other hc
      rw [told, more, List.count_append]
      rcases List.mem_append.mp hc with hc | hc
      · rw [List.count_eq_zero_of_not_mem fun e => apart other hc (List.mem_singleton.mp e).symm]
        exact h.balance other hc
      · rw [List.mem_singleton.mp hc, unheard, absent, List.count_singleton_self]
        rfl
    · intro other hc
      rw [more] at hc
      rcases List.mem_append.mp hc with hc | hc
      · exact List.mem_append_left _ (h.known other hc)
      · exact List.mem_append_right _ hc

theorem pending_eq {t t' : Thread} (h : t.KeepsCalls t') :
    t'.worker.underway ++ (t'.worker.held ++ queued t'.inbox) =
      t.worker.underway ++ (t.worker.held ++ queued t.inbox) := by
  rw [h.underway, h.held, h.inbox]

/-- **The account of calls balances after every move.** -/
theorem Accounted.move (h : Accounted x) (m : Move x y) : Accounted y := by
  cases m with
  | @own t s step =>
    cases Thread.step_stepped step with
    | takes free first | exits free first =>
      exact h.congr rfl (by simp only [pending, free, first]; rfl) fun _ _ => rfl
    | refuses held dead =>
      exact h.answer rfl (by simp only [pending, held]; exact .refl _) rfl
    | begins held alive quiet =>
      exact h.congr rfl (by simp only [pending, held]; rfl) fun _ _ => rfl
    | proceeds busy progress =>
      exact h.congr rfl (pending_eq (progress.keepsCalls busy)) fun call _ =>
        Shared.told_congr progress.completed_eq call
    | finishes ended =>
      exact h.congr rfl (pending_eq (Thread.finish_keepsCalls ended)) fun _ _ => rfl
    | tells ended => exact h.answer rfl (by simp only [pending, ended]; exact .refl _) rfl
  | submits call task new unheard => exact h.submit task new unheard
  | resumes granted =>
    obtain ⟨-, -, -, rfl⟩ := Thread.resume_ok granted
    exact h.congr rfl (pending_eq (Thread.resume_keepsCalls granted)) fun _ _ => rfl
  | halts granted => exact h.congr rfl (pending_eq (Thread.halt_keepsCalls granted)) fun _ _ => rfl
  | unparks granted =>
    exact h.congr rfl (pending_eq (Thread.unpark?_keepsCalls granted)) fun _ _ => rfl
  | strikes alive => exact h.congr rfl rfl fun _ _ => rfl
  | @drains message rest draining first =>
    cases message with
    | run call task =>
      -- The inbox comes last among the pending calls, so this one is taken out of the middle.
      refine h.answer rfl ?_ rfl
      simp only [pending, first, queued_run, ← List.append_assoc]
      exact List.perm_middle
    | shutdown => exact h.congr rfl (by simp only [pending, first]; rfl) fun _ _ => rfl
  | closes draining clear => exact h.congr rfl (by simp only [pending, clear]; rfl) fun _ _ => rfl
  | abandons dead closed held => exact h.answer rfl (by simp only [pending, held]; exact .refl _) rfl
  | elsewhere s apart => exact h.congr rfl rfl apart

theorem Reached.accounted (h : Reached x) : Accounted x :=
  h.induct (fun _ _ _ _ => ⟨List.nodup_nil, by simp [fresh], by simp [fresh, pending, queued,
    Worker.held, Worker.underway]⟩) fun _ _ => Accounted.move

/-! ## 5. The order of tasks -/

/-- A submitted call whose task was not begun is answered by nothing but termination. -/
def Unrun (submitted begun : List CallId) (s : Shared) : Prop :=
  ∀ call ∈ submitted, call ∉ begun → ∀ outcome ∈ s.told call, outcome = .terminated

/-- Tasks are begun in the order of their submission and one after the other. -/
structure Ordered (x : Ledger) : Prop where
  order : (x.begun ++ (x.thread.worker.held ++ queued x.thread.inbox)).Sublist x.submitted
  single : x.begun = x.finished ++ x.thread.worker.running
  carried : ∀ call ∈ x.thread.worker.underway, call ∈ x.begun
  unrun : Unrun x.submitted x.begun x.shared

/-- Answering with the end of the thread says nothing about a task that was not begun. -/
theorem Unrun.complete {submitted begun : List CallId} {s : Shared} (h : Unrun submitted begun s)
    {call : CallId} {outcome : Outcome} (he : outcome = .terminated ∨ call ∈ begun) :
    Unrun submitted begun (s.complete call outcome) := by
  intro other hs hb o ho
  by_cases hc : call = other
  · subst hc
    rw [Shared.told_complete_self] at ho
    rcases List.mem_append.mp ho with ho | ho
    · exact h call hs hb o ho
    · rw [List.mem_singleton.mp ho]
      exact he.resolve_right hb
  · rw [Shared.told_complete_ne _ _ hc] at ho
    exact h other hs hb o ho

theorem Unrun.congr {submitted begun : List CallId} {s s' : Shared} (h : Unrun submitted begun s)
    (told : ∀ call ∈ submitted, s'.told call = s.told call) : Unrun submitted begun s' :=
  fun call hs hb outcome ho => h call hs hb outcome (told call hs ▸ ho)

theorem Unrun.submit {submitted begun : List CallId} {s : Shared} (h : Unrun submitted begun s)
    {call : CallId} (unheard : s.told call = []) : Unrun (submitted ++ [call]) begun s := by
  intro other hs hb o ho
  rcases List.mem_append.mp hs with hs | hs
  · exact h other hs hb o ho
  · rw [List.mem_singleton.mp hs, unheard] at ho
    exact absurd ho List.not_mem_nil

/-- What a controller does, and what happens elsewhere, leaves the order of tasks alone. -/
theorem Ordered.congr (h : Ordered x) {t : Thread} {s : Shared} (hk : x.thread.KeepsCalls t)
    (hr : t.worker.running = x.thread.worker.running)
    (hu : Unrun x.submitted x.begun s) :
    Ordered { x with thread := t, shared := s } where
  order := by
    show (x.begun ++ (t.worker.held ++ queued t.inbox)).Sublist x.submitted
    rw [hk.held, hk.inbox]
    exact h.order
  single := by
    show x.begun = x.finished ++ t.worker.running
    rw [hr]
    exact h.single
  carried := by
    show ∀ call ∈ t.worker.underway, call ∈ x.begun
    rw [hk.underway]
    exact h.carried
  unrun := hu

theorem Ordered.own (h : Ordered x) {t : Thread} {s : Shared}
    (step : x.thread.step x.shared = some (t, s)) :
    Ordered
      { x with
        thread := t
        shared := s
        begun := x.begun ++ x.thread.worker.beginning t.worker
        finished := x.finished ++ x.thread.worker.ending t.worker } := by
  obtain ⟨order, single, carried, unrun⟩ := h
  cases Thread.step_stepped step with
  | takes free first =>
    rw [free, first] at order
    rw [free] at single
    refine ⟨?_, ?_, ?_, ?_⟩ <;> simp only [free, Worker.beginning, Worker.ending, List.append_nil]
    · exact order
    · exact single
    · exact fun _ hc => absurd hc List.not_mem_nil
    · exact unrun
  | exits free first =>
    rw [free, first] at order
    rw [free] at single
    refine ⟨?_, ?_, ?_, ?_⟩ <;> simp only [free, Worker.beginning, Worker.ending, List.append_nil]
    · exact order
    · exact single
    · exact fun _ hc => absurd hc List.not_mem_nil
    · exact unrun
  | refuses held dead =>
    rw [held] at order single
    refine ⟨?_, ?_, ?_, ?_⟩ <;> simp only [held, Worker.beginning, Worker.ending, List.append_nil]
    -- The call drops out of the list and leaves a gap.
    · exact ((List.sublist_append_right ..).append_left _).trans order
    · exact single
    · exact fun _ hc => absurd hc List.not_mem_nil
    · exact unrun.complete (.inl rfl)
  | @begins call task p held alive quiet =>
    rw [held] at order single
    refine ⟨?_, ?_, ?_, ?_⟩ <;> simp only [held, Worker.beginning, Worker.ending, List.append_nil]
    -- The call goes over from the held ones to the begun ones, which stand before it in the list.
    · rw [List.append_assoc]
      exact order
    · rw [single]
      simp [Worker.running]
    · exact fun _ hc => List.mem_append_right _ hc
    · intro other hs hb
      exact unrun other hs fun hc => hb (List.mem_append_left _ hc)
  | @proceeds a t s busy progress =>
    have kept := progress.keepsCalls busy
    have begins : x.thread.worker.beginning t.worker = [] := by rw [busy]; rfl
    refine ⟨?_, ?_, ?_, ?_⟩ <;> simp only [begins, List.append_nil]
    · rw [kept.held, kept.inbox]
      exact order
    · rw [single, List.append_assoc, busy]
      cases progress <;> rfl
    · rw [kept.underway]
      exact carried
    · exact unrun.congr fun call _ => Shared.told_congr progress.completed_eq call
  | finishes ended =>
    rw [ended] at order single carried
    refine ⟨?_, ?_, ?_, ?_⟩ <;> simp only [ended, Worker.beginning, Worker.ending, List.append_nil]
    · exact order
    · exact single
    · exact carried
    · exact unrun
  | @tells call outcome ended =>
    rw [ended] at order single carried
    refine ⟨?_, ?_, ?_, ?_⟩ <;> simp only [ended, Worker.beginning, Worker.ending, List.append_nil]
    · exact order
    · exact single
    · exact fun _ hc => absurd hc List.not_mem_nil
    · exact unrun.complete (.inr (carried call (List.mem_singleton_self _)))

theorem Ordered.submit (h : Ordered x) {call : CallId} (task : Task)
    (unheard : x.shared.told call = []) :
    Ordered (x.submit call task) := by
  by_cases ht : x.thread.status = .terminated
  · rw [submit_terminated ht]
    exact ⟨h.order.trans (List.sublist_append_left ..), h.single, h.carried,
      (h.unrun.submit unheard).complete (.inl rfl)⟩
  · rw [submit_alive ht]
    refine ⟨?_, h.single, h.carried, h.unrun.submit unheard⟩
    simp only [queued_append, ← List.append_assoc]
    rw [List.append_assoc x.begun]
    exact h.order.append (.refl _)

theorem Ordered.move (h : Ordered x) (m : Move x y) : Ordered y := by
  cases m with
  | own step => exact h.own step
  | submits call task new unheard => exact h.submit task unheard
  | resumes granted =>
    obtain ⟨-, -, rfl, rfl⟩ := Thread.resume_ok granted
    exact h.congr (Thread.resume_keepsCalls granted) rfl h.unrun
  | halts granted =>
    refine h.congr (Thread.halt_keepsCalls granted) ?_ h.unrun
    obtain ⟨-, rfl | rfl⟩ := Thread.halt_ok granted <;> rfl
  | unparks granted =>
    refine h.congr (Thread.unpark?_keepsCalls granted) ?_ h.unrun
    obtain ⟨a, next, hw, -, rfl⟩ := Thread.unpark?_some granted
    rw [hw]
    rfl
  | strikes alive => exact ⟨h.order, h.single, h.carried, h.unrun⟩
  | @drains message rest draining first =>
    have order := h.order
    rw [first] at order
    cases message with
    | run call task =>
      refine ⟨?_, h.single, h.carried, h.unrun.complete (.inl rfl)⟩
      exact (((List.sublist_cons_self ..).append_left _).append_left _).trans order
    | shutdown => exact ⟨order, h.single, h.carried, h.unrun⟩
  | closes draining clear =>
    have order := h.order
    rw [clear] at order
    exact ⟨order, h.single, h.carried, h.unrun⟩
  | @abandons call task dead closed held =>
    have order := h.order
    have single := h.single
    rw [held] at order single
    refine ⟨((List.sublist_append_right ..).append_left _).trans order, single, ?_,
      h.unrun.complete (.inl rfl)⟩
    exact fun _ hc => absurd hc List.not_mem_nil
  | elsewhere s apart =>
    exact ⟨h.order, h.single, h.carried, h.unrun.congr apart⟩

theorem Reached.ordered (h : Reached x) : Ordered x :=
  h.induct (fun _ _ _ _ => ⟨.refl _, rfl, fun _ hc => absurd hc List.not_mem_nil,
    fun _ hs => absurd hs List.not_mem_nil⟩) fun _ _ => Ordered.move

/-! ## 6. Closing down -/

/-- The message to leave is sent when the inbox of a terminated thread has been cleared, and nothing
is queued behind it. -/
structure Closing (x : Ledger) : Prop where
  dead : x.draining = true → x.thread.status = .terminated
  staying : x.thread.status ≠ .terminated ∨ x.draining = true →
    .shutdown ∉ x.thread.inbox ∧ x.thread.worker ≠ .exited
  clear : x.thread.status = .terminated → x.draining = false → queued x.thread.inbox = []

theorem Closing.congr (h : Closing x) {t : Thread} (hk : x.thread.KeepsCalls t) {s : Shared}
    {begun finished : List CallId} :
    Closing { x with thread := t, shared := s, begun, finished } where
  dead hd := hk.dead.mpr (h.dead hd)
  staying hd := by
    have := h.staying (hd.imp_left (mt hk.dead.mpr))
    show .shutdown ∉ t.inbox ∧ t.worker ≠ .exited
    rw [hk.inbox]
    exact ⟨this.1, mt hk.here.mp this.2⟩
  clear hd hc := by
    show queued t.inbox = []
    rw [hk.inbox]
    exact h.clear (hk.dead.mp hd) hc

/-- **Termination leaves nothing behind, whatever happens meanwhile.** -/
theorem Closing.move (h : Closing x) (m : Move x y) : Closing y := by
  obtain ⟨dead, staying, clear⟩ := h
  cases m with
  | @own t s step =>
    cases Thread.step_stepped step with
    | takes free first =>
      rw [first] at staying clear
      refine ⟨dead, ?_, ?_⟩
      · intro hd
        refine ⟨?_, nofun⟩
        intro hm
        exact (staying hd).1 (List.mem_cons_of_mem _ hm)
      -- A task that is taken was queued, so the thread was not cleared.
      · intro hd hc
        exact absurd (clear hd hc) (List.cons_ne_nil _ _)
    -- The message to leave is in the inbox only when all is done.
    | exits free first =>
      rw [first] at staying clear
      exact ⟨dead, fun hd => absurd List.mem_cons_self (staying hd).1, clear⟩
    | refuses held =>
      exact ⟨dead, fun hd => ⟨(staying hd).1, nofun⟩, clear⟩
    | begins held alive quiet =>
      refine ⟨?_, ?_, nofun⟩
      · intro hd
        exact absurd (dead hd) alive
      · intro _
        exact ⟨(staying (.inl alive)).1, nofun⟩
    | proceeds busy progress =>
      exact Closing.congr ⟨dead, staying, clear⟩ (progress.keepsCalls busy)
    | finishes ended =>
      exact Closing.congr ⟨dead, staying, clear⟩ (Thread.finish_keepsCalls ended)
    | tells ended => exact ⟨dead, fun hd => ⟨(staying hd).1, nofun⟩, clear⟩
  | submits call task new unheard =>
    by_cases ht : x.thread.status = .terminated
    · rw [submit_terminated ht]
      exact ⟨dead, staying, clear⟩
    · rw [submit_alive ht]
      refine ⟨dead, ?_, ?_⟩
      · intro hd
        refine ⟨?_, (staying hd).2⟩
        intro hm
        rcases List.mem_append.mp hm with hm | hm
        · exact (staying hd).1 hm
        · cases List.mem_singleton.mp hm
      · intro hd
        exact absurd hd ht
  | resumes granted =>
    exact Closing.congr ⟨dead, staying, clear⟩ (Thread.resume_keepsCalls granted)
  | halts granted =>
    exact Closing.congr ⟨dead, staying, clear⟩ (Thread.halt_keepsCalls granted)
  | unparks granted =>
    exact Closing.congr ⟨dead, staying, clear⟩ (Thread.unpark?_keepsCalls granted)
  | strikes alive => exact ⟨fun _ => rfl, fun _ => staying (.inl alive), nofun⟩
  | drains draining first =>
    rw [first] at staying
    refine ⟨dead, ?_, ?_⟩
    · intro hd
      exact ⟨fun hm => (staying hd).1 (List.mem_cons_of_mem _ hm), (staying hd).2⟩
    · intro _ hc
      exact absurd (hc.symm.trans draining) Bool.false_ne_true
  | closes draining _ =>
    refine ⟨nofun, ?_, fun _ _ => rfl⟩
    intro hd
    exact (hd.elim (absurd (dead draining)) nofun)
  | abandons terminated closed held =>
    refine ⟨dead, ?_, clear⟩
    intro hd
    exact hd.elim (absurd terminated) fun hd => absurd (closed.symm.trans hd) Bool.false_ne_true
  | elsewhere s apart => exact ⟨dead, staying, clear⟩

theorem Reached.closing (h : Reached x) : Closing x :=
  h.induct (fun _ _ _ _ => ⟨nofun, fun _ => ⟨List.not_mem_nil, nofun⟩, nofun⟩) fun _ _ =>
    Closing.move

/-! ## 7. Every call is answered -/

/-- An answer that was given stands: later ones could only come after it. -/
theorem Move.told_prefix (m : Move x y) {call : CallId} (hs : call ∈ x.submitted) :
    x.shared.told call <+: y.shared.told call := by
  have complete : ∀ (s : Shared) (other : CallId) (outcome : Outcome),
      s.told call <+: (s.complete other outcome).told call := by
    intro s other outcome
    by_cases hc : other = call
    · rw [hc, Shared.told_complete_self]
      exact List.prefix_append ..
    · exact ⟨[], by rw [List.append_nil, Shared.told_complete_ne _ _ hc]⟩
  cases m with
  | @own t s step =>
    cases Thread.step_stepped step with
    | refuses | tells => exact complete ..
    | proceeds busy progress =>
      exact ⟨[], by rw [List.append_nil, Shared.told_congr progress.completed_eq call]⟩
    | takes | exits | begins | finishes => exact List.prefix_rfl
  | submits call' task new unheard =>
    by_cases ht : x.thread.status = .terminated
    · rw [submit_terminated ht]
      exact complete ..
    · exact ⟨[], by rw [List.append_nil, submit_alive ht]⟩
  | resumes granted =>
    obtain ⟨-, -, -, rfl⟩ := Thread.resume_ok granted
    exact List.prefix_rfl
  | @drains message rest draining first =>
    cases message with
    | run call' task => exact complete ..
    | shutdown => exact List.prefix_rfl
  | abandons => exact complete ..
  | halts | unparks | strikes | closes => exact List.prefix_rfl
  | elsewhere s apart => exact ⟨[], by rw [List.append_nil]; exact (apart call hs).symm⟩

theorem Move.mem_submitted (m : Move x y) {call : CallId} (hs : call ∈ x.submitted) :
    call ∈ y.submitted := by
  cases m with
  | submits => exact List.mem_append_left _ hs
  | own | resumes | halts | unparks | strikes | drains | closes | abandons | elsewhere => exact hs

/-- Termination is for good, and no task is begun any more. -/
theorem Move.of_dead (m : Move x y) (hd : x.thread.status = .terminated) :
    y.thread.status = .terminated ∧ y.begun = x.begun := by
  cases m with
  | @own t s step =>
    cases Thread.step_stepped step with
    | takes free | exits free => exact ⟨hd, by simp [free, Worker.beginning]⟩
    | refuses held => exact ⟨hd, by simp [held, Worker.beginning]⟩
    | begins held alive => exact absurd hd alive
    | proceeds busy progress =>
      exact ⟨(progress.keepsCalls busy).dead.mpr hd, by simp [busy, Worker.beginning]⟩
    | finishes ended =>
      exact ⟨(Thread.finish_keepsCalls ended).dead.mpr hd, by simp [ended, Worker.beginning]⟩
    | tells ended => exact ⟨hd, by simp [ended, Worker.beginning]⟩
  | submits call task =>
    rw [submit_terminated hd]
    exact ⟨hd, rfl⟩
  | resumes granted => exact ⟨(Thread.resume_keepsCalls granted).dead.mpr hd, rfl⟩
  | halts granted => exact ⟨(Thread.halt_keepsCalls granted).dead.mpr hd, rfl⟩
  | unparks granted => exact ⟨(Thread.unpark?_keepsCalls granted).dead.mpr hd, rfl⟩
  | strikes alive => exact absurd hd alive
  | drains | closes | abandons | elsewhere => exact ⟨hd, rfl⟩

theorem Run.told_prefix (r : Run x y) {call : CallId} (hs : call ∈ x.submitted) :
    call ∈ y.submitted ∧ x.shared.told call <+: y.shared.told call := by
  induction r with
  | refl => exact ⟨hs, List.prefix_rfl⟩
  | move _ m ih => exact ⟨m.mem_submitted ih.1, ih.2.trans (m.told_prefix ih.1)⟩

theorem Run.of_dead (r : Run x y) (hd : x.thread.status = .terminated) :
    y.thread.status = .terminated ∧ y.begun = x.begun := by
  induction r with
  | refl => exact ⟨hd, rfl⟩
  | move _ m ih =>
    obtain ⟨hd', hb⟩ := m.of_dead ih.1
    exact ⟨hd', hb.trans ih.2⟩

/-- A thread that has nothing left to do owes no answer. -/
theorem pending_eq_nil (h : Closing x)
    (idle : x.thread.worker = .exited ∨ x.thread.worker = .waiting ∧ x.thread.inbox = []) :
    x.pending = [] := by
  rcases idle with gone | ⟨free, empty⟩
  · have hd : x.thread.status = .terminated :=
      Decidable.byContradiction fun alive => (h.staying (.inl alive)).2 gone
    have hc : x.draining = false :=
      Bool.of_not_eq_true fun draining => (h.staying (.inr draining)).2 gone
    simp only [pending, gone, h.clear hd hc]
    rfl
  · simp only [pending, free, empty]
    rfl

theorem told_of_not_pending (h : Accounted x) {call : CallId} (hs : call ∈ x.submitted)
    (hp : call ∉ x.pending) : ∃ outcome, x.shared.told call = [outcome] := by
  have hb := h.balance call hs
  rw [List.count_eq_zero_of_not_mem hp] at hb
  exact List.length_eq_one_iff.mp hb

/-- The refusal of a call is under way: it lies in the inbox that is being cleared, or the thread
holds it and finds out that it may not begin. -/
inductive Refusing (x : Ledger) (call : CallId) : Prop
  | queued (draining : x.draining = true) (waits : call ∈ queued x.thread.inbox)
  | held {task : Task} (holds : x.thread.worker = .holding call task)

theorem refused_or_refusing (hx : Reached x) (hd : x.thread.status = .terminated) {call : CallId}
    (hs : call ∈ x.submitted) (hb : call ∉ x.begun) :
    x.shared.told call = [.terminated] ∨ Refusing x call := by
  by_cases hp : call ∈ x.pending
  · right
    rcases List.mem_append.mp hp with hu | hp
    · exact absurd (hx.ordered.carried call hu) hb
    rcases List.mem_append.mp hp with hh | hq
    · cases hw : x.thread.worker with
      | holding other task =>
        rw [hw] at hh
        cases List.mem_singleton.mp hh
        exact .held hw
      | waiting | busy | ended | telling | exited =>
        rw [hw] at hh
        exact absurd hh List.not_mem_nil
    · cases hc : x.draining with
      | true => exact .queued hc hq
      | false =>
        rw [hx.closing.clear hd hc] at hq
        exact absurd hq List.not_mem_nil
  · left
    obtain ⟨outcome, ho⟩ := told_of_not_pending hx.accounted hs hp
    have := hx.ordered.unrun call hs hb outcome (by rw [ho]; exact List.mem_singleton_self _)
    rw [ho, this]

/-- A refusal that is under way comes to its end without anybody's help. -/
theorem Refusing.answered (hx : Reached x) (hd : x.thread.status = .terminated) {call : CallId}
    (hs : call ∈ x.submitted) (hb : call ∉ x.begun) (h : Refusing x call) :
    ∃ y, Run x y ∧ y.shared.told call = [.terminated] := by
  cases h with
  | @held task holds =>
    have step : x.thread.step x.shared =
        some ({ x.thread with worker := .waiting }, x.shared.complete call .terminated) := by
      simp only [Thread.step, holds, Thread.begin, if_pos hd]
    refine ⟨_, (Run.refl x).move (.own step), ?_⟩
    have hp : call ∈ x.pending := by simp [pending, holds, Worker.held]
    have unheard := hx.accounted.told_eq hs hp
    show (x.shared.complete call .terminated).told call = _
    rw [Shared.told_complete_self, unheard]
    rfl
  | queued draining waits =>
    have run := drain_run x draining
    refine ⟨_, run, ?_⟩
    obtain ⟨hd', hb'⟩ := run.of_dead hd
    rcases refused_or_refusing (hx.run run) hd' (run.told_prefix hs).1 (by rw [hb']; exact hb)
      with told | refusing
    · exact told
    -- Nothing waits in the inbox any more, and what the thread holds was not in it before.
    · cases refusing with
      | queued _ waits => exact absurd waits List.not_mem_nil
      | held holds =>
        have hn := hx.accounted.balance call hs
        have hq := List.count_pos_iff.mpr waits
        simp only [pending, show x.thread.worker = _ from holds, Worker.held, Worker.underway,
          List.count_append, List.count_singleton_self] at hn
        omega

/-- **Every call is answered once.** Whatever the order of events:

* no caller is told twice;
* tasks begin in the order of their submission, and each after the one before it has ended;
* when the thread has left, or waits for a message, all callers have been told;
* once the thread is terminated, a task that was not begun never runs, and its caller is told so or
  is just about to be;
* a caller that comes later is told at once. -/
theorem every_call_is_answered (hx : Reached x) :
    (∀ call ∈ x.submitted, (x.shared.told call).length ≤ 1) ∧
    (x.submitted.Nodup ∧ x.begun.Sublist x.submitted ∧
      x.begun = x.finished ++ x.thread.worker.running) ∧
    ((x.thread.worker = .exited ∨ x.thread.worker = .waiting ∧ x.thread.inbox = []) →
      ∀ call ∈ x.submitted, ∃ outcome, x.shared.told call = [outcome]) ∧
    (x.thread.status = .terminated → ∀ y, Run x y → ∀ call ∈ x.submitted, call ∉ x.begun →
      call ∉ y.begun ∧ (y.shared.told call = [.terminated] ∨ Refusing y call) ∧
        ∃ z, Run y z ∧ z.shared.told call = [.terminated]) ∧
    (x.thread.status = .terminated → ∀ call task, call ∉ x.submitted → x.shared.told call = [] →
      ∀ y, Run (x.submit call task) y → y.shared.told call = [.terminated] ∧ call ∉ y.begun) := by
  have accounted := hx.accounted
  have ordered := hx.ordered
  refine ⟨?_, ⟨accounted.distinct, ?_, ordered.single⟩, ?_, ?_, ?_⟩
  · intro call hs
    have := accounted.balance call hs
    omega
  · exact (List.sublist_append_left ..).trans ordered.order
  · intro idle call hs
    refine told_of_not_pending accounted hs ?_
    rw [pending_eq_nil hx.closing idle]
    exact List.not_mem_nil
  · intro hd y run call hs hb
    obtain ⟨hd', hb'⟩ := run.of_dead hd
    rw [← hb'] at hb
    have hs' := (run.told_prefix hs).1
    have answer := refused_or_refusing (hx.run run) hd' hs' hb
    refine ⟨hb, answer, ?_⟩
    rcases answer with told | refusing
    · exact ⟨y, .refl y, told⟩
    · exact refusing.answered (hx.run run) hd' hs' hb
  · intro hd call task new unheard y run
    have submitted : Move x (x.submit call task) := .submits call task new unheard
    have reached : Reached y := (hx.run ((Run.refl x).move submitted)).run run
    obtain ⟨hd', hb'⟩ := submitted.of_dead hd
    have hs : call ∈ (x.submit call task).submitted :=
      List.mem_append_right _ (List.mem_singleton_self _)
    have told : (x.submit call task).shared.told call = [.terminated] := by
      rw [submit_terminated hd]
      show (x.shared.complete call .terminated).told call = _
      rw [Shared.told_complete_self, unheard]
      rfl
    obtain ⟨hs', before⟩ := run.told_prefix hs
    rw [told] at before
    refine ⟨?_, ?_⟩
    · have short := reached.accounted.balance call hs'
      exact (before.eq_of_length_le (by rw [List.length_singleton]; omega)).symm
    · rw [(run.of_dead hd').2, hb']
      intro hb
      exact new (((List.sublist_append_left ..).trans ordered.order).subset hb)

/-- A thread that is terminated while its first task waits at the gate and a second one is queued.
Nothing has been cleared yet. -/
def interrupted : Ledger where
  thread :=
    { id := 1, name := "main", group := "system"
      status := .terminated
      inbox := [.run 2 (.body (.done (.ok .null)))]
      worker := .busy ⟨1, .parked fun _ => .done (.ok .null), []⟩ }
  shared := {}
  draining := true
  submitted := [1, 2]
  begun := [1]

theorem interrupted_reached : Reached interrupted := by
  have submitted := (Run.refl (fresh 1 "main" "system" {})).move
    (.submits 1 (.body (.park fun _ => .done (.ok .null))) (by decide) rfl)
  have parked := ((submitted.move (.own rfl)).move (.own rfl)).move (.own rfl)
  have queued := parked.move (.submits 2 (.body (.done (.ok .null))) (by decide) rfl)
  exact ⟨1, "main", "system", {}, queued.move (.strikes (by decide))⟩

/-- The second caller is told, and its task never runs. -/
theorem interrupted_calls_answered : Reached interrupted ∧
    ∃ y, Run interrupted y ∧ y.shared.told 2 = [.terminated] := by
  refine ⟨interrupted_reached, ?_⟩
  obtain ⟨-, -, -, refused, -⟩ := every_call_is_answered interrupted_reached
  exact (refused rfl interrupted (.refl _) 2 (by decide) (by decide)).2.2

end Ledger

end Debugger
