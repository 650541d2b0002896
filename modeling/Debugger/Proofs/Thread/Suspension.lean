import Debugger.Proofs.Thread.Effects
import Debugger.Proofs.Thread.Stepping
/-!
# Stopping and going on, as a subscriber sees it

A thread stops in three ways, and it is let go on, halted and terminated by others while it runs.
Whatever the order, its story as the subscribers are told it is a simple one: it stops and goes on
in turn, and then it may die. While it is stopped it can be looked at, and what is seen does not
change.

`Observed` is a thread together with a subscriber that was there before it, and `Observed.Move` is
everything that can happen to the two. As with calls, terminating a thread is finer there than
`Thread.terminate`: that the thread died is told after its state was let go of, so the thread can
make steps in between. `Observed.terminate_run` says that the indivisible change is one of the finer
orders.

* `Thread.Poised` - how status, control, pending step and pending halt go together.
* `Observed.Sound` - how the state of the thread and what was told of it go together.
* `Observed.stops_and_goes_on_in_turn` - what follows for every order of events.

## 1. A thread and its status

## 2. What is told of a thread

## 3. A thread that is observed

## 4. What was told agrees with the state

## 5. While a thread is suspended

## 6. The life of a thread
-/

namespace Debugger

/-! ## 1. A thread and its status -/

namespace Thread

variable {t t' : Thread} {a : Activity} {s s' : Shared}

/-- How the parts of a thread that both sides write go together. -/
structure Poised (t : Thread) : Prop where
  /-- A suspended thread stands where it stopped, with nothing pending. -/
  stopped : t.status.isSuspended = true →
    t.worker.isStopped = true ∧ t.pendingStep = none ∧ t.haltRequested = false
  stepping : t.pendingStep.isSome = true → t.status = .running

theorem Stepped.poised (h : Stepped t s t' s') (going : t.status.isSuspended = false)
    (ht : t.Poised) : t'.Poised := by
  refine ⟨fun hs => ⟨h.isStopped going hs, ?_⟩, ?_⟩
  · cases h with
    | proceeds busy progress =>
      cases progress with
      | within | calls | returns | ends => exact absurd (going.symm.trans hs) Bool.false_ne_true
      | stops | shows => exact ⟨rfl, rfl⟩
    | takes | exits | refuses | tells => exact absurd (going.symm.trans hs) Bool.false_ne_true
    | begins => cases hs
    | finishes ended =>
      simp only [finish] at hs
      split at hs <;> cases hs
  · intro hp
    cases h with
    | proceeds busy progress =>
      cases progress with
      | within | calls | returns | ends => exact ht.stepping hp
      | stops | shows => cases hp
    | takes | exits | refuses | tells => exact ht.stepping hp
    | begins => rfl
    | finishes => cases hp

/-- A thread neither terminates itself nor comes back to life. -/
theorem Stepped.dead_iff (h : Stepped t s t' s') :
    t'.status = .terminated ↔ t.status = .terminated := by
  cases h with
  | proceeds busy progress => exact (progress.keepsCalls busy).dead
  | takes | exits | refuses | tells => exact Iff.rfl
  | begins held alive => exact ⟨nofun, fun h => absurd h alive⟩
  | finishes ended => exact (finish_keepsCalls ended).dead

/-- A suspended thread makes no step by itself. -/
theorem Poised.going (ht : t.Poised) (h : t.step s = some (t', s')) :
    t.status.isSuspended = false := by
  cases hs : t.status.isSuspended with
  | false => rfl
  | true =>
    rw [step_of_stopped hs (ht.stopped hs).1] at h
    cases h

theorem isSuspended_iff {status : ThreadStatus} :
    status.isSuspended = true ↔ ∃ reason, status = .suspended reason := by
  cases status with
  | suspended reason => exact ⟨fun _ => ⟨reason, rfl⟩, fun _ => rfl⟩
  | idle | running | terminated => exact ⟨nofun, nofun⟩

theorem frames?_ok {fs : List Frame} (h : t.frames? = .ok fs) :
    (∃ reason, t.status = .suspended reason) ∧ fs = t.frames := by
  unfold frames? at h
  split at h
  · next reason hs =>
    cases h
    exact ⟨⟨reason, hs⟩, rfl⟩
  · cases h
  · cases h

theorem frames?_suspended {reason : StopReason} (h : t.status = .suspended reason) :
    t.frames? = .ok t.frames := by
  unfold frames?
  rw [h]

end Thread

/-! ## 2. What is told of a thread -/

/-- What an event can say of the life of a thread. -/
inductive Sign
  | suspended
  | resumed
  | died
  deriving DecidableEq, Repr

/-- What an event says of the life of one thread. -/
def VmEvent.sign? (id : ThreadId) : VmEvent → Option Sign
  | suspended thread .. => if thread = id then some .suspended else none
  | resumed thread => if thread = id then some .resumed else none
  | threadDied thread => if thread = id then some .died else none
  | started | terminated | threadStarted _ | uncaughtException .. => none

/-- So many signs, of stopping and of going on in turn. -/
def inTurn (n : Nat) : List Sign :=
  (List.range n).map fun i => if i % 2 = 0 then .suspended else .resumed

theorem inTurn_succ (n : Nat) :
    inTurn (n + 1) = inTurn n ++ [if n % 2 = 0 then .suspended else .resumed] := by
  simp only [inTurn, List.range_succ, List.map_append, List.map_singleton]

/-! ## 3. A thread that is observed -/

/-- A thread, and a subscriber that was there before it. -/
structure Observed where
  thread : Thread
  shared : Shared
  /-- From where in the stream of events the subscriber receives them. -/
  since : Nat
  /-- Whether somebody has terminated the thread and has not yet told so. -/
  dying : Bool := false

namespace Observed

variable {x y z : Observed}

/-- The events about the life of the thread that the subscriber has received, in order. -/
def received (x : Observed) : List VmEvent :=
  (x.shared.events.toList.drop x.since).filter fun e => (e.sign? x.thread.id).isSome

/-- What these events say. -/
def signs (x : Observed) : List Sign := x.received.filterMap (·.sign? x.thread.id)

/-- Termination takes effect. -/
def strike (x : Observed) : Observed :=
  { x with
    thread := { x.thread with status := .terminated, frames := [], pendingStep := none }
    dying := true }

/-- Everybody is told that the thread died. -/
def announce (x : Observed) : Observed :=
  { x with shared := x.shared.emit (.threadDied x.thread.id), dying := false }

inductive Move : Observed → Observed → Prop
  /-- The thread makes a step of its own. -/
  | own {x : Observed} {t : Thread} {s : Shared} (step : x.thread.step x.shared = some (t, s)) :
      Move x { x with thread := t, shared := s }
  | resumes {x : Observed} (kind : Option StepKind) {t : Thread} {s : Shared}
      (granted : x.thread.resume kind x.shared = .ok (t, s)) :
      Move x { x with thread := t, shared := s }
  | halts {x : Observed} {t : Thread} (granted : x.thread.halt = .ok t) :
      Move x { x with thread := t }
  | unparks {x : Observed} {t : Thread} (granted : x.thread.unpark? = some t) :
      Move x { x with thread := t }
  | strikes {x : Observed} (alive : x.thread.status ≠ .terminated) : Move x x.strike
  | announces {x : Observed} (struck : x.dying = true) : Move x x.announce
  /-- A task is queued, or the inbox is cleared for termination. -/
  | delivers {x : Observed} (inbox : List Message) :
      Move x { x with thread := { x.thread with inbox } }
  /-- The thread is taken off the list of the running launch. -/
  | unlists {x : Observed} : Move x { x with thread := { x.thread with listed := false } }
  /-- The debuggee itself is gone. A thread that holds a task gives it back and leaves. -/
  | abandons {x : Observed} (dead : x.thread.status = .terminated)
      (free : x.thread.worker.isStopped = false) :
      Move x { x with thread := { x.thread with worker := .exited } }
  /-- Something happens elsewhere in the debuggee. Nobody else speaks for this thread. -/
  | elsewhere {x : Observed} (s : Shared) (news : List VmEvent)
      (told : s.events.toList = x.shared.events.toList ++ news)
      (apart : ∀ e ∈ news, e.sign? x.thread.id = none) : Move x { x with shared := s }

inductive Run : Observed → Observed → Prop
  | refl (x : Observed) : Run x x
  | move {x y z : Observed} : Run x y → Move y z → Run x z

/-- What can become of a thread that has just been started. Nothing was told of it before. -/
inductive Reached : Observed → Prop
  | fresh (id : ThreadId) (name group : String) (s : Shared) (since : Nat)
      (attached : since ≤ s.events.size)
      (unheard : ∀ e ∈ s.events.toList.drop since, e.sign? id = none) :
      Reached { thread := { id, name, group }, shared := s, since }
  | move {x y : Observed} : Reached x → Move x y → Reached y

theorem Run.trans (h : Run x y) (h' : Run y z) : Run x z := by
  induction h' with
  | refl => exact h
  | move _ m ih => exact ih.move m

theorem Reached.run (h : Reached x) (r : Run x y) : Reached y := by
  induction r with
  | refl => exact h
  | move _ m ih => exact ih.move m

theorem discard_kept (inbox : List Message) (s : Shared) :
    ∃ completed, Thread.discard inbox s = { s with completed } := by
  unfold Thread.discard
  induction inbox generalizing s with
  | nil => exact ⟨_, rfl⟩
  | cons m rest ih =>
    cases m with
    | run call task =>
      obtain ⟨completed, eq⟩ := ih (s.complete call .terminated)
      exact ⟨completed, eq⟩
    | shutdown => exact ih s

/-- **Terminating a thread in one go is one order of the finer moves.** -/
theorem terminate_run (x : Observed) (h : x.dying = false) :
    Run x { x with
      thread := (x.thread.terminate x.shared).1
      shared := (x.thread.terminate x.shared).2 } := by
  unfold Thread.terminate
  by_cases ht : x.thread.status = .terminated
  · rw [if_pos ht]
    exact .refl x
  rw [if_neg ht]
  obtain ⟨completed, told⟩ := discard_kept x.thread.inbox x.shared
  have struck : Run x x.strike := (Run.refl x).move (.strikes ht)
  have cleared := struck.move (.delivers [.shutdown])
  have answered := cleared.move
    (.elsewhere { x.shared with completed } [] (List.append_nil _).symm (List.forall_mem_nil _))
  have announced := answered.move (.announces rfl)
  rw [told, h]
  exact announced

/-! ## 4. What was told agrees with the state -/

/-- How what was told of a thread goes with its state. -/
structure Sound (x : Observed) : Prop where
  attached : x.since ≤ x.shared.events.size
  poised : x.thread.Poised
  /-- A living thread has stopped once more than it has gone on just if it is suspended. -/
  alive : x.thread.status ≠ .terminated →
    x.dying = false ∧ ∃ n, x.signs = inTurn n ∧ (n % 2 = 1 ↔ x.thread.status.isSuspended = true)
  dead : x.thread.status = .terminated →
    ∃ n, x.signs = if x.dying then inTurn n else inTurn n ++ [.died]
  /-- The last that was told of a suspended thread is where it stopped. -/
  place : ∀ reason, x.thread.status = .suspended reason → ∃ exception,
    x.received.getLast? =
      some (.suspended x.thread.id reason (x.thread.frames.head?.map Frame.location) exception)

/-- What a subscriber receives when more is told. -/
theorem received_append {news : List VmEvent} (attached : x.since ≤ x.shared.events.size)
    (since : y.since = x.since) (id : y.thread.id = x.thread.id)
    (told : y.shared.events.toList = x.shared.events.toList ++ news) :
    y.received = x.received ++ news.filter fun e => (e.sign? x.thread.id).isSome := by
  have room : x.since ≤ x.shared.events.toList.length := attached
  simp only [received, since, id, told, List.drop_append_of_le_length room, List.filter_append]

theorem signs_append {news : List VmEvent} (attached : x.since ≤ x.shared.events.size)
    (since : y.since = x.since) (id : y.thread.id = x.thread.id)
    (told : y.shared.events.toList = x.shared.events.toList ++ news) :
    y.signs = x.signs ++ news.filterMap (·.sign? x.thread.id) := by
  have received := received_append attached since id told
  have kept : (news.filter fun e => (e.sign? x.thread.id).isSome).filterMap
      (·.sign? x.thread.id) = news.filterMap (·.sign? x.thread.id) := by
    rw [List.filterMap_filter]
    congr 1
    funext e
    cases e.sign? x.thread.id <;> rfl
  simp only [signs, id, received, List.filterMap_append, kept]

/-- A move that tells nothing of the thread and neither stops it nor lets it go on. -/
theorem Sound.quiet (h : Sound x) {t : Thread} {s : Shared} (news : List VmEvent)
    (id : t.id = x.thread.id) (poised : t.Poised)
    (told : s.events.toList = x.shared.events.toList ++ news)
    (apart : ∀ e ∈ news, e.sign? x.thread.id = none)
    (dead : t.status = .terminated ↔ x.thread.status = .terminated)
    (going : t.status.isSuspended = true → t.status = x.thread.status ∧ t.frames = x.thread.frames)
    (staying : x.thread.status.isSuspended = true → t.status.isSuspended = true) :
    Sound { x with thread := t, shared := s } := by
  have none' : news.filterMap (·.sign? x.thread.id) = [] :=
    List.filterMap_eq_nil_iff.mpr apart
  have none : (news.filter fun e => (e.sign? x.thread.id).isSome) = [] := by
    rw [List.filter_eq_nil_iff]
    intro e he
    rw [apart e he]
    exact Bool.false_ne_true
  have received := received_append (y := { x with thread := t, shared := s }) h.attached rfl id told
  have signs := signs_append (y := { x with thread := t, shared := s }) h.attached rfl id told
  rw [none, List.append_nil] at received
  rw [none', List.append_nil] at signs
  refine ⟨?_, poised, ?_, ?_, ?_⟩
  · have length := congrArg List.length told
    simp only [Array.length_toList, List.length_append] at length
    have attached := h.attached
    show x.since ≤ s.events.size
    omega
  · intro ha
    obtain ⟨told, n, eq, parity⟩ := h.alive fun hd => ha (dead.mpr hd)
    refine ⟨told, n, signs.trans eq, parity.trans ⟨staying, fun hs => ?_⟩⟩
    rw [← (going hs).1]
    exact hs
  · intro hd
    obtain ⟨n, eq⟩ := h.dead (dead.mp hd)
    exact ⟨n, signs.trans eq⟩
  · intro reason hs
    obtain ⟨status, frames⟩ := going (Thread.isSuspended_iff.mpr ⟨reason, hs⟩)
    rw [received]
    show ∃ exception, x.received.getLast? =
      some (.suspended t.id reason (t.frames.head?.map Frame.location) exception)
    rw [id, frames]
    exact h.place reason (status ▸ hs)

theorem Sound.silent (h : Sound x) {t : Thread} (id : t.id = x.thread.id) (poised : t.Poised)
    (status : t.status = x.thread.status) (frames : t.frames = x.thread.frames) :
    Sound { x with thread := t } := by
  refine h.quiet [] id poised (List.append_nil _).symm (List.forall_mem_nil _) ?_ ?_ ?_
  · rw [status]
  · exact fun _ => ⟨status, frames⟩
  · rw [status]
    exact fun stopped => stopped

/-- A move after which one more thing is told of the thread. -/
theorem signs_push (h : Sound x) {t : Thread} {s : Shared} {e : VmEvent} {sign : Sign} (dying : Bool)
    (id : t.id = x.thread.id) (told : s.events = x.shared.events.push e)
    (sign_eq : e.sign? x.thread.id = some sign) :
    let y : Observed := { thread := t, shared := s, since := x.since, dying }
    y.since ≤ y.shared.events.size ∧ y.signs = x.signs ++ [sign] ∧ y.received.getLast? = some e := by
  have told' : s.events.toList = x.shared.events.toList ++ [e] := by rw [told, Array.toList_push]
  have received := received_append (y := ⟨t, s, x.since, dying⟩) h.attached rfl id told'
  have signs := signs_append (y := ⟨t, s, x.since, dying⟩) h.attached rfl id told'
  simp only [List.filter_cons, List.filterMap_cons, sign_eq, Option.isSome_some, if_true,
    List.filter_nil, List.filterMap_nil] at received signs
  refine ⟨?_, signs, ?_⟩
  · have attached := h.attached
    show x.since ≤ s.events.size
    rw [told, Array.size_push]
    omega
  · rw [received, List.getLast?_concat]

theorem Sound.own (h : Sound x) {t : Thread} {s : Shared}
    (step : x.thread.step x.shared = some (t, s)) : Sound { x with thread := t, shared := s } := by
  have going := h.poised.going step
  have stepped := Thread.step_stepped step
  have effect := Thread.step_effect step
  have poised := stepped.poised going h.poised
  have dead := stepped.dead_iff
  have still : t.status = x.thread.status → t.status.isSuspended = false := by
    intro same
    rw [same, going]
  have told := effect.told
  generalize hs : s.events = events at told
  cases told with
  | nothing same =>
    refine h.quiet [] effect.same.1 poised (by rw [hs, List.append_nil])
      (List.forall_mem_nil _) dead ?_ ?_
    · intro stopped
      exact absurd ((still (same stopped)).symm.trans stopped) Bool.false_ne_true
    · intro stopped
      exact absurd (going.symm.trans stopped) Bool.false_ne_true
  | uncaught d same =>
    refine h.quiet [.uncaughtException x.thread.id d] effect.same.1 poised
      (by rw [hs, Array.toList_push]) ?_ dead ?_ ?_
    · intro e he
      rw [List.mem_singleton.mp he]
      rfl
    · intro stopped
      exact absurd ((still same).symm.trans stopped) Bool.false_ne_true
    · intro stopped
      exact absurd (going.symm.trans stopped) Bool.false_ne_true
  | stop reason exception stopped =>
    have alive : x.thread.status ≠ .terminated := by
      intro hd
      have hd' := dead.mpr hd
      rw [stopped] at hd'
      cases hd'
    obtain ⟨undying, n, eq, parity⟩ := h.alive alive
    have even : n % 2 = 0 := by
      have : ¬n % 2 = 1 := fun odd => Bool.false_ne_true (going.symm.trans (parity.mp odd))
      omega
    obtain ⟨attached, signs, last⟩ := signs_push h x.dying effect.same.1 hs (if_pos rfl)
    refine ⟨attached, poised, fun _ => ⟨undying, n + 1, ?_, ?_⟩, ?_, ?_⟩
    · rw [inTurn_succ, if_pos even, ← eq]
      exact signs
    · show (n + 1) % 2 = 1 ↔ t.status.isSuspended = true
      rw [stopped]
      exact ⟨fun _ => rfl, fun _ => by omega⟩
    · intro hd
      exact absurd (dead.mp hd) alive
    · intro other hs'
      have hs' : t.status = .suspended other := hs'
      rw [stopped] at hs'
      cases hs'
      refine ⟨exception, last.trans ?_⟩
      rw [effect.same.1]

theorem Sound.resume (h : Sound x) {kind : Option StepKind} {t : Thread} {s : Shared}
    (granted : x.thread.resume kind x.shared = .ok (t, s)) :
    Sound { x with thread := t, shared := s } := by
  obtain ⟨reason, hs, rfl, rfl⟩ := Thread.resume_ok granted
  have stopped := Thread.isSuspended_iff.mpr ⟨reason, hs⟩
  obtain ⟨undying, n, eq, parity⟩ := h.alive (by rw [hs]; exact nofun)
  have odd : n % 2 = 1 := parity.mpr stopped
  obtain ⟨attached, signs, -⟩ := signs_push (e := .resumed x.thread.id)
    (s := x.shared.emit (.resumed x.thread.id)) h x.dying
    (t := { x.thread with
      status := .running
      pendingStep := kind.map fun kind => ⟨kind, x.thread.frames.length⟩ })
    rfl rfl (if_pos rfl)
  refine ⟨attached, ⟨nofun, fun _ => rfl⟩, fun _ => ⟨undying, n + 1, ?_, ?_⟩, nofun, nofun⟩
  · rw [inTurn_succ, if_neg (by omega), ← eq]
    exact signs
  · exact ⟨fun _ => by omega, nofun⟩

theorem Sound.strike (h : Sound x) (alive : x.thread.status ≠ .terminated) : Sound x.strike := by
  obtain ⟨-, n, eq, -⟩ := h.alive alive
  exact ⟨h.attached, ⟨nofun, nofun⟩, fun ha => absurd rfl ha, fun _ => ⟨n, eq⟩, nofun⟩

/-- **What was told agrees with the state after every move.** -/
theorem Sound.move (h : Sound x) (m : Move x y) : Sound y := by
  cases m with
  | own step => exact h.own step
  | resumes kind granted => exact h.resume granted
  | halts granted =>
    unfold Thread.halt at granted
    split at granted
    · next running =>
      cases granted
      refine h.silent rfl ⟨?_, h.poised.stepping⟩ rfl rfl
      intro hs
      have hs : x.thread.status.isSuspended = true := hs
      rw [running] at hs
      cases hs
    · cases granted
    · cases granted
      exact h
  | unparks granted =>
    obtain ⟨a, next, busy, parked, rfl⟩ := Thread.unpark?_some granted
    refine h.silent rfl ⟨?_, h.poised.stepping⟩ rfl rfl
    -- A thread that waits at the gate is not suspended.
    intro hs
    have stopped := (h.poised.stopped hs).1
    rw [busy, Worker.isStopped, parked] at stopped
    cases stopped
  | strikes alive => exact h.strike alive
  | announces struck =>
    have hd : x.thread.status = .terminated := Decidable.byContradiction fun alive =>
      Bool.false_ne_true ((h.alive alive).1.symm.trans struck)
    obtain ⟨n, eq⟩ := h.dead hd
    obtain ⟨attached, signs, -⟩ := signs_push (e := .threadDied x.thread.id)
      (s := x.shared.emit (.threadDied x.thread.id)) (t := x.thread) h false rfl rfl (if_pos rfl)
    rw [struck, if_pos rfl] at eq
    refine ⟨attached, h.poised, fun ha => absurd hd ha, fun _ => ⟨n, ?_⟩, ?_⟩
    · rw [← eq]
      exact signs
    · intro reason hs
      have hs : x.thread.status = .suspended reason := hs
      rw [hd] at hs
      cases hs
  | delivers inbox =>
    exact h.silent rfl ⟨h.poised.stopped, h.poised.stepping⟩ rfl rfl
  | unlists =>
    exact h.silent rfl ⟨h.poised.stopped, h.poised.stepping⟩ rfl rfl
  | abandons dead free =>
    refine h.silent rfl ⟨?_, h.poised.stepping⟩ rfl rfl
    intro hs
    exact absurd (free.symm.trans (h.poised.stopped hs).1) Bool.false_ne_true
  | elsewhere s news told apart =>
    exact h.quiet news rfl h.poised told apart Iff.rfl (fun _ => ⟨rfl, rfl⟩) id

theorem Reached.sound (h : Reached x) : Sound x := by
  induction h with
  | fresh id name group s since attached unheard =>
    have unheard' : (s.events.toList.drop since).filter (fun e => (e.sign? id).isSome) = [] := by
      rw [List.filter_eq_nil_iff]
      intro e he
      rw [unheard e he]
      exact Bool.false_ne_true
    refine ⟨attached, ⟨nofun, nofun⟩, fun _ => ⟨rfl, 0, ?_, ⟨nofun, nofun⟩⟩, nofun, nofun⟩
    simp only [signs, received, unheard', List.filterMap_nil]
    rfl
  | move _ m ih => exact ih.move m

/-! ## 5. While a thread is suspended -/

/-- A terminated thread stays so. -/
theorem Move.dead (m : Move x y) (h : x.thread.status = .terminated) :
    y.thread.status = .terminated := by
  cases m with
  | own step => exact (Thread.step_stepped step).dead_iff.mpr h
  | resumes kind granted => exact (Thread.resume_keepsCalls granted).dead.mpr h
  | halts granted => exact (Thread.halt_keepsCalls granted).dead.mpr h
  | unparks granted => exact (Thread.unpark?_keepsCalls granted).dead.mpr h
  | strikes => rfl
  | announces | delivers | unlists | abandons | elsewhere => exact h

theorem Run.dead (r : Run x y) (h : x.thread.status = .terminated) :
    y.thread.status = .terminated := by
  induction r with
  | refl => exact h
  | move _ m ih => exact m.dead ih

/-- What can become of a thread since it was seen suspended: it still is, with the same frames and
nothing told of it; or it went on, and this was told; or it was terminated. -/
inductive Lasting (x y : Observed) : Prop
  | stays (status : y.thread.status = x.thread.status) (frames : y.thread.frames = x.thread.frames)
      (silent : y.signs = x.signs)
  | goes (told : x.signs.length < y.signs.length)
  | dies (dead : y.thread.status = .terminated)

/-- What was told is not taken back, and the thread stays the one it is. -/
theorem Move.grows (m : Move x y) :
    y.since = x.since ∧ y.thread.id = x.thread.id ∧
      ∃ news, y.shared.events.toList = x.shared.events.toList ++ news := by
  have unsaid : x.shared.events.toList = x.shared.events.toList ++ [] := (List.append_nil _).symm
  cases m with
  | @own t s step =>
    have effect := Thread.step_effect step
    have told := effect.told
    refine ⟨rfl, effect.same.1, ?_⟩
    show ∃ news, s.events.toList = _ ++ news
    generalize s.events = events at told
    cases told with
    | nothing => exact ⟨[], unsaid⟩
    | uncaught | stop => exact ⟨_, Array.toList_push⟩
  | resumes kind granted =>
    obtain ⟨-, -, rfl, rfl⟩ := Thread.resume_ok granted
    exact ⟨rfl, rfl, _, Array.toList_push⟩
  | halts granted =>
    obtain ⟨-, rfl | rfl⟩ := Thread.halt_ok granted <;> exact ⟨rfl, rfl, [], unsaid⟩
  | unparks granted =>
    obtain ⟨-, -, -, -, rfl⟩ := Thread.unpark?_some granted
    exact ⟨rfl, rfl, [], unsaid⟩
  | announces => exact ⟨rfl, rfl, _, Array.toList_push⟩
  | strikes | delivers | unlists | abandons => exact ⟨rfl, rfl, [], unsaid⟩
  | elsewhere s news told => exact ⟨rfl, rfl, news, told⟩

theorem Sound.signs_le (h : Sound x) (m : Move x y) : x.signs.length ≤ y.signs.length := by
  obtain ⟨since, id, news, told⟩ := m.grows
  rw [signs_append h.attached since id told, List.length_append]
  exact Nat.le_add_right ..

/-- Nobody but a controller that resumes it or terminates it touches a suspended thread. -/
theorem Sound.lasting (h : Sound x) (stopped : x.thread.status.isSuspended = true) (m : Move x y) :
    Lasting x y := by
  cases m with
  | own step => exact absurd ((h.poised.going step).symm.trans stopped) Bool.false_ne_true
  | @resumes kind t s granted =>
    obtain ⟨-, -, rfl, rfl⟩ := Thread.resume_ok granted
    obtain ⟨-, signs, -⟩ := signs_push (e := .resumed x.thread.id)
      (s := x.shared.emit (.resumed x.thread.id)) h x.dying
      (t := { x.thread with
        status := .running
        pendingStep := kind.map fun kind => ⟨kind, x.thread.frames.length⟩ })
      rfl rfl (if_pos rfl)
    refine .goes ?_
    rw [signs, List.length_append]
    exact Nat.lt_succ_self _
  | halts granted =>
    obtain ⟨-, rfl | rfl⟩ := Thread.halt_ok granted <;> exact .stays rfl rfl rfl
  | unparks granted =>
    obtain ⟨-, -, -, -, rfl⟩ := Thread.unpark?_some granted
    exact .stays rfl rfl rfl
  | strikes => exact .dies rfl
  | announces struck =>
    have alive : x.thread.status ≠ .terminated := by
      intro hd
      rw [hd] at stopped
      cases stopped
    exact absurd ((h.alive alive).1.symm.trans struck) Bool.false_ne_true
  | delivers | unlists | abandons => exact .stays rfl rfl rfl
  | elsewhere s news told apart =>
    refine .stays rfl rfl ?_
    rw [signs_append (y := { x with shared := s }) h.attached rfl rfl told,
      List.filterMap_eq_nil_iff.mpr apart, List.append_nil]

theorem Run.lasting (r : Run x y) (hx : Reached x) (stopped : x.thread.status.isSuspended = true) :
    Lasting x y := by
  induction r with
  | refl => exact .stays rfl rfl rfl
  | @move y z r m ih =>
    have sound := (hx.run r).sound
    cases ih with
    | stays status frames silent =>
      cases sound.lasting (status ▸ stopped) m with
      | stays status' frames' silent' =>
        exact .stays (status'.trans status) (frames'.trans frames) (silent'.trans silent)
      | goes told => exact .goes (silent ▸ told)
      | dies dead => exact .dies dead
    | goes told => exact .goes (Nat.lt_of_lt_of_le told (sound.signs_le m))
    | dies dead => exact .dies (m.dead dead)

/-! ## 6. The life of a thread -/

/-- **How a thread lives, in every order of what it does itself and what is done to it.**

* What a subscriber is told is that it stops and goes on in turn, and after that at most once that
  it died.
* A terminated thread stays so.
* As long as a thread is suspended and nothing is told of it, its frames are the same, and the place
  that was told is that of the innermost one.
* A suspended thread has no pending step and no pending halt, and a step is pending on a running
  thread only. -/
theorem stops_and_goes_on_in_turn (hx : Reached x) :
    (∃ n, x.signs = inTurn n ∨ x.signs = inTurn n ++ [.died]) ∧
    (∀ y, Run x y → x.thread.status = .terminated → y.thread.status = .terminated) ∧
    (∀ fs, x.thread.frames? = .ok fs →
      (∃ reason exception, x.thread.status = .suspended reason ∧ x.received.getLast? =
        some (.suspended x.thread.id reason (fs.head?.map Frame.location) exception)) ∧
      ∀ y, Run x y → y.thread.status.isSuspended = true → y.signs = x.signs →
        y.thread.frames? = .ok fs) ∧
    (∀ reason, x.thread.status = .suspended reason →
      x.thread.pendingStep = none ∧ x.thread.haltRequested = false) ∧
    (x.thread.pendingStep.isSome = true → x.thread.status = .running) := by
  have sound := hx.sound
  refine ⟨?_, fun y run => run.dead, ?_, ?_, sound.poised.stepping⟩
  · by_cases hd : x.thread.status = .terminated
    · obtain ⟨n, eq⟩ := sound.dead hd
      cases hy : x.dying with
      | true => exact ⟨n, .inl (by rw [eq, hy, if_pos rfl])⟩
      | false => exact ⟨n, .inr (by rw [eq, hy, if_neg Bool.false_ne_true])⟩
    · obtain ⟨-, n, eq, -⟩ := sound.alive hd
      exact ⟨n, .inl eq⟩
  · intro fs looked
    obtain ⟨⟨reason, hs⟩, rfl⟩ := Thread.frames?_ok looked
    have stopped := Thread.isSuspended_iff.mpr ⟨reason, hs⟩
    obtain ⟨exception, last⟩ := sound.place reason hs
    refine ⟨⟨reason, exception, hs, last⟩, ?_⟩
    intro y run still silent
    cases run.lasting hx stopped with
    | stays status frames =>
      rw [← frames]
      exact Thread.frames?_suspended (status.trans hs)
    | goes told => exact absurd told (by rw [silent]; exact Nat.lt_irrefl _)
    | dies dead =>
      rw [dead] at still
      cases still
  · intro reason hs
    exact (sound.poised.stopped (Thread.isSuspended_iff.mpr ⟨reason, hs⟩)).2

/-- A method of two lines. -/
def couplet : Method where
  name := "main"
  params := []
  returnType := "void"
  kind := .static
  lines := [1, 2]
  body _ := .line 1 fun _ => .line 2 fun r => .done (r.map fun () => .void)

/-- A thread that is halted at the first line and let go on for a step stops at the second, and that
is what it shows for as long as nobody does more. -/
theorem stops_at_both_lines :
    ∃ x, Reached x ∧ x.signs = [.suspended, .resumed, .suspended] ∧
      x.thread.frames? = .ok [⟨"A", "main", none, 2, [], none⟩] ∧
      ∀ y, Run x y → y.thread.status.isSuspended = true → y.signs = x.signs →
        y.thread.frames? = .ok [⟨"A", "main", none, 2, [], none⟩] := by
  have queued := (Reached.fresh 1 "main" "main" {} 0 (Nat.zero_le _) nofun).move
    (.delivers [.run 1 (.invoke (.method (.empty "A" .plain) couplet none []))])
  have halted := ((queued.move (.own rfl)).move (.own rfl)).move (.halts rfl)
  have first := ((halted.move (.own rfl)).move (.own rfl)).move (.own rfl)
  have going := first.move (.resumes (some .over) rfl)
  have second := (going.move (.own rfl)).move (.own rfl)
  obtain ⟨-, -, shown, -, -⟩ := stops_and_goes_on_in_turn second
  exact ⟨_, second, rfl, rfl, (shown _ rfl).2⟩

end Observed

end Debugger
