import Debugger.Proofs.Thread.Step
/-!
# Where a step over ends

A step over is meant to stay in the frame it was asked for in, or to end in one of the frames that
this one returns to. A thread does not know its frames apart, though. It remembers how high the stack
was and stops at the first line that is reported from no higher, and a stack of the same height need
not have the same frame on top: when the frame is left and its caller makes another call before it
reports a line, the new frame is as high as the old one.

This file says exactly when that happens. `Watched` is a thread whose calls are told apart by when
they were made, so a frame and another one in its place are not the same.

* `Watched.Kept` - the stack of activations is as high as the stack of frames.
* `Watched.Since` - since any moment, the stack has fallen to some lowest height, and what stands
  above that height now was put there since.
* `Watched.step_over_ends` - a step over ends no higher than it began, and in an activation that was
  there when it began just if the stack has never been lower than at the end. If it has, the
  activation is one that began later.
* `Watched.step_over_enters_sibling` - a step over that ends in a later activation.

## 1. Activations

## 2. A watched thread

## 3. What holds of every watched thread

## 4. The stack since a moment

## 5. The request

## 6. Where a step over ends
-/

namespace Debugger

/-! ## 1. Activations -/

namespace Worker

/-- How many calls the task has made and not left. -/
def depth : Worker → Nat
  | busy a => a.callers.length
  | _ => 0

/-- Whether the task will report no line any more. -/
def isLeaving : Worker → Bool
  | busy a => a.position.isException
  | ended .. => true
  | _ => false

end Worker

/-- The activations of a stack that has got to a height: a new one on top if it has grown, and those
that are left if it has shrunk. -/
def restack (now : Nat) (births : List Nat) (depth : Nat) : List Nat :=
  if births.length < depth then now :: births else births.drop (births.length - depth)

theorem restack_self (now : Nat) (births : List Nat) :
    restack now births births.length = births := by
  unfold restack
  rw [if_neg (Nat.lt_irrefl _), Nat.sub_self]
  rfl

theorem length_restack {now depth : Nat} {births : List Nat} (h : depth ≤ births.length + 1) :
    (restack now births depth).length = depth := by
  unfold restack
  split
  · rw [List.length_cons]
    omega
  · rw [List.length_drop]
    omega

theorem mem_restack {now depth b : Nat} {births : List Nat} (h : b ∈ restack now births depth) :
    b = now ∨ b ∈ births := by
  unfold restack at h
  split at h
  · exact List.mem_cons.mp h
  · exact .inr (List.mem_of_mem_drop h)

namespace Thread

variable {t t' : Thread} {s s' : Shared}

/-- A step makes one call at most. -/
theorem Stepped.depth_le (h : Stepped t s t' s') : t'.worker.depth ≤ t.worker.depth + 1 := by
  cases h with
  | proceeds busy progress =>
    rw [busy]
    cases progress with
    | within | stops | shows => exact Nat.le_succ _
    | calls => exact Nat.le_refl _
    | returns inside quiet made =>
      show _ ≤ List.length _ + 1
      rw [made, List.length_cons]
      exact Nat.le_add_right _ 2
    | ends => exact Nat.zero_le _
  | takes | exits | refuses | begins | finishes | tells => exact Nat.zero_le _

/-- A thread that has stopped does not go on by itself. -/
theorem step_of_stopped (hs : t.status.isSuspended = true) (hw : t.worker.isStopped = true) :
    t.step s = none := by
  cases hr : t.status with
  | idle | running | terminated =>
    rw [hr] at hs
    cases hs
  | suspended reason =>
    cases hb : t.worker with
    | waiting | holding | ended | telling | exited =>
      rw [hb] at hw
      cases hw
    | busy a =>
      rw [hb] at hw
      obtain ⟨call, p, callers⟩ := a
      cases p with
      | starting | running | entering | parked => cases hw
      | atLine | atEntry | atException => simp only [step, hb, proceed, hr]

/-- A thread is suspended where it stopped and nowhere else. -/
theorem Stepped.isStopped (h : Stepped t s t' s') (going : t.status.isSuspended = false)
    (hs : t'.status.isSuspended = true) : t'.worker.isStopped = true := by
  cases h with
  | proceeds busy progress =>
    cases progress with
    | within | calls | returns | ends => exact absurd (going.symm.trans hs) Bool.false_ne_true
    | stops inside here => exact here
    | shows => rfl
  | takes | exits | refuses | tells => exact absurd (going.symm.trans hs) Bool.false_ne_true
  | begins => cases hs
  | finishes ended =>
    simp only [finish] at hs
    split at hs <;> cases hs

end Thread

/-! ## 2. A watched thread -/

/-- A thread, and when each call was made that its task has made and not left. -/
structure Watched where
  thread : Thread
  shared : Shared
  /-- How many steps the thread has made. -/
  now : Nat := 0
  /-- The moments of the live activations, innermost first. -/
  births : List Nat := []

namespace Watched

variable {x y z : Watched}

/-- A thread that has just been started. -/
def fresh (id : ThreadId) (name group : String) (s : Shared) : Watched where
  thread := { id, name, group }
  shared := s

/-- What happens to a watched thread. -/
inductive Move : Watched → Watched → Prop
  | own {x : Watched} {t : Thread} {s : Shared} (step : x.thread.step x.shared = some (t, s)) :
      Move x
        { thread := t
          shared := s
          now := x.now + 1
          births := restack x.now x.births t.worker.depth }
  | submits {x : Watched} (call : CallId) (task : Task) :
      Move x
        { x with
          thread := (x.thread.submit call task x.shared).1
          shared := (x.thread.submit call task x.shared).2 }
  | resumes {x : Watched} {kind : Option StepKind} {t : Thread} {s : Shared}
      (granted : x.thread.resume kind x.shared = .ok (t, s)) :
      Move x { x with thread := t, shared := s }
  | halts {x : Watched} {t : Thread} (granted : x.thread.halt = .ok t) :
      Move x { x with thread := t }
  | terminates {x : Watched} :
      Move x
        { x with
          thread := (x.thread.terminate x.shared).1
          shared := (x.thread.terminate x.shared).2 }
  | unparks {x : Watched} {t : Thread} (granted : x.thread.unpark? = some t) :
      Move x { x with thread := t }
  /-- Other threads run, and breakpoints come and go. -/
  | elsewhere {x : Watched} (s : Shared) : Move x { x with shared := s }

/-- What can become of a thread that has just been started. -/
inductive Reached : Watched → Prop
  | fresh (id : ThreadId) (name group : String) (s : Shared) : Reached (fresh id name group s)
  | move {x y : Watched} : Reached x → Move x y → Reached y

/-- What happens until the next suspension, with the moments that were passed. -/
inductive Onward (x : Watched) : List Watched → Watched → Prop
  | start : Onward x [] x
  | move {ys : List Watched} {y z : Watched} : Onward x ys y →
      (going : y.thread.status.isSuspended = false) → Move y z → Onward x (ys ++ [y]) z

/-! ## 3. What holds of every watched thread -/

/-- The stack of activations is the stack of calls, and a thread is suspended only where it
stopped. -/
structure Kept (x : Watched) : Prop where
  height : x.births.length = x.thread.worker.depth
  past : ∀ b ∈ x.births, b < x.now
  balanced : x.thread.Balanced
  stopped : x.thread.status.isSuspended = true → x.thread.worker.isStopped = true

theorem Kept.move (h : Kept x) (m : Move x y) : Kept y := by
  cases m with
  | own step =>
    have stepped := Thread.step_stepped step
    refine ⟨?_, ?_, stepped.balanced h.balanced, ?_⟩
    · apply length_restack
      rw [h.height]
      exact stepped.depth_le
    · intro b hb
      rcases mem_restack hb with rfl | hb
      · exact Nat.lt_succ_self _
      · exact Nat.lt_succ_of_lt (h.past b hb)
    · intro hs
      refine stepped.isStopped (Bool.of_not_eq_true ?_) hs
      intro hx
      rw [Thread.step_of_stopped hx (h.stopped hx)] at step
      cases step
  | submits call task =>
    have balanced := Thread.submit_balanced call task x.shared h.balanced
    rcases x.thread.submit_cases call task x.shared with same | same
    · exact ⟨by rw [same]; exact h.height, h.past, balanced, by rw [same]; exact h.stopped⟩
    · exact ⟨by rw [same]; exact h.height, h.past, balanced, by rw [same]; exact h.stopped⟩
  | resumes granted =>
    have balanced := Thread.resume_balanced granted h.balanced
    obtain ⟨reason, -, rfl, -⟩ := Thread.resume_ok granted
    exact ⟨h.height, h.past, balanced, nofun⟩
  | halts granted =>
    have balanced := Thread.halt_balanced granted h.balanced
    obtain ⟨-, rfl | rfl⟩ := Thread.halt_ok granted
    · exact h
    · exact ⟨h.height, h.past, balanced, h.stopped⟩
  | terminates =>
    have balanced := Thread.terminate_balanced x.shared h.balanced
    rcases x.thread.terminate_cases x.shared with same | same
    · rw [same]
      exact h
    · refine ⟨?_, h.past, balanced, ?_⟩
      · rw [same]
        exact h.height
      · intro hs
        rw [same] at hs
        cases hs
  | unparks granted =>
    have balanced := Thread.unpark?_balanced granted h.balanced
    obtain ⟨a, next, hw, hp, rfl⟩ := Thread.unpark?_some granted
    refine ⟨?_, h.past, balanced, ?_⟩
    · rw [h.height, hw]
      rfl
    · intro hs
      have stopped := h.stopped hs
      rw [hw] at stopped
      simp only [Worker.isStopped, hp, Position.isStop] at stopped
      cases stopped
  | elsewhere s => exact ⟨h.height, h.past, h.balanced, h.stopped⟩

theorem Reached.kept (h : Reached x) : Kept x := by
  induction h with
  | fresh =>
    refine ⟨rfl, fun b hb => absurd hb List.not_mem_nil, ?_, nofun⟩
    intro _ a hw
    cases hw
  | move _ m ih => exact ih.move m

/-! ## 4. The stack since a moment -/

variable {ys : List Watched} {low : Nat} {news : List Nat}

/-- The stack since the moment `x`, with the moments `ys` in between: of the activations then, as
many are left as there were when the stack was lowest, and above them stand later ones. -/
structure Since (x : Watched) (ys : List Watched) (y : Watched) (low : Nat) (news : List Nat) :
    Prop where
  split : y.births = news ++ x.births.drop (x.births.length - low)
  low_le : low ≤ x.births.length
  recent : ∀ b ∈ news, x.now ≤ b
  clock : x.now ≤ y.now
  least : ∀ w ∈ ys, low ≤ w.births.length
  attained : ∃ w ∈ ys ++ [y], w.births.length = low

theorem Since.refl (x : Watched) : Since x [] x x.births.length [] where
  split := by
    rw [Nat.sub_self]
    rfl
  low_le := Nat.le_refl _
  recent b hb := absurd hb List.not_mem_nil
  clock := Nat.le_refl _
  least w hw := absurd hw List.not_mem_nil
  attained := ⟨x, List.mem_singleton_self x, rfl⟩

theorem Since.length_eq (h : Since x ys y low news) : y.births.length = news.length + low := by
  have := h.low_le
  rw [h.split, List.length_append, List.length_drop]
  omega

/-- The lowest height is kept as long as the stack is not lower. -/
theorem Since.extend (h : Since x ys y low news) {news' : List Nat}
    (split : z.births = news' ++ x.births.drop (x.births.length - low))
    (recent : ∀ b ∈ news', x.now ≤ b) (clock : y.now ≤ z.now) :
    Since x (ys ++ [y]) z low news' where
  split := split
  low_le := h.low_le
  recent := recent
  clock := Nat.le_trans h.clock clock
  least w hw := by
    rcases List.mem_append.mp hw with hw | hw
    · exact h.least w hw
    · rw [List.mem_singleton.mp hw, h.length_eq]
      exact Nat.le_add_left _ _
  attained := by
    obtain ⟨w, hw, hl⟩ := h.attained
    exact ⟨w, List.mem_append_left _ hw, hl⟩

/-- Where the stack is lower than ever since, all that was put there since is gone. -/
theorem Since.lower (h : Since x ys y low news) {depth : Nat} (hd : depth < low)
    (left : z.births = x.births.drop (x.births.length - depth)) (clock : y.now ≤ z.now) :
    Since x (ys ++ [y]) z depth [] where
  split := left
  low_le := by
    have := h.low_le
    omega
  recent b hb := absurd hb List.not_mem_nil
  clock := Nat.le_trans h.clock clock
  least w hw := by
    rcases List.mem_append.mp hw with hw | hw
    · have := h.least w hw
      omega
    · rw [List.mem_singleton.mp hw, h.length_eq]
      omega
  attained := by
    refine ⟨z, List.mem_append_right _ (List.mem_singleton_self z), ?_⟩
    have := h.low_le
    rw [left, List.length_drop]
    omega

/-- A step of the thread: the stack grows by an activation of this very moment, or it shrinks, to
some height above the lowest one or below it. -/
theorem Since.restack (h : Since x ys y low news) (depth : Nat) (thread : Thread)
    (shared : Shared) :
    ∃ low' news', Since x (ys ++ [y])
      ⟨thread, shared, y.now + 1, restack y.now y.births depth⟩ low' news' := by
  have height := h.length_eq
  by_cases grows : y.births.length < depth
  · refine ⟨low, y.now :: news, h.extend ?_ ?_ (Nat.le_succ _)⟩
    · show Debugger.restack y.now y.births depth = _
      unfold Debugger.restack
      rw [if_pos grows, h.split]
      rfl
    · intro b hb
      rcases List.mem_cons.mp hb with rfl | hb
      · exact h.clock
      · exact h.recent b hb
  have shrinks : Debugger.restack y.now y.births depth =
      y.births.drop (y.births.length - depth) := by
    unfold Debugger.restack
    rw [if_neg grows]
  -- What is taken off may reach into the activations that were there at the moment `x`.
  by_cases lower : depth < low
  · refine ⟨depth, [], h.lower lower ?_ (Nat.le_succ _)⟩
    show Debugger.restack y.now y.births depth = _
    have := h.low_le
    rw [shrinks, height, h.split, List.drop_append, List.drop_eq_nil_of_le (by omega),
      List.drop_drop, List.nil_append]
    congr 1
    omega
  · refine ⟨low, news.drop (y.births.length - depth), h.extend ?_ ?_ (Nat.le_succ _)⟩
    · show Debugger.restack y.now y.births depth = _
      rw [shrinks, height, h.split, List.drop_append_of_le_length (by omega)]
    · intro b hb
      exact h.recent b (List.mem_of_mem_drop hb)

/-- **However the thread goes on, the stack falls and grows.** -/
theorem Since.move (h : Since x ys y low news) (m : Move y z) :
    ∃ low' news', Since x (ys ++ [y]) z low' news' := by
  cases m with
  | @own t s step => exact h.restack t.worker.depth t s
  | submits | resumes | halts | terminates | unparks | elsewhere =>
    exact ⟨low, news, h.extend h.split h.recent (Nat.le_refl _)⟩

theorem Onward.since (r : Onward x ys y) : ∃ low news, Since x ys y low news := by
  induction r with
  | start => exact ⟨_, _, .refl x⟩
  | move _ _ m ih =>
    obtain ⟨low, news, h⟩ := ih
    exact h.move m

/-- Nothing stands above the old activations just if the stack was never lower than now. -/
theorem Since.news_eq_nil_iff (h : Since x ys y low news) :
    news = [] ↔ ∀ w ∈ ys, y.births.length ≤ w.births.length := by
  have height := h.length_eq
  constructor
  · rintro rfl w hw
    rw [height, List.length_nil, Nat.zero_add]
    exact h.least w hw
  · intro never
    obtain ⟨w, hw, hl⟩ := h.attained
    have : y.births.length ≤ w.births.length := by
      rcases List.mem_append.mp hw with hw | hw
      · exact never w hw
      · exact Nat.le_of_eq (by rw [List.mem_singleton.mp hw])
    exact List.eq_nil_of_length_eq_zero (by omega)

/-- The old activations are told from the later ones by when they began. -/
theorem Since.suffix_iff (h : Since x ys y low news) (past : ∀ b ∈ x.births, b < x.now) :
    y.births <:+ x.births ↔ news = [] := by
  constructor
  · intro old
    cases news with
    | nil => rfl
    | cons b rest =>
      have began : b ∈ y.births := by
        rw [h.split]
        exact List.mem_cons_self
      have := past b (old.subset began)
      have := h.recent b List.mem_cons_self
      omega
  · rintro rfl
    rw [h.split]
    exact List.drop_suffix _ _

/-! ## 5. The request -/

end Watched

namespace Thread

variable {t t' : Thread} {s s' : Shared} {depth : Nat}

/-- The only step that is asked for is one over, from the given height. A thread that is leaving may
have been asked for one from another height, for it shows the frames of an exception; it will not
come to a line. -/
def Pending (depth : Nat) (t : Thread) : Prop :=
  ∀ p, t.pendingStep = some p → p = ⟨.over, depth⟩ ∨ t.worker.isLeaving = true

theorem Pending.of_staying (h : t.Pending depth) (staying : t.worker.isLeaving = false)
    (same : t'.pendingStep = t.pendingStep) : t'.Pending depth := by
  intro p hp
  rw [same] at hp
  rcases h p hp with h | leaving
  · exact .inl h
  · exact absurd (staying.symm.trans leaving) Bool.false_ne_true

theorem Pending.of_none (h : t.pendingStep = none) : t.Pending depth := by
  intro p hp
  rw [h] at hp
  cases hp

theorem Stepped.pending (p : Stepped t s t' s') (h : t.Pending depth) : t'.Pending depth := by
  cases p with
  | takes free | exits free => exact h.of_staying (by rw [free]; rfl) rfl
  | refuses held => exact h.of_staying (by rw [held]; rfl) rfl
  | tells ended => exact h.of_staying (by rw [ended]; rfl) rfl
  | begins | finishes => exact .of_none rfl
  | proceeds busy progress =>
    cases progress with
    | within inside | calls inside | returns inside =>
      exact h.of_staying (by rw [busy]; exact inside) rfl
    | stops | shows => exact .of_none rfl
    | ends =>
      intro _ _
      exact .inr rfl

/-- A step over ends within a call, and within no more calls than it was asked for in. -/
theorem Stepped.ends_step (p : Stepped t s t' s') (going : t.status.isSuspended = false)
    (balanced : t.Balanced) (h : t.Pending depth) (stop : t'.status = .suspended .step) :
    t'.worker.depth = t.worker.depth ∧ 0 < t.worker.depth ∧ t.worker.depth ≤ depth := by
  have was : t.status ≠ .suspended .step := by
    intro hs
    rw [hs] at going
    cases going
  cases p with
  | takes | exits | refuses | tells => exact absurd stop was
  | begins => cases stop
  | finishes ended =>
    simp only [finish] at stop
    split at stop <;> cases stop
  | @proceeds a t' s' busy progress =>
    cases progress with
    | within | calls | returns | ends => exact absurd stop was
    | shows => cases stop
    | stops inside here alive stack deep ordinary reached =>
      cases stop
      -- The request compares frames, and each of them stands for a call.
      have height := balanced alive a busy inside
      obtain ⟨p, hp, ended⟩ := (Option.any_eq_true _ _).mp (reached rfl)
      have staying : t.worker.isLeaving = false := by
        rw [busy]
        exact inside
      rcases h p hp with rfl | leaving
      · rw [busy]
        refine ⟨rfl, ?_, ?_⟩
        · show 0 < a.callers.length
          rw [← height]
          exact List.length_pos_iff.mpr deep
        · show a.callers.length ≤ depth
          rw [← height]
          exact of_decide_eq_true ended
      · exact absurd (staying.symm.trans leaving) Bool.false_ne_true

end Thread

namespace Watched

variable {x y z : Watched} {ys : List Watched} {depth : Nat}

theorem Move.pending (m : Move y z) (going : y.thread.status.isSuspended = false)
    (h : y.thread.Pending depth) : z.thread.Pending depth := by
  cases m with
  | own step => exact (Thread.step_stepped step).pending h
  | submits call task =>
    rcases y.thread.submit_cases call task y.shared with same | same
    · rw [same]
      exact h
    · rw [same]
      exact h
  | resumes granted =>
    obtain ⟨reason, hs, -⟩ := Thread.resume_ok granted
    rw [hs] at going
    cases going
  | halts granted =>
    obtain ⟨-, rfl | rfl⟩ := Thread.halt_ok granted
    · exact h
    · exact h
  | terminates =>
    rcases y.thread.terminate_cases y.shared with same | same
    · rw [same]
      exact h
    · rw [same]
      exact .of_none rfl
  | unparks granted =>
    obtain ⟨a, next, hw, hp, rfl⟩ := Thread.unpark?_some granted
    refine h.of_staying ?_ rfl
    rw [hw]
    show a.position.isException = false
    rw [hp]
    rfl
  | elsewhere s => exact h

/-- A thread that goes on is suspended by a step of its own. -/
theorem Move.own_of_suspended (m : Move y z) (going : y.thread.status.isSuspended = false)
    (hs : z.thread.status.isSuspended = true) :
    y.thread.step y.shared = some (z.thread, z.shared) ∧
      z.births = restack y.now y.births z.thread.worker.depth := by
  have other : z.thread.status ≠ y.thread.status := by
    intro same
    rw [same, going] at hs
    cases hs
  cases m with
  | own step => exact ⟨step, rfl⟩
  | submits call task =>
    rcases y.thread.submit_cases call task y.shared with same | same
    · exact absurd (by rw [same]) other
    · exact absurd (by rw [same]) other
  | resumes granted =>
    obtain ⟨reason, -, rfl, -⟩ := Thread.resume_ok granted
    cases hs
  | halts granted =>
    obtain ⟨-, rfl | rfl⟩ := Thread.halt_ok granted
    · exact absurd rfl other
    · exact absurd rfl other
  | terminates =>
    rcases y.thread.terminate_cases y.shared with same | same
    · exact absurd (by rw [same]) other
    · rw [same] at hs
      cases hs
  | unparks granted =>
    obtain ⟨a, next, -, -, rfl⟩ := Thread.unpark?_some granted
    exact absurd rfl other
  | elsewhere s => exact absurd rfl other

/-- A step that ends at a line ends no higher than it was asked for. -/
theorem Move.stops (m : Move y z) (kept : Kept y) (going : y.thread.status.isSuspended = false)
    (stop : z.thread.status = .suspended .step) (h : y.thread.Pending depth) :
    z.births ≠ [] ∧ z.births.length ≤ depth := by
  obtain ⟨step, births⟩ := m.own_of_suspended going (by rw [stop]; rfl)
  obtain ⟨same, deep, shallow⟩ :=
    (Thread.step_stepped step).ends_step going kept.balanced h stop
  rw [births, same, ← kept.height, restack_self]
  rw [← kept.height] at deep shallow
  exact ⟨List.ne_nil_of_length_pos deep, shallow⟩

/-! ## 6. Where a step over ends -/

/-- The request of a step over, as it stands when the thread is told to go on. -/
theorem pending_of_resume {t : Thread} {s : Shared} (kept : Kept x)
    (asked : x.thread.resume (some .over) x.shared = .ok (t, s)) :
    t.Pending x.births.length := by
  obtain ⟨reason, hs, rfl, -⟩ := Thread.resume_ok asked
  intro p hp
  cases hp
  have stopped := kept.stopped (by rw [hs]; rfl)
  cases hw : x.thread.worker with
  | waiting | holding | ended | telling | exited =>
    rw [hw] at stopped
    cases stopped
  | busy a =>
    -- At an exception the frames shown are not those of the task, so their number says nothing.
    cases inside : a.position.isException with
    | true =>
      right
      exact inside
    | false =>
      left
      have height := kept.balanced (by rw [hs]; exact nofun) a hw inside
      rw [kept.height, hw, height]
      rfl

theorem Onward.pending (r : Onward x ys y) (h : x.thread.Pending depth) :
    y.thread.Pending depth := by
  induction r with
  | start => exact h
  | move _ going m ih => exact m.pending going ih

theorem Onward.kept (r : Onward x ys y) (h : Kept x) : Kept y := by
  induction r with
  | start => exact h
  | move _ _ m ih => exact ih.move m

/-- **Where a step over ends.** Let a stopped thread be told to make a step over, and let the next
suspension be the end of a step. Then the thread is within some call, and no deeper than it was.

The activations that are live are some of those that were live when the step was asked for, just if
the stack was never lower in between. Otherwise the thread has stopped in an activation that began
after the request. -/
theorem step_over_ends {t : Thread} {s : Shared} (hx : Reached x)
    (asked : x.thread.resume (some .over) x.shared = .ok (t, s))
    (run : Onward { x with thread := t, shared := s } ys z)
    (stop : z.thread.status = .suspended .step) :
    (z.births ≠ [] ∧ z.births.length ≤ x.births.length) ∧
    (z.births <:+ x.births ↔ ∀ y ∈ ys, z.births.length ≤ y.births.length) ∧
    (¬z.births <:+ x.births → ∃ b rest, z.births = b :: rest ∧ x.now ≤ b) := by
  have kept := hx.kept
  have going : Kept { x with thread := t, shared := s } := kept.move (.resumes asked)
  obtain ⟨low, news, since⟩ := run.since
  have suffix := since.suffix_iff kept.past
  refine ⟨?_, suffix.trans since.news_eq_nil_iff, ?_⟩
  · cases run with
    | start =>
      obtain ⟨reason, -, rfl, -⟩ := Thread.resume_ok asked
      cases stop
    | move before free m =>
      exact m.stops (before.kept going) free stop (before.pending (pending_of_resume kept asked))
  · intro later
    cases news with
    | nil => exact absurd (suffix.mpr rfl) later
    | cons b rest =>
      exact ⟨b, _, since.split, since.recent b List.mem_cons_self⟩

/-- A method that reports a line. -/
def leaf (name : String) (n : Line) : Method where
  name
  params := []
  returnType := "void"
  kind := .static
  lines := [n]
  body _ := .line n fun r => .done (r.map fun () => .void)

/-- A method that makes two calls between its two lines. -/
def trunk : Method where
  name := "main"
  params := []
  returnType := "void"
  kind := .static
  lines := [1, 2]
  body _ := .line 1 fun _ =>
    .call (.static "A" "f" []) fun _ =>
      .call (.static "A" "g" []) fun _ =>
        .line 2 fun r => .done (r.map fun () => .void)

def branches : ClassDef :=
  { ClassDef.empty "A" .plain with methods := [trunk, leaf "f" 10, leaf "g" 20] }

/-- The methods loaded, and a breakpoint on a line. -/
def loaded (n : Line) : Shared where
  classes := (∅ : Std.TreeMap String ClassDef).insert "A" branches
  breakpoints := BreakpointTable.install ∅ ⟨.line "A" n, none⟩

/-- A step over that ends where it should: from the first line of `main` to the second, across both
calls. -/
theorem step_over_passes_calls :
    ∃ (x : Watched) (ys : List Watched) (z : Watched), Reached x ∧
      z.thread.status = .suspended .step ∧ x.births = [2] ∧ z.births = [2] ∧
      ∀ y ∈ ys, z.births.length ≤ y.births.length := by
  have task := (Reached.fresh 1 "main" "system" (loaded 1)).move
    (.submits 1 (.invoke (.method branches trunk none [])))
  have entered := (((task.move (.own rfl)).move (.own rfl)).move (.own rfl)).move (.own rfl)
  have stopped := entered.move (.own rfl)
  have ends := step_over_ends stopped rfl
    (.move (.move (.move (.move (.move (.move (.move (.move (.move (.move .start
      rfl (.own rfl)) rfl (.own rfl)) rfl (.own rfl)) rfl (.own rfl)) rfl (.own rfl))
      rfl (.own rfl)) rfl (.own rfl)) rfl (.own rfl)) rfl (.own rfl)) rfl (.own rfl))
    rfl
  exact ⟨_, _, _, stopped, rfl, rfl, rfl, ends.2.1.mp (by decide)⟩

/-- **A step over can end in a call that was made after the request.** Asked for in `f`, which has no
line left, it ends in `g`. -/
theorem step_over_enters_sibling :
    ¬∀ x t s ys z, Reached x → x.thread.resume (some .over) x.shared = .ok (t, s) →
      Onward { x with thread := t, shared := s } ys z → z.thread.status = .suspended .step →
      z.births <:+ x.births := by
  intro claim
  have task := (Reached.fresh 1 "main" "system" (loaded 10)).move
    (.submits 1 (.invoke (.method branches trunk none [])))
  have entered := (((task.move (.own rfl)).move (.own rfl)).move (.own rfl)).move (.own rfl)
  have called := ((entered.move (.own rfl)).move (.own rfl)).move (.own rfl)
  have stopped := called.move (.own rfl)
  have ended := claim _ _ _ _ _ stopped rfl
    (.move (.move (.move (.move (.move .start
      rfl (.own rfl)) rfl (.own rfl)) rfl (.own rfl)) rfl (.own rfl)) rfl (.own rfl))
    rfl
  exact absurd ended (by decide)

end Watched

end Debugger
