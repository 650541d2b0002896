import Debugger.Proofs.Debuggee.Parameters
import Debugger.Proofs.Debuggee.Stack
/-!
# How the answer of a call comes about

A call has a number, and from the moment it is submitted one thread owes an answer under that
number: first as a task that waits, then as the task it is at, at last as an outcome it has yet to
tell. No other call ever has the number, so what is told under it is what this one thread came to.

* `Invocation.Stage` - where a thread can be at a call: about to make it, in its body, back from it.
* `Thread.Fares.serves` - whatever happens to a thread, it makes the call it was given under a
  number, and is at no other for it.
* `Vm.standing_after` - a number is yet to be given out, or one thread owes its answer once and
  nobody has been told, or no thread owes it.
* `Vm.Due` - once the body has come to an object, the object is what is told, and it takes the
  thread four steps that nothing can keep it from.

## 1. Stages of a call

## 2. Who owes an answer

## 3. One number, one call

## 4. From the body to the caller
-/

namespace Debugger

open Std (TreeMap)

/-! ## 1. Stages of a call -/

/-- How a task goes on after its call: what a method gave is what the task gives, and what a
constructor gave is dropped for the object. -/
inductive Invocation.Returns : Invocation → (Except Thrown Value → Body) → Prop
  | method (c : ClassDef) (m : Method) (receiver : Option ObjectRef) (args : List Value) :
      Returns (.method c m receiver args) .done
  | construct (c : ClassDef) (constructor : Option Method) (args : List Value) (o : ObjectRef) :
      Returns (.construct c constructor args) fun r => .done (r.map fun _ => .object o)

theorem Invocation.Returns.done {i : Invocation} {k : Except Thrown Value → Body}
    (h : i.Returns k) (result : Except Thrown Value) : ∃ result', k result = .done result' := by
  cases h with
  | method => exact ⟨result, rfl⟩
  | construct => exact ⟨_, rfl⟩

/-- Where a thread can be when a call is its task, and who waits for what it is at. -/
inductive Invocation.Stage (i : Invocation) :
    Position → List (Except Thrown Value → Body) → Prop
  | starting : Stage i (.starting i) []
  | entering {c : ClassDef} {m : Method} {args : List Value} {k : Except Thrown Value → Body}
      (target : i.target? = some (c, m, args)) (returns : i.Returns k) :
      Stage i (.entering (m.body args)) [k]
  /-- The body is running, or one that it called. -/
  | inside {p : Position} {inner : List (Except Thrown Value → Body)}
      {k : Except Thrown Value → Body} (quiet : p.isException = false)
      (past : inner = [] → p.isEntrance = false) (returns : i.Returns k) : Stage i p (inner ++ [k])
  | left {result : Except Thrown Value} : Stage i (.running (.done result)) []
  | shown {d : ExceptionDescription} : Stage i (.atException d) []

namespace Thread

variable {t t' : Thread} {a b : Activity} {s s' : Shared} {i : Invocation} {call : CallId}
  {task : Task}

/-- The call of a task is made. -/
theorem invoke_stage (made : t.invoke ⟨call, .starting i, []⟩ i .done s = (t', s'))
    (busy : t'.worker = .busy b) : i.Stage b.position b.callers := by
  cases i with
  | method c m receiver args =>
    cases made
    cases busy
    exact .entering rfl (.method c m receiver args)
  | construct c constructor args =>
    cases constructor with
    | none =>
      cases made
      cases busy
      exact .left
    | some m =>
      cases made
      cases busy
      exact .entering rfl (.construct c (some m) args _)

/-- A body of the call makes a call of its own, or a thread goes on behind every entrance. -/
theorem inside_stage {x : Staged} {call : CallId} {p : Position}
    {inner : List (Except Thrown Value → Body)} {k : Except Thrown Value → Body}
    (busy : x.thread.worker = .busy ⟨call, p, inner ++ [k]⟩) (quiet : p.isException = false)
    (returns : i.Returns k) (step : x.thread.step x.shared = some (t', s'))
    (busy' : t'.worker = .busy b) : i.Stage b.position b.callers := by
  have turn := Staged.step_turn busy quiet step
  generalize x.nextCalls = calls at turn
  simp only [Thread.step, busy] at step
  rcases proceed_calls step with ⟨j, next, calls, made⟩ | past
  · -- The call that is made waits for its own body, above the one the task waits for.
    have above (body : Body) (n : Except Thrown Value → Body) :
        i.Stage (.entering body) ((n :: inner) ++ [k]) :=
      .inside rfl (fun none => absurd none (List.cons_ne_nil _ _)) returns
    cases j with
    | method c m receiver args =>
      cases made
      cases busy'
      exact above _ _
    | construct c constructor args =>
      cases constructor with
      | none =>
        cases made
        cases busy'
        exact .inside rfl (fun _ => rfl) returns
      | some m =>
        cases made
        cases busy'
        exact above _ _
  · have entered : b.position.isEntrance = false := past b busy'
    generalize t'.frames = frames at turn
    rw [busy'] at turn
    generalize hw : Worker.busy b = w at turn
    cases turn with
    | stays quiet' | reports quiet' =>
      cases hw
      exact .inside quiet' (fun _ => entered) returns
    | calls =>
      cases hw
      cases entered
    | returns made =>
      cases hw
      cases inner with
      | nil =>
        obtain ⟨rfl, rfl⟩ := List.cons.inj made
        obtain ⟨result, done⟩ := returns.done _
        dsimp only
        rw [done]
        exact .left
      | cons next' inner =>
        obtain ⟨rfl, rfl⟩ := List.cons.inj made
        exact .inside rfl (fun _ => rfl) returns
    | shows last | ends last => exact absurd last (by simp)

/-- **A step of a task leads from one stage of its call to another.** -/
theorem step_stage (busy : t.worker = .busy a) (stage : i.Stage a.position a.callers)
    (step : t.step s = some (t', s')) (busy' : t'.worker = .busy b) :
    i.Stage b.position b.callers := by
  obtain ⟨call, p, callers⟩ := a
  cases stage with
  | starting =>
    simp only [Thread.step, busy] at step
    exact invoke_stage (Option.some.inj step) busy'
  | @entering c m args k target returns =>
    have busy : t.worker = .busy ⟨call, .entering (m.body args), [] ++ [k]⟩ := busy
    exact inside_stage (x := ⟨t, s, []⟩) busy rfl returns step busy'
  | inside quiet past returns =>
    exact inside_stage (x := ⟨t, s, []⟩) busy quiet returns step busy'
  | @left result =>
    simp only [Thread.step, busy, proceed, run] at step
    cases result with
    | ok v =>
      cases step
      cases busy'
    | error thrown =>
      cases thrown with
      | threadDeath =>
        cases step
        cases busy'
      | exception typeName message frames =>
        simp only [conclude] at step
        split at step
        · split at step
          · cases step
            cases busy'
          · cases step
            cases busy'
            exact .shown
        · cases step
          cases busy'
  | shown =>
    simp only [Thread.step, busy, proceed] at step
    split at step <;> cases step <;> cases busy'

/-- A thread has nothing to do under a number but to make a call, and it is at no other for it. -/
structure Serves (t : Thread) (call : CallId) (i : Invocation) : Prop where
  given : ∀ task, t.HasTask call task → task = .invoke i
  stage : ∀ p callers, t.worker = .busy ⟨call, p, callers⟩ → i.Stage p callers

theorem Serves.step (h : t.Serves call i) (step : t.step s = some (t', s')) :
    t'.Serves call i := by
  refine ⟨fun task has => h.given task (step_hasTask step has), fun p callers busy' => ?_⟩
  cases step_stepped step with
  | @proceeds a t' s' busy progress =>
    have same : t'.worker.underway = t.worker.underway := (progress.keepsCalls busy).underway
    rw [busy, busy'] at same
    obtain rfl : call = a.call := List.cons.inj same |>.1
    exact step_stage busy (h.stage a.position a.callers busy) step busy'
  | @begins held taken p' holds alive quiet =>
    cases busy'
    obtain rfl := h.given taken (.held holds)
    simp only [Thread.step, holds, «begin», if_neg alive] at step
    cases step
    exact .starting
  | takes | exits | refuses | finishes | tells => cases busy'

/-- **Whatever happens to a thread, it makes the call it was given under a number.** -/
theorem Fares.serves (f : t.Fares s t' s') (h : t.Serves call i) : t'.Serves call i := by
  cases f with
  | steps step => exact h.step step
  | steered id inbox worker =>
    exact ⟨fun task has => h.given task (has.of_same inbox worker),
      fun p callers busy => h.stage p callers (worker ▸ busy)⟩
  | dies id inbox worker told =>
    refine ⟨fun task has => h.given task ?_, fun p callers busy => h.stage p callers ?_⟩
    · exact (Fares.dies id inbox worker told).hasTask has
    · rw [← worker]
      exact busy
  | unparks granted =>
    refine ⟨fun task has => h.given task ((Fares.unparks (s := s) granted).hasTask has), ?_⟩
    intro p callers busy'
    obtain ⟨⟨call', p', callers'⟩, next, busy, rfl, rfl⟩ := unpark?_some granted
    cases busy'
    cases h.stage _ _ busy with
    | inside quiet past returns => exact .inside rfl (fun _ => rfl) returns

/-! ## 2. Who owes an answer -/

/-- The calls that a thread owes an answer to. -/
def owed (t : Thread) : List CallId :=
  t.worker.underway ++ t.worker.held ++ queued t.inbox

theorem HasTask.owed (h : t.HasTask call task) : call ∈ t.owed := by
  cases h with
  | queued waits =>
    exact List.mem_append_right _ (List.mem_filterMap.mpr ⟨_, waits, rfl⟩)
  | held held =>
    unfold Thread.owed
    rw [held]
    exact List.mem_append_left _ (List.mem_append_right _ List.mem_cons_self)
  | starting busy =>
    unfold Thread.owed
    rw [busy]
    exact List.mem_append_left _ (List.mem_append_left _ List.mem_cons_self)

theorem owed_of_underway (h : call ∈ t.worker.underway) : call ∈ t.owed :=
  List.mem_append_left _ (List.mem_append_left _ h)

theorem serves_of_not_owed (unowed : call ∉ t.owed) (i : Invocation) : t.Serves call i := by
  refine ⟨fun task has => absurd has.owed unowed, fun p callers busy => absurd ?_ unowed⟩
  exact owed_of_underway (by rw [busy]; exact List.mem_cons_self)

theorem KeepsCalls.owed (h : t.KeepsCalls t') : t'.owed = t.owed := by
  unfold Thread.owed
  rw [h.underway, h.held, h.inbox]

theorem discard_told (inbox : List Message) (s : Shared) :
    (discard inbox s).completed.toList =
      s.completed.toList ++ (queued inbox).map fun call => (call, .terminated) := by
  induction inbox generalizing s with
  | nil => exact (List.append_nil _).symm
  | cons m rest ih =>
    cases m with
    | run call task =>
      have told : (s.complete call .terminated).completed.toList =
          s.completed.toList ++ [(call, .terminated)] := Array.toList_push
      have rest := ih (s.complete call .terminated)
      rw [told, List.append_assoc] at rest
      exact rest
    | shutdown => exact ih s

/-- An answer that is told is not owed any more, and nothing else is told. -/
def Pays (t : Thread) (s : Shared) (t' : Thread) (s' : Shared) : Prop :=
  ∃ paid : List (CallId × Outcome), s'.completed.toList = s.completed.toList ++ paid ∧
    t.owed.Perm (paid.map (·.1) ++ t'.owed)

theorem Pays.of_same (owed : t'.owed = t.owed) (told : s'.completed = s.completed) :
    t.Pays s t' s' :=
  ⟨[], by rw [told, List.append_nil], by rw [owed]; exact .refl _⟩

theorem Stepped.pays (h : Stepped t s t' s') : t.Pays s t' s' := by
  cases h with
  | takes free first =>
    refine .of_same ?_ rfl
    unfold Thread.owed
    rw [free, first]
    rfl
  | exits free first =>
    refine .of_same ?_ rfl
    unfold Thread.owed
    rw [free, first]
    rfl
  | @refuses held task holds dead =>
    refine ⟨[(held, .terminated)], Array.toList_push, ?_⟩
    unfold Thread.owed
    rw [holds]
    exact .refl _
  | begins holds alive quiet =>
    refine .of_same ?_ rfl
    unfold Thread.owed
    rw [holds]
    rfl
  | proceeds busy progress => exact .of_same (progress.keepsCalls busy).owed progress.completed_eq
  | finishes ended => exact .of_same (finish_keepsCalls ended).owed rfl
  | @tells call outcome telling =>
    refine ⟨[(call, outcome)], Array.toList_push, ?_⟩
    unfold Thread.owed
    rw [telling]
    exact .refl _

/-- **Whatever happens to a thread, each answer it owed it still owes or has told.** -/
theorem Fares.pays (f : t.Fares s t' s') : t.Pays s t' s' := by
  cases f with
  | steps step => exact (step_stepped step).pays
  | steered id inbox worker told =>
    refine .of_same ?_ told
    unfold Thread.owed
    rw [inbox, worker]
  | unparks granted => exact .of_same (unpark?_keepsCalls granted).owed rfl
  | dies id inbox worker told =>
    by_cases dead : t.status = .terminated
    · have same : t.terminate s = (t, s) := by rw [terminate, if_pos dead]
      rw [same] at inbox told
      refine .of_same ?_ told
      unfold Thread.owed
      rw [inbox, worker]
    · simp only [terminate, if_neg dead] at inbox told
      refine ⟨(queued t.inbox).map fun call => (call, .terminated), ?_, ?_⟩
      · rw [told]
        exact discard_told t.inbox s
      · unfold Thread.owed
        rw [inbox, worker, List.map_map]
        simp only [Function.comp_def, List.map_id', queued_shutdown, queued_nil, List.append_nil]
        exact List.perm_append_comm

end Thread

/-! ## 3. One number, one call -/

namespace Vm

variable {v w : Vm} {call : CallId} {id : ThreadId} {i : Invocation} {o : ObjectRef}

theorem outcome?_eq (v : Vm) (call : CallId) :
    v.outcome? call = (v.shared.completed.toList.find? (·.1 == call)).map (·.2) := by
  unfold outcome?
  rw [Array.find?_toList]

/-- What was told stays told, and what is told under another number changes nothing. -/
theorem outcome?_told {paid : List (CallId × Outcome)}
    (told : w.shared.completed.toList = v.shared.completed.toList ++ paid) (call : CallId) :
    w.outcome? call = (v.outcome? call).or ((paid.find? (·.1 == call)).map (·.2)) := by
  rw [outcome?_eq, outcome?_eq, told, List.find?_append, Option.map_or]

theorem outcome?_other {paid : List (CallId × Outcome)}
    (told : w.shared.completed.toList = v.shared.completed.toList ++ paid)
    (other : call ∉ paid.map (·.1)) : w.outcome? call = v.outcome? call := by
  have none : paid.find? (·.1 == call) = none := by
    rw [List.find?_eq_none]
    intro x hx same
    exact other (List.mem_map.mpr ⟨x, hx, beq_iff_eq.mp same⟩)
  rw [outcome?_told told, none, Option.map_none, Option.or_none]

/-- No thread owes an answer under the number. -/
def Unowed (v : Vm) (call : CallId) : Prop :=
  ∀ (i : ThreadId) (t : Thread), v.threads[i]? = some t → call ∉ t.owed

/-- One thread owes the answer, once, and nobody has been told. -/
structure Owes (v : Vm) (call : CallId) (id : ThreadId) : Prop where
  counted : call ≤ v.lastCall
  once : ∃ t, v.threads[id]? = some t ∧ t.owed.count call = 1
  others : ∀ (i : ThreadId) (t : Thread), i ≠ id → v.threads[i]? = some t → call ∉ t.owed
  untold : v.outcome? call = none

/-- How things stand with the number of a call. -/
inductive Standing (v : Vm) (call : CallId) : Prop
  /-- It was not given out yet. -/
  | ahead (later : v.lastCall < call) (unowed : v.Unowed call) (untold : v.outcome? call = none)
  | owed (id : ThreadId) (owes : v.Owes call id)
  | settled (counted : call ≤ v.lastCall) (unowed : v.Unowed call)

theorem Unowed.put (h : v.Unowed call) {t : Thread} {id : ThreadId}
    (threads : w.threads = v.threads.insert id t) (unowed : call ∉ t.owed) : w.Unowed call := by
  intro i u there
  rw [threads, TreeMap.getElem?_insert] at there
  split at there
  · cases there
    exact unowed
  · exact h i u there

theorem Owes.aside (h : v.Owes call id) (threads : w.threads = v.threads)
    (told : w.shared.completed = v.shared.completed) (counted : v.lastCall ≤ w.lastCall) :
    w.Owes call id := by
  refine ⟨Nat.le_trans h.counted counted, ?_, ?_, ?_⟩
  · rw [threads]
    exact h.once
  · rw [threads]
    exact h.others
  · rw [outcome?, told]
    exact h.untold

/-- Another thread changes, and the answer is none of its business. -/
theorem Owes.putOther (h : v.Owes call id) {t : Thread} {j : ThreadId}
    (paid : List (CallId × Outcome)) (threads : w.threads = v.threads.insert j t) (other : j ≠ id)
    (unowed : call ∉ t.owed) (told : w.shared.completed.toList = v.shared.completed.toList ++ paid)
    (unpaid : call ∉ paid.map (·.1)) (counted : v.lastCall ≤ w.lastCall) : w.Owes call id := by
  have get (i : ThreadId) : w.threads[i]? = if j = i then some t else v.threads[i]? := by
    rw [threads, TreeMap.getElem?_insert]
    simp only [Std.compare_eq_iff_eq]
  refine ⟨Nat.le_trans h.counted counted, ?_, ?_, ?_⟩
  · rw [get, if_neg other]
    exact h.once
  · intro i u apart there
    rw [get] at there
    split at there
    · cases there
      exact unowed
    · exact h.others i u apart there
  · rw [outcome?_other told unpaid]
    exact h.untold

/-- The thread changes that owes the answer. It owes it still, or it has told it. -/
theorem Owes.putOwn (h : v.Owes call id) {t t' : Thread} {s' : Shared}
    (there : v.threads[id]? = some t) (threads : w.threads = v.threads.insert id t')
    (pays : t.Pays v.shared t' s') (told : w.shared.completed = s'.completed)
    (counted : w.lastCall = v.lastCall) : w.Owes call id ∨ w.Unowed call := by
  have get (i : ThreadId) : w.threads[i]? = if id = i then some t' else v.threads[i]? := by
    rw [threads, TreeMap.getElem?_insert]
    simp only [Std.compare_eq_iff_eq]
  obtain ⟨paid, news, perm⟩ := pays
  obtain ⟨u, hu, once⟩ := h.once
  obtain rfl : u = t := Option.some.inj (hu.symm.trans there)
  have balance := perm.count_eq call
  rw [once, List.count_append] at balance
  have others : ∀ (i : ThreadId) (u : Thread), i ≠ id → w.threads[i]? = some u → call ∉ u.owed := by
    intro i u apart hu
    rw [get, if_neg (Ne.symm apart)] at hu
    exact h.others i u apart hu
  by_cases still : call ∈ t'.owed
  · left
    have positive := List.count_pos_iff.mpr still
    refine ⟨counted ▸ h.counted, ⟨t', by rw [get, if_pos rfl], by omega⟩, others, ?_⟩
    rw [outcome?_other (told ▸ news) (List.count_eq_zero.mp (by omega))]
    exact h.untold
  · right
    intro i u hu
    by_cases same : id = i
    · rw [get, if_pos same] at hu
      cases hu
      exact still
    · exact others i u (Ne.symm same) hu

theorem not_owed_of_pays {t t' : Thread} {s s' : Shared} (pays : t.Pays s t' s')
    (unowed : call ∉ t.owed) : call ∉ t'.owed ∧ ∃ paid : List (CallId × Outcome),
      s'.completed.toList = s.completed.toList ++ paid ∧ call ∉ paid.map (·.1) := by
  obtain ⟨paid, news, perm⟩ := pays
  rw [perm.mem_iff, List.mem_append, not_or] at unowed
  exact ⟨unowed.2, paid, news, unowed.1⟩

theorem Touch.owes (m : Touch v w) (h : v.Owes call id) : w.Owes call id ∨ w.Unowed call := by
  cases m with
  | aside threads told counted => exact .inl (h.aside threads told (Nat.le_of_eq counted.symm))
  | starts name group new threads told counted =>
    have other : v.lastThread + 1 ≠ id := by
      rintro rfl
      obtain ⟨t, there, -⟩ := h.once
      rw [new] at there
      cases there
    refine .inl (h.putOther [] threads other ?_ ?_ ?_ (Nat.le_of_eq counted.symm))
    · exact List.not_mem_nil
    · rw [told, List.append_nil]
    · exact List.not_mem_nil
  | @fares t t' s' there fares threads told counted =>
    by_cases same : t.id = id
    · subst same
      exact h.putOwn there threads fares.pays told counted
    · obtain ⟨unowed, paid, news, unpaid⟩ :=
        not_owed_of_pays fares.pays (h.others _ _ same there)
      have counted := Nat.le_of_eq counted.symm
      exact .inl (h.putOther paid threads same unowed (told ▸ news) unpaid counted)

theorem Touch.unowed (m : Touch v w) (h : v.Unowed call) :
    w.Unowed call ∧ w.outcome? call = v.outcome? call := by
  cases m with
  | aside threads told counted =>
    refine ⟨?_, ?_⟩
    · unfold Unowed
      rw [threads]
      exact h
    · rw [outcome?, told]
      rfl
  | starts name group new threads told counted =>
    refine ⟨h.put threads List.not_mem_nil, ?_⟩
    rw [outcome?, told]
    rfl
  | fares there fares threads told counted =>
    obtain ⟨unowed, paid, news, unpaid⟩ := not_owed_of_pays fares.pays (h _ _ there)
    exact ⟨h.put threads unowed, outcome?_other (told ▸ news) unpaid⟩

theorem Touch.standing (m : Touch v w) (h : v.Standing call) : w.Standing call := by
  cases h with
  | ahead later unowed untold =>
    obtain ⟨unowed, same⟩ := m.unowed unowed
    exact .ahead (m.lastCall ▸ later) unowed (same.trans untold)
  | owed id owes =>
    rcases m.owes owes with still | unowed
    · exact .owed id still
    · exact .settled (m.lastCall ▸ owes.counted) unowed
  | settled counted unowed => exact .settled (m.lastCall ▸ counted) (m.unowed unowed).1

/-- A thread that is given a task owes the answer, and one that takes none has told it. -/
theorem submit_pays (t : Thread) (given : CallId) (task : Task) (s : Shared) :
    (t.submit given task s).1.owed = t.owed ++ [given] ∧ (t.submit given task s).2 = s ∨
      (t.submit given task s).1 = t ∧
        (t.submit given task s).2 = s.complete given .terminated := by
  unfold Thread.submit
  by_cases dead : t.status = .terminated
  · rw [if_pos dead]
    exact .inr ⟨rfl, rfl⟩
  · rw [if_neg dead]
    refine .inl ⟨?_, rfl⟩
    unfold Thread.owed
    rw [queued_append, ← List.append_assoc]
    rfl

/-- The next number is given to a thread that lives, or the answer under it is told at once. -/
theorem standing_new (unowed : v.Unowed (v.lastCall + 1))
    (untold : v.outcome? (v.lastCall + 1) = none) {t : Thread}
    (there : v.threads[t.id]? = some t) (task : Task) :
    (v.submitted t task).Standing (v.lastCall + 1) := by
  have threads := v.submitted_threads t task
  have none := List.count_eq_zero.mpr (unowed _ _ there)
  rcases submit_pays t (v.lastCall + 1) task v.shared with ⟨owed, same⟩ | ⟨same, told⟩
  · refine .owed t.id ⟨Nat.le_refl _, ⟨(t.submit (v.lastCall + 1) task v.shared).1, ?_, ?_⟩, ?_, ?_⟩
    · rw [threads, TreeMap.getElem?_insert_self]
    · rw [owed, List.count_append, none, List.count_singleton_self]
    · intro i u apart hu
      rw [threads, TreeMap.getElem?_insert, if_neg (by simpa using Ne.symm apart)] at hu
      exact unowed i u hu
    · have completed : (v.submitted t task).shared = v.shared := same
      rw [outcome?, completed]
      exact untold
  · refine .settled (Nat.le_refl _) (unowed.put threads ?_)
    rw [same]
    exact unowed _ _ there

/-- A submission under another number changes nothing about this one. -/
theorem submitted_other (v : Vm) (t : Thread) (task : Task) (other : call ≠ v.lastCall + 1) :
    ∃ paid : List (CallId × Outcome), (v.submitted t task).shared.completed.toList =
      v.shared.completed.toList ++ paid ∧ call ∉ paid.map (·.1) ∧
      ((t.submit (v.lastCall + 1) task v.shared).1.owed.count call = t.owed.count call) := by
  rcases submit_pays t (v.lastCall + 1) task v.shared with ⟨owed, same⟩ | ⟨same, told⟩
  · refine ⟨[], ?_, List.not_mem_nil, ?_⟩
    · have completed : (v.submitted t task).shared = v.shared := same
      rw [completed, List.append_nil]
    · rw [owed, List.count_append, List.count_singleton, if_neg (by simpa using Ne.symm other)]
      rfl
  · refine ⟨[(v.lastCall + 1, .terminated)], ?_, by simpa using other, by rw [same]⟩
    have completed : (v.submitted t task).shared = v.shared.complete (v.lastCall + 1) .terminated :=
      told
    rw [completed]
    exact Array.toList_push

theorem Unowed.submitted (h : v.Unowed call) {t : Thread} (there : v.threads[t.id]? = some t)
    (task : Task) (other : call ≠ v.lastCall + 1) :
    (v.submitted t task).Unowed call ∧ (v.submitted t task).outcome? call = v.outcome? call := by
  obtain ⟨paid, told, unpaid, same⟩ := v.submitted_other t task other
  refine ⟨h.put (v.submitted_threads t task) ?_, outcome?_other told unpaid⟩
  rw [← List.count_eq_zero, same]
  exact List.count_eq_zero.mpr (h _ _ there)

theorem Owes.submitted (h : v.Owes call id) {t : Thread} (there : v.threads[t.id]? = some t)
    (task : Task) : (v.submitted t task).Owes call id := by
  have other : call ≠ v.lastCall + 1 := Nat.ne_of_lt (Nat.lt_succ_of_le h.counted)
  obtain ⟨paid, told, unpaid, same⟩ := v.submitted_other t task other
  have threads := v.submitted_threads t task
  by_cases own : t.id = id
  · subst own
    obtain ⟨u, hu, once⟩ := h.once
    obtain rfl : u = t := Option.some.inj (hu.symm.trans there)
    refine ⟨Nat.le_succ_of_le h.counted, ⟨_, ?_, same.trans once⟩, ?_, ?_⟩
    · rw [threads, TreeMap.getElem?_insert_self]
    · intro i w apart hw
      rw [threads, TreeMap.getElem?_insert, if_neg (by simpa using Ne.symm apart)] at hw
      exact h.others i w apart hw
    · rw [outcome?_other told unpaid]
      exact h.untold
  · refine h.putOther paid threads own ?_ told unpaid (Nat.le_succ _)
    rw [← List.count_eq_zero, same]
    exact List.count_eq_zero.mpr (h.others _ _ own there)

theorem Undergone.standing {d : Deed} (u : Undergone v d w) (h : v.Standing call) :
    w.Standing call := by
  cases u with
  | touched touches =>
    induction touches with
    | refl => exact h
    | tail _ touch ih => exact touch.standing ih
  | @submitted t task named there =>
    cases h with
    | ahead later unowed untold =>
      by_cases next : call = v.lastCall + 1
      · subst next
        exact standing_new unowed untold there task
      · obtain ⟨unowed, same⟩ := unowed.submitted there task next
        refine .ahead (Nat.lt_of_le_of_ne later (Ne.symm next)) unowed (same.trans untold)
    | owed id owes => exact .owed id (owes.submitted there task)
    | settled counted unowed =>
      have other : call ≠ v.lastCall + 1 := Nat.ne_of_lt (Nat.lt_succ_of_le counted)
      exact .settled (Nat.le_succ_of_le counted) (unowed.submitted there task other).1

/-- **A number is answered once, by one thread.** -/
theorem standing_after (ds : List Deed) (call : CallId) : (fresh.after ds).Standing call := by
  induction ds using List.reverseRecOn with
  | nil =>
    have none (id : ThreadId) : fresh.threads[id]? = none := TreeMap.getElem?_emptyc
    have unowed : fresh.Unowed call := by
      intro id t there
      rw [none] at there
      cases there
    cases call with
    | zero => exact .settled (Nat.le_refl _) unowed
    | succ n => exact .ahead (Nat.succ_pos n) unowed rfl
  | append_singleton ds d ih =>
    rw [after_append]
    exact ((sound_fresh.after ds).sound.undergone d).standing ih

/-- Each thread has nothing to do under a number but to make a call. -/
def AllServe (v : Vm) (call : CallId) (i : Invocation) : Prop :=
  ∀ (id : ThreadId) (t : Thread), v.threads[id]? = some t → t.Serves call i

theorem AllServe.put (h : v.AllServe call i) {id : ThreadId} {t : Thread}
    (threads : w.threads = v.threads.insert id t) (serves : t.Serves call i) :
    w.AllServe call i := by
  intro j u there
  rw [threads, TreeMap.getElem?_insert] at there
  split at there
  · cases there
    exact serves
  · exact h j u there

theorem submit_serves {t : Thread} {given : CallId} {task : Task} {s : Shared}
    (h : t.Serves call i) (new : call = given → task = .invoke i) :
    (t.submit given task s).1.Serves call i := by
  refine ⟨fun other has => ?_, fun p callers busy => h.stage p callers ?_⟩
  · rcases Thread.submit_hasTask has with old | ⟨same, rfl⟩
    · exact h.given other old
    · exact new same
  · rcases t.submit_cases given task s with same | queued
    · rwa [same] at busy
    · rwa [queued] at busy

theorem Undergone.allServe {d : Deed} (u : Undergone v d w) (h : v.AllServe call i)
    (new : call = v.lastCall + 1 → d.task? v = some (.invoke i)) : w.AllServe call i := by
  cases u with
  | touched touches =>
    clear new
    induction touches with
    | refl => exact h
    | @tail x y _ touch ih =>
      cases touch with
      | aside threads =>
        intro id t there
        rw [threads] at there
        exact ih id t there
      | starts name group _ threads =>
        exact ih.put threads (Thread.serves_of_not_owed List.not_mem_nil i)
      | fares there fares threads => exact ih.put threads (fares.serves (ih _ _ there))
  | @submitted t task named there =>
    refine h.put (v.submitted_threads t task) (submit_serves (h _ _ there) fun next => ?_)
    exact Option.some.inj (named.symm.trans (new next))

/-- What holds of a number that has been given out goes on to hold, if no deed can end it by giving
out another. -/
theorem Sound.after_counted {P : Vm → Prop} (h : v.Sound) (counted : call ≤ v.lastCall)
    (start : P v) (deed : ∀ (x : Vm) (d : Deed), x.Sound → call ≤ x.lastCall → P x → P (d.run x))
    (ds : List Deed) : P (v.after ds) := by
  induction ds generalizing v with
  | nil => exact start
  | cons d rest ih =>
    exact ih (h.after [d]).sound (Nat.le_trans counted (h.undergone d).lastCall_le)
      (deed v d h counted start)

theorem AllServe.after (h : v.AllServe call i) (sound : v.Sound) (counted : call ≤ v.lastCall)
    (ds : List Deed) : (v.after ds).AllServe call i := by
  refine sound.after_counted (P := (·.AllServe call i)) counted h ?_ ds
  intro x d sound counted serves
  refine (sound.undergone d).allServe serves fun next => ?_
  exact absurd (next ▸ counted) (Nat.not_succ_le_self _)

/-- **The call that was submitted under a number is all that is ever made under it.** -/
theorem allServe_after {before : List Deed} {d : Deed}
    (named : d.task? (fresh.after before) = some (.invoke i))
    (counted : (d.run (fresh.after before)).lastCall = (fresh.after before).lastCall + 1)
    (later : List Deed) : ((d.run (fresh.after before)).after later).AllServe
      ((fresh.after before).lastCall + 1) i := by
  have sound := (sound_fresh.after before).sound
  have unowed : (fresh.after before).Unowed ((fresh.after before).lastCall + 1) := by
    cases standing_after before ((fresh.after before).lastCall + 1) with
    | ahead _ unowed => exact unowed
    | owed _ owes => exact absurd owes.counted (Nat.not_succ_le_self _)
    | settled counted => exact absurd counted (Nat.not_succ_le_self _)
  have start : (d.run (fresh.after before)).AllServe ((fresh.after before).lastCall + 1) i := by
    refine (sound.undergone d).allServe (fun id t there => ?_) fun _ => named
    exact Thread.serves_of_not_owed (unowed id t there) i
  exact start.after (sound.after [d]).sound (Nat.le_of_eq counted.symm) later

end Vm

/-! ## 4. From the body to the caller -/

/-- How many steps a thread has left, short of the last, until it has told that a call gave an
object. -/
inductive Worker.Bears (call : CallId) (o : ObjectRef) : Nat → Worker → Prop
  | returning : Bears call o 3 (.busy ⟨call, .running (.done (.ok (.object o))), [.done]⟩)
  | returned : Bears call o 2 (.busy ⟨call, .running (.done (.ok (.object o))), []⟩)
  | ended : Bears call o 1 (.ended call (.success (some o)))
  | telling : Bears call o 0 (.telling call (.success (some o)))

namespace Thread

variable {t t' : Thread} {s s' : Shared} {call : CallId} {o : ObjectRef} {k : Nat}

theorem underway_of_bears (h : t.worker.Bears call o k) : call ∈ t.worker.underway := by
  generalize t.worker = w at h
  cases h <;> exact List.mem_cons_self

/-- Nothing keeps such a thread from going on, and there is one way to go. -/
theorem step_bears (h : t.worker.Bears call o k) : ∃ t' s', t.step s = some (t', s') ∧
    ((∃ j, k = j + 1 ∧ t'.worker.Bears call o j) ∨
      k = 0 ∧ s' = s.complete call (.success (some o))) := by
  generalize worker : t.worker = w at h
  cases h with
  | returning =>
    refine ⟨_, _, by simp only [Thread.step, worker, proceed, run]; rfl, .inl ⟨2, rfl, ?_⟩⟩
    exact .returned
  | returned =>
    refine ⟨_, _, by simp only [Thread.step, worker, proceed, run]; rfl, .inl ⟨1, rfl, ?_⟩⟩
    exact .ended
  | ended =>
    refine ⟨_, _, by simp only [Thread.step, worker]; rfl, .inl ⟨0, rfl, ?_⟩⟩
    exact .telling
  | telling => exact ⟨_, _, by simp only [Thread.step, worker]; rfl, .inr ⟨rfl, rfl⟩⟩

theorem Fares.bears (f : t.Fares s t' s') (h : t.worker.Bears call o k) :
    t'.worker.Bears call o k ∨ (∃ j, k = j + 1 ∧ t'.worker.Bears call o j) ∨
      k = 0 ∧ s' = s.complete call (.success (some o)) := by
  cases f with
  | steps step =>
    obtain ⟨u, r, made, led⟩ := step_bears (s := s) h
    cases step.symm.trans made
    exact .inr led
  | steered id inbox worker => exact .inl (worker ▸ h)
  | dies id inbox worker => exact .inl (worker ▸ h)
  | unparks granted =>
    obtain ⟨a, next, busy, parked, -⟩ := unpark?_some granted
    rw [busy] at h
    obtain ⟨call', position, callers⟩ := a
    obtain rfl : position = .parked next := parked
    cases h

end Thread

namespace Vm

variable {v w : Vm} {call : CallId} {id : ThreadId} {i : Invocation} {o : ObjectRef} {k : Nat}

/-- A thread is so many steps from having told that a call gave an object. -/
inductive Due (v : Vm) (call : CallId) (o : ObjectRef) (id : ThreadId) : Nat → Prop
  | told (said : v.outcome? call = some (.success (some o))) : Due v call o id 0
  | owed {k : Nat} {t : Thread} (owes : v.Owes call id) (there : v.threads[id]? = some t)
      (bears : t.worker.Bears call o k) : Due v call o id (k + 1)

theorem Due.outcome (h : v.Due call o id k) :
    v.outcome? call = none ∨ v.outcome? call = some (.success (some o)) := by
  cases h with
  | told said => exact .inr said
  | owed owes => exact .inl owes.untold

/-- The outcome that is told first is the one that is read. -/
theorem Due.telling (owes : v.Owes call id) (told : w.shared.completed =
    (v.shared.complete call (.success (some o))).completed) : w.Due call o id 0 := by
  refine .told ?_
  have news : w.shared.completed.toList =
      v.shared.completed.toList ++ [(call, .success (some o))] := by
    rw [told]
    exact Array.toList_push
  rw [outcome?_told news, owes.untold, List.find?_singleton]
  simp

theorem outcome?_kept {d : Deed} (u : Undergone v d w) {outcome : Outcome}
    (told : v.outcome? call = some outcome) : w.outcome? call = some outcome := by
  have grows {x y : Vm} (paid : List (CallId × Outcome))
      (news : y.shared.completed.toList = x.shared.completed.toList ++ paid)
      (told : x.outcome? call = some outcome) : y.outcome? call = some outcome := by
    rw [outcome?_told news, told, Option.some_or]
  cases u with
  | touched touches =>
    induction touches with
    | refl => exact told
    | tail _ touch ih =>
      cases touch with
      | aside _ same | starts _ _ _ _ same => exact grows [] (by rw [same, List.append_nil]) ih
      | fares _ fares _ same =>
        obtain ⟨paid, news, -⟩ := fares.pays
        exact grows paid (same ▸ news) ih
  | @submitted t task _ _ =>
    rcases submit_pays t (v.lastCall + 1) task v.shared with ⟨-, same⟩ | ⟨-, same⟩
    · have completed : (v.submitted t task).shared = v.shared := same
      exact grows [] (by rw [completed, List.append_nil]) told
    · have completed : (v.submitted t task).shared =
          v.shared.complete (v.lastCall + 1) .terminated := same
      exact grows _ (by rw [completed]; exact Array.toList_push) told

/-- A thread is left alone, or it fares somehow. -/
theorem Touch.thread (m : Touch v w) {t : Thread} (there : v.threads[id]? = some t)
    (own : t.id = id) : w.threads[id]? = some t ∨
      ∃ t' s', t.Fares v.shared t' s' ∧ w.threads[id]? = some t' ∧
        w.shared.completed = s'.completed := by
  cases m with
  | aside threads => exact .inl (threads ▸ there)
  | starts name group new threads =>
    left
    rw [threads, TreeMap.getElem?_insert, if_neg]
    · exact there
    · rw [Std.compare_eq_iff_eq]
      rintro rfl
      rw [new] at there
      cases there
  | @fares u u' s' here fares threads told =>
    by_cases same : u.id = id
    · subst same
      cases here.symm.trans there
      exact .inr ⟨u', s', fares, by rw [threads, TreeMap.getElem?_insert_self], told⟩
    · left
      rw [threads, TreeMap.getElem?_insert, if_neg (by simpa using same)]
      exact there

/-- **A touch brings the answer nearer, or leaves it as far as it was.** -/
theorem Touch.due (m : Touch v w) (h : v.Due call o id k)
    (own : ∀ t, v.threads[id]? = some t → t.id = id) : ∃ j ≤ k, w.Due call o id j := by
  cases h with
  | told said =>
    have undergone : Undergone v .launch w := .touched (.single m)
    exact ⟨0, Nat.le_refl _, .told (outcome?_kept undergone said)⟩
  | @owed k t owes there bears =>
    have still {u : Thread} {j : Nat} (here : w.threads[id]? = some u)
        (bears : u.worker.Bears call o j) : w.Due call o id (j + 1) := by
      rcases m.owes owes with owes | unowed
      · exact .owed owes here bears
      · exact absurd (Thread.owed_of_underway (Thread.underway_of_bears bears)) (unowed _ _ here)
    rcases m.thread there (own t there) with here | ⟨t', s', fares, here, told⟩
    · exact ⟨k + 1, Nat.le_refl _, still here bears⟩
    · rcases fares.bears bears with same | ⟨j, rfl, nearer⟩ | ⟨rfl, said⟩
      · exact ⟨k + 1, Nat.le_refl _, still here same⟩
      · exact ⟨j + 1, Nat.le_succ _, still here nearer⟩
      · exact ⟨0, Nat.zero_le _, .telling owes (told.trans (congrArg _ said))⟩

/-- Each thread stands under its own number. -/
def Filed (v : Vm) : Prop :=
  ∀ (id : ThreadId) (t : Thread), v.threads[id]? = some t → t.id = id

theorem Touch.filed (m : Touch v w) (h : v.Filed) : w.Filed := by
  have insert {t : Thread} {id : ThreadId} (threads : w.threads = v.threads.insert id t)
      (own : t.id = id) : w.Filed := by
    intro i u there
    rw [threads, TreeMap.getElem?_insert] at there
    split at there
    · next same =>
      cases there
      exact own.trans (Std.compare_eq_iff_eq.mp same)
    · exact h i u there
  cases m with
  | aside threads =>
    unfold Filed
    rw [threads]
    exact h
  | starts name group new threads => exact insert threads rfl
  | fares there fares threads => exact insert threads fares.same_id

theorem Touches.due (m : Touches v w) (h : v.Due call o id k) (filed : v.Filed) :
    w.Filed ∧ ∃ j ≤ k, w.Due call o id j := by
  induction m with
  | refl => exact ⟨filed, k, Nat.le_refl k, h⟩
  | tail _ touch ih =>
    obtain ⟨filed, j, below, due⟩ := ih
    obtain ⟨l, below', due⟩ := touch.due due (filed id)
    exact ⟨touch.filed filed, l, Nat.le_trans below' below, due⟩

theorem Sound.filed (h : v.Sound) : v.Filed := fun id t there => (h.threads id t there).1

/-- **No deed puts off the answer, or has another one told.** -/
theorem Sound.run_due (sound : v.Sound) (d : Deed) (h : v.Due call o id k) :
    ∃ j ≤ k, (d.run v).Due call o id j := by
  have undergone := sound.undergone d
  generalize d.run v = w at undergone
  cases h with
  | told said => exact ⟨0, Nat.le_refl _, .told (outcome?_kept undergone said)⟩
  | @owed k t owes there bears =>
    cases undergone with
    | touched touches => exact (touches.due (.owed owes there bears) sound.filed).2
    | @submitted u task named here =>
      refine ⟨k + 1, Nat.le_refl _, ?_⟩
      have owes := owes.submitted here task
      have threads := v.submitted_threads u task
      by_cases same : u.id = id
      · subst same
        obtain rfl : u = t := Option.some.inj (here.symm.trans there)
        refine .owed owes (t := (u.submit (v.lastCall + 1) task v.shared).1) ?_ ?_
        · rw [threads, TreeMap.getElem?_insert_self]
        · rcases u.submit_cases (v.lastCall + 1) task v.shared with kept | queued
          · rwa [kept]
          · rwa [queued]
      · refine .owed owes (t := t) ?_ bears
        rw [threads, TreeMap.getElem?_insert, if_neg (by simpa using same)]
        exact there

theorem Sound.after_due (sound : v.Sound) (ds : List Deed) (h : v.Due call o id k) :
    ∃ j ≤ k, (v.after ds).Due call o id j := by
  induction ds generalizing v k with
  | nil => exact ⟨k, Nat.le_refl _, h⟩
  | cons d rest ih =>
    obtain ⟨j, below, due⟩ := sound.run_due d h
    obtain ⟨l, below', due⟩ := ih (sound.after [d]).sound due
    exact ⟨l, Nat.le_trans below' below, due⟩

/-- **Each step of the thread brings the answer nearer.** -/
theorem Sound.step_due (sound : v.Sound) (h : v.Due call o id (k + 1)) :
    (Deed.run v (.step id)).Due call o id k := by
  cases h with
  | @owed k t owes there bears =>
    obtain ⟨t', s', step, led⟩ := Thread.step_bears (s := v.shared) bears
    have ran : Deed.run v (.step id) = v.putThread t' s' := by
      show (v.step? id).getD v = _
      unfold step?
      simp only [there, step, Option.bind_eq_bind, Option.bind_some]
      rfl
    have own : t'.id = id := (Thread.Fares.steps step).same_id.trans (sound.filed id t there)
    have here : (v.putThread t' s').threads[id]? = some t' := by
      show (v.threads.insert t'.id t')[id]? = _
      rw [own, TreeMap.getElem?_insert_self]
    rw [ran]
    rcases led with ⟨j, rfl, nearer⟩ | ⟨rfl, said⟩
    · have touch : Touch v (v.putThread t' s') := by
        refine .fares (t := t) ?_ (.steps step) ?_ rfl rfl
        · rw [sound.filed id t there]
          exact there
        · show v.threads.insert t'.id t' = _
          rw [own, sound.filed id t there]
      rcases touch.owes owes with owes | unowed
      · exact .owed owes here nearer
      · exact absurd (Thread.owed_of_underway (Thread.underway_of_bears nearer)) (unowed _ _ here)
    · exact .telling owes (congrArg _ said)

/-- **So many steps, and it is told.** -/
theorem Sound.steps_due (sound : v.Sound) (h : v.Due call o id k) {n : Nat} (enough : k ≤ n) :
    (v.after (List.replicate n (.step id))).outcome? call = some (.success (some o)) := by
  induction n generalizing v k with
  | zero =>
    obtain rfl := Nat.le_zero.mp enough
    cases h with
    | told said => exact said
  | succ n ih =>
    have sound' : (Deed.run v (.step id)).Sound := (sound.after [.step id]).sound
    cases k with
    | zero =>
      obtain ⟨j, below, due⟩ := sound.run_due (.step id) h
      exact ih sound' due (Nat.le_trans below (Nat.zero_le n))
    | succ k => exact ih sound' (sound.step_due h) (Nat.le_of_succ_le_succ enough)

/-- A thread that has come back from the body of a method with an object owes just this answer. -/
theorem due_of_returning {ds : List Deed} {t : Thread}
    (there : (fresh.after ds).threads[id]? = some t) (bears : t.worker.Bears call o k) :
    (fresh.after ds).Due call o id (k + 1) := by
  have owed := Thread.owed_of_underway (Thread.underway_of_bears bears)
  cases standing_after ds call with
  | ahead _ unowed => exact absurd owed (unowed _ _ there)
  | settled _ unowed => exact absurd owed (unowed _ _ there)
  | owed id' owes =>
    by_cases same : id = id'
    · subst same
      exact .owed owes there bears
    · exact absurd owed (owes.others _ _ same there)

end Vm

end Debugger
