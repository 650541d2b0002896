import Mathlib.Data.List.Induction
import Mathlib.Data.Set.Insert
import Debugger.Proofs.Debuggee.Shutdown
/-!
# The lifecycle that subscribers are told

A debuggee is launched and shut down, threads are started in it, and they are terminated one by one or
all together at the end. Each of this is told by an event, and redundant requests tell nothing. So
the events about the lifecycle are bracketed: a launch and its end enclose the threads of the launch,
and the start of a thread and its death stand within them.

* `Bracketed` - what the events of any run are like, said of the events alone.
* `Stage.Next` - the same as a machine that reads one event at a time. It keeps whether the debuggee is
  up, the number of the last thread, and which threads are alive.
* `Vm.Tells` - the machine accepts what a debuggee has told, and what it has kept by then is the state
  of the debuggee.

## 1. Bracketed events

## 2. A machine that reads them

## 3. What the machine accepts is bracketed

## 4. What a debuggee tells
-/

namespace Debugger

open Std (TreeMap)

/-! ## 1. Bracketed events -/

/-- Whether an event is the beginning or the end of a launch. -/
def VmEvent.isLaunch : VmEvent → Bool
  | started | terminated => true
  | threadStarted _ | threadDied _ | suspended .. | resumed _ | uncaughtException .. => false

/-- So many beginnings and ends of launches, in turn. -/
def launches (n : Nat) : List VmEvent :=
  (List.range n).map fun i => if i % 2 = 0 then .started else .terminated

theorem launches_succ (n : Nat) :
    launches (n + 1) = launches n ++ [if n % 2 = 0 then .started else .terminated] := by
  simp only [launches, List.range_succ, List.map_append, List.map_singleton]

/-- A launch has begun and has not ended. -/
def Open (es : List VmEvent) : Prop :=
  ∃ before since, es = before ++ .started :: since ∧ .terminated ∉ since

/-- The events of a lifecycle are bracketed. -/
structure Bracketed (es : List VmEvent) : Prop where
  inTurn : ∃ n, es.filter VmEvent.isLaunch = launches n
  /-- A thread is started within a launch, under a number above all earlier ones. -/
  inside : ∀ before id after, es = before ++ .threadStarted id :: after →
    Open before ∧ ∀ other, .threadStarted other ∈ before → other < id
  /-- What dies was started and is not dead yet. -/
  born : ∀ before id after, es = before ++ .threadDied id :: after →
    .threadStarted id ∈ before ∧ .threadDied id ∉ before
  /-- A thread dies once, between its start and the end of its launch. -/
  dies : ∀ before id during after,
    es = before ++ .threadStarted id :: (during ++ .terminated :: after) →
    during.count (.threadDied id) = 1 ∧ es.count (.threadDied id) = 1

/-! ## 2. A machine that reads them -/

/-- What is to be kept in mind of the events so far. -/
structure Stage where
  up : Bool
  last : ThreadId
  alive : Set ThreadId

namespace Stage

/-- Before the first event. -/
def start : Stage := ⟨false, 0, ∅⟩

inductive Next : Stage → VmEvent → Stage → Prop
  | started {last : ThreadId} : Next ⟨false, last, ∅⟩ .started ⟨true, last, ∅⟩
  | threadStarted {last id : ThreadId} {alive : Set ThreadId} (later : last < id) :
      Next ⟨true, last, alive⟩ (.threadStarted id) ⟨true, id, insert id alive⟩
  | threadDied {last id : ThreadId} {alive : Set ThreadId} (living : id ∈ alive) :
      Next ⟨true, last, alive⟩ (.threadDied id) ⟨true, last, alive \ {id}⟩
  | terminated {last : ThreadId} : Next ⟨true, last, ∅⟩ .terminated ⟨false, last, ∅⟩
  | suspended {x : Stage} (id : ThreadId) (reason : StopReason) (place : Option SourceLocation)
      (exception : Option ExceptionDescription) : Next x (.suspended id reason place exception) x
  | resumed {x : Stage} (id : ThreadId) : Next x (.resumed id) x
  | uncaughtException {x : Stage} (id : ThreadId) (description : ExceptionDescription) :
      Next x (.uncaughtException id description) x

inductive Run : Stage → List VmEvent → Stage → Prop
  | nil {x : Stage} : Run x [] x
  | cons {x y z : Stage} {e : VmEvent} {es : List VmEvent} : Next x e y → Run y es z →
      Run x (e :: es) z

variable {x y z : Stage} {e : VmEvent} {es fs : List VmEvent} {id : ThreadId}

theorem run_append : Run x (es ++ fs) z ↔ ∃ y, Run x es y ∧ Run y fs z := by
  constructor
  · intro run
    induction es generalizing x with
    | nil => exact ⟨x, .nil, run⟩
    | cons e es ih =>
      cases run with
      | cons next rest =>
        obtain ⟨y, first, second⟩ := ih rest
        exact ⟨y, .cons next first, second⟩
  · rintro ⟨y, first, second⟩
    induction first with
    | nil => exact second
    | cons next _ ih => exact .cons next (ih second)

theorem Run.snoc (run : Run x es y) (next : Next y e z) : Run x (es ++ [e]) z :=
  run_append.mpr ⟨y, run, .cons next .nil⟩

/-- Reading from the start, with the last event as the last step. -/
theorem Run.induct {motive : List VmEvent → Stage → Prop} (nil : motive [] start)
    (snoc : ∀ es x e y, motive es x → Next x e y → motive (es ++ [e]) y)
    (run : Run start es x) : motive es x := by
  induction es using List.reverseRecOn generalizing x with
  | nil =>
    cases run
    exact nil
  | append_singleton es e ih =>
    obtain ⟨y, before, last⟩ := run_append.mp run
    cases last with
    | cons next done =>
      cases done
      exact snoc es y e x (ih before) next

/-! ## 3. What the machine accepts is bracketed -/

/-- What is kept in mind of the threads agrees with the events. -/
structure Roster (last : ThreadId) (alive : Set ThreadId) (es : List VmEvent) : Prop where
  counted : ∀ id, .threadStarted id ∈ es → id ≤ last
  born : ∀ id, .threadDied id ∈ es → .threadStarted id ∈ es
  living : ∀ id ∈ alive, .threadStarted id ∈ es ∧ .threadDied id ∉ es
  dead : ∀ id, .threadStarted id ∈ es → id ∉ alive → es.count (.threadDied id) = 1

/-- What is kept in mind agrees with the events. -/
structure Recalls (x : Stage) (es : List VmEvent) : Prop extends Roster x.last x.alive es where
  inTurn : ∃ n, es.filter VmEvent.isLaunch = launches n ∧ (n % 2 = 1 ↔ x.up = true)
  isOpen : x.up = true → Open es

theorem Open.snoc (h : Open es) (on : e ≠ .terminated) : Open (es ++ [e]) := by
  obtain ⟨before, since, rfl, none⟩ := h
  refine ⟨before, since ++ [e], by simp, ?_⟩
  simp [none, on.symm]

variable {last : ThreadId} {alive : Set ThreadId}

/-- An event that says nothing of threads that start or die. -/
theorem Roster.aside (h : Roster last alive es) (starts : ∀ id, e ≠ .threadStarted id)
    (dies : ∀ id, e ≠ .threadDied id) : Roster last alive (es ++ [e]) := by
  constructor
  · intro id started
    simp only [List.mem_append, List.mem_singleton, (starts id).symm, or_false] at started
    exact h.counted id started
  · intro id died
    simp only [List.mem_append, List.mem_singleton, (dies id).symm, or_false] at died
    exact List.mem_append_left _ (h.born id died)
  · intro id living
    obtain ⟨started, died⟩ := h.living id living
    exact ⟨List.mem_append_left _ started, by simp [died, (dies id).symm]⟩
  · intro id started out
    simp only [List.mem_append, List.mem_singleton, (starts id).symm, or_false] at started
    simp [h.dead id started out, dies id]

theorem Roster.starts (h : Roster last alive es) (later : last < id) :
    Roster id (insert id alive) (es ++ [.threadStarted id]) := by
  have fresh : .threadStarted id ∉ es := fun old => absurd (h.counted id old) (by simpa using later)
  have unborn : .threadDied id ∉ es := fun died => fresh (h.born id died)
  constructor
  · intro other started
    simp only [List.mem_append, List.mem_singleton, VmEvent.threadStarted.injEq] at started
    rcases started with old | rfl
    · exact Nat.le_trans (h.counted other old) (Nat.le_of_lt later)
    · exact Nat.le_refl _
  · intro other died
    exact List.mem_append_left _ (h.born other (by simpa using died))
  · rintro other (rfl | old)
    · exact ⟨by simp, by simpa using unborn⟩
    · obtain ⟨started, died⟩ := h.living other old
      exact ⟨List.mem_append_left _ started, by simpa using died⟩
  · intro other started out
    simp only [Set.mem_insert_iff, not_or] at out
    simp only [List.mem_append, List.mem_singleton, VmEvent.threadStarted.injEq, out.1,
      or_false] at started
    simpa using h.dead other started out.2

theorem Roster.dies (h : Roster last alive es) (living : id ∈ alive) :
    Roster last (alive \ {id}) (es ++ [.threadDied id]) := by
  obtain ⟨started, once⟩ := h.living id living
  constructor
  · intro other started
    exact h.counted other (by simpa using started)
  · intro other died
    simp only [List.mem_append, List.mem_singleton, VmEvent.threadDied.injEq] at died
    rcases died with old | rfl
    · exact List.mem_append_left _ (h.born other old)
    · exact List.mem_append_left _ started
  · rintro other ⟨old, apart⟩
    obtain ⟨started, died⟩ := h.living other old
    exact ⟨List.mem_append_left _ started, by simpa [died] using apart⟩
  · intro other started out
    by_cases same : other = id
    · subst same
      simp [List.count_eq_zero.mpr once]
    · have out : other ∉ alive := fun old => out ⟨old, same⟩
      have started : .threadStarted other ∈ es := by simpa using started
      have apart : VmEvent.threadDied id ≠ .threadDied other := by
        simpa using Ne.symm same
      simp [h.dead other started out, apart]

theorem Recalls.next (h : Recalls x es) (next : Next x e y) : Recalls y (es ++ [e]) := by
  obtain ⟨n, eq, parity⟩ := h.inTurn
  have goesOn (on : e ≠ .terminated) (up : x.up = true) : Open (es ++ [e]) :=
    Open.snoc (h.isOpen up) on
  have inTurn (aside : e.isLaunch = false) :
      ∃ n, (es ++ [e]).filter VmEvent.isLaunch = launches n ∧ (n % 2 = 1 ↔ x.up = true) :=
    ⟨n, by simp [eq, aside], parity⟩
  cases next with
  | suspended | resumed | uncaughtException =>
    exact ⟨h.toRoster.aside nofun nofun, inTurn rfl, goesOn nofun⟩
  | threadStarted later => exact ⟨h.toRoster.starts later, inTurn rfl, goesOn nofun⟩
  | threadDied living => exact ⟨h.toRoster.dies living, inTurn rfl, goesOn nofun⟩
  | started =>
    have even : n % 2 = 0 := by
      have : ¬n % 2 = 1 := fun odd => absurd (parity.mp odd) Bool.false_ne_true
      omega
    refine ⟨h.toRoster.aside nofun nofun, ⟨n + 1, ?_, ?_⟩,
      fun _ => ⟨es, [], rfl, List.not_mem_nil⟩⟩
    · simp [launches_succ, eq, even, VmEvent.isLaunch]
    · simp only [iff_true]
      omega
  | terminated =>
    have odd : n % 2 = 1 := parity.mpr rfl
    refine ⟨h.toRoster.aside nofun nofun, ⟨n + 1, ?_, ?_⟩, nofun⟩
    · simp [launches_succ, eq, odd, VmEvent.isLaunch]
    · simp only [Bool.false_eq_true, iff_false]
      omega

theorem Run.recalls (run : Run start es x) : Recalls x es := by
  refine run.induct (motive := fun es x => Recalls x es) ?_ fun es x e y h next => h.next next
  exact ⟨⟨nofun, nofun, nofun, nofun⟩, ⟨0, rfl, by simp [start]⟩, nofun⟩

theorem Run.bracketed (run : Run start es x) : Bracketed es := by
  refine ⟨?_, ?_, ?_, ?_⟩
  · obtain ⟨n, eq, -⟩ := run.recalls.inTurn
    exact ⟨n, eq⟩
  · rintro before id after rfl
    obtain ⟨y, first, rest⟩ := run_append.mp run
    cases rest with
    | cons next _ =>
      cases next with
      | threadStarted later =>
        refine ⟨first.recalls.isOpen rfl, fun other old => ?_⟩
        exact Nat.lt_of_le_of_lt (first.recalls.counted other old) later
  · rintro before id after rfl
    obtain ⟨y, first, rest⟩ := run_append.mp run
    cases rest with
    | cons next _ =>
      cases next with
      | threadDied living => exact first.recalls.living id living
  · rintro before id during after rfl
    have whole := run.recalls
    have split : before ++ .threadStarted id :: (during ++ .terminated :: after) =
        (before ++ .threadStarted id :: during) ++ .terminated :: after := by simp
    rw [split] at run
    obtain ⟨y, until', rest⟩ := run_append.mp run
    obtain ⟨x, first, second⟩ := run_append.mp until'
    cases rest with
    | cons next _ =>
      cases next with
      | terminated =>
        -- When the launch ends nobody is alive, so the thread has died by then.
        have died := until'.recalls.dead id (by simp) nofun
        have unborn : .threadDied id ∉ before := by
          cases second with
          | cons next _ =>
            cases next with
            | threadStarted later =>
              intro old
              have := first.recalls.counted id (first.recalls.born id old)
              exact absurd this (Nat.not_le.mpr later)
        have once : during.count (.threadDied id) = 1 := by
          simpa [List.count_eq_zero.mpr unborn] using died
        have dead : .threadDied id ∈ during := List.count_pos_iff.mp (by rw [once]; exact Nat.one_pos)
        refine ⟨once, whole.dead id (by simp) fun alive => ?_⟩
        exact (whole.living id alive).2 (by simp [dead])

end Stage

/-! ## 4. What a debuggee tells -/

namespace Vm

variable {v w : Vm}

/-- The threads that have not died. -/
def alive (v : Vm) : Set ThreadId := {id | ∃ t, v.threads[id]? = some t ∧ t.status ≠ .terminated}

/-- What was told is bracketed so far, and it agrees with the state of the debuggee. -/
def Tells (v : Vm) (up : Bool) : Prop :=
  Stage.Run .start v.shared.events.toList ⟨up, v.lastThread, v.alive⟩

variable {up : Bool}

/-- Nothing is told, and nobody comes to life or dies. -/
theorem Tells.same (h : v.Tells up) (told : w.shared.events = v.shared.events)
    (last : w.lastThread = v.lastThread) (alive : w.alive = v.alive) : w.Tells up := by
  rw [Tells, told, last, alive]
  exact h

/-- One event is told, and the state changes with it. -/
theorem Tells.next (h : v.Tells up) {e : VmEvent} {up' : Bool}
    (told : w.shared.events = v.shared.events.push e)
    (next : Stage.Next ⟨up, v.lastThread, v.alive⟩ e ⟨up', w.lastThread, w.alive⟩) :
    w.Tells up' := by
  rw [Tells, told, Array.toList_push]
  exact Stage.Run.snoc h next

/-- A thread in the place of another is as dead as it is. -/
theorem alive_insert {id : ThreadId} {t t' : Thread} (there : v.threads[id]? = some t)
    (threads : w.threads = v.threads.insert id t')
    (dead : t'.status = .terminated ↔ t.status = .terminated) : w.alive = v.alive := by
  ext i
  show (∃ u, w.threads[i]? = some u ∧ _) ↔ ∃ u, v.threads[i]? = some u ∧ _
  rw [threads, TreeMap.getElem?_insert]
  simp only [Std.compare_eq_iff_eq]
  split
  · next same =>
    subst same
    simp [there, dead]
  · rfl

theorem Tells.start (h : v.Tells true) (name group : String) :
    (v.startThread name group).2.Tells true := by
  have alive : (v.startThread name group).2.alive = insert (v.lastThread + 1) v.alive := by
    ext i
    show (∃ u, (v.startThread name group).2.threads[i]? = some u ∧ _) ↔ _
    rw [startThread_getElem?]
    by_cases same : v.lastThread + 1 = i
    · simp [same]
    · simp [same, Ne.symm same, Vm.alive]
  refine h.next rfl ?_
  rw [alive]
  exact .threadStarted (Nat.lt_succ_self _)

theorem Tells.startAll (h : v.Tells true) (names : List String) :
    (names.foldl (fun vm name => (vm.startThread name systemGroup).2) v).Tells true := by
  induction names generalizing v with
  | nil => exact h
  | cons name rest ih => exact ih (h.start name systemGroup)

/-- Terminating a thread tells that it died, unless it is dead. -/
theorem Tells.terminate (h : v.Tells true) {t : Thread} (there : v.threads[t.id]? = some t)
    (told : w.shared.events = (t.terminate v.shared).2.events)
    (last : w.lastThread = v.lastThread) (t' : Thread) (dead : t'.status = .terminated)
    (threads : w.threads = v.threads.insert t.id t') : w.Tells true := by
  by_cases was : t.status = .terminated
  · rw [Thread.terminate, if_pos was] at told
    exact h.same told last (alive_insert there threads (by simp [dead, was]))
  · have living : t.id ∈ v.alive := ⟨t, there, was⟩
    have alive : w.alive = v.alive \ {t.id} := by
      ext i
      show (∃ u, w.threads[i]? = some u ∧ _) ↔ _
      rw [threads, TreeMap.getElem?_insert]
      simp only [Std.compare_eq_iff_eq]
      by_cases same : t.id = i
      · simp [same, dead]
      · simp [same, Ne.symm same, Vm.alive]
    refine h.next (e := .threadDied t.id) ?_ ?_
    · obtain ⟨completed, eq⟩ := Observed.discard_kept t.inbox v.shared
      rw [told, Thread.terminate, if_neg was, eq]
      rfl
    · rw [last, alive]
      exact .threadDied living

theorem terminate_dead (t : Thread) (s : Shared) : (t.terminate s).1.status = .terminated := by
  unfold Thread.terminate
  split
  · assumption
  · rfl

theorem Tells.retire (h : v.Tells true) {t : Thread} (there : v.threads[t.id]? = some t) :
    (v.retire t).Tells true :=
  h.terminate there rfl rfl { (t.terminate v.shared).1 with listed := false }
    (terminate_dead t v.shared)
    (congrArg (v.threads.insert · _) (t.terminate_later v.shared).id)

theorem Tells.retireAll (h : v.Tells true) {ts : List Thread}
    (there : ∀ t ∈ ts, v.threads[t.id]? = some t) (distinct : (ts.map (·.id)).Nodup) :
    (ts.foldl Vm.retire v).Tells true := by
  induction ts generalizing v with
  | nil => exact h
  | cons t rest ih =>
    rw [List.map_cons, List.nodup_cons] at distinct
    refine ih (h.retire (there t List.mem_cons_self)) ?_ distinct.2
    intro u hu
    rw [retire_getElem?, if_neg]
    · exact there u (List.mem_cons_of_mem _ hu)
    · intro same
      exact distinct.1 (same ▸ List.mem_map_of_mem hu)

theorem Tells.launch (h : v.Tells false) (down : v.launched = false)
    (nobody : v.alive = ∅) : v.launch.Tells true := by
  have ignited : v.ignited.Tells true := by
    refine h.next rfl ?_
    show Stage.Next ⟨false, v.lastThread, v.alive⟩ .started ⟨true, v.lastThread, v.alive⟩
    rw [nobody]
    exact .started
  rw [launch_eq down]
  exact Tells.startAll ((ignited.start "main" mainGroup).same rfl rfl rfl) systemThreads

theorem Tells.shutdown (h : v.Tells true) (sound : v.Sound) (up : v.launched = true) :
    v.shutdown.Tells false := by
  have down : Onward v { v with launched := false, mainThread := none } :=
    sound.aside rfl rfl rfl rfl rfl
  obtain ⟨there, distinct, -⟩ := down.sound.listedThreads
  have retired : v.extinguished.Tells true :=
    Tells.retireAll (h.same (w := { v with launched := false, mainThread := none }) rfl rfl rfl)
      there distinct
  obtain ⟨on, off⟩ := sound.shutdown up
  have nobody : v.shutdown.alive = ∅ := by
    ext id
    simp only [Set.mem_empty_iff_false, iff_false]
    rintro ⟨t, there, living⟩
    exact living (on.sound.unlisted id t there (off id t there))
  rw [shutdown_eq up] at nobody ⊢
  refine retired.next rfl ?_
  have before : v.extinguished.alive = ∅ := nobody
  rw [nobody, before]
  exact .terminated

/-- A step of a thread tells nothing of the lifecycle but what the thread itself says. -/
theorem Tells.step (h : v.Tells up) (sound : v.Sound) {id : ThreadId} {t t' : Thread} {s' : Shared}
    (there : v.threads[id]? = some t) (step : t.step v.shared = some (t', s')) :
    (v.putThread t' s').Tells up := by
  have effect := Thread.step_effect step
  have alive : (v.putThread t' s').alive = v.alive := by
    refine alive_insert there ?_ (Thread.step_stepped step).dead_iff
    rw [← (sound.threads id t there).1, ← effect.same.1]
    rfl
  have told := effect.told
  generalize said : s'.events = events at told
  cases told with
  | nothing => exact h.same said rfl alive
  | uncaught d =>
    refine h.next said ?_
    rw [alive]
    exact .uncaughtException _ _
  | stop reason exception =>
    refine h.next said ?_
    rw [alive]
    exact .suspended _ _ _ _

theorem Tells.ask (h : v.Tells v.launched) (sound : v.Sound) (unmanned : v.Unmanned)
    {id : ThreadId} {t t' : Thread} {s' : Shared} (there : v.threads[id]? = some t)
    (asked : Asked t v.shared t' s') (lastCall : CallId) :
    Tells { v.putThread t' s' with lastCall } v.launched := by
  obtain ⟨rfl, -⟩ := sound.threads id t there
  have threads : Vm.threads { v.putThread t' s' with lastCall } = v.threads.insert t.id t' :=
    congrArg (v.threads.insert · t') asked.later.id
  cases asked with
  | submits call task =>
    refine h.same ?_ rfl (alive_insert there threads ?_)
    · show (t.submit call task v.shared).2.events = _
      unfold Thread.submit
      split <;> rfl
    · rcases t.submit_cases call task v.shared with same | queued
      · rw [same]
      · rw [queued]
  | resumes granted =>
    obtain ⟨reason, was, rfl, rfl⟩ := Thread.resume_ok granted
    have alive := alive_insert there threads (by simp [was])
    refine h.next rfl ?_
    rw [alive]
    exact .resumed _
  | halts granted =>
    refine h.same rfl rfl (alive_insert there threads ?_)
    obtain ⟨-, rfl | rfl⟩ := Thread.halt_ok granted
    · rfl
    · rfl
  | unparks granted =>
    refine h.same rfl rfl (alive_insert there threads ?_)
    obtain ⟨-, -, -, -, rfl⟩ := Thread.unpark?_some granted
    rfl
  | terminates =>
    cases up : v.launched with
    | true =>
      rw [up] at h
      exact h.terminate there rfl rfl _ (terminate_dead t v.shared) threads
    | false =>
      -- Nobody is left to terminate.
      have dead := sound.unlisted t.id t there (unmanned up t.id t there)
      rw [up] at h
      refine h.same ?_ rfl (alive_insert there threads (by simp [terminate_dead, dead]))
      show (t.terminate v.shared).2.events = _
      rw [Thread.terminate, if_pos dead]

/-- **What a debuggee tells stays bracketed, whatever is done to it.** -/
theorem Change.tells (sound : v.Sound) (unmanned : v.Unmanned) (h : v.Tells v.launched) {d : Deed}
    (c : Change v d w) : w.Tells w.launched := by
  cases c with
  | idle => exact h
  | steps there step => exact h.step sound there step
  | asks there asked lastCall => exact h.ask sound unmanned there asked lastCall
  | defines c => exact h.same rfl rfl rfl
  | launches down =>
    have up : v.launch.launched = true := by rw [launch_eq down]; rfl
    rw [up]
    rw [down] at h
    refine h.launch down ?_
    ext id
    simp only [Set.mem_empty_iff_false, iff_false]
    rintro ⟨t, there, living⟩
    exact living (sound.unlisted id t there (unmanned down id t there))
  | shutsDown up =>
    have down : v.shutdown.launched = false := (sound.shutdown_dark up).down
    rw [down]
    rw [up] at h
    exact h.shutdown sound up
  | spawns up name =>
    show Tells _ v.launched
    rw [up] at h ⊢
    exact h.start name mainGroup
  | allocates | installs | takes | releases | setsBreakpoint | clearsBreakpoint
  | breaksOnUncaught => exact h.same rfl rfl rfl

theorem tells_after (sound : v.Sound) (unmanned : v.Unmanned) (h : v.Tells v.launched)
    (ds : List Deed) : (v.after ds).Tells (v.after ds).launched := by
  induction ds generalizing v with
  | nil => exact h
  | cons d rest ih =>
    have change := d.change v
    exact ih (change.onward sound).sound (change.unmanned sound unmanned)
      (change.tells sound unmanned h)

theorem tells_empty : Tells {} false := by
  have nobody : Vm.alive {} = ∅ := by
    ext id
    simp only [Set.mem_empty_iff_false, iff_false]
    rintro ⟨t, there, living⟩
    rw [TreeMap.getElem?_emptyc] at there
    cases there
  unfold Tells
  rw [nobody]
  exact .nil

/-- **The lifecycle of a debuggee is bracketed,** for a subscriber that was there before anything was
done to it, whatever is done to it and in whatever order. -/
theorem lifecycle_is_bracketed (ds : List Deed) :
    ∃ since, (environment.subscribe.run fresh).1 = .ok since ∧
      Bracketed ((environment.events (fresh.after ds)).toList.drop since) := by
  refine ⟨0, rfl, ?_⟩
  rw [fresh_eq, ← after_append]
  exact (tells_after sound_empty (fun _ => dark_empty.unlisted) tells_empty _).bracketed

end Vm

end Debugger
