import Debugger.Proofs.Debuggee.Counters
/-!
# Every thread of a debuggee is observed

`Observed` is one thread with everything that can happen to it. This file shows that it leaves
nothing out: whatever is done to a debuggee, each of its threads goes through moves of `Observed`
for every subscriber that was there before the thread was started. What holds of all observed
threads therefore holds of all threads of all debuggees.

That the subscriber has heard nothing of the thread before is where the counters come in: a thread
is started under a number that nothing was told of.

## 1. One thread through one deed

## 2. From the start of a thread on
-/

namespace Debugger

open Std (TreeMap)

namespace Vm

variable {v w x : Vm} {id : ThreadId} {since : Nat}

/-! ## 1. One thread through one deed -/

/-- From one state of a debuggee to the other, a thread makes moves that a subscriber can follow. -/
def Watches (id : ThreadId) (since : Nat) (v w : Vm) : Prop :=
  ∀ t : Thread, v.threads[id]? = some t → ∃ t' : Thread, w.threads[id]? = some t' ∧
    Observed.Run { thread := t, shared := v.shared, since }
      { thread := t', shared := w.shared, since }

theorem Watches.trans (h : Watches id since v w) (h' : Watches id since w x) :
    Watches id since v x := by
  intro t ht
  obtain ⟨t', ht', run⟩ := h t ht
  obtain ⟨t'', ht'', run'⟩ := h' t' ht'
  exact ⟨t'', ht'', run.trans run'⟩

/-- Nothing is done to the thread, and nothing is told of it. -/
theorem Sound.apart (h : v.Sound) (news : List VmEvent)
    (kept : ∀ t : Thread, v.threads[id]? = some t → w.threads[id]? = some t)
    (told : w.shared.events.toList = v.shared.events.toList ++ news)
    (silent : ∀ e ∈ news, e.sign? id = none) : Watches id since v w := by
  intro t ht
  refine ⟨t, kept t ht, ?_⟩
  obtain ⟨rfl, -⟩ := h.threads id t ht
  exact (Observed.Run.refl _).move (.elsewhere w.shared news told silent)

theorem Sound.unseen (h : v.Sound) (threads : w.threads = v.threads)
    (events : w.shared.events = v.shared.events) : Watches id since v w := by
  refine h.apart [] (fun t there => ?_) ?_ (List.forall_mem_nil _)
  · rw [threads]
    exact there
  · rw [events, List.append_nil]

theorem sign?_eq_none {news : List VmEvent} {other : ThreadId}
    (own : ∀ e ∈ news, ∀ i, (e.sign? i).isSome = true → i = other) (apart : other ≠ id) :
    ∀ e ∈ news, e.sign? id = none := by
  intro e he
  cases hs : e.sign? id with
  | none => rfl
  | some sign => exact absurd (own e he id (by rw [hs]; rfl)).symm apart

/-- A thread gets on. It may be the one that is watched. -/
theorem Sound.touches (h : v.Sound) {i : ThreadId} {t t' : Thread} {news : List VmEvent}
    (there : v.threads[i]? = some t) (same : t'.id = t.id)
    (threads : w.threads = v.threads.insert t'.id t')
    (told : w.shared.events.toList = v.shared.events.toList ++ news)
    (own : ∀ e ∈ news, ∀ i, (e.sign? i).isSome = true → i = t.id)
    (run : Observed.Run { thread := t, shared := v.shared, since }
      { thread := t', shared := w.shared, since }) :
    Watches id since v w := by
  obtain ⟨rfl, -⟩ := h.threads i t there
  have get (j : ThreadId) : w.threads[j]? = if t.id = j then some t' else v.threads[j]? := by
    rw [threads, same, TreeMap.getElem?_insert]
    simp only [Std.compare_eq_iff_eq]
  by_cases here : t.id = id
  · subst here
    intro u hu
    rw [there] at hu
    cases hu
    exact ⟨t', by rw [get, if_pos rfl], run⟩
  · refine h.apart news (fun u hu => ?_) told (sign?_eq_none own here)
    rw [get, if_neg here]
    exact hu

theorem Sound.steps (h : v.Sound) {i : ThreadId} {t t' : Thread} {s' : Shared}
    (there : v.threads[i]? = some t) (step : t.step v.shared = some (t', s')) :
    Watches id since v (v.putThread t' s') := by
  have effect := Thread.step_effect step
  obtain ⟨news, told, own⟩ := effect.speaks
  exact h.touches there effect.same.1 rfl told own ((Observed.Run.refl _).move (.own step))

theorem Asked.run {t t' : Thread} {s s' : Shared} (h : Asked t s t' s') :
    Observed.Run { thread := t, shared := s, since } { thread := t', shared := s', since } := by
  have start := Observed.Run.refl { thread := t, shared := s, since }
  cases h with
  | submits call task =>
    unfold Thread.submit
    by_cases ht : t.status = .terminated
    · rw [if_pos ht]
      exact start.move (.elsewhere (s.complete call .terminated) [] (List.append_nil _).symm
        (List.forall_mem_nil _))
    · rw [if_neg ht]
      exact start.move (.delivers (t.inbox ++ [.run call task]))
  | resumes granted => exact start.move (.resumes _ granted)
  | halts granted => exact start.move (.halts granted)
  | terminates => exact Observed.terminate_run { thread := t, shared := s, since } rfl
  | unparks granted => exact start.move (.unparks granted)

theorem Sound.asks (h : v.Sound) {i : ThreadId} {t t' : Thread} {s' : Shared}
    (there : v.threads[i]? = some t) (asked : Asked t v.shared t' s') (lastCall : CallId) :
    Watches id since v { v.putThread t' s' with lastCall } := by
  obtain ⟨-, -, -, news, told, own⟩ := asked.shared
  exact h.touches there asked.later.id rfl told own asked.run

theorem Sound.retires (h : v.Sound) {t : Thread} (there : v.threads[t.id]? = some t) :
    Watches id since v (v.retire t) := by
  have asked : Asked t v.shared _ _ := .terminates
  obtain ⟨-, -, -, news, told, own⟩ := asked.shared
  have same : ({ (t.terminate v.shared).1 with listed := false } : Thread).id = t.id :=
    asked.later.id
  exact h.touches there same rfl told own
    ((Observed.terminate_run { thread := t, shared := v.shared, since } rfl).move .unlists)

theorem Sound.retiresAll (h : v.Sound) {ts : List Thread}
    (there : ∀ t ∈ ts, v.threads[t.id]? = some t) (distinct : (ts.map (·.id)).Nodup) :
    Watches id since v (ts.foldl Vm.retire v) := by
  induction ts generalizing v with
  | nil => exact fun t ht => ⟨t, ht, .refl _⟩
  | cons u rest ih =>
    have here := there u List.mem_cons_self
    rw [List.map_cons, List.nodup_cons] at distinct
    refine (h.retires here).trans (ih (h.retire here).sound (fun t ht => ?_) distinct.2)
    have apart : u.id ≠ t.id := fun same => distinct.1 (same ▸ List.mem_map_of_mem ht)
    rw [retire_getElem?, if_neg apart]
    exact there t (List.mem_cons_of_mem _ ht)

theorem Sound.starts (h : v.Sound) (name group : String) :
    Watches id since v (v.startThread name group).2 := by
  refine h.apart [.threadStarted (v.lastThread + 1)] ?_ Array.toList_push ?_
  · intro t ht
    rw [startThread_getElem?, if_neg]
    · exact ht
    · intro same
      exact absurd (same ▸ (h.threads id t ht).2) (Nat.not_succ_le_self _)
  · intro e he
    rw [List.mem_singleton.mp he]
    rfl

theorem Sound.startsAll (h : v.Sound) (names : List String) :
    Watches id since v
      (names.foldl (fun vm name => (vm.startThread name systemGroup).2) v) := by
  induction names generalizing v with
  | nil => exact fun t ht => ⟨t, ht, .refl _⟩
  | cons name rest ih => exact (h.starts name systemGroup).trans (ih (h.start name systemGroup).sound)

theorem Sound.launches (h : v.Sound) (down : v.launched = false) : Watches id since v v.launch := by
  rw [launch_eq down]
  have ignited : Watches id since v v.ignited := by
    refine h.apart [.started] (fun _ ht => ht) Array.toList_push ?_
    intro e he
    rw [List.mem_singleton.mp he]
    rfl
  have started := h.ignite.sound.start "main" mainGroup
  have main := started.sound.aside
    (w := { (v.ignited.startThread "main" mainGroup).2 with
      mainThread := some (v.ignited.startThread "main" mainGroup).1 }) rfl rfl rfl rfl rfl
  have silent : Watches id since (v.ignited.startThread "main" mainGroup).2
      { (v.ignited.startThread "main" mainGroup).2 with
        mainThread := some (v.ignited.startThread "main" mainGroup).1 } :=
    started.sound.unseen rfl rfl
  exact ((ignited.trans (h.ignite.sound.starts "main" mainGroup)).trans silent).trans
    (main.sound.startsAll systemThreads)

theorem Sound.shutsDown (h : v.Sound) (up : v.launched = true) :
    Watches id since v v.shutdown := by
  have down := h.aside (w := { v with launched := false, mainThread := none }) rfl rfl rfl rfl rfl
  obtain ⟨there, distinct, -⟩ := down.sound.listedThreads
  have silent : Watches id since v { v with launched := false, mainThread := none } :=
    h.unseen rfl rfl
  have retired := silent.trans (down.sound.retiresAll there distinct)
  have sound := (down.sound.retireAll there distinct).1.sound
  rw [shutdown_eq up]
  refine retired.trans (sound.apart [.terminated] (fun _ ht => ht) Array.toList_push ?_)
  intro e he
  rw [List.mem_singleton.mp he]
  rfl

/-- **Whatever is done to a debuggee, a thread of it makes moves that its subscribers can follow.** -/
theorem Change.watches (h : v.Sound) {d : Deed} (c : Change v d w) : Watches id since v w := by
  cases c with
  | idle => exact fun t ht => ⟨t, ht, .refl _⟩
  | steps there step => exact h.steps there step
  | asks there asked lastCall => exact h.asks there asked lastCall
  | launches down => exact h.launches down
  | shutsDown up => exact h.shutsDown up
  | spawns up name => exact h.starts name mainGroup
  | defines | allocates | installs | takes | releases | setsBreakpoint | clearsBreakpoint
  | breaksOnUncaught =>
    exact h.unseen rfl rfl

theorem Sound.watches (h : v.Sound) (ds : List Deed) : Watches id since v (v.after ds) := by
  induction ds generalizing v with
  | nil => exact fun t ht => ⟨t, ht, .refl _⟩
  | cons d rest ih =>
    have change := d.change v
    exact (change.watches h).trans (ih (change.onward h).sound)

/-! ## 2. From the start of a thread on -/

/-- The threads that are new have just been started, and nothing was told of the one in question. -/
structure Begins (id : ThreadId) (v w : Vm) : Prop where
  thread : ∀ t : Thread, w.threads[id]? = some t →
    v.threads[id]? = some t ∨ ∃ name group, t = { id, name, group }
  told : ∃ news, w.shared.events.toList = v.shared.events.toList ++ news ∧
    ∀ e ∈ news, e.sign? id = none

theorem Begins.trans (h : Begins id v w) (h' : Begins id w x) : Begins id v x := by
  obtain ⟨news, eq, silent⟩ := h.told
  obtain ⟨news', eq', silent'⟩ := h'.told
  refine ⟨fun t ht => ?_, news ++ news', by rw [eq', eq, List.append_assoc], ?_⟩
  · rcases h'.thread t ht with old | new
    · exact h.thread t old
    · exact .inr new
  · intro e he
    rcases List.mem_append.mp he with he | he
    · exact silent e he
    · exact silent' e he

theorem startThread_begins (v : Vm) (name group : String) :
    Begins id v (v.startThread name group).2 := by
  refine ⟨fun t ht => ?_, [.threadStarted (v.lastThread + 1)], Array.toList_push, ?_⟩
  · rw [startThread_getElem?] at ht
    split at ht
    · next same =>
      cases ht
      exact .inr ⟨name, group, by rw [same]⟩
    · exact .inl ht
  · intro e he
    rw [List.mem_singleton.mp he]
    rfl

theorem launch_begins (down : v.launched = false) : Begins id v v.launch := by
  have all (names : List String) (w : Vm) : Begins id w
      (names.foldl (fun vm name => (vm.startThread name systemGroup).2) w) := by
    induction names generalizing w with
    | nil => exact ⟨fun _ => .inl, [], (List.append_nil _).symm, List.forall_mem_nil _⟩
    | cons name rest ih => exact (w.startThread_begins name systemGroup).trans (ih _)
  have ignited : Begins id v v.ignited := by
    refine ⟨fun _ => .inl, [.started], Array.toList_push, ?_⟩
    intro e he
    rw [List.mem_singleton.mp he]
    rfl
  rw [launch_eq down]
  have started := ignited.trans (v.ignited.startThread_begins "main" mainGroup)
  exact (⟨started.thread, started.told⟩ : Begins id v
    { (v.ignited.startThread "main" mainGroup).2 with
      mainThread := some (v.ignited.startThread "main" mainGroup).1 }).trans (all systemThreads _)

/-- A thread comes into being in a launch or by being asked for, and nothing was told of it. -/
theorem Change.begins (h : v.Sound) {d : Deed} (c : Change v d w) (out : id ∉ v.threads)
    {t : Thread} (there : w.threads[id]? = some t) : Begins id v w := by
  -- Every other deed leaves the count of threads where it was.
  have absent (last : w.lastThread = v.lastThread) : Begins id v w := by
    have onward := c.onward h
    have counted := (onward.sound.threads id t there).2
    rcases onward.new id (getElem?_eq_some_iff.mp there).1 with old | above
    · exact absurd old out
    · rw [last] at counted
      exact absurd above (Nat.not_lt.mpr counted)
  cases c with
  | launches down => exact launch_begins down
  | spawns up name => exact v.startThread_begins name mainGroup
  | shutsDown up =>
    refine absent ?_
    rw [shutdown_eq up]
    exact (foldl_retire_kept _ _).2.2.2.2.2
  | idle | steps | asks | defines | allocates | installs | takes | releases | setsBreakpoint
  | clearsBreakpoint | breaksOnUncaught => exact absent rfl

theorem Sound.observed (h : v.Sound) {ds : List Deed} {t : Thread} (out : id ∉ v.threads)
    (attached : since ≤ v.shared.events.size) (there : (v.after ds).threads[id]? = some t) :
    Observed.Reached { thread := t, shared := (v.after ds).shared, since } := by
  induction ds generalizing v with
  | nil =>
    have there : v.threads[id]? = some t := there
    exact absurd (getElem?_eq_some_iff.mp there).1 out
  | cons d rest ih =>
    have change := d.change v
    have onward := change.onward h
    have there : ((d.run v).after rest).threads[id]? = some t := there
    obtain ⟨news, told⟩ := onward.told
    have room : since ≤ v.shared.events.toList.length := attached
    have attached' : since ≤ (d.run v).shared.events.size := by
      show since ≤ (d.run v).shared.events.toList.length
      rw [told, List.length_append]
      omega
    cases first : (d.run v).threads[id]? with
    | none =>
      exact ih onward.sound ((getElem?_eq_none_iff _ _).mp first) attached' there
    | some u =>
      have started := change.begins h out first
      have present : id ∈ (d.run v).threads := (getElem?_eq_some_iff.mp first).1
      have new : v.lastThread < id := (onward.new id present).resolve_left out
      obtain ⟨name, group, rfl⟩ := (started.thread u first).resolve_left fun old =>
        out (getElem?_eq_some_iff.mp old).1
      obtain ⟨news, told, silent⟩ := started.told
      have fresh := Observed.Reached.fresh id name group (d.run v).shared since attached' <| by
        intro e he
        rw [told, List.drop_append_of_le_length room] at he
        rcases List.mem_append.mp he with old | new'
        -- Whatever was told before was told of threads with smaller numbers.
        · cases hs : e.sign? id with
          | none => rfl
          | some sign =>
            have counted := h.told e (List.mem_of_mem_drop old) id (by rw [hs]; rfl)
            exact absurd new (Nat.not_lt.mpr counted)
        · exact silent e new'
      have watched : Watches id since _ _ := onward.sound.watches rest
      obtain ⟨t', ht', run⟩ := watched _ first
      rw [there] at ht'
      cases ht'
      exact fresh.run run

/-- **Every thread is observed** by every subscriber that was there before it was started, whatever
was done to the debuggee before and since. -/
theorem observed (ds es : List Deed) {t : Thread} (out : id ∉ (fresh.after ds).threads)
    (attached : since ≤ (fresh.after ds).shared.events.size)
    (there : (fresh.after (ds ++ es)).threads[id]? = some t) :
    Observed.Reached { thread := t, shared := (fresh.after (ds ++ es)).shared, since } := by
  rw [after_append] at there ⊢
  exact (sound_fresh.after ds).sound.observed out attached there

end Vm

end Debugger
