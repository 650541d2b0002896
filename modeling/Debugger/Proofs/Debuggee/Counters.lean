import Mathlib.Algebra.Group.Nat.Defs
import Debugger.Proofs.Debuggee.Deeds
import Debugger.Proofs.Thread.Suspension
/-!
# Nothing in a debuggee is numbered twice

A debuggee counts its objects, its threads and the handles it gives out. Shutting it down empties the
maps beside these counters and rewinds none of them, so a number that outlived its launch names
nothing of a later one. That is one invariant and one order.

* `Vm.Sound` - every number in use was counted, and nothing that was taken off the list of threads is
  alive.
* `Vm.Onward` - what a debuggee has become: counters have not gone back, threads have got no younger,
  and whatever is new has a number beyond the old counter.
* `Vm.handed_eq` - the handles given out are the numbers after the last one, in order, one word wide.

## 1. Threads get no younger

## 2. Counters and what they count

## 3. Small changes

## 4. Launching and shutting down

## 5. Any deeds

## 6. Handles
-/

namespace Debugger

open Std (TreeMap)

/-! ## 1. Threads get no younger -/

namespace Thread

variable {t t' t'' : Thread} {s s' : Shared}

/-- A thread at a later moment. -/
structure Later (t t' : Thread) : Prop where
  id : t'.id = t.id
  listed : t'.listed = true → t.listed = true
  dead : t.status = .terminated → t'.status = .terminated
  /-- A terminated thread that is at no task begins none. -/
  spent : t.status = .terminated → (∀ a, t.worker ≠ .busy a) → ∀ a, t'.worker ≠ .busy a
  named : t'.name = t.name ∧ t'.group = t.group

theorem Later.refl (t : Thread) : t.Later t :=
  ⟨rfl, fun h => h, fun h => h, fun _ h => h, rfl, rfl⟩

theorem Later.trans (h : t.Later t') (h' : t'.Later t'') : t.Later t'' where
  id := h'.id.trans h.id
  listed hl := h.listed (h'.listed hl)
  dead hd := h'.dead (h.dead hd)
  spent hd free := h'.spent (h.dead hd) (h.spent hd free)
  named := ⟨h'.named.1.trans h.named.1, h'.named.2.trans h.named.2⟩

theorem step_later (h : t.step s = some (t', s')) : t.Later t' := by
  have stepped := step_stepped h
  have effect := step_effect h
  refine ⟨effect.same.1, fun hl => effect.same.2.1 ▸ hl, stepped.dead_iff.mpr, ?_, effect.same.2.2⟩
  intro hd free
  cases stepped with
  | proceeds busy => exact absurd busy (free _)
  | begins held alive => exact absurd hd alive
  | takes | exits | refuses | finishes | tells =>
    intro a busy
    cases busy

/-- A thread speaks of itself only. -/
theorem Effect.speaks (h : Effect t s t' s') : ∃ news, s'.events.toList = s.events.toList ++ news ∧
    ∀ e ∈ news, ∀ i, (e.sign? i).isSome = true → i = t.id := by
  have told := h.told
  generalize s'.events = events at told
  cases told with
  | nothing => exact ⟨[], (List.append_nil _).symm, List.forall_mem_nil _⟩
  | uncaught d =>
    refine ⟨_, Array.toList_push, ?_⟩
    intro e he i hs
    rw [List.mem_singleton.mp he] at hs
    cases hs
  | stop reason exception =>
    refine ⟨_, Array.toList_push, ?_⟩
    intro e he i hs
    rw [List.mem_singleton.mp he] at hs
    by_cases same : t.id = i
    · exact same.symm
    · simp only [VmEvent.sign?, if_neg same] at hs
      cases hs

theorem terminate_later (t : Thread) (s : Shared) : t.Later (t.terminate s).1 := by
  rcases t.terminate_cases s with same | died
  · rw [same]
    exact .refl t
  · rw [died]
    exact ⟨rfl, fun hl => hl, fun _ => rfl, fun _ free => free, rfl, rfl⟩

end Thread

namespace Vm

variable {v w x : Vm}

theorem Asked.later {t t' : Thread} {s s' : Shared} (h : Asked t s t' s') : t.Later t' := by
  cases h with
  | submits call task =>
    rcases t.submit_cases call task s with same | queued
    · rw [same]
      exact .refl t
    · rw [queued]
      exact ⟨rfl, fun hl => hl, fun hd => hd, fun _ free => free, rfl, rfl⟩
  | resumes granted =>
    obtain ⟨reason, stopped, rfl, -⟩ := Thread.resume_ok granted
    refine ⟨rfl, fun hl => hl, fun hd => ?_, fun _ free => free, rfl, rfl⟩
    rw [stopped] at hd
    cases hd
  | halts granted =>
    obtain ⟨-, rfl | rfl⟩ := Thread.halt_ok granted
    · exact .refl _
    · exact ⟨rfl, fun hl => hl, fun hd => hd, fun _ free => free, rfl, rfl⟩
  | terminates => exact t.terminate_later s
  | unparks granted =>
    obtain ⟨a, next, busy, -, rfl⟩ := Thread.unpark?_some granted
    exact ⟨rfl, fun hl => hl, fun hd => hd, fun _ free => absurd busy (free a), rfl, rfl⟩

/-- What a controller does to a thread leaves the heap and the classes alone, and what is told is
about this thread. -/
theorem Asked.shared {t t' : Thread} {s s' : Shared} (h : Asked t s t' s') :
    s'.classes = s.classes ∧ s'.heap = s.heap ∧ s'.breakpoints = s.breakpoints ∧
      ∃ news, s'.events.toList = s.events.toList ++ news ∧
        ∀ e ∈ news, ∀ id, (e.sign? id).isSome = true → id = t.id := by
  have unsaid : s.events.toList = s.events.toList ++ [] := (List.append_nil _).symm
  cases h with
  | submits call task =>
    unfold Thread.submit
    by_cases ht : t.status = .terminated
    · rw [if_pos ht]
      exact ⟨rfl, rfl, rfl, [], unsaid, List.forall_mem_nil _⟩
    · rw [if_neg ht]
      exact ⟨rfl, rfl, rfl, [], unsaid, List.forall_mem_nil _⟩
  | resumes granted =>
    obtain ⟨-, -, -, rfl⟩ := Thread.resume_ok granted
    refine ⟨rfl, rfl, rfl, _, Array.toList_push, ?_⟩
    intro e he id hs
    rw [List.mem_singleton.mp he] at hs
    by_cases same : t.id = id
    · exact same.symm
    · simp only [VmEvent.sign?, if_neg same] at hs
      cases hs
  | terminates =>
    unfold Thread.terminate
    by_cases ht : t.status = .terminated
    · rw [if_pos ht]
      exact ⟨rfl, rfl, rfl, [], unsaid, List.forall_mem_nil _⟩
    · rw [if_neg ht]
      obtain ⟨completed, eq⟩ := Observed.discard_kept t.inbox s
      rw [eq]
      refine ⟨rfl, rfl, rfl, _, Array.toList_push, ?_⟩
      intro e he id hs
      rw [List.mem_singleton.mp he] at hs
      by_cases same : t.id = id
      · exact same.symm
      · simp only [VmEvent.sign?, if_neg same] at hs
        cases hs
  | halts | unparks => exact ⟨rfl, rfl, rfl, [], unsaid, List.forall_mem_nil _⟩

/-! ## 2. Counters and what they count -/

/-- Everything in a debuggee was counted. -/
structure Sound (v : Vm) : Prop where
  objects : ∀ id ∈ v.shared.heap.objects, id ≤ v.shared.heap.lastId
  threads : ∀ (id : ThreadId) (t : Thread), v.threads[id]? = some t → t.id = id ∧ id ≤ v.lastThread
  unlisted : ∀ (id : ThreadId) (t : Thread), v.threads[id]? = some t → t.listed = false →
    t.status = .terminated
  /-- Only loaded classes have static fields. -/
  statics : ∀ c ∈ v.shared.heap.statics, c ∈ v.shared.classes
  classes : ∀ (name : String) (c : ClassDef), v.shared.classes[name]? = some c → c.name = name
  /-- Nothing was told of a thread that was not started. -/
  told : ∀ e ∈ v.shared.events.toList, ∀ id, (e.sign? id).isSome = true → id ≤ v.lastThread

/-- What a sound debuggee can become. -/
structure Onward (v w : Vm) : Prop where
  sound : w.Sound
  lastThread : v.lastThread ≤ w.lastThread
  lastId : v.shared.heap.lastId ≤ w.shared.heap.lastId
  old : ∀ (id : ThreadId) (t : Thread), v.threads[id]? = some t →
    ∃ t', w.threads[id]? = some t' ∧ t.Later t'
  new : ∀ id ∈ w.threads, id ∈ v.threads ∨ v.lastThread < id
  objects : ∀ id ∈ w.shared.heap.objects, id ∈ v.shared.heap.objects ∨ v.shared.heap.lastId < id
  told : ∃ news, w.shared.events.toList = v.shared.events.toList ++ news

theorem Onward.refl (h : v.Sound) : Onward v v :=
  ⟨h, Nat.le_refl _, Nat.le_refl _, fun _ t ht => ⟨t, ht, .refl t⟩, fun _ h => .inl h,
    fun _ h => .inl h, [], (List.append_nil _).symm⟩

theorem Onward.trans (h : Onward v w) (h' : Onward w x) : Onward v x where
  sound := h'.sound
  lastThread := Nat.le_trans h.lastThread h'.lastThread
  lastId := Nat.le_trans h.lastId h'.lastId
  old id t ht := by
    obtain ⟨t', ht', later⟩ := h.old id t ht
    obtain ⟨t'', ht'', later'⟩ := h'.old id t' ht'
    exact ⟨t'', ht'', later.trans later'⟩
  new id hx := by
    rcases h'.new id hx with hw | above
    · exact h.new id hw
    · exact .inr (Nat.lt_of_le_of_lt h.lastThread above)
  objects id hx := by
    rcases h'.objects id hx with hw | above
    · exact h.objects id hw
    · exact .inr (Nat.lt_of_le_of_lt h.lastId above)
  told := by
    obtain ⟨news, eq⟩ := h.told
    obtain ⟨news', eq'⟩ := h'.told
    exact ⟨news ++ news', by rw [eq', eq, List.append_assoc]⟩

/-! ## 3. Small changes -/

/-- One thread gets on, and what it does to the others is work on the heap. -/
theorem Sound.touch (h : v.Sound) {id : ThreadId} {t t' : Thread} {news : List VmEvent}
    (there : v.threads[id]? = some t) (later : t.Later t')
    (safe : t'.listed = false → t'.status = .terminated)
    (threads : w.threads = v.threads.insert t'.id t') (last : w.lastThread = v.lastThread)
    (classes : w.shared.classes = v.shared.classes)
    (worked : v.shared.heap.Worked w.shared.heap)
    (told : w.shared.events.toList = v.shared.events.toList ++ news)
    (own : ∀ e ∈ news, ∀ i, (e.sign? i).isSome = true → i = t.id) : Onward v w := by
  obtain ⟨rfl, counted⟩ := h.threads id t there
  have get : ∀ i : ThreadId, w.threads[i]? = if t.id = i then some t' else v.threads[i]? := by
    intro i
    rw [threads, later.id, TreeMap.getElem?_insert]
    simp only [Std.compare_eq_iff_eq]
  have present : t.id ∈ v.threads := (getElem?_eq_some_iff.mp there).1
  refine ⟨⟨?_, ?_, ?_, ?_, ?_, ?_⟩, Nat.le_of_eq last.symm, worked.lastId_le, ?_, ?_, ?_, news, told⟩
  · intro o ho
    rcases (worked.mem_objects o).mp ho with old | ⟨-, below⟩
    · exact Nat.le_trans (h.objects o old) worked.lastId_le
    · exact below
  · intro i u hu
    rw [get] at hu
    rw [last]
    split at hu
    · next same =>
      cases hu
      exact ⟨later.id.trans same, same ▸ counted⟩
    · exact h.threads i u hu
  · intro i u hu
    rw [get] at hu
    split at hu
    · cases hu
      exact safe
    · exact h.unlisted i u hu
  · intro c hc
    rw [classes]
    exact h.statics c ((worked.mem_statics c).mp hc)
  · rw [classes]
    exact h.classes
  · intro e he i hs
    rw [told] at he
    rw [last]
    rcases List.mem_append.mp he with old | new
    · exact h.told e old i hs
    · rw [own e new i hs]
      exact counted
  · intro i u hu
    by_cases same : t.id = i
    · subst same
      rw [there] at hu
      cases hu
      exact ⟨t', by rw [get, if_pos rfl], later⟩
    · exact ⟨u, by rw [get, if_neg same]; exact hu, .refl u⟩
  · intro i hi
    rw [threads, TreeMap.mem_insert, Std.compare_eq_iff_eq, later.id] at hi
    rcases hi with same | old
    · exact .inl (same ▸ present)
    · exact .inl old
  · intro o ho
    rcases (worked.mem_objects o).mp ho with old | ⟨above, -⟩
    · exact .inl old
    · exact .inr above

/-- The threads are left alone. -/
theorem Sound.share (h : v.Sound) (news : List VmEvent) (threads : w.threads = v.threads)
    (last : w.lastThread = v.lastThread) (lastId : v.shared.heap.lastId ≤ w.shared.heap.lastId)
    (objects : ∀ id ∈ w.shared.heap.objects,
      id ∈ v.shared.heap.objects ∨ v.shared.heap.lastId < id ∧ id ≤ w.shared.heap.lastId)
    (statics : ∀ c ∈ w.shared.heap.statics, c ∈ w.shared.classes)
    (classes : ∀ (name : String) (c : ClassDef), w.shared.classes[name]? = some c → c.name = name)
    (told : w.shared.events.toList = v.shared.events.toList ++ news)
    (silent : ∀ e ∈ news, ∀ id, e.sign? id = none) : Onward v w := by
  refine ⟨⟨?_, ?_, ?_, statics, classes, ?_⟩, Nat.le_of_eq last.symm, lastId, ?_, ?_, ?_, news, told⟩
  · intro o ho
    rcases objects o ho with old | ⟨-, below⟩
    · exact Nat.le_trans (h.objects o old) lastId
    · exact below
  · rw [threads, last]
    exact h.threads
  · rw [threads]
    exact h.unlisted
  · intro e he i hs
    rw [told] at he
    rw [last]
    rcases List.mem_append.mp he with old | new
    · exact h.told e old i hs
    · rw [silent e new i] at hs
      cases hs
  · rw [threads]
    exact fun i u hu => ⟨u, hu, .refl u⟩
  · rw [threads]
    exact fun i hi => .inl hi
  · intro o ho
    rcases objects o ho with old | ⟨above, -⟩
    · exact .inl old
    · exact .inr above

/-- Neither the threads nor the heap nor the classes are touched, and nothing is told. -/
theorem Sound.aside (h : v.Sound) (threads : w.threads = v.threads)
    (last : w.lastThread = v.lastThread) (heap : w.shared.heap = v.shared.heap)
    (classes : w.shared.classes = v.shared.classes) (told : w.shared.events = v.shared.events) :
    Onward v w :=
  h.share [] threads last (Nat.le_of_eq (by rw [heap])) (fun id ho => .inl (heap ▸ ho))
    (by rw [heap, classes]; exact h.statics) (by rw [classes]; exact h.classes)
    (by rw [told, List.append_nil]) (List.forall_mem_nil _)

theorem Sound.work (h : v.Sound) {heap : Heap} (worked : v.shared.heap.Worked heap) :
    Onward v (v.withHeap heap) :=
  h.share [] rfl rfl worked.lastId_le (fun id => (worked.mem_objects id).mp)
    (fun c hc => h.statics c ((worked.mem_statics c).mp hc)) h.classes (List.append_nil _).symm
    (List.forall_mem_nil _)

theorem Sound.define (h : v.Sound) (c : ClassDef) : Onward v (v.defineClass c) := by
  refine h.share [] rfl rfl (Nat.le_refl _) (fun id => .inl) ?_ ?_
    (List.append_nil _).symm (List.forall_mem_nil _)
  · intro name hn
    have hn : name ∈ v.shared.heap.statics.insert c.name _ := hn
    show name ∈ v.shared.classes.insert c.name c
    rw [TreeMap.mem_insert] at hn ⊢
    exact hn.imp_right (h.statics name)
  · intro name d hd
    have hd : (v.shared.classes.insert c.name c)[name]? = some d := hd
    rw [TreeMap.getElem?_insert] at hd
    split at hd
    · next same =>
      cases hd
      exact Std.compare_eq_iff_eq.mp same
    · exact h.classes name d hd

theorem startThread_getElem? (v : Vm) (name group : String) (i : ThreadId) :
    (v.startThread name group).2.threads[i]? =
      if v.lastThread + 1 = i then some { id := v.lastThread + 1, name, group }
      else v.threads[i]? := by
  show (v.threads.insert (v.lastThread + 1) _)[i]? = _
  rw [TreeMap.getElem?_insert]
  simp only [Std.compare_eq_iff_eq]

theorem Sound.start (h : v.Sound) (name group : String) :
    Onward v (v.startThread name group).2 := by
  have get := v.startThread_getElem? name group
  refine ⟨⟨h.objects, ?_, ?_, h.statics, h.classes, ?_⟩, Nat.le_succ _, Nat.le_refl _, ?_, ?_,
    fun _ ho => .inl ho, _, Array.toList_push⟩
  · intro i u hu
    rw [get] at hu
    split at hu
    · next same =>
      cases hu
      exact ⟨same, Nat.le_of_eq same.symm⟩
    · obtain ⟨id, counted⟩ := h.threads i u hu
      exact ⟨id, Nat.le_succ_of_le counted⟩
  · intro i u hu
    rw [get] at hu
    split at hu
    · cases hu
      exact nofun
    · exact h.unlisted i u hu
  · intro e he i hs
    have he : e ∈ (v.shared.events.push (.threadStarted (v.lastThread + 1))).toList := he
    rw [Array.toList_push] at he
    rcases List.mem_append.mp he with old | new
    · exact Nat.le_succ_of_le (h.told e old i hs)
    · rw [List.mem_singleton.mp new] at hs
      cases hs
  · intro i u hu
    refine ⟨u, ?_, .refl u⟩
    rw [get, if_neg]
    · exact hu
    · intro same
      exact absurd (same ▸ (h.threads i u hu).2) (Nat.not_succ_le_self _)
  · intro i hi
    have hi : i ∈ v.threads.insert (v.lastThread + 1) _ := hi
    rw [TreeMap.mem_insert, Std.compare_eq_iff_eq] at hi
    rcases hi with same | old
    · exact .inr (same ▸ Nat.lt_succ_self _)
    · exact .inl old

/-! ## 4. Launching and shutting down -/

theorem foldl_initStatics_kept (classes : List (String × ClassDef)) (heap : Heap) :
    (classes.foldl (fun h p => h.initStatics p.2) heap).objects = heap.objects ∧
      (classes.foldl (fun h p => h.initStatics p.2) heap).lastId = heap.lastId ∧
      ∀ c ∈ (classes.foldl (fun h p => h.initStatics p.2) heap).statics,
        c ∈ heap.statics ∨ ∃ p ∈ classes, p.2.name = c := by
  induction classes generalizing heap with
  | nil => exact ⟨rfl, rfl, fun _ => .inl⟩
  | cons p rest ih =>
    obtain ⟨objects, last, statics⟩ := ih (heap.initStatics p.2)
    refine ⟨objects, last, ?_⟩
    intro c hc
    rcases statics c hc with old | ⟨q, hq, name⟩
    · have old : c ∈ heap.statics.insert p.2.name _ := old
      rw [TreeMap.mem_insert, Std.compare_eq_iff_eq] at old
      rcases old with same | old
      · exact .inr ⟨p, List.mem_cons_self, same⟩
      · exact .inl old
    · exact .inr ⟨q, List.mem_cons_of_mem _ hq, name⟩

/-- A debuggee that has been set up for a launch and has no thread of it yet. -/
def ignited (v : Vm) : Vm :=
  let heap := v.shared.classes.foldl (fun h _ c => h.initStatics c) v.shared.heap
  { v with launched := true, shared := { v.shared with
      heap, breakpoints := v.shared.breakpoints.resetHits, events := v.shared.events.push .started } }

theorem Sound.ignite (h : v.Sound) : Onward v v.ignited := by
  obtain ⟨objects, last, statics⟩ := foldl_initStatics_kept v.shared.classes.toList v.shared.heap
  have fold : v.shared.classes.foldl (fun h _ c => h.initStatics c) v.shared.heap =
      v.shared.classes.toList.foldl (fun h p => h.initStatics p.2) v.shared.heap :=
    TreeMap.foldl_eq_foldl_toList
  rw [← fold] at objects last statics
  refine h.share [.started] rfl rfl (Nat.le_of_eq last.symm) (fun id ho => .inl ?_) ?_ h.classes
    Array.toList_push ?_
  · exact objects ▸ ho
  · intro c hc
    rcases statics c hc with old | ⟨⟨name, d⟩, hd, rfl⟩
    · exact h.statics c old
    · have loaded : v.shared.classes[name]? = some d :=
        TreeMap.mem_toList_iff_getElem?_eq_some.mp hd
      have keyed := h.classes name d loaded
      subst keyed
      have present : d.name ∈ v.shared.classes :=
        (getElem?_eq_some_iff.mp loaded).1
      exact present
  · intro e he id
    rw [List.mem_singleton.mp he]
    rfl

theorem Sound.startAll (h : v.Sound) (names : List String) :
    Onward v (names.foldl (fun vm name => (vm.startThread name systemGroup).2) v) := by
  induction names generalizing v with
  | nil => exact .refl h
  | cons name rest ih =>
    have first := h.start name systemGroup
    exact first.trans (ih first.sound)

theorem launch_eq (down : v.launched = false) :
    v.launch = systemThreads.foldl (fun vm name => (vm.startThread name systemGroup).2)
      { (v.ignited.startThread "main" mainGroup).2 with
        mainThread := some (v.ignited.startThread "main" mainGroup).1 } :=
  if_neg (by rw [down]; exact Bool.false_ne_true)

theorem Sound.launch (h : v.Sound) (down : v.launched = false) : Onward v v.launch := by
  rw [launch_eq down]
  have ignited := h.ignite
  have started := ignited.sound.start "main" mainGroup
  have main : Onward (v.ignited.startThread "main" mainGroup).2
      { (v.ignited.startThread "main" mainGroup).2 with
        mainThread := some (v.ignited.startThread "main" mainGroup).1 } :=
    started.sound.aside rfl rfl rfl rfl rfl
  exact ((ignited.trans started).trans main).trans (main.sound.startAll systemThreads)

theorem Sound.retire (h : v.Sound) {t : Thread} (there : v.threads[t.id]? = some t) :
    Onward v (v.retire t) := by
  obtain ⟨classes, heap, -, news, told, own⟩ := Asked.shared (.terminates : Asked t v.shared _ _)
  have later := t.terminate_later v.shared
  have worked : v.shared.heap.Worked (v.retire t).shared.heap := by
    show v.shared.heap.Worked (t.terminate v.shared).2.heap
    rw [heap]
    exact .refl
  have retired : t.Later { (t.terminate v.shared).1 with listed := false } :=
    ⟨later.id, nofun, later.dead, later.spent, later.named⟩
  refine h.touch there retired (fun _ => ?_) rfl rfl classes worked told own
  unfold Thread.terminate
  split
  · assumption
  · rfl

theorem retire_getElem? (v : Vm) (t : Thread) (i : ThreadId) :
    (v.retire t).threads[i]? =
      if t.id = i then some { (t.terminate v.shared).1 with listed := false }
      else v.threads[i]? := by
  have put : (v.retire t).threads = v.threads.insert (t.terminate v.shared).1.id
      { (t.terminate v.shared).1 with listed := false } := rfl
  rw [put, (t.terminate_later v.shared).id, TreeMap.getElem?_insert]
  simp only [Std.compare_eq_iff_eq]

/-- What shutting down does to threads: the given ones are taken off the list. -/
theorem Sound.retireAll (h : v.Sound) {ts : List Thread}
    (there : ∀ t ∈ ts, v.threads[t.id]? = some t) (distinct : (ts.map (·.id)).Nodup) :
    Onward v (ts.foldl Vm.retire v) ∧
      ∀ (id : ThreadId) (t : Thread), (ts.foldl Vm.retire v).threads[id]? = some t →
        t.listed = true →
        v.threads[id]? = some t ∧ t ∉ ts := by
  induction ts generalizing v with
  | nil => exact ⟨.refl h, fun id t ht _ => ⟨ht, List.not_mem_nil⟩⟩
  | cons u rest ih =>
    have here := there u List.mem_cons_self
    have first := h.retire here
    have get := v.retire_getElem? u
    rw [List.map_cons, List.nodup_cons] at distinct
    have apart : ∀ t ∈ rest, u.id ≠ t.id := by
      intro t ht same
      exact distinct.1 (same ▸ List.mem_map_of_mem ht)
    obtain ⟨others, rest'⟩ := ih first.sound (fun t ht => by
      rw [get, if_neg (apart t ht)]
      exact there t (List.mem_cons_of_mem _ ht)) distinct.2
    refine ⟨first.trans others, ?_⟩
    intro id t ht hl
    obtain ⟨ht, out⟩ := rest' id t ht hl
    rw [get] at ht
    split at ht
    · cases ht
      cases hl
    · next other =>
      refine ⟨ht, ?_⟩
      rintro (_ | ⟨_, old⟩)
      · exact other (h.threads id u ht).1
      · exact out old

theorem foldl_retire_kept (ts : List Thread) (v : Vm) :
    (ts.foldl retire v).holds = v.holds ∧ (ts.foldl retire v).launched = v.launched ∧
      (ts.foldl retire v).shared.classes = v.shared.classes ∧
      (ts.foldl retire v).shared.breakpoints = v.shared.breakpoints ∧
      (ts.foldl retire v).shared.heap = v.shared.heap ∧
      (ts.foldl retire v).lastThread = v.lastThread := by
  induction ts generalizing v with
  | nil => exact ⟨rfl, rfl, rfl, rfl, rfl, rfl⟩
  | cons t rest ih =>
    obtain ⟨holds, launched, classes, breakpoints, heap, last⟩ := ih (v.retire t)
    obtain ⟨classes', heap', breakpoints', -⟩ := Asked.shared (.terminates : Asked t v.shared _ _)
    exact ⟨holds, launched, classes.trans classes', breakpoints.trans breakpoints',
      heap.trans heap', last⟩

/-- The listed threads stand in the map under their numbers, each once. -/
theorem Sound.listedThreads (h : v.Sound) :
    (∀ t ∈ v.listedThreads, v.threads[t.id]? = some t) ∧
      (v.listedThreads.map (·.id)).Nodup ∧
      ∀ (id : ThreadId) (t : Thread), v.threads[id]? = some t → t.listed = true →
        t ∈ v.listedThreads := by
  have there : ∀ p ∈ v.threads.toList, v.threads[p.1]? = some p.2 := fun p hp =>
    TreeMap.mem_toList_iff_getElem?_eq_some.mp hp
  have ids : (v.threads.toList.map (·.2)).map (·.id) = v.threads.keys := by
    rw [← TreeMap.map_fst_toList_eq_keys, List.map_map]
    exact List.map_congr_left fun p hp => (h.threads p.1 p.2 (there p hp)).1
  refine ⟨?_, ?_, ?_⟩
  · intro t ht
    obtain ⟨⟨id, t⟩, hp, rfl⟩ := List.mem_map.mp (List.mem_filter.mp ht).1
    have at' := there ⟨id, t⟩ hp
    rw [(h.threads id t at').1]
    exact at'
  · have all : ((v.threads.toList.map (·.2)).map (·.id)).Nodup := by
      rw [ids]
      exact TreeMap.nodup_keys
    exact all.sublist (List.filter_sublist.map _)
  · intro id t ht hl
    refine List.mem_filter.mpr ⟨List.mem_map.mpr ⟨(id, t), ?_, rfl⟩, hl⟩
    exact TreeMap.mem_toList_iff_getElem?_eq_some.mpr ht

/-- A debuggee that is going down, with no thread on its list any more. -/
def extinguished (v : Vm) : Vm :=
  let down := { v with launched := false, mainThread := none }
  down.listedThreads.foldl retire down

theorem shutdown_eq (up : v.launched = true) :
    v.shutdown = { v.extinguished with
      holds := { v.extinguished.holds with byHandle := ∅ }
      shared := { v.extinguished.shared with
        heap := v.extinguished.shared.heap.reset
        events := v.extinguished.shared.events.push .terminated } } :=
  if_neg (by rw [up]; exact Bool.false_ne_true)

/-- Shutting down takes every thread off the list. -/
theorem Sound.shutdown (h : v.Sound) (up : v.launched = true) :
    Onward v v.shutdown ∧
      ∀ (id : ThreadId) (t : Thread), v.shutdown.threads[id]? = some t → t.listed = false := by
  have down : Onward v { v with launched := false, mainThread := none } :=
    h.aside rfl rfl rfl rfl rfl
  obtain ⟨there, distinct, all⟩ := down.sound.listedThreads
  obtain ⟨retired, off⟩ := down.sound.retireAll there distinct
  have off : ∀ (id : ThreadId) (t : Thread), v.extinguished.threads[id]? = some t →
      t.listed = false := by
    intro id t ht
    cases hl : t.listed with
    | false => rfl
    | true =>
      obtain ⟨ht, out⟩ := off id t ht hl
      exact absurd (all id t ht hl) out
  have reset : Onward v.extinguished v.shutdown := by
    rw [shutdown_eq up]
    refine retired.sound.share [.terminated] rfl rfl (Nat.le_refl _) ?_ ?_
      retired.sound.classes Array.toList_push ?_
    · intro id ho
      exact absurd ho TreeMap.not_mem_emptyc
    · intro c hc
      exact absurd hc TreeMap.not_mem_emptyc
    · intro e he id
      rw [List.mem_singleton.mp he]
      rfl
  refine ⟨(down.trans retired).trans reset, ?_⟩
  rw [shutdown_eq up]
  exact off

/-! ## 5. Any deeds -/

theorem Sound.step (h : v.Sound) {id : ThreadId} {t t' : Thread} {s' : Shared}
    (there : v.threads[id]? = some t) (step : t.step v.shared = some (t', s')) :
    Onward v (v.putThread t' s') := by
  have effect := Thread.step_effect step
  have later := Thread.step_later step
  have safe : t'.listed = false → t'.status = .terminated := by
    intro hl
    rw [effect.same.2.1] at hl
    exact later.dead (h.unlisted id t there hl)
  obtain ⟨news, eq, own⟩ := effect.speaks
  exact h.touch there later safe rfl rfl effect.classes effect.heap eq own

theorem Asked.listed {t t' : Thread} {s s' : Shared} (h : Asked t s t' s') :
    t'.listed = t.listed := by
  cases h with
  | submits call task => rcases t.submit_cases call task s with same | queued <;> simp only [*]
  | resumes granted =>
    obtain ⟨-, -, rfl, -⟩ := Thread.resume_ok granted
    rfl
  | halts granted => obtain ⟨-, rfl | rfl⟩ := Thread.halt_ok granted <;> rfl
  | terminates => rcases t.terminate_cases s with same | died <;> simp only [*]
  | unparks granted =>
    obtain ⟨-, -, -, -, rfl⟩ := Thread.unpark?_some granted
    rfl

theorem Sound.ask (h : v.Sound) {id : ThreadId} {t t' : Thread} {s' : Shared}
    (there : v.threads[id]? = some t) (asked : Asked t v.shared t' s') (lastCall : CallId) :
    Onward v { v.putThread t' s' with lastCall } := by
  obtain ⟨classes, heap, -, news, told, own⟩ := asked.shared
  have later := asked.later
  have safe : t'.listed = false → t'.status = .terminated := by
    intro hl
    rw [asked.listed] at hl
    exact later.dead (h.unlisted id t there hl)
  have worked : v.shared.heap.Worked s'.heap := heap ▸ .refl
  exact h.touch there later safe rfl rfl classes worked told own

/-- **Whatever is done to a debuggee, its counters go on.** -/
theorem Change.onward (h : v.Sound) {d : Deed} (c : Change v d w) : Onward v w := by
  cases c with
  | idle => exact .refl h
  | steps there step => exact h.step there step
  | asks there asked lastCall => exact h.ask there asked lastCall
  | defines c => exact h.define c
  | launches down => exact h.launch down
  | shutsDown up => exact (h.shutdown up).1
  | spawns up name => exact h.start name mainGroup
  | allocates up maker worked => exact h.work worked
  | installs there stored => exact h.work (.setStatic stored .refl)
  | takes full emptied =>
    have worked := h.work (.setStatic emptied .refl)
    exact worked.trans (worked.sound.aside rfl rfl rfl rfl rfl)
  | releases | setsBreakpoint | clearsBreakpoint | breaksOnUncaught =>
    exact h.aside rfl rfl rfl rfl rfl

theorem Sound.after (h : v.Sound) (ds : List Deed) : Onward v (v.after ds) := by
  induction ds generalizing v with
  | nil => exact .refl h
  | cons d rest ih =>
    have first := (d.change v).onward h
    exact first.trans (ih first.sound)

theorem sound_empty : Sound {} where
  objects _ h := absurd h TreeMap.not_mem_emptyc
  threads id t h := by
    rw [TreeMap.getElem?_emptyc] at h
    cases h
  unlisted id t h := by
    rw [TreeMap.getElem?_emptyc] at h
    cases h
  statics _ h := absurd h TreeMap.not_mem_emptyc
  classes name c h := by
    rw [TreeMap.getElem?_emptyc] at h
    cases h
  told := List.forall_mem_nil _

theorem fresh_eq : fresh = Vm.after {} (standardClasses.map .define) := by
  simp only [fresh, Vm.after, List.foldl_map]
  rfl

theorem sound_fresh : fresh.Sound := by
  rw [fresh_eq]
  exact (sound_empty.after _).sound

/-! ## 6. Handles -/

/-- The handle that a deed gives out, if it does. -/
def Deed.handed (v : Vm) : Deed → List Handle
  | takeTransport =>
    match (Vm.takeTransport.run v).1 with
    | .ok handle => [handle]
    | .error _ => []
  | _ => []

/-- The handles given out by some deeds, in order. -/
def handed (v : Vm) : List Deed → List Handle
  | [] => []
  | d :: ds => d.handed v ++ handed (d.run v) ds

theorem handed_append (v : Vm) (ds es : List Deed) :
    v.handed (ds ++ es) = v.handed ds ++ (v.after ds).handed es := by
  induction ds generalizing v with
  | nil => rfl
  | cons d rest ih =>
    simp only [List.cons_append, handed, ih, List.append_assoc]
    rfl

theorem Change.holds {d : Deed} (c : Change v d w) (other : d ≠ .takeTransport) :
    w.holds.last = v.holds.last := by
  cases c with
  | takes => exact absurd rfl other
  | launches down => rw [launch_eq down]; rfl
  | shutsDown up =>
    obtain ⟨holds, -⟩ := foldl_retire_kept
      (listedThreads { v with launched := false, mainThread := none })
      { v with launched := false, mainThread := none }
    rw [shutdown_eq up]
    show v.extinguished.holds.last = v.holds.last
    unfold extinguished
    rw [holds]
  | idle | steps | asks | defines | spawns | allocates | installs | releases | setsBreakpoint
  | clearsBreakpoint | breaksOnUncaught => rfl

/-- A deed gives out the next handle or none. -/
theorem handed_cases (d : Deed) (v : Vm) :
    (d.handed v = [] ∧ (d.run v).holds.last = v.holds.last) ∨
      (d.handed v = [⟨v.holds.last + 1⟩] ∧ (d.run v).holds.last = v.holds.last + 1) := by
  by_cases take : d = .takeTransport
  · subst take
    rcases v.takeTransport_cases with ⟨e, eq⟩ | ⟨o, heap, -, -, eq⟩
    · refine .inl ⟨?_, ?_⟩
      · simp only [Deed.handed, eq]
      · show (Vm.takeTransport.run v).2.holds.last = _
        rw [eq]
    · refine .inr ⟨?_, ?_⟩
      · simp only [Deed.handed, eq]
      · show (Vm.takeTransport.run v).2.holds.last = _
        rw [eq]
        rfl
  · refine .inl ⟨?_, (d.change v).holds take⟩
    cases d with
    | takeTransport => exact absurd rfl take
    | _ => rfl

/-- **The handles given out are the numbers after the last one, in order,** one word wide. -/
theorem handed_eq (ds : List Deed) (v : Vm) (n : Nat) (last : v.holds.last = UInt64.ofNat n) :
    v.handed ds = (List.range' (n + 1) (v.handed ds).length).map (fun i => ⟨UInt64.ofNat i⟩) ∧
      (v.after ds).holds.last = UInt64.ofNat (n + (v.handed ds).length) := by
  induction ds generalizing v n with
  | nil => exact ⟨rfl, last⟩
  | cons d rest ih =>
    have split : v.handed (d :: rest) = d.handed v ++ (d.run v).handed rest := rfl
    have next : UInt64.ofNat n + 1 = UInt64.ofNat (n + 1) := (UInt64.ofNat_add n 1).symm
    rcases handed_cases d v with ⟨none, same⟩ | ⟨one, more⟩
    · rw [split, none, List.nil_append]
      exact ih (d.run v) n (same.trans last)
    · rw [last, next] at one more
      obtain ⟨handles, last'⟩ := ih (d.run v) (n + 1) more
      rw [split, one]
      refine ⟨?_, ?_⟩
      · rw [List.singleton_append, List.length_cons, List.range'_succ, List.map_cons, ← handles]
      · have count (m : Nat) : n + (m + 1) = n + 1 + m := by omega
        rw [List.singleton_append, List.length_cons, count]
        exact last'

theorem ofNat_inj {n i j : Nat} (hi : n < i ∧ i ≤ n + 2 ^ 64) (hj : n < j ∧ j ≤ n + 2 ^ 64)
    (same : UInt64.ofNat i = UInt64.ofNat j) : i = j := by
  have same := congrArg UInt64.toNat same
  rw [UInt64.toNat_ofNat', UInt64.toNat_ofNat'] at same
  omega

/-- Handles in the order of their numbers repeat only when a word cannot count them. -/
theorem nodup_handles (n : Nat) {count : Nat} (few : count ≤ 2 ^ 64) :
    ((List.range' (n + 1) count).map fun i => (⟨UInt64.ofNat i⟩ : Handle)).Nodup := by
  refine List.pairwise_map.mpr (List.Pairwise.imp_of_mem ?_ List.nodup_range')
  intro i j hi hj apart same
  rw [List.mem_range'_1] at hi hj
  exact apart (ofNat_inj (n := n) (by omega) (by omega) (Handle.mk.inj same))

/-- **No handle is given out twice,** as long as a word can count them. -/
theorem handed_nodup {ds : List Deed} (few : (fresh.handed ds).length ≤ 2 ^ 64) :
    (fresh.handed ds).Nodup := by
  obtain ⟨handles, -⟩ := handed_eq ds fresh 0 rfl
  rw [handles]
  exact nodup_handles 0 few

end Vm

end Debugger
