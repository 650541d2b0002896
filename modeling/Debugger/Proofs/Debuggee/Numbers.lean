import Debugger.Proofs.Debuggee.Fields
/-!
# Numbers are words

Objects and threads are numbered from one on, and each number is kept in a word of 64 bits. Here the
numbers are not words and never run out. The two come to the same as long as the last number given
is one that a word can hold, and that is the case for a very long time: a deed numbers at most one
object, and at most as many threads as a launch starts.

* `Vm.lastId_after`, `Vm.lastThread_after` - how far the counters have come after some deeds.
* `Vm.numbers_are_words` - what follows for a debuggee to which less than 2^62 things were done.

## 1. Objects

## 2. Threads

## 3. Words
-/

namespace Debugger

open Std (TreeMap)

namespace Vm

variable {v w : Vm} {d : Deed}

/-! ## 1. Objects -/

/-- Where a deed does not work on the heap, the counter of objects stays. -/
theorem Change.worked_or_lastId (c : Change v d w) :
    v.shared.heap.Worked w.shared.heap ∨ w.shared.heap.lastId = v.shared.heap.lastId := by
  cases c with
  | steps there step => exact .inl (Thread.step_effect step).heap
  | allocates _ _ worked => exact .inl worked
  | asks there asked => exact .inr (congrArg Heap.lastId asked.shared.2.1)
  | launches down =>
    rw [launch_heap down]
    exact .inr (foldl_initStatics_kept _ _).2.1
  | shutsDown up =>
    rw [shutdown_eq up]
    obtain ⟨-, -, -, -, heap, -⟩ := foldl_retire_kept
      (listedThreads { v with launched := false, mainThread := none })
      { v with launched := false, mainThread := none }
    have last := congrArg Heap.lastId heap
    exact .inr last
  | installs _ stored => exact .inr (Heap.setStatic?_kept stored).1
  | takes _ emptied => exact .inr (Heap.setStatic?_kept emptied).1
  | idle | defines | spawns | releases | setsBreakpoint | clearsBreakpoint | breaksOnUncaught =>
    exact .inr rfl

/-- A deed makes at most one object. -/
theorem Sound.lastId_run (h : v.Sound) (d : Deed) :
    (d.run v).shared.heap.lastId ≤ v.shared.heap.lastId + 1 := by
  rcases (d.change v).worked_or_lastId with worked | same
  · -- If there were two new numbers, there would be two new objects.
    by_contra more
    have beyond : v.shared.heap.lastId < v.shared.heap.lastId + 2 :=
      Nat.lt_add_of_pos_right Nat.two_pos
    have second : v.shared.heap.lastId + 2 ∈ (d.run v).shared.heap.objects :=
      (worked.mem_objects _).mpr (.inr ⟨beyond, Nat.lt_of_not_le more⟩)
    have old : v.shared.heap.lastId + 2 ∉ v.shared.heap.objects := fun old =>
      Nat.not_le_of_lt beyond (h.objects _ old)
    rcases d.remade v with none | ⟨g, grows, objects⟩
    · rw [none] at second
      exact TreeMap.not_mem_emptyc second
    · rw [objects] at second
      obtain ⟨o, there, -⟩ := Heap.classDef_puts (TreeMap.getElem?_eq_some_getElem second)
      have second : v.shared.heap.lastId + 2 ∈ g.objects := (getElem?_eq_some_iff.mp there).1
      cases grows with
      | same objects => exact old (objects ▸ second)
      | made o _ _ objects =>
        rw [objects, TreeMap.mem_insert, Std.compare_eq_iff_eq] at second
        exact second.elim (Nat.ne_of_lt (Nat.lt_succ_self _)) old
  · exact Nat.le_succ_of_le (Nat.le_of_eq same)

theorem lastId_after (h : v.Sound) (ds : List Deed) :
    (v.after ds).shared.heap.lastId ≤ v.shared.heap.lastId + ds.length := by
  induction ds generalizing v with
  | nil => exact Nat.le_refl _
  | cons d rest ih =>
    calc (v.after (d :: rest)).shared.heap.lastId
        ≤ (d.run v).shared.heap.lastId + rest.length := ih (h.after [d]).sound
      _ ≤ v.shared.heap.lastId + 1 + rest.length := Nat.add_le_add_right (h.lastId_run d) _
      _ = v.shared.heap.lastId + (d :: rest).length := Nat.succ_add_eq_add_succ _ _

/-! ## 2. Threads -/

theorem foldl_startThread_lastThread (names : List String) (v : Vm) :
    (names.foldl (fun vm name => (vm.startThread name systemGroup).2) v).lastThread =
      v.lastThread + names.length := by
  induction names generalizing v with
  | nil => rfl
  | cons name rest ih =>
    rw [List.foldl_cons, ih]
    exact Nat.succ_add_eq_add_succ _ _

/-- A deed starts no more threads than a launch does: the main thread and those of the system. -/
theorem Change.lastThread_le (c : Change v d w) :
    w.lastThread ≤ v.lastThread + (systemThreads.length + 1) := by
  cases c with
  | launches down =>
    rw [launch_eq down, foldl_startThread_lastThread]
    exact Nat.le_of_eq (Nat.succ_add_eq_add_succ _ _)
  | shutsDown up =>
    rw [shutdown_eq up]
    exact Nat.le_trans (Nat.le_of_eq (foldl_retire_kept _ _).2.2.2.2.2) (Nat.le_add_right _ _)
  | spawns => exact Nat.add_le_add_left (Nat.le_add_left _ _) _
  | idle | steps | asks | defines | allocates | installs | takes | releases | setsBreakpoint
    | clearsBreakpoint | breaksOnUncaught => exact Nat.le_add_right _ _

theorem lastThread_after (ds : List Deed) (v : Vm) :
    (v.after ds).lastThread ≤ v.lastThread + (systemThreads.length + 1) * ds.length := by
  induction ds generalizing v with
  | nil => exact Nat.le_refl _
  | cons d rest ih =>
    have first := (d.change v).lastThread_le
    generalize systemThreads.length + 1 = most at ih first
    calc (v.after (d :: rest)).lastThread
        ≤ (d.run v).lastThread + most * rest.length := ih (d.run v)
      _ ≤ v.lastThread + most + most * rest.length := Nat.add_le_add_right first _
      _ = v.lastThread + most * (d :: rest).length := by
        rw [List.length_cons, Nat.mul_succ, Nat.add_assoc, Nat.add_comm most]

/-! ## 3. Words -/

/-- **No counter runs over** in a debuggee to which less than 2^62 things were done: every number
of an object or of a thread is one that a word holds. -/
theorem numbers_are_words {ds : List Deed} (few : ds.length < 2 ^ 62) :
    (∀ id ∈ (fresh.after ds).shared.heap.objects, id < 2 ^ 64) ∧
      ∀ id ∈ (fresh.after ds).threads, id < 2 ^ 64 := by
  have sound := (sound_fresh.after ds).sound
  have objects : (fresh.after ds).shared.heap.lastId ≤ 0 + ds.length := lastId_after sound_fresh ds
  have threads : (fresh.after ds).lastThread ≤ 0 + 4 * ds.length := lastThread_after ds fresh
  refine ⟨fun id there => ?_, fun id there => ?_⟩
  · have word : 0 + ds.length < 2 ^ 64 := by omega
    exact Nat.lt_of_le_of_lt (Nat.le_trans (sound.objects id there) objects) word
  · obtain ⟨t, there⟩ := Option.isSome_iff_exists.mp (TreeMap.mem_iff_isSome_getElem?.mp there)
    have word : 0 + 4 * ds.length < 2 ^ 64 := by omega
    exact Nat.lt_of_le_of_lt (Nat.le_trans (sound.threads id t there).2 threads) word

end Vm

end Debugger
