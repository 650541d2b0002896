import Debugger.Proofs.Debuggee.Counters
import Debugger.Proofs.Thread.SafePoints
/-!
# Hit counts

A breakpoint with a hit count is for one hit: the one of that number since the breakpoint was
installed, or since all counters were last set to zero. The table knows no hits but the ones it has
counted, and it counts no further than one word goes. This file says what that comes to, after
whatever was done to a table.

* `BreakpointTable.Command` - what is done to a table; `BreakpointTable.after` - the table that a
  history of commands leaves.
* `BreakpointTable.getElem?_apply` - one command, seen from one location.
* `BreakpointTable.getElem?_after` - the whole history, seen from one location: what was asked for
  there, and how often it was passed since.
* `BreakpointTable.stops_on_nth_hit` - when a hit stops the thread. The greatest count of all does
  not tell its own hit from the later ones (`BreakpointTable.greatest_count_stops_again`).
* `Vm.table_has_history` - the table of a debuggee is one that a history leaves, and threads only pass
  the safe points that they reach.

## 1. Histories

## 2. Counters

## 3. Stops

## 4. The table of a debuggee
-/

namespace Debugger

namespace BreakpointTable

open Std (TreeMap)

/-! ## 1. Histories -/

/-- What is done to a table of breakpoints. -/
inductive Command
  | install (r : BreakpointRequest)
  | remove (l : BreakpointLocation)
  | resetHits
  | pass (l : BreakpointLocation)
  deriving DecidableEq

def apply (t : BreakpointTable) : Command → BreakpointTable
  | .install r => t.install r
  | .remove l => t.erase l
  | .resetHits => t.resetHits
  | .pass l => (t.pass l).2

/-- The table that a history leaves, the latest command first. -/
def after : List Command → BreakpointTable
  | [] => ∅
  | c :: h => (after h).apply c

/-- Whether a hit at the location stops the thread, after a history. -/
def stops (h : List Command) (l : BreakpointLocation) : Bool := ((after h).pass l).1

/-- What the breakpoint at a location is for, if there is one. -/
def requested? (l : BreakpointLocation) : List Command → Option (Option UInt32)
  | [] => none
  | .install r :: h => if r.location = l then some r.hitCount else requested? l h
  | .remove k :: h => if k = l then none else requested? l h
  | .resetHits :: h => requested? l h
  | .pass _ :: h => requested? l h

/-- Whether the hits at a location are counted anew from here. -/
def Command.restarts (l : BreakpointLocation) : Command → Bool
  | install r => r.location = l
  | resetHits => true
  | remove _ => false
  | pass _ => false

/-- How often a location was passed since its hits were last counted anew. -/
def hitsSince (l : BreakpointLocation) (h : List Command) : Nat :=
  (h.takeWhile fun c => !c.restarts l).count (.pass l)

variable {l k : BreakpointLocation} {h : List Command} {c : Command}

@[simp] theorem hitsSince_install (r : BreakpointRequest) :
    hitsSince l (.install r :: h) = if r.location = l then 0 else hitsSince l h := by
  by_cases here : r.location = l <;> simp [hitsSince, Command.restarts, here]

@[simp] theorem hitsSince_remove : hitsSince l (.remove k :: h) = hitsSince l h := by
  simp [hitsSince, Command.restarts]

@[simp] theorem hitsSince_resetHits : hitsSince l (.resetHits :: h) = 0 := by
  simp [hitsSince, Command.restarts]

@[simp] theorem hitsSince_pass :
    hitsSince l (.pass k :: h) = if k = l then hitsSince l h + 1 else hitsSince l h := by
  by_cases here : k = l <;> simp [hitsSince, Command.restarts, here]

/-- Hits are not forgotten while nothing counts them anew. -/
theorem hitsSince_append {between : List Command} (on : ∀ c ∈ between, c.restarts l = false) :
    hitsSince l (between ++ h) = between.count (.pass l) + hitsSince l h := by
  unfold hitsSince
  rw [List.takeWhile_append_of_pos fun c hc => by simp [on c hc], List.count_append]

/-- What a breakpoint is for changes only where the hits are counted anew, or with its removal. -/
theorem requested?_append {between : List Command} (on : ∀ c ∈ between, c.restarts l = false) :
    requested? l (between ++ h) = requested? l h ∨ requested? l (between ++ h) = none := by
  induction between with
  | nil => exact .inl rfl
  | cons c between ih =>
    have rest := ih fun c hc => on c (List.mem_cons_of_mem _ hc)
    have here := on c List.mem_cons_self
    cases c with
    | install r =>
      rw [List.cons_append, requested?, if_neg (by simpa [Command.restarts] using here)]
      exact rest
    | remove k =>
      rw [List.cons_append, requested?]
      split
      · exact .inr rfl
      · exact rest
    | resetHits => cases here
    | pass k => exact rest

/-! ## 2. Counters -/

/-- What a counter shows after some hits. -/
def counted (hits : Nat) : UInt32 := UInt32.ofNat (min hits 0xffffffff)

theorem toNat_counted (hits : Nat) : (counted hits).toNat = min hits 0xffffffff := by
  rw [counted, UInt32.toNat_ofNat_of_lt']
  exact Nat.lt_of_le_of_lt (Nat.min_le_right ..) (by decide)

theorem counted_eq_iff {hits : Nat} {n : UInt32} :
    counted hits = n ↔ hits = n.toNat ∨ n = 0xffffffff ∧ n.toNat < hits := by
  have small := n.toNat_lt
  rw [← UInt32.toNat_inj, toNat_counted, ← UInt32.toNat_inj,
    show (0xffffffff : UInt32).toNat = 0xffffffff from rfl]
  omega

theorem counted_full {hits : Nat} : counted hits = 0xffffffff ↔ 0xffffffff ≤ hits := by
  simp only [counted_eq_iff, true_and, UInt32.reduceToNat]
  omega

theorem hit_counted (n : Option UInt32) (hits : Nat) :
    Installed.hit ⟨n, counted hits⟩ = ⟨n, counted (hits + 1)⟩ := by
  simp only [Installed.hit, counted_full, Installed.mk.injEq, true_and]
  rw [← UInt32.toNat_inj, toNat_counted]
  split
  · rw [toNat_counted]
    omega
  · rw [UInt32.toNat_add, toNat_counted, show (1 : UInt32).toNat = 1 from rfl]
    omega

/-- What a command makes of the breakpoint at one location. Nothing that is done at another location
is seen there. -/
def Command.seenFrom (l : BreakpointLocation) (b? : Option Installed) : Command → Option Installed
  | install r => if r.location = l then some ⟨r.hitCount, 0⟩ else b?
  | remove k => if k = l then none else b?
  | resetHits => b?.map fun b => { b with hits := 0 }
  | pass k => if k = l then b?.map Installed.hit else b?

theorem getElem?_pass (t : BreakpointTable) (k l : BreakpointLocation) :
    (t.pass k).2[l]? = if k = l then t[l]?.map Installed.hit else t[l]? := by
  cases hk : t[k]? with
  | none =>
    simp only [pass, hk]
    split
    · next same =>
      rw [← same, hk]
      rfl
    · rfl
  | some b =>
    simp only [pass, hk, TreeMap.getElem?_insert,
      Std.LawfulEqCmp.compare_eq_iff_eq]
    split
    · next same =>
      rw [← same, hk]
      rfl
    · rfl

/-- **One command, seen from one location.** -/
theorem getElem?_apply (t : BreakpointTable) (c : Command) (l : BreakpointLocation) :
    (t.apply c)[l]? = c.seenFrom l t[l]? := by
  cases c with
  | install r => simp [apply, install, Command.seenFrom, TreeMap.getElem?_insert]
  | remove k => simp [apply, Command.seenFrom, TreeMap.getElem?_erase]
  | resetHits => simp [apply, resetHits, Command.seenFrom]
  | pass k => exact t.getElem?_pass k l

/-- **A history, seen from one location**: its counter shows the hits since they were last counted
anew, as far as a counter goes. -/
theorem getElem?_after (l : BreakpointLocation) (h : List Command) :
    (after h)[l]? = (requested? l h).map fun n => ⟨n, counted (hitsSince l h)⟩ := by
  induction h with
  | nil => rfl
  | cons c h ih =>
    rw [after, getElem?_apply, ih]
    cases c with
    | install r =>
      by_cases here : r.location = l <;> simp [Command.seenFrom, requested?, here, counted]
    | remove k =>
      by_cases here : k = l <;> simp [Command.seenFrom, requested?, here]
    | resetHits => simp [Command.seenFrom, requested?, counted, Function.comp_def]
    | pass k =>
      by_cases here : k = l <;>
        simp [Command.seenFrom, requested?, here, Function.comp_def, hit_counted]

/-! ## 3. Stops -/

/-- A hit stops the thread if the counter shows what the breakpoint is for. -/
theorem stops_eq (h : List Command) (l : BreakpointLocation) :
    stops h l = match requested? l h with
      | none => false
      | some none => true
      | some (some n) => counted (hitsSince l h + 1) == n := by
  unfold stops pass
  rw [getElem?_after]
  rcases requested? l h with - | n
  · rfl
  · simp only [Option.map_some, hit_counted]
    cases n <;> rfl

/-- The breakpoint of a location is passed on without a stop once it has stopped, until its hits are
counted anew. -/
theorem stops_once {n : UInt32} (asked : requested? l h = some (some n)) (less : n ≠ 0xffffffff)
    (stopped : stops h l = true) {between : List Command}
    (on : ∀ c ∈ between, c.restarts l = false) : stops (between ++ .pass l :: h) l = false := by
  rw [stops_eq, asked] at stopped
  have first := (counted_eq_iff.mp (eq_of_beq stopped)).resolve_right fun full => less full.1
  rw [stops_eq]
  rcases requested?_append (h := .pass l :: h) on with same | gone
  · rw [same, requested?, asked]
    apply beq_false_of_ne
    intro again
    have second := (counted_eq_iff.mp again).resolve_right fun full => less full.1
    rw [hitsSince_append on, hitsSince_pass, if_pos rfl] at second
    omega
  · rw [gone]

/-- **A breakpoint with a hit count stops the thread on the hit of that number**, counted since it was
installed and since all counters were last set to zero, and not again before they are counted anew.
Only one for the greatest count that there is stops on every later hit too, because its counter can
go no further. A breakpoint without a hit count stops on every hit, and where there is none nothing
stops. What stands at one location is not touched by hits at another. -/
theorem stops_on_nth_hit (h : List Command) (l : BreakpointLocation) :
    ((after h)[l]?).map Installed.hitCount = requested? l h ∧
    (requested? l h = none → stops h l = false) ∧
    (requested? l h = some none → stops h l = true) ∧
    (∀ n, requested? l h = some (some n) →
      (stops h l = true ↔ hitsSince l (.pass l :: h) = n.toNat ∨
        n = 0xffffffff ∧ n.toNat < hitsSince l (.pass l :: h)) ∧
      (n ≠ 0xffffffff → stops h l = true → ∀ between : List Command,
        (∀ c ∈ between, c.restarts l = false) → stops (between ++ .pass l :: h) l = false)) ∧
    ∀ k, k ≠ l → (after (.pass l :: h))[k]? = (after h)[k]? := by
  refine ⟨?_, fun bare => ?_, fun plain => ?_, fun n asked => ⟨?_, fun less stopped between on => ?_⟩,
    fun k other => ?_⟩
  · rw [getElem?_after]
    cases requested? l h <;> rfl
  · rw [stops_eq, bare]
  · rw [stops_eq, plain]
  · rw [stops_eq, asked, hitsSince_pass, if_pos rfl]
    exact beq_iff_eq.trans counted_eq_iff
  · exact stops_once asked less stopped on
  · rw [after, getElem?_apply, Command.seenFrom, if_neg (Ne.symm other)]

/-- Two breakpoints, one of them for the second hit; a hit, a reset, and the first hit since. -/
def secondHitAhead : List Command :=
  [.pass (.line "A" 1), .resetHits, .pass (.line "A" 1), .install ⟨.method "A" "f", none⟩,
    .install ⟨.line "A" 1, some 2⟩]

/-- The next hit is the second one since the reset, and the one after it is not. -/
theorem second_hit_stops :
    stops secondHitAhead (.line "A" 1) = true ∧
      stops (.pass (.line "A" 1) :: secondHitAhead) (.line "A" 1) = false ∧
      stops secondHitAhead (.method "A" "f") = true ∧ stops secondHitAhead (.line "A" 2) = false := by
  obtain ⟨-, -, -, exact, -⟩ := stops_on_nth_hit secondHitAhead (.line "A" 1)
  obtain ⟨-, -, plain, -, -⟩ := stops_on_nth_hit secondHitAhead (.method "A" "f")
  obtain ⟨-, bare, -, -, -⟩ := stops_on_nth_hit secondHitAhead (.line "A" 2)
  obtain ⟨nth, once⟩ := exact 2 (by decide)
  have stopped := nth.mpr (.inl (by decide))
  exact ⟨stopped, once (by decide) stopped [] nofun, plain (by decide), bare (by decide)⟩

theorem requested?_passes (l k : BreakpointLocation) (h : List Command) (hits : Nat) :
    requested? l (List.replicate hits (.pass k) ++ h) = requested? l h := by
  induction hits with
  | zero => rfl
  | succ hits ih => exact ih

/-- A breakpoint for the greatest count stops again on the hit after it: the counter stays where it
is, and so goes on showing the count that is waited for. -/
theorem greatest_count_stops_again :
    ¬∀ (h : List Command) (l : BreakpointLocation) (n : UInt32), requested? l h = some (some n) →
      1 ≤ n → (stops h l = true ↔ hitsSince l (.pass l :: h) = n.toNat) := by
  intro claim
  let l : BreakpointLocation := .line "A" 1
  let h : List Command := List.replicate 0xffffffff (.pass l) ++ [.install ⟨l, some 0xffffffff⟩]
  have asked : requested? l h = some (some 0xffffffff) := by
    rw [requested?_passes, requested?, if_pos rfl]
  have hits : hitsSince l h = 0xffffffff := by
    rw [hitsSince_append fun c hc => (List.eq_of_mem_replicate hc) ▸ rfl, List.count_replicate_self,
      hitsSince_install, if_pos rfl]
  have stopped : stops h l = true := by
    rw [stops_eq, asked, hits]
    exact beq_iff_eq.mpr (counted_full.mpr (Nat.le_succ _))
  have nth := (claim h l 0xffffffff asked (by decide)).mp stopped
  rw [hitsSince_pass, if_pos rfl, hits] at nth
  exact absurd nth (by decide)

end BreakpointTable

/-! ## 4. The table of a debuggee -/

namespace Thread

variable {t t' : Thread} {a : Activity} {s s' : Shared}

theorem answer_breakpoints (q : Query) : (t.answer s q).2.2.breakpoints = s.breakpoints := by
  cases q with
  | setLocal name value =>
    simp only [answer]
    split <;> rfl
  | setField object name value =>
    simp only [answer]
    split <;> rfl
  | setStaticField className field value =>
    simp only [answer]
    split <;> rfl
  | receiver | depth | frames | readLocal | field | staticField | newString | stringOf => rfl

theorem invoke_breakpoints (i : Invocation) (next : Except Thrown Value → Body) :
    (t.invoke a i next s).2.breakpoints = s.breakpoints := by
  cases i with
  | method => rfl
  | construct c constructor args => cases constructor <;> rfl

theorem conclude_breakpoints (result : Except Thrown Value) :
    (t.conclude a result s).2.breakpoints = s.breakpoints := by
  cases result with
  | ok v =>
    obtain ⟨heap, eq, -⟩ := adapt_worked v s
    simp only [conclude, eq]
  | error thrown =>
    cases thrown with
    | threadDeath => rfl
    | exception typeName message frames =>
      simp only [conclude]
      split
      · split <;> rfl
      · rfl

/-- What a step does to the table: nothing, or it passes the safe point that comes next. -/
def Passes (t : Thread) (s s' : Shared) : Prop :=
  s'.breakpoints = s.breakpoints ∨
    ∃ l, t.location? = some l ∧ s'.breakpoints = (s.breakpoints.pass l).2

theorem run_passes {body : Body} (hw : t.worker = .busy a) (hp : a.position = .running body) :
    t.Passes s (t.run a body s).2 := by
  cases body with
  | done result =>
    left
    simp only [run]
    cases a.callers with
    | nil => exact conclude_breakpoints result
    | cons next callers => rfl
  | ask q next => exact .inl (answer_breakpoints q)
  | line n next =>
    simp only [run, reachLine]
    split
    · exact .inl rfl
    · cases hf : t.frames with
      | nil => exact .inl rfl
      | cons f fs =>
        refine .inr ⟨.line f.className n, ?_, ?_⟩
        · obtain ⟨call, p, callers⟩ := a
          cases hp
          simp [location?, hw, hf]
        · dsimp only
          split <;> rfl
  | call c next =>
    left
    simp only [run]
    cases s.resolve c with
    | ok i => exact invoke_breakpoints i next
    | error e => rfl
  | panic | park | note => exact .inl rfl

theorem enter_passes {body : Body} (hw : t.worker = .busy a) (hp : a.position = .entering body) :
    t.Passes s (t.enter a body s).2 := by
  unfold enter
  split
  · exact .inl rfl
  · cases hf : t.frames with
    | nil => exact .inl rfl
    | cons f fs =>
      refine .inr ⟨.method f.className f.methodName, ?_, ?_⟩
      · obtain ⟨call, p, callers⟩ := a
        cases hp
        simp [location?, hw, hf]
      · dsimp only
        split <;> rfl

theorem Passes.of_eq {r : Thread × Shared} (p : t.Passes s r.2) (h : some r = some (t', s')) :
    t.Passes s s' := by
  cases h
  exact p

/-- **A thread passes the safe point it reaches**, and does nothing else to the breakpoints. -/
theorem step_passes (h : t.step s = some (t', s')) : t.Passes s s' := by
  cases hw : t.worker with
  | waiting | holding | ended | telling | exited =>
    left
    cases step_stepped h with
    | proceeds busy => rw [hw] at busy; cases busy
    | takes | exits | refuses | begins | finishes | tells => rfl
  | busy a =>
    simp only [step, hw] at h
    unfold proceed at h
    cases hp : a.position with
    | starting i =>
      rw [hp] at h
      exact Passes.of_eq (.inl (invoke_breakpoints i _)) h
    | running body =>
      rw [hp] at h
      exact (run_passes hw hp).of_eq h
    | entering body =>
      rw [hp] at h
      exact (enter_passes hw hp).of_eq h
    | atLine | atEntry | atException =>
      rw [hp] at h
      dsimp only at h
      split at h <;> cases h <;> exact .inl rfl
    | parked =>
      rw [hp] at h
      cases h

end Thread

namespace Vm

open BreakpointTable (Command)

variable {v w : Vm} {d : Deed}

/-- What a deed does to the table is one command at most. -/
theorem Change.command (c : Change v d w) :
    w.shared.breakpoints = v.shared.breakpoints ∨
      ∃ command : Command, w.shared.breakpoints = v.shared.breakpoints.apply command := by
  cases c with
  | steps there step =>
    rcases Thread.step_passes step with same | ⟨l, -, passed⟩
    · exact .inl same
    · exact .inr ⟨.pass l, passed⟩
  | asks there asked =>
    obtain ⟨-, -, same, -⟩ := asked.shared
    exact .inl same
  | launches down =>
    refine .inr ⟨.resetHits, ?_⟩
    rw [launch_eq down]
    rfl
  | shutsDown up =>
    obtain ⟨-, -, -, same, -⟩ :=
      foldl_retire_kept v.listedThreads { v with launched := false, mainThread := none }
    rw [shutdown_eq up]
    exact .inl same
  | setsBreakpoint r => exact .inr ⟨.install r, rfl⟩
  | clearsBreakpoint l => exact .inr ⟨.remove l, rfl⟩
  | idle | defines | spawns | allocates | installs | takes | releases | breaksOnUncaught =>
    exact .inl rfl

/-- **The table of a debuggee is one that a history leaves**, whatever was done to the debuggee. -/
theorem table_has_history (ds : List Deed) : ∃ h, (fresh.after ds).shared.breakpoints = BreakpointTable.after h := by
  suffices every : ∀ v : Vm, (∃ h, v.shared.breakpoints = BreakpointTable.after h) →
      ∃ h, (v.after ds).shared.breakpoints = BreakpointTable.after h from every fresh ⟨[], rfl⟩
  induction ds with
  | nil => exact fun v known => known
  | cons d ds ih =>
    intro v ⟨h, known⟩
    apply ih
    rcases (d.change v).command with same | ⟨c, done⟩
    · exact ⟨h, same.trans known⟩
    · exact ⟨c :: h, by rw [done, known]; rfl⟩

end Vm

end Debugger
