import Debugger.Proofs.Session.Runs
import Debugger.Proofs.Text
/-!
# The registry of breakpoints and the debuggee's table

A breakpoint stands in two places. The debuggee's table is the one that counts; the registry of the
session is the one that a controller is shown, with the properties each breakpoint was set with. The
session writes both, one after the other, and may be refused in between; the debuggee counts hits
in its table all the time, and is launched and shut down in between.

* `Session.Denotes` - what a hit count is as a text, said without the reader.
* `Session.Agrees` - the two places agree: at every location, either nothing stands in both, or the
  hit that the debuggee stops on is the one that the properties denote.
* `Session.registry_is_what_is_installed` - they do after anything at all, as long as nobody
  else sets or clears breakpoints.

## 1. Hit counts

## 2. Deeds that leave the table alone

## 3. Agreement
-/

namespace Debugger

open Std (TreeMap)

namespace Session

/-! ## 1. Hit counts -/

/-- The number that decimal digits stand for. -/
def decimalValue (digits : List Char) : Nat :=
  digits.foldl (fun n c => 10 * n + (c.toNat - '0'.toNat)) 0

/-- What properties say about the hit to stop on: without the property every hit counts, and a
positive number of one word, with white space around it and a plus sign before it, is that hit. -/
inductive Denotes (properties : BreakpointProperties) : Option UInt32 → Prop
  | everyHit (absent : properties[hitCountProperty]? = none) : Denotes properties none
  | hit {raw : String} {sign digits : List Char} {n : UInt32}
      (stands : properties[hitCountProperty]? = some raw)
      (written : Text.trim raw.toList = sign ++ digits) (signed : sign = [] ∨ sign = ['+'])
      (decimal : digits ≠ [] ∧ ∀ c ∈ digits, c.isDigit = true)
      (value : decimalValue digits = n.toNat) (positive : 0 < n) : Denotes properties (some n)

/-- **A hit count is accepted just if it denotes one.** -/
theorem hitCount?_eq_ok {properties : BreakpointProperties} {hitCount : Option UInt32} :
    hitCount? properties = .ok hitCount ↔ Denotes properties hitCount := by
  unfold hitCount?
  cases stands : properties[hitCountProperty]? with
  | none =>
    constructor
    · rintro ⟨⟩
      exact .everyHit stands
    · rintro (⟨-⟩ | ⟨stands', -⟩)
      · rfl
      · rw [stands] at stands'
        cases stands'
  | some raw =>
    dsimp only
    constructor
    · intro accepted
      cases read : Text.readUnsigned? 32 (Text.trim raw.toList) with
      | none =>
        rw [read] at accepted
        cases accepted
      | some n =>
        obtain ⟨sign, digits, written, signed, decimal, value, small⟩ :=
          Text.readUnsigned?_eq_some.mp read
        have exact' : (UInt32.ofNat n).toNat = n := UInt32.toNat_ofNat_of_lt' small
        rw [read] at accepted
        dsimp only at accepted
        split at accepted
        · next positive =>
          cases accepted
          refine .hit stands written signed decimal (value.trans exact'.symm) ?_
          rw [UInt32.lt_iff_toNat_lt, exact']
          exact positive
        · cases accepted
    · rintro (⟨absent⟩ | ⟨stands', written, signed, decimal, value, positive⟩)
      · rw [stands] at absent
        cases absent
      · rw [stands] at stands'
        cases stands'
        rename_i sign digits n
        have read : Text.readUnsigned? 32 (Text.trim raw.toList) = some n.toNat :=
          Text.readUnsigned?_eq_some.mpr
            ⟨sign, digits, written, signed, decimal, value, n.toNat_lt⟩
        rw [read]
        dsimp only
        have positive : 0 < n.toNat := UInt32.lt_iff_toNat_lt.mp positive
        rw [if_pos positive, UInt32.ofNat_toNat]

end Session

/-! ## 2. Deeds that leave the table alone -/

theorem BreakpointLocation.order_eq_iff {a b : BreakpointLocation} : order a b = .eq ↔ a = b :=
  Std.LawfulEqCmp.compare_eq_iff_eq

namespace Vm

variable {v w : Vm} {l : BreakpointLocation}

/-- The hit that the debuggee stops on at a location, if a breakpoint stands there. -/
def hitAt? (v : Vm) (l : BreakpointLocation) : Option (Option UInt32) :=
  (v.shared.breakpoints[l]?).map Installed.hitCount

/-- Deeds other than setting and clearing a breakpoint. -/
def Undisturbed : Deed → Prop
  | .setBreakpoint _ | .clearBreakpoint _ => False
  | _ => True

theorem hitAt?_resetHits (b : BreakpointTable) :
    (b.resetHits[l]?).map Installed.hitCount = (b[l]?).map Installed.hitCount := by
  unfold BreakpointTable.resetHits
  rw [TreeMap.getElem?_map]
  cases b[l]? <;> rfl

theorem hitAt?_install (r : BreakpointRequest) (l : BreakpointLocation) :
    hitAt? { v with shared := { v.shared with breakpoints := v.shared.breakpoints.install r } } l =
      if r.location = l then some r.hitCount else v.hitAt? l := by
  unfold hitAt?
  show ((v.shared.breakpoints.insert r.location ⟨r.hitCount, 0⟩)[l]?).map _ = _
  rw [TreeMap.getElem?_insert]
  simp only [BreakpointLocation.order_eq_iff]
  split <;> rfl

theorem hitAt?_clearBreakpoint (cleared l : BreakpointLocation) :
    (Deed.run v (.clearBreakpoint cleared)).hitAt? l = if cleared = l then none else v.hitAt? l := by
  unfold hitAt?
  show ((v.shared.breakpoints.erase cleared)[l]?).map _ = _
  rw [TreeMap.getElem?_erase]
  simp only [BreakpointLocation.order_eq_iff]
  split <;> rfl

/-- Threads that pass a breakpoint and launches change its counter only. -/
theorem Change.hitAt? {d : Deed} (c : Change v d w) (undisturbed : Undisturbed d) :
    w.hitAt? l = v.hitAt? l := by
  unfold Vm.hitAt?
  cases c with
  | steps there step => exact (Thread.step_effect step).breakpoints l
  | asks there asked =>
    obtain ⟨-, -, same, -⟩ := asked.shared
    exact congrArg (fun b : BreakpointTable => (b[l]?).map Installed.hitCount) same
  | launches down =>
    rw [launch_eq down]
    exact hitAt?_resetHits v.shared.breakpoints
  | shutsDown up =>
    obtain ⟨-, -, -, same, -⟩ := foldl_retire_kept
      (listedThreads { v with launched := false, mainThread := none })
      { v with launched := false, mainThread := none }
    rw [shutdown_eq up]
    exact congrArg (fun b : BreakpointTable => (b[l]?).map Installed.hitCount) same
  | setsBreakpoint | clearsBreakpoint => exact absurd undisturbed id
  | idle | defines | spawns | allocates | installs | takes | releases | breaksOnUncaught => rfl

end Vm

namespace Session

/-! ## 3. Agreement -/

/-- At every location the session and the debuggee have the same: nothing, or a breakpoint that
stops on the hit that its properties denote. -/
def Agrees (s : Session Vm) : Prop :=
  ∀ l : BreakpointLocation, (s.breakpoints[l]?).map hitCount? = (s.world.hitAt? l).map .ok

variable {s s' : Session Vm} {ds : List Vm.Deed}

theorem Move.agrees (m : Move Vm.Undisturbed s ds s') (h : s.Agrees) : s'.Agrees := by
  intro l
  cases m with
  | @world d undisturbed =>
    have same : (d.run s.world).hitAt? l = s.world.hitAt? l := (d.change s.world).hitAt? undisturbed
    show _ = ((d.run s.world).hitAt? l).map _
    rw [same]
    exact h l
  | @enters object className handle w untracked took =>
    have same : (Vm.takeTransport.run s.world).2.hitAt? l = s.world.hitAt? l :=
      s.world.takeTransport_change.hitAt? trivial
    rw [took] at same
    show _ = (w.hitAt? l).map _
    rw [same]
    exact h l
  | @clashes existing handle w lifecycle notifier took =>
    have same : (Vm.takeTransport.run s.world).2.hitAt? l = s.world.hitAt? l :=
      s.world.takeTransport_change.hitAt? trivial
    rw [took] at same
    show _ = (w.hitAt? l).map _
    rw [same]
    exact h l
  | @registers at_ properties hitCount w denoted accepted =>
    rcases s.world.setBreakpoint_cases ⟨at_, hitCount⟩ with ⟨e, refused⟩ | installed
    · rw [refused] at accepted
      cases accepted
    · rw [installed] at accepted
      cases accepted
      show ((s.breakpoints.insert at_ properties)[l]?).map hitCount? = _
      rw [Vm.hitAt?_install, TreeMap.getElem?_insert]
      simp only [BreakpointLocation.order_eq_iff]
      by_cases here : at_ = l
      · rw [if_pos here, if_pos here]
        exact congrArg some denoted
      · rw [if_neg here, if_neg here]
        exact h l
  | unregisters cleared =>
    show ((s.breakpoints.erase cleared)[l]?).map hitCount? =
      ((Vm.Deed.run s.world (.clearBreakpoint cleared)).hitAt? l).map _
    rw [Vm.hitAt?_clearBreakpoint, TreeMap.getElem?_erase]
    simp only [BreakpointLocation.order_eq_iff]
    by_cases here : cleared = l
    · rw [if_pos here, if_pos here]
      rfl
    · rw [if_neg here, if_neg here]
      exact h l
  | learns | forgets | clears | binds | unbinds | turns => exact h l
  | aside world proxies breakpoints =>
    rw [world, breakpoints]
    exact h l

theorem Run.agrees (r : Run Vm.Undisturbed s ds s') (h : s.Agrees) : s'.Agrees := by
  induction r with
  | refl => exact h
  | move _ m ih => exact m.agrees ih

theorem undisturbed_of_isPlain (d : Vm.Deed) (plain : isPlain d = true) : Vm.Undisturbed d := by
  cases d with
  | setBreakpoint | clearBreakpoint => cases plain
  | _ => trivial

theorem Agrees.mem_iff (h : s.Agrees) (l : BreakpointLocation) :
    l ∈ s.breakpoints ↔ l ∈ s.world.shared.breakpoints := by
  have same := congrArg Option.isSome (h l)
  unfold Vm.hitAt? at same
  rw [Option.isSome_map, Option.isSome_map, Option.isSome_map] at same
  rw [TreeMap.mem_iff_isSome_getElem?, TreeMap.mem_iff_isSome_getElem?, same]

theorem Agrees.denotes (h : s.Agrees) {l : BreakpointLocation} {properties : BreakpointProperties}
    {installed : Installed} (stored : s.breakpoints[l]? = some properties)
    (stands : s.world.shared.breakpoints[l]? = some installed) :
    Denotes properties installed.hitCount := by
  have same := h l
  unfold Vm.hitAt? at same
  rw [stored, stands] at same
  exact hitCount?_eq_ok.mp (Option.some.inj same)

/-- **The registry is what is installed.** Whatever is done with a session over a debuggee without
breakpoints, as long as nobody else sets or clears any: the locations of its breakpoints are those
installed in the debuggee, each installed breakpoint stops on the hit that its properties denote,
and a toggle that is answered by a message has changed nothing. -/
theorem registry_is_what_is_installed {v : Vm} (settings : DebuggerSettings) {acts : List Act}
    (clean : ∀ l : BreakpointLocation, l ∉ v.shared.breakpoints)
    (undisturbed : ∀ a ∈ acts, a.Needs Vm.Undisturbed) :
    let s := (create Vm.environment v settings).after acts
    (∀ l : BreakpointLocation, l ∈ s.breakpoints ↔ l ∈ s.world.shared.breakpoints) ∧
      (∀ (l : BreakpointLocation) (properties : BreakpointProperties) (installed : Installed),
        s.breakpoints[l]? = some properties → s.world.shared.breakpoints[l]? = some installed →
          Denotes properties installed.hitCount) ∧
      ∀ (l : BreakpointLocation) (set : Bool) (properties : BreakpointProperties) (message : String),
        ((toggleBreakpoint Vm.environment l set properties).run s).1 = .ok (some message) →
          ((toggleBreakpoint Vm.environment l set properties).run s).2 = s := by
  intro s
  have start : (create Vm.environment v settings).Agrees := by
    intro l
    show ((∅ : BreakpointRegistry)[l]?).map hitCount? = (v.hitAt? l).map .ok
    unfold Vm.hitAt?
    rw [TreeMap.getElem?_emptyc, TreeMap.getElem?_eq_none (clean l)]
    rfl
  obtain ⟨ds, run⟩ := after_run undisturbed_of_isPlain undisturbed (create Vm.environment v settings)
  have agrees : s.Agrees := run.agrees start
  refine ⟨agrees.mem_iff, fun l properties installed => agrees.denotes, ?_⟩
  intro l set properties message told
  rcases run_toggleBreakpoint l set properties s with
    ⟨message, eq⟩ | ⟨hitCount, w, -, -, eq⟩ | eq
  · rw [eq]
  · rw [eq] at told
    cases told
  · rw [eq] at told
    cases told

/-- A class of one method with two lines. -/
def twoLiner : ClassDef :=
  { ClassDef.empty "A" .plain with
    methods := [{
      name := "main"
      params := []
      returnType := "void"
      kind := .static
      lines := [1, 2]
      body _ := .done (.ok .void) }] }

/-- A breakpoint for a second hit, one where there is no code, and a restart. -/
def guarding : List Act :=
  [.direct (.define twoLiner), .request .launch,
    .request (.toggleBreakpoint (.line "A" 1) true (.ofList [(hitCountProperty, " +2 ")])),
    .request (.toggleBreakpoint (.line "A" 9) true ∅), .request (.close true)]

/-- The breakpoint outlives the restart on both sides, and a toggle without code is a message. -/
theorem second_hit_kept :
    let s := (create Vm.environment Vm.fresh {}).after guarding
    (∃ properties, s.breakpoints[BreakpointLocation.line "A" 1]? = some properties ∧
      Denotes properties (some 2)) ∧
    BreakpointLocation.line "A" 9 ∉ s.breakpoints ∧
    ((toggleBreakpoint Vm.environment (.line "A" 9) true ∅).run s).2 = s := by
  intro s
  have undisturbed : ∀ a ∈ guarding, a.Needs Vm.Undisturbed := by
    simp [guarding, Act.Needs, Vm.Undisturbed]
  obtain ⟨same, denoted, refused⟩ :=
    registry_is_what_is_installed (v := Vm.fresh) {} (fun _ => TreeMap.not_mem_emptyc) undisturbed
  have stands : s.world.shared.breakpoints[BreakpointLocation.line "A" 1]? = some ⟨some 2, 0⟩ := rfl
  have listed := (same (.line "A" 1)).mpr (getElem?_eq_some_iff.mp stands).1
  refine ⟨?_, ?_, refused _ _ _ _ rfl⟩
  · exact ⟨_, TreeMap.getElem?_eq_some_getElem listed,
      denoted _ _ _ (TreeMap.getElem?_eq_some_getElem listed) stands⟩
  · intro listed
    have nothing : s.world.shared.breakpoints[BreakpointLocation.line "A" 9]? = none := rfl
    exact (getElem?_eq_none_iff _ _).mp nothing ((same _).mp listed)

end Session

end Debugger
