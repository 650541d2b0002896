import Debugger.Proofs.Thread.Step
/-!
# What a thread does to the rest of the debuggee

`Thread.Stepped` says what becomes of a thread in one step. This file says what becomes of the state
it shares with the others, in the same manner: once, as an upper bound, so that nothing about the
debuggee as a whole has to follow a body through the machine again.

* `Heap.Worked` - the heap was only worked on: objects were added under the next numbers, and fields
  that were there were stored into.
* `Thread.Told` - what the subscribers were told: nothing, an exception nobody caught, or that the
  thread stopped, and where.
* `Thread.Effect` - all of it together. Classes stay, breakpoints keep the hit they stop on, and only
  a thread that is at a task touches the heap.

## 1. Work on a heap

## 2. What subscribers are told

## 3. The effect of a step
-/

namespace Debugger

open Std (TreeMap)

/-! ## 1. Work on a heap -/

/-- What a heap can become without being given static fields or being reset. -/
inductive Heap.Worked (h : Heap) : Heap → Prop
  | refl : Worked h h
  | insert {h' : Heap} (o : HeapObject) : Worked h h' → Worked h (h'.insert o).2
  | setField {h' h'' : Heap} {id : ObjectId} {name : String} {value : Value}
      (there : h'.setField? id name value = some h'') : Worked h h' → Worked h h''
  | setStatic {h' h'' : Heap} {className field : String} {value : Value}
      (there : h'.setStatic? className field value = some h'') : Worked h h' → Worked h h''

namespace Heap

variable {h h' : Heap}

/-- Storing into a field of an object neither adds an object nor removes one. -/
theorem setField?_kept {id : ObjectId} {name : String} {value : Value}
    (there : h.setField? id name value = some h') :
    h'.lastId = h.lastId ∧ h'.statics = h.statics ∧
      ∀ k : ObjectId, k ∈ h'.objects ↔ k ∈ h.objects := by
  unfold setField? at there
  cases ho : h.object? id with
  | none =>
    rw [ho] at there
    cases there
  | some o =>
    rw [ho] at there
    cases hf : o.fields.lookup name with
    | none =>
      simp only [Option.bind_eq_bind, Option.bind_some, hf] at there
      cases there
    | some v =>
      simp only [Option.bind_eq_bind, Option.bind_some, hf] at there
      cases there
      have present : id ∈ h.objects := (getElem?_eq_some_iff.mp ho).1
      refine ⟨rfl, rfl, fun k => ?_⟩
      rw [TreeMap.mem_insert]
      constructor
      · rintro (same | old)
        · rw [Std.compare_eq_iff_eq] at same
          exact same ▸ present
        · exact old
      · exact .inr

/-- Storing into a static field gives no class static fields it did not have. -/
theorem setStatic?_kept {className field : String} {value : Value}
    (there : h.setStatic? className field value = some h') :
    h'.lastId = h.lastId ∧ h'.objects = h.objects ∧
      ∀ c : String, c ∈ h'.statics ↔ c ∈ h.statics := by
  unfold setStatic? at there
  cases hs : h.statics[className]? with
  | none =>
    rw [hs] at there
    cases there
  | some fields =>
    cases hf : fields[field]? with
    | none =>
      simp only [hs, Option.bind_eq_bind, Option.bind_some, hf] at there
      cases there
    | some v =>
      simp only [hs, Option.bind_eq_bind, Option.bind_some, hf] at there
      cases there
      have present : className ∈ h.statics := (getElem?_eq_some_iff.mp hs).1
      refine ⟨rfl, rfl, fun c => ?_⟩
      rw [TreeMap.mem_insert]
      constructor
      · rintro (same | old)
        · rw [Std.compare_eq_iff_eq] at same
          exact same ▸ present
        · exact old
      · exact .inr

/-- There is a field to store into just where one can be read. -/
theorem setStatic?_of_static? {className field : String} {old : Value}
    (there : h.static? className field = some old) (value : Value) :
    ∃ h', h.setStatic? className field value = some h' := by
  unfold static? at there
  unfold setStatic?
  cases hs : h.statics[className]? with
  | none =>
    rw [hs] at there
    cases there
  | some fields =>
    rw [hs] at there
    have there : fields[field]? = some old := there
    exact ⟨_, by simp only [Option.bind_eq_bind, Option.bind_some, there]; rfl⟩

theorem setStatic?_eq_none {className field : String}
    (missing : h.static? className field = none) (value : Value) :
    h.setStatic? className field value = none := by
  cases stored : h.setStatic? className field value with
  | none => rfl
  | some h' =>
    unfold setStatic? at stored
    unfold static? at missing
    cases hs : h.statics[className]? with
    | none =>
      rw [hs] at stored
      cases stored
    | some fields =>
      rw [hs] at missing
      have missing : fields[field]? = none := missing
      simp only [hs, Option.bind_eq_bind, Option.bind_some, missing] at stored
      cases stored

/-- What was stored is what is read. -/
theorem static?_of_setStatic? {className field : String} {value : Value}
    (stored : h.setStatic? className field value = some h') :
    h'.static? className field = some value := by
  unfold setStatic? at stored
  cases hs : h.statics[className]? with
  | none =>
    rw [hs] at stored
    cases stored
  | some fields =>
    cases hf : fields[field]? with
    | none =>
      simp only [hs, Option.bind_eq_bind, Option.bind_some, hf] at stored
      cases stored
    | some v =>
      simp only [hs, Option.bind_eq_bind, Option.bind_some, hf] at stored
      cases stored
      simp [static?]

theorem Worked.lastId_le (w : h.Worked h') : h.lastId ≤ h'.lastId := by
  induction w with
  | refl => exact Nat.le_refl _
  | insert o _ ih => exact Nat.le_succ_of_le ih
  | setField there _ ih =>
    rw [(setField?_kept there).1]
    exact ih
  | setStatic there _ ih =>
    rw [(setStatic?_kept there).1]
    exact ih

/-- **Work on a heap loses no object, and the new ones have the numbers that were next.** -/
theorem Worked.mem_objects (w : h.Worked h') (id : ObjectId) :
    id ∈ h'.objects ↔ id ∈ h.objects ∨ h.lastId < id ∧ id ≤ h'.lastId := by
  induction w with
  | refl =>
    constructor
    · exact .inl
    · rintro (old | ⟨above, below⟩)
      · exact old
      · exact absurd below (Nat.not_le.mpr above)
  | @insert h' o w ih =>
    have grown := w.lastId_le
    show id ∈ h'.objects.insert (h'.lastId + 1) o ↔ id ∈ h.objects ∨ _ ∧ id ≤ h'.lastId + 1
    rw [TreeMap.mem_insert, Std.compare_eq_iff_eq, ih]
    by_cases new : h'.lastId + 1 = id
    · subst new
      simp only [true_or, true_iff]
      exact .inr ⟨Nat.lt_succ_of_le grown, Nat.le_refl _⟩
    · have within : id ≤ h'.lastId + 1 ↔ id ≤ h'.lastId :=
        ⟨fun le => Nat.le_of_lt_succ (Nat.lt_of_le_of_ne le (Ne.symm new)), Nat.le_succ_of_le⟩
      simp only [new, false_or, within]
  | setField there w ih =>
    obtain ⟨last, -, objects⟩ := setField?_kept there
    rw [objects, last]
    exact ih
  | setStatic there w ih =>
    obtain ⟨last, objects, -⟩ := setStatic?_kept there
    rw [objects, last]
    exact ih

theorem Worked.mem_statics (w : h.Worked h') (c : String) : c ∈ h'.statics ↔ c ∈ h.statics := by
  induction w with
  | refl | insert => first | exact Iff.rfl | assumption
  | setField there _ ih =>
    rw [(setField?_kept there).2.1]
    exact ih
  | setStatic there _ ih => exact ((setStatic?_kept there).2.2 c).trans ih

end Heap

namespace Shared

variable (s : Shared)

theorem box_worked (p : Primitive) :
    ∃ heap, (s.box p).2 = { s with heap } ∧ s.heap.Worked heap := by
  unfold box
  cases s.class? p.kind.holderClass with
  | none => exact ⟨_, rfl, .refl⟩
  | some c =>
    have made : s.heap.Worked (s.heap.allocate c).2 := .insert _ .refl
    dsimp only
    cases there : (s.heap.allocate c).2.setField? (s.heap.allocate c).1.id "value" (.primitive p) with
    | none => exact ⟨_, rfl, made⟩
    | some heap => exact ⟨_, rfl, .setField there made⟩

end Shared

/-! ## 2. What subscribers are told -/

namespace BreakpointTable

/-- Passing a location changes counters only. -/
theorem pass_hitCount (b : BreakpointTable) (at_ l : BreakpointLocation) :
    ((b.pass at_).2[l]?).map Installed.hitCount = (b[l]?).map Installed.hitCount := by
  unfold pass
  cases hb : b[at_]? with
  | none => rfl
  | some i =>
    dsimp only
    rw [TreeMap.getElem?_insert]
    split
    · next same =>
      obtain rfl := BreakpointLocation.eq_of_order same
      rw [hb]
      rfl
    · rfl

end BreakpointTable

namespace Thread

/-- What a step tells the subscribers. A thread that comes to be suspended tells so, with its
innermost frame as the place, and no other step does. -/
inductive Told (t t' : Thread) (events : Array VmEvent) : Array VmEvent → Prop
  | nothing (going : t'.status.isSuspended = true → t'.status = t.status) : Told t t' events events
  | uncaught (d : ExceptionDescription) (going : t'.status = t.status) :
      Told t t' events (events.push (.uncaughtException t.id d))
  | stop (reason : StopReason) (exception : Option ExceptionDescription)
      (stopped : t'.status = .suspended reason) :
      Told t t' events
        (events.push (.suspended t.id reason (t'.frames.head?.map Frame.location) exception))

/-! ## 3. The effect of a step -/

/-- What a step can do to what the threads have in common. -/
structure Effect (t : Thread) (s : Shared) (t' : Thread) (s' : Shared) : Prop where
  same : t'.id = t.id ∧ t'.listed = t.listed ∧ t'.name = t.name ∧ t'.group = t.group
  classes : s'.classes = s.classes
  breakOnUncaught : s'.breakOnUncaught = s.breakOnUncaught
  breakpoints : ∀ l : BreakpointLocation,
    (s'.breakpoints[l]?).map Installed.hitCount = (s.breakpoints[l]?).map Installed.hitCount
  heap : s.heap.Worked s'.heap
  told : Told t t' s.events s'.events

variable {t t' : Thread} {a : Activity} {s s' : Shared}

/-- A step without a word that works on the heap at most. -/
theorem Effect.quiet {heap : Heap}
    (same : t'.id = t.id ∧ t'.listed = t.listed ∧ t'.name = t.name ∧ t'.group = t.group)
    (going : t'.status.isSuspended = true → t'.status = t.status) (worked : s.heap.Worked heap) :
    Effect t s t' { s with heap } :=
  ⟨same, rfl, rfl, fun _ => rfl, worked, .nothing going⟩

theorem Effect.silent
    (same : t'.id = t.id ∧ t'.listed = t.listed ∧ t'.name = t.name ∧ t'.group = t.group)
    (going : t'.status.isSuspended = true → t'.status = t.status) : Effect t s t' s :=
  .quiet same going .refl

theorem answer_effect (q : Query) {reply : q.Answer} (h : t.answer s q = (reply, t', s'))
    (p : Position) : Effect t s (t'.goTo a p) s' := by
  cases q with
  | setLocal name value =>
    simp only [answer] at h
    split at h <;> cases h <;> exact .silent ⟨rfl, rfl, rfl, rfl⟩ fun _ => rfl
  | setField object name value =>
    simp only [answer] at h
    split at h
    · next there =>
      cases h
      exact .quiet ⟨rfl, rfl, rfl, rfl⟩ (fun _ => rfl) (.setField there .refl)
    · cases h
      exact .silent ⟨rfl, rfl, rfl, rfl⟩ fun _ => rfl
  | setStaticField className field value =>
    simp only [answer] at h
    split at h
    · next there =>
      cases h
      exact .quiet ⟨rfl, rfl, rfl, rfl⟩ (fun _ => rfl) (.setStatic there .refl)
    · cases h
      exact .silent ⟨rfl, rfl, rfl, rfl⟩ fun _ => rfl
  | newString text =>
    cases h
    exact .quiet ⟨rfl, rfl, rfl, rfl⟩ (fun _ => rfl) (.insert _ .refl)
  | receiver | depth | frames | readLocal | field | staticField | stringOf =>
    cases h
    exact .silent ⟨rfl, rfl, rfl, rfl⟩ fun _ => rfl

theorem invoke_effect (i : Invocation) (next : Except Thrown Value → Body) :
    Effect t s (t.invoke a i next s).1 (t.invoke a i next s).2 := by
  cases i with
  | method c m receiver args => exact .silent ⟨rfl, rfl, rfl, rfl⟩ fun _ => rfl
  | construct c constructor args =>
    cases constructor <;> exact .quiet ⟨rfl, rfl, rfl, rfl⟩ (fun _ => rfl) (.insert _ .refl)

theorem reachLine_effect (n : Line) (next : Except Thrown Unit → Body) :
    Effect t s (t.reachLine a n next s).1 (t.reachLine a n next s).2 := by
  unfold reachLine
  by_cases ht : t.status = .terminated
  · rw [if_pos ht]
    exact .silent ⟨rfl, rfl, rfl, rfl⟩ fun _ => rfl
  rw [if_neg ht]
  cases t.frames with
  | nil => exact .silent ⟨rfl, rfl, rfl, rfl⟩ fun _ => rfl
  | cons f fs =>
    dsimp only
    split
    · exact ⟨⟨rfl, rfl, rfl, rfl⟩, rfl, rfl, s.breakpoints.pass_hitCount _, .refl, .stop _ none rfl⟩
    · exact ⟨⟨rfl, rfl, rfl, rfl⟩, rfl, rfl, s.breakpoints.pass_hitCount _, .refl,
        .nothing fun _ => rfl⟩

theorem enter_effect (body : Body) :
    Effect t s (t.enter a body s).1 (t.enter a body s).2 := by
  unfold enter
  by_cases ht : t.status = .terminated
  · rw [if_pos ht]
    exact .silent ⟨rfl, rfl, rfl, rfl⟩ fun _ => rfl
  rw [if_neg ht]
  cases t.frames with
  | nil => exact .silent ⟨rfl, rfl, rfl, rfl⟩ fun _ => rfl
  | cons f fs =>
    dsimp only
    split
    · exact ⟨⟨rfl, rfl, rfl, rfl⟩, rfl, rfl, s.breakpoints.pass_hitCount _, .refl, .stop _ none rfl⟩
    · exact ⟨⟨rfl, rfl, rfl, rfl⟩, rfl, rfl, s.breakpoints.pass_hitCount _, .refl,
        .nothing fun _ => rfl⟩

theorem adapt_worked (v : Value) (s : Shared) :
    ∃ heap, (adapt v s).2 = { s with heap } ∧ s.heap.Worked heap := by
  cases v with
  | null | void | object o => exact ⟨_, rfl, .refl⟩
  | primitive p =>
    obtain ⟨heap, eq, worked⟩ := s.box_worked p
    simp only [adapt]
    cases hb : s.box p with
    | mk holder s' =>
      rw [hb] at eq
      cases holder <;> exact ⟨heap, eq, worked⟩

theorem conclude_effect (result : Except Thrown Value) :
    Effect t s (t.conclude a result s).1 (t.conclude a result s).2 := by
  cases result with
  | ok v =>
    obtain ⟨heap, eq, worked⟩ := adapt_worked v s
    simp only [conclude, eq]
    exact .quiet ⟨rfl, rfl, rfl, rfl⟩ (fun _ => rfl) worked
  | error thrown =>
    cases thrown with
    | threadDeath => exact .silent ⟨rfl, rfl, rfl, rfl⟩ fun _ => rfl
    | exception typeName message frames =>
      simp only [conclude]
      split
      · split
        · exact .silent ⟨rfl, rfl, rfl, rfl⟩ fun _ => rfl
        · exact ⟨⟨rfl, rfl, rfl, rfl⟩, rfl, rfl, fun _ => rfl, .refl, .stop _ (some _) rfl⟩
      · exact ⟨⟨rfl, rfl, rfl, rfl⟩, rfl, rfl, fun _ => rfl, .refl, .uncaught _ rfl⟩

theorem run_effect (body : Body) : Effect t s (t.run a body s).1 (t.run a body s).2 := by
  cases body with
  | done result =>
    simp only [run]
    cases a.callers with
    | nil => exact conclude_effect result
    | cons next callers => exact .silent ⟨rfl, rfl, rfl, rfl⟩ fun _ => rfl
  | panic message => exact .silent ⟨rfl, rfl, rfl, rfl⟩ fun _ => rfl
  | ask q next =>
    rcases hq : t.answer s q with ⟨reply, t', s'⟩
    simp only [run, hq]
    exact answer_effect q hq _
  | line n next => exact reachLine_effect n next
  | call c next =>
    simp only [run]
    cases s.resolve c with
    | ok i => exact invoke_effect i next
    | error e => exact .silent ⟨rfl, rfl, rfl, rfl⟩ fun _ => rfl
  | park next => exact .silent ⟨rfl, rfl, rfl, rfl⟩ fun _ => rfl
  | note n next =>
    exact ⟨⟨rfl, rfl, rfl, rfl⟩, rfl, rfl, fun _ => rfl, .refl, .nothing fun _ => rfl⟩

theorem proceed_effect (h : t.proceed a s = some (t', s')) : Effect t s t' s' := by
  unfold proceed at h
  cases hp : a.position with
  | starting i =>
    rw [hp] at h
    have effect : Effect t s _ _ := invoke_effect (a := a) i .done
    rw [Option.some.inj h] at effect
    exact effect
  | running body =>
    rw [hp] at h
    have effect : Effect t s _ _ := run_effect (a := a) body
    rw [Option.some.inj h] at effect
    exact effect
  | entering body =>
    rw [hp] at h
    have effect : Effect t s _ _ := enter_effect (a := a) body
    rw [Option.some.inj h] at effect
    exact effect
  | atLine next | atEntry body | atException d =>
    rw [hp] at h
    dsimp only at h
    split at h <;> cases h <;> exact .silent ⟨rfl, rfl, rfl, rfl⟩ fun _ => rfl
  | parked next =>
    rw [hp] at h
    cases h

/-- **Everything a thread can do to the rest of the debuggee.** -/
theorem step_effect (h : t.step s = some (t', s')) : Effect t s t' s' := by
  unfold step at h
  cases hw : t.worker with
  | waiting =>
    rw [hw] at h
    dsimp only at h
    split at h
    · cases h
    · cases h
      exact .silent ⟨rfl, rfl, rfl, rfl⟩ fun _ => rfl
    · cases h
      exact .silent ⟨rfl, rfl, rfl, rfl⟩ fun _ => rfl
  | holding call task =>
    rw [hw] at h
    unfold «begin» at h
    dsimp only at h
    split at h
    · cases h
      exact ⟨⟨rfl, rfl, rfl, rfl⟩, rfl, rfl, fun _ => rfl, .refl, .nothing fun _ => rfl⟩
    · cases h
      exact .silent ⟨rfl, rfl, rfl, rfl⟩ nofun
  | busy a =>
    rw [hw] at h
    exact proceed_effect h
  | ended call outcome =>
    rw [hw] at h
    cases h
    refine .silent ⟨rfl, rfl, rfl, rfl⟩ ?_
    intro hs
    simp only [finish] at hs
    split at hs <;> cases hs
  | telling call outcome =>
    rw [hw] at h
    cases h
    exact ⟨⟨rfl, rfl, rfl, rfl⟩, rfl, rfl, fun _ => rfl, .refl, .nothing fun _ => rfl⟩
  | exited =>
    rw [hw] at h
    cases h

/-- A thread touches the heap only while it is at a task. -/
theorem step_heap (h : t.step s = some (t', s')) (free : ∀ a, t.worker ≠ .busy a) :
    s'.heap = s.heap := by
  cases step_stepped h with
  | proceeds busy => exact absurd busy (free _)
  | takes | exits | begins | finishes | refuses | tells => rfl

end Thread

end Debugger
