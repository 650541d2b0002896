import Debugger.Proofs.Debuggee.Counters
/-!
# What a shutdown leaves

Shutting a debuggee down drops its objects, its static fields and its holds at once. It does not end
the task bodies that are running: these are cut short at their next safe point, and until then they
may still make objects and store into static fields, in the debuggee that is down and in the next
launch of it.

* `Vm.Dark` - the state a shutdown leaves. Nothing but a launch and such a body ends it.
* `Vm.Severed` - the part of it that such a body does not end either: nothing is held.
* `Vm.launch_static?` - a launch gives every class its static fields anew, whatever was there.
* `Vm.Source` - where an object can come from that was not there when the debuggee was shut down: the
  new launch, or a body that was running.

## 1. A debuggee that is down

## 2. Static fields of a launch

## 3. Where objects come from
-/

namespace Debugger

open Std (TreeMap)

/-! ## 1. A debuggee that is down -/

/-- The value a class gives to a static field at the start: the default of the type it declares last
for the name. -/
def ClassDef.initial? (c : ClassDef) (field : String) : Option Value :=
  (c.staticFields.reverse.find? (·.name == field)).map fun f => .defaultOf f.typeName

theorem Value.defaultOf_ne_object (declared : String) (o : ObjectRef) :
    Value.defaultOf declared ≠ .object o := by
  unfold Value.defaultOf
  cases PrimitiveKind.named? declared <;> exact nofun

theorem getElem?_foldl_insert (fields : List FieldInfo) (name : String) :
    (fields.foldl (fun m f => m.insert f.name (Value.defaultOf f.typeName))
      (∅ : TreeMap String Value))[name]? =
      (fields.reverse.find? (·.name == name)).map fun f => .defaultOf f.typeName := by
  -- The field inserted last decides, so the induction is on the reversed list.
  rw [← List.foldr_reverse]
  induction fields.reverse with
  | nil => exact TreeMap.getElem?_emptyc
  | cons f rest ih =>
    rw [List.foldr_cons, TreeMap.getElem?_insert, List.find?_cons]
    cases same : f.name == name with
    | true => simp [beq_iff_eq.mp same]
    | false => simp [beq_eq_false_iff_ne.mp same, ih]

namespace Heap

theorem static?_initStatics (h : Heap) (c : ClassDef) (className field : String) :
    (h.initStatics c).static? className field =
      if c.name = className then c.initial? field else h.static? className field := by
  show ((h.statics.insert c.name _)[className]?.bind fun fields => fields[field]?) = _
  rw [TreeMap.getElem?_insert]
  simp only [Std.compare_eq_iff_eq]
  split
  · exact getElem?_foldl_insert c.staticFields field
  · rfl

end Heap

namespace Vm

variable {v w : Vm}

/-- A debuggee that is down, as a shutdown leaves it. -/
structure Dark (v : Vm) : Prop where
  down : v.launched = false
  objects : ∀ id, id ∉ v.shared.heap.objects
  holds : ∀ handle, handle ∉ v.holds.byHandle
  /-- Classes may have been loaded since, but their static fields hold no objects. -/
  slots : ∀ className field o, v.shared.heap.static? className field ≠ some (.object o)
  unlisted : ∀ (id : ThreadId) (t : Thread), v.threads[id]? = some t → t.listed = false

theorem size_eq_zero_iff {α β : Type} {cmp : α → α → Ordering} [Std.TransCmp cmp]
    (m : TreeMap α β cmp) : m.size = 0 ↔ ∀ k, k ∉ m := by
  rw [← TreeMap.isEmpty_iff_forall_not_mem, TreeMap.isEmpty_eq_size_eq_zero, beq_iff_eq]

theorem holds_size_eq_zero (none : ∀ handle, handle ∉ v.holds.byHandle) :
    v.holds.byHandle.size = 0 :=
  (size_eq_zero_iff _).mpr none

/-- **A shutdown drops everything.** -/
theorem Sound.shutdown_dark (h : v.Sound) (up : v.launched = true) : v.shutdown.Dark := by
  have off := (h.shutdown up).2
  rw [shutdown_eq up] at off ⊢
  refine ⟨?_, fun _ => TreeMap.not_mem_emptyc, fun _ => TreeMap.not_mem_emptyc, ?_, off⟩
  · exact (foldl_retire_kept _ _).2.1
  · intro className field o
    show ((∅ : TreeMap String (TreeMap String Value))[className]?.bind fun fields =>
      fields[field]?) ≠ _
    rw [TreeMap.getElem?_emptyc]
    exact nofun

/-- Loading a class puts no object into a static field. -/
theorem defineClass_slots {className field : String} (c : ClassDef)
    (slots : ∀ o, v.shared.heap.static? className field ≠ some (.object o)) (o : ObjectRef) :
    (v.defineClass c).shared.heap.static? className field ≠ some (.object o) := by
  show (v.shared.heap.initStatics c).static? className field ≠ _
  rw [Heap.static?_initStatics]
  split
  · intro initial
    obtain ⟨f, -, same⟩ := Option.map_eq_some_iff.mp initial
    exact Value.defaultOf_ne_object _ _ same
  · exact slots o

theorem dark_empty : Dark {} where
  down := rfl
  objects _ := TreeMap.not_mem_emptyc
  holds _ := TreeMap.not_mem_emptyc
  slots className field o := by
    show ((∅ : TreeMap String (TreeMap String Value))[className]?.bind fun fields =>
      fields[field]?) ≠ _
    rw [TreeMap.getElem?_emptyc]
    exact nofun
  unlisted id t there := by
    rw [TreeMap.getElem?_emptyc] at there
    cases there

/-- A thread that is in the middle of a task. -/
def AtTask (v : Vm) (id : ThreadId) : Prop :=
  ∃ (t : Thread) (a : Activity), v.threads[id]? = some t ∧ t.worker = .busy a

theorem putThread_unlisted
    (unlisted : ∀ (id : ThreadId) (t : Thread), v.threads[id]? = some t → t.listed = false)
    {id : ThreadId} {t t' : Thread} {s' : Shared} (there : v.threads[id]? = some t)
    (later : t.Later t') (i : ThreadId) (u : Thread)
    (hu : (v.putThread t' s').threads[i]? = some u) : u.listed = false := by
  have put : (v.putThread t' s').threads = v.threads.insert t'.id t' := rfl
  rw [put, TreeMap.getElem?_insert] at hu
  split at hu
  · cases hu
    cases hl : t'.listed with
    | false => rfl
    | true => exact (later.listed hl).symm.trans (unlisted id t there)
  · exact unlisted i u hu

/-- Only a debuggee that is launched has threads on its list. -/
def Unmanned (v : Vm) : Prop :=
  v.launched = false → ∀ (id : ThreadId) (t : Thread), v.threads[id]? = some t → t.listed = false

theorem Change.unmanned (h : v.Sound) (was : v.Unmanned) {d : Deed} (c : Change v d w) :
    w.Unmanned := by
  intro down
  cases c with
  | steps there step => exact putThread_unlisted (was down) there (Thread.step_later step)
  | @asks d id t t' s' there asked lastCall =>
    have unlisted : ∀ (i : ThreadId) (u : Thread),
        (v.putThread t' s').threads[i]? = some u → u.listed = false :=
      putThread_unlisted (was down) there asked.later
    exact unlisted
  | launches idle =>
    have up : v.launch.launched = true := by rw [launch_eq idle]; rfl
    rw [up] at down
    cases down
  | shutsDown up => exact (h.shutdown up).2
  | spawns up =>
    have down : v.launched = false := down
    rw [up] at down
    cases down
  | idle | defines | allocates | installs | takes | releases | setsBreakpoint | clearsBreakpoint
  | breaksOnUncaught => exact was down

theorem unmanned_after (h : v.Sound) (was : v.Unmanned) (ds : List Deed) :
    (v.after ds).Unmanned := by
  induction ds generalizing v with
  | nil => exact was
  | cons d rest ih =>
    have change := d.change v
    exact ih (change.onward h).sound (change.unmanned h was)

/-- **Shutting down takes every thread off the list,** whether there was anything to shut down or
not. -/
theorem Sound.shutdown_unlisted (h : v.Sound) (unmanned : v.Unmanned) {id : ThreadId} {t : Thread}
    (there : v.shutdown.threads[id]? = some t) : t.listed = false := by
  by_cases up : v.launched = true
  · exact (h.shutdown up).2 id t there
  · have down := Bool.of_not_eq_true up
    rw [shutdown_of_down down] at there
    exact unmanned down id t there

/-- **What is down stays down** until it is launched or a body goes on that was running. -/
theorem Dark.change (dark : v.Dark) {d : Deed} (c : Change v d w) (stay : d ≠ .launch)
    (still : ∀ id, d = .step id → ¬v.AtTask id) : w.Dark := by
  have up (up : v.launched = true) : w.Dark := absurd (dark.down.symm.trans up) Bool.false_ne_true
  cases c with
  | idle => exact dark
  | @steps id t t' s' there step =>
    have same := Thread.step_heap step fun a busy => still id rfl ⟨t, a, there, busy⟩
    have later := Thread.step_later step
    refine ⟨dark.down, ?_, dark.holds, ?_, putThread_unlisted dark.unlisted there later⟩
    · show ∀ id, id ∉ s'.heap.objects
      rw [same]
      exact dark.objects
    · show ∀ className field o, s'.heap.static? className field ≠ some (.object o)
      rw [same]
      exact dark.slots
  | @asks d id t t' s' there asked lastCall =>
    obtain ⟨-, same, -⟩ := asked.shared
    have unlisted : ∀ (i : ThreadId) (u : Thread),
        (v.putThread t' s').threads[i]? = some u → u.listed = false :=
      putThread_unlisted dark.unlisted there asked.later
    refine ⟨dark.down, ?_, dark.holds, ?_, unlisted⟩
    · show ∀ id, id ∉ s'.heap.objects
      rw [same]
      exact dark.objects
    · show ∀ className field o, s'.heap.static? className field ≠ some (.object o)
      rw [same]
      exact dark.slots
  | defines c =>
    exact ⟨dark.down, dark.objects, dark.holds,
      fun className field => defineClass_slots c (dark.slots className field), dark.unlisted⟩
  | launches => exact absurd rfl stay
  | shutsDown running | spawns running | allocates running => exact up running
  | @installs id o heap there stored =>
    -- There is no object to put into the slot.
    have there : v.shared.heap.objects[id]? = some o := there
    exact absurd (getElem?_eq_some_iff.mp there).1 (dark.objects id)
  | takes full emptied => exact absurd full (dark.slots _ _ _)
  | releases handle =>
    refine ⟨dark.down, dark.objects, fun other held => ?_, dark.slots, dark.unlisted⟩
    exact dark.holds other (TreeMap.mem_of_mem_erase held)
  | setsBreakpoint | clearsBreakpoint | breaksOnUncaught =>
    exact ⟨dark.down, dark.objects, dark.holds, dark.slots, dark.unlisted⟩

/-- A thread that was off the list and at no task is at none later. -/
theorem Onward.atTask (h : v.Sound) (on : Onward v w) {id : ThreadId} {t : Thread}
    (there : v.threads[id]? = some t) (off : t.listed = false) (busy : w.AtTask id) :
    v.AtTask id := by
  obtain ⟨t', a, there', busy⟩ := busy
  obtain ⟨u, hu, later⟩ := on.old id t there
  rw [there'] at hu
  cases hu
  by_cases free : ∀ a, t.worker ≠ .busy a
  · exact absurd busy (later.spent (h.unlisted id t there off) free a)
  · obtain ⟨b, was⟩ := Classical.not_forall.mp free
    exact ⟨t, b, there, Classical.not_not.mp was⟩

theorem Dark.lastThread (dark : v.Dark) {d : Deed} (c : Change v d w) (stay : d ≠ .launch) :
    w.lastThread = v.lastThread := by
  cases c with
  | launches => exact absurd rfl stay
  | shutsDown up | spawns up | allocates up =>
    exact absurd (dark.down.symm.trans up) Bool.false_ne_true
  | idle | steps | asks | defines | installs | takes | releases | setsBreakpoint | clearsBreakpoint
  | breaksOnUncaught => rfl

/-- No thread is started while a debuggee is down, so no further one comes to be at a task. -/
theorem Dark.atTask (h : v.Sound) (dark : v.Dark) {d : Deed} (c : Change v d w)
    (stay : d ≠ .launch) {id : ThreadId} (busy : w.AtTask id) : v.AtTask id := by
  have on := c.onward h
  cases was : v.threads[id]? with
  | some t => exact on.atTask h was (dark.unlisted id t was) busy
  | none =>
    obtain ⟨t, a, there, -⟩ := busy
    have counted := (on.sound.threads id t there).2
    rw [dark.lastThread c stay] at counted
    rcases on.new id (getElem?_eq_some_iff.mp there).1 with old | above
    · exact absurd old ((getElem?_eq_none_iff _ _).mp was)
    · exact absurd above (Nat.not_lt.mpr counted)

theorem Dark.after (h : v.Sound) (dark : v.Dark) {ds : List Deed} (stay : .launch ∉ ds)
    (still : ∀ id, .step id ∈ ds → ¬v.AtTask id) :
    (v.after ds).Dark ∧ ∀ id, (v.after ds).AtTask id → v.AtTask id := by
  induction ds generalizing v with
  | nil => exact ⟨dark, fun _ busy => busy⟩
  | cons d rest ih =>
    have change := d.change v
    have here : d ≠ .launch := fun same => stay (same ▸ List.mem_cons_self)
    have first := dark.change change here fun id same => still id (same ▸ List.mem_cons_self)
    have back (id : ThreadId) : (d.run v).AtTask id → v.AtTask id := dark.atTask h change here
    obtain ⟨later, backwards⟩ := ih (change.onward h).sound first
      (fun later => stay (List.mem_cons_of_mem _ later))
      (fun id later busy => still id (List.mem_cons_of_mem _ later) (back id busy))
    exact ⟨later, fun id busy => back id (backwards id busy)⟩

/-- A debuggee that is down and through whose transport nothing can pass. -/
structure Severed (v : Vm) : Prop where
  down : v.launched = false
  slot : transportClass.name ∉ v.shared.heap.statics
  holds : ∀ handle, handle ∉ v.holds.byHandle

theorem Severed.static? (h : v.Severed) :
    v.shared.heap.static? transportClass.name transportField = none := by
  unfold Heap.static?
  rw [TreeMap.getElem?_eq_none h.slot]
  rfl

/-- **Nothing is held of a debuggee that is down,** even if a body goes on that was running, unless
the class of the transport is loaded anew. -/
theorem Severed.change (severed : v.Severed) {d : Deed} (c : Change v d w) (stay : d ≠ .launch)
    (kept : ∀ c, d = .define c → c.name ≠ transportClass.name) : w.Severed := by
  have up (up : v.launched = true) : w.Severed :=
    absurd (severed.down.symm.trans up) Bool.false_ne_true
  cases c with
  | idle => exact severed
  | steps there step =>
    have worked := (Thread.step_effect step).heap
    refine ⟨severed.down, fun slot => ?_, severed.holds⟩
    exact severed.slot ((worked.mem_statics _).mp slot)
  | @asks d id t t' s' there asked lastCall =>
    obtain ⟨-, same, -⟩ := asked.shared
    refine ⟨severed.down, ?_, severed.holds⟩
    show transportClass.name ∉ s'.heap.statics
    rw [same]
    exact severed.slot
  | defines c =>
    refine ⟨severed.down, fun slot => ?_, severed.holds⟩
    have slot : transportClass.name ∈ v.shared.heap.statics.insert c.name _ := slot
    rw [TreeMap.mem_insert, Std.compare_eq_iff_eq] at slot
    exact slot.elim (kept c rfl) severed.slot
  | launches => exact absurd rfl stay
  | shutsDown running | spawns running | allocates running => exact up running
  | installs there stored =>
    unfold Heap.setStatic? at stored
    rw [TreeMap.getElem?_eq_none severed.slot] at stored
    cases stored
  | takes full =>
    rw [severed.static?] at full
    cases full
  | releases handle =>
    refine ⟨severed.down, severed.slot, fun other held => ?_⟩
    exact severed.holds other (TreeMap.mem_of_mem_erase held)
  | setsBreakpoint | clearsBreakpoint | breaksOnUncaught =>
    exact ⟨severed.down, severed.slot, severed.holds⟩

theorem Severed.after (severed : v.Severed) {ds : List Deed} (stay : .launch ∉ ds)
    (kept : ∀ c, .define c ∈ ds → c.name ≠ transportClass.name) : (v.after ds).Severed := by
  induction ds generalizing v with
  | nil => exact severed
  | cons d rest ih =>
    have here : d ≠ .launch := fun same => stay (same ▸ List.mem_cons_self)
    have first := severed.change (d.change v) here fun c same =>
      kept c (same ▸ List.mem_cons_self)
    exact ih first (fun later => stay (List.mem_cons_of_mem _ later))
      fun c later => kept c (List.mem_cons_of_mem _ later)

theorem static?_foldl_initStatics (classes : List (String × ClassDef)) (heap : Heap)
    (keyed : ∀ p ∈ classes, p.2.name = p.1) (distinct : (classes.map (·.1)).Nodup)
    (className field : String) :
    (∀ c, (className, c) ∈ classes →
      (classes.foldl (fun h p => h.initStatics p.2) heap).static? className field =
        c.initial? field) ∧
    ((∀ c, (className, c) ∉ classes) →
      (classes.foldl (fun h p => h.initStatics p.2) heap).static? className field =
        heap.static? className field) := by
  induction classes generalizing heap with
  | nil => exact ⟨nofun, fun _ => rfl⟩
  | cons p rest ih =>
    obtain ⟨name, c⟩ := p
    rw [List.map_cons, List.nodup_cons] at distinct
    have here : c.name = name := keyed (name, c) List.mem_cons_self
    obtain ⟨loaded, absent⟩ := ih (heap.initStatics c)
      (fun q hq => keyed q (List.mem_cons_of_mem _ hq)) distinct.2
    refine ⟨fun d hd => ?_, fun none => ?_⟩
    · rcases List.mem_cons.mp hd with same | later
      · cases same
        have unique : ∀ d, (className, d) ∉ rest := fun d hd =>
          distinct.1 (List.mem_map_of_mem (f := (·.1)) hd)
        rw [List.foldl_cons, absent unique, Heap.static?_initStatics, if_pos here]
      · exact loaded d later
    · have other : c.name ≠ className := by
        rintro rfl
        exact none c (here ▸ List.mem_cons_self)
      rw [List.foldl_cons, absent fun d hd => none d (List.mem_cons_of_mem _ hd),
        Heap.static?_initStatics, if_neg other]

theorem launch_heap (down : v.launched = false) :
    v.launch.shared.heap =
      v.shared.classes.toList.foldl (fun h p => h.initStatics p.2) v.shared.heap := by
  have fold : v.shared.classes.foldl (fun h _ c => h.initStatics c) v.shared.heap =
      v.shared.classes.toList.foldl (fun h p => h.initStatics p.2) v.shared.heap :=
    TreeMap.foldl_eq_foldl_toList
  rw [← fold, launch_eq down]
  rfl

/-- **At a launch every static field has its default,** whatever was stored before, and no other
static fields exist. -/
theorem Sound.launch_static? (h : v.Sound) (down : v.launched = false) (className field : String) :
    v.launch.shared.heap.static? className field =
      (v.shared.class? className).bind (·.initial? field) := by
  have keyed : ∀ p ∈ v.shared.classes.toList, p.2.name = p.1 := fun p hp =>
    h.classes p.1 p.2 (TreeMap.mem_toList_iff_getElem?_eq_some.mp hp)
  have distinct : (v.shared.classes.toList.map (·.1)).Nodup := by
    rw [TreeMap.map_fst_toList_eq_keys]
    exact TreeMap.nodup_keys
  obtain ⟨loaded, absent⟩ :=
    static?_foldl_initStatics v.shared.classes.toList v.shared.heap keyed distinct className field
  rw [launch_heap down]
  unfold Shared.class?
  cases hc : v.shared.classes[className]? with
  | some c => exact loaded c (TreeMap.mem_toList_iff_getElem?_eq_some.mpr hc)
  | none =>
    -- What was left of the last launch belongs to classes that are loaded.
    have unloaded : className ∉ v.shared.heap.statics := by
      intro left
      exact (getElem?_eq_none_iff _ _).mp hc (h.statics className left)
    rw [absent]
    · unfold Heap.static?
      rw [TreeMap.getElem?_eq_none unloaded]
      rfl
    · intro c hc'
      have hc' := TreeMap.mem_toList_iff_getElem?_eq_some.mp hc'
      rw [hc] at hc'
      cases hc'

/-! ## 3. Where objects come from -/

/-- Where an object comes from that was not there before: somebody made it in a launched debuggee,
or a thread made it that was started since or was at a task even then. -/
inductive Source (v w : Vm) : Deed → Prop
  | outside {d : Deed} (up : w.launched = true) (other : ∀ id, d ≠ .step id) : Source v w d
  | started {id : ThreadId} (new : v.lastThread < id) : Source v w (.step id)
  | lingering {id : ThreadId} (busy : v.AtTask id) : Source v w (.step id)

/-- An object that is new was made by one of the deeds. -/
theorem made_by {id : ObjectId} {ds : List Deed} (v : Vm)
    (there : id ∈ (v.after ds).shared.heap.objects) (new : id ∉ v.shared.heap.objects) :
    ∃ before d since, ds = before ++ d :: since ∧
      id ∉ (v.after before).shared.heap.objects ∧
      id ∈ (d.run (v.after before)).shared.heap.objects := by
  induction ds generalizing v with
  | nil => exact absurd there new
  | cons d rest ih =>
    by_cases first : id ∈ (d.run v).shared.heap.objects
    · exact ⟨[], d, rest, rfl, new, first⟩
    · obtain ⟨before, e, since, rfl, out, in'⟩ := ih (d.run v) there first
      exact ⟨d :: before, e, since, rfl, out, in'⟩

theorem Change.makes {d : Deed} (c : Change v d w) {id : ObjectId}
    (out : id ∉ v.shared.heap.objects) (there : id ∈ w.shared.heap.objects) :
    (v.launched = true ∧ ∀ i, d ≠ .step i) ∨ ∃ i, d = .step i ∧ v.AtTask i := by
  have none (same : ∀ k, k ∈ w.shared.heap.objects → k ∈ v.shared.heap.objects) :
      (v.launched = true ∧ ∀ i, d ≠ .step i) ∨ ∃ i, d = .step i ∧ v.AtTask i :=
    absurd (same id there) out
  cases c with
  | @steps i t t' s' at' step =>
    by_cases free : ∀ a, t.worker ≠ .busy a
    · have same := Thread.step_heap step free
      refine none fun k hk => ?_
      have hk : k ∈ s'.heap.objects := hk
      rwa [same] at hk
    · obtain ⟨a, busy⟩ := Classical.not_forall.mp free
      exact .inr ⟨i, rfl, t, a, at', Classical.not_not.mp busy⟩
  | @asks d i t t' s' at' asked lastCall =>
    obtain ⟨-, same, -⟩ := asked.shared
    refine none fun k hk => ?_
    have hk : k ∈ s'.heap.objects := hk
    rwa [same] at hk
  | launches down =>
    obtain ⟨same, -⟩ := foldl_initStatics_kept v.shared.classes.toList v.shared.heap
    refine none fun k hk => ?_
    rwa [launch_heap down, same] at hk
  | shutsDown up =>
    refine none fun k hk => ?_
    rw [shutdown_eq up] at hk
    exact absurd hk TreeMap.not_mem_emptyc
  | allocates up maker =>
    refine .inl ⟨up, ?_⟩
    rintro i rfl
    cases maker
  | installs at' stored =>
    obtain ⟨-, same, -⟩ := Heap.setStatic?_kept stored
    refine none fun k hk => ?_
    rwa [← same]
  | takes full emptied =>
    obtain ⟨-, same, -⟩ := Heap.setStatic?_kept emptied
    refine none fun k hk => ?_
    rwa [← same]
  | idle | defines | spawns | releases | setsBreakpoint | clearsBreakpoint | breaksOnUncaught =>
    exact none fun _ hk => hk

/-- **Where the objects of a debuggee come from** that was down. -/
theorem Dark.source (h : v.Sound) (dark : v.Dark) {ds : List Deed} {id : ObjectId}
    (there : id ∈ (v.after ds).shared.heap.objects) :
    ∃ before d since, ds = before ++ d :: since ∧
      id ∉ (v.after before).shared.heap.objects ∧
      id ∈ (v.after (before ++ [d])).shared.heap.objects ∧ Source v (v.after before) d := by
  obtain ⟨before, d, since, rfl, out, made⟩ := made_by v there (dark.objects id)
  have on := h.after before
  refine ⟨before, d, since, rfl, out, by rw [after_append]; exact made, ?_⟩
  rcases (d.change (v.after before)).makes out made with ⟨up, other⟩ | ⟨i, rfl, busy⟩
  · exact .outside up other
  · cases was : v.threads[i]? with
    | some t => exact .lingering (on.atTask h was (dark.unlisted i t was) busy)
    | none =>
      obtain ⟨t, a, at', -⟩ := busy
      refine .started ((on.new i (getElem?_eq_some_iff.mp at').1).resolve_left ?_)
      exact (getElem?_eq_none_iff _ _).mp was

end Vm

end Debugger
