import Debugger.Proofs.Debuggee.Counters
/-!
# Primitives in holders

Only objects go back to a controller, so a primitive is put into a new object of the class that
holds its kind. It does not matter whether the controller asks for that or a task ends in a
primitive. The holder classes are there from the start, but they are classes like any other: they
can be replaced, and the new one may not have the field. This is found out when the object is there.

* `Heap.Gains` - one object more, and the others as they were.
* `Vm.boxing_depends_on_the_field` - a new holder that shows the primitive if the class that is
  loaded has the field, and if not a refusal and an object that nobody knows.
* `Vm.refused_boxing_leaves_an_object` - a class without fields in place of the one for ints.

## 1. Classes that stay

## 2. Fields

## 3. One object more

## 4. Boxing

## 5. The two ways
-/

namespace Debugger

open Std (TreeMap)

/-! ## 1. Classes that stay -/

namespace Vm

variable {v w : Vm} {name : String}

/-- Classes are loaded by a deed of their own. -/
theorem Change.classes {d : Deed} (c : Change v d w) (other : ∀ c, d ≠ .define c) :
    w.shared.classes = v.shared.classes := by
  cases c with
  | steps there step => exact (Thread.step_effect step).classes
  | asks there asked lastCall => exact asked.shared.1
  | defines c => exact absurd rfl (other c)
  | launches down =>
    rw [launch_eq down]
    rfl
  | shutsDown up =>
    obtain ⟨-, -, classes, -⟩ := foldl_retire_kept
      (listedThreads { v with launched := false, mainThread := none })
      { v with launched := false, mainThread := none }
    rw [shutdown_eq up]
    exact classes
  | idle | spawns | allocates | installs | takes | releases | setsBreakpoint | clearsBreakpoint
  | breaksOnUncaught => rfl

/-- No deed takes a class away, although it may replace it. -/
theorem Change.loaded {d : Deed} (c : Change v d w) (loaded : name ∈ v.shared.classes) :
    name ∈ w.shared.classes := by
  by_cases define : ∃ k, d = .define k
  · obtain ⟨k, rfl⟩ := define
    cases c with
    | idle => exact loaded
    | asks there asked lastCall => exact asked.shared.1 ▸ loaded
    | allocates => exact loaded
    | defines => exact TreeMap.mem_insert.mpr (.inr loaded)
  · rw [c.classes fun k same => define ⟨k, same⟩]
    exact loaded

theorem loaded_after (ds : List Deed) (loaded : name ∈ v.shared.classes) :
    name ∈ (v.after ds).shared.classes := by
  induction ds generalizing v with
  | nil => exact loaded
  | cons d rest ih => exact ih ((d.change v).loaded loaded)

theorem loaded_of_define {c : ClassDef} {cs : List ClassDef} (member : c ∈ cs) :
    c.name ∈ (v.after (cs.map .define)).shared.classes := by
  induction cs generalizing v with
  | nil => cases member
  | cons d rest ih =>
    rcases List.mem_cons.mp member with rfl | later
    · have there : c.name ∈ (v.defineClass c).shared.classes := TreeMap.mem_insert_self
      exact loaded_after (rest.map .define) there
    · exact ih later

/-- **There is always a class for a kind.** -/
theorem holder_loaded (ds : List Deed) (k : PrimitiveKind) :
    ∃ c, (fresh.after ds).shared.class? k.holderClass = some c ∧ c.name = k.holderClass := by
  have standard : Debugger.holderClass k ∈ standardClasses :=
    List.mem_append_left _ (List.mem_append_right _ (List.mem_map_of_mem k.mem_all))
  have first : k.holderClass ∈ fresh.shared.classes := by
    rw [fresh_eq]
    exact loaded_of_define standard
  have loaded := TreeMap.mem_iff_isSome_getElem?.mp (loaded_after ds first)
  obtain ⟨c, there⟩ := Option.isSome_iff_exists.mp loaded
  exact ⟨c, there, (sound_fresh.after ds).sound.classes _ c there⟩

end Vm

/-! ## 2. Fields -/

namespace ClassDef

variable {c : ClassDef} {name : String}

/-- Whether the instances of a class have a field of a name. -/
def HasField (c : ClassDef) (name : String) : Prop := ∃ f ∈ c.instanceFields, f.name = name

instance (c : ClassDef) (name : String) : Decidable (c.HasField name) :=
  inferInstanceAs (Decidable (∃ f ∈ _, _))

/-- An instance with every field at the default of its type. -/
def blank (c : ClassDef) : HeapObject :=
  ⟨c, c.instanceFields.map fun f => (f.name, Value.defaultOf f.typeName), none⟩

theorem lookup_blank : c.blank.fields.lookup name = none ↔ ¬ c.HasField name := by
  rw [List.lookup_eq_none_iff]
  constructor
  · rintro absent ⟨f, member, named⟩
    have apart := absent _ (List.mem_map_of_mem member)
    simp [named] at apart
  · intro absent field inObject
    obtain ⟨f, member, rfl⟩ := List.mem_map.mp inObject
    have other : f.name ≠ name := fun named => absent ⟨f, member, named⟩
    simpa using other.symm

end ClassDef

/-- What was stored into a field is what a reader of the fields finds first under its name. -/
theorem find?_zip_storeField {name : String} (value : Value) {fs : List FieldInfo}
    (declared : ∃ f ∈ fs, f.name = name) :
    ((fs.zip ((storeField name value
      (fs.map fun f => (f.name, Value.defaultOf f.typeName))).map (·.2))).find?
        fun f => f.1.name = name).map (·.2) = some value := by
  induction fs with
  | nil => simp at declared
  | cons f fs ih =>
    by_cases here : f.name = name
    · simp [storeField, here]
    · have later : ∃ g ∈ fs, g.name = name := by simpa [here] using declared
      simpa [storeField, here] using ih later

/-! ## 3. One object more -/

namespace Heap

variable {h h' : Heap} {ref : ObjectRef} {o : HeapObject} {name : String}

/-- A heap comes to have one object more, and the others are as they were. -/
structure Gains (h : Heap) (ref : ObjectRef) (o : HeapObject) (h' : Heap) : Prop where
  new : h.object? ref.id = none
  there : h'.object? ref.id = some o
  named : ref.runtimeType = o.classDef.name
  others : ∀ id, id ≠ ref.id → h'.object? id = h.object? id
  statics : h'.statics = h.statics

theorem getElem?_insert_other (objects : TreeMap ObjectId HeapObject) {id k : ObjectId}
    (o : HeapObject) (other : id ≠ k) : (objects.insert k o)[id]? = objects[id]? := by
  have apart : compare k id ≠ .eq := by
    rw [Ne, Std.compare_eq_iff_eq]
    exact fun same => other same.symm
  rw [TreeMap.getElem?_insert, if_neg apart]

theorem insert_gains (counted : ∀ id ∈ h.objects, id ≤ h.lastId) (o : HeapObject) :
    h.Gains (h.insert o).1 o (h.insert o).2 where
  new := by
    apply TreeMap.getElem?_eq_none
    intro old
    exact absurd (counted _ old) (Nat.not_le.mpr (Nat.lt_succ_self _))
  there := TreeMap.getElem?_insert_self
  named := rfl
  others _ other := getElem?_insert_other h.objects o other
  statics := rfl

theorem allocate_gains (counted : ∀ id ∈ h.objects, id ≤ h.lastId) (c : ClassDef) :
    h.Gains (h.allocate c).1 c.blank (h.allocate c).2 := insert_gains counted c.blank

/-- Storing into a field of the new object. -/
theorem Gains.setField {old : Value} (g : h.Gains ref o h')
    (field : o.fields.lookup name = some old) (value : Value) :
    ∃ h'', h'.setField? ref.id name value = some h'' ∧
      h.Gains ref { o with fields := storeField name value o.fields } h'' := by
  let changed : HeapObject := { o with fields := storeField name value o.fields }
  refine ⟨{ h' with objects := h'.objects.insert ref.id changed }, ?_,
    ⟨g.new, TreeMap.getElem?_insert_self, g.named, ?_, g.statics⟩⟩
  · unfold setField?
    rw [g.there]
    simp only [Option.bind_eq_bind, Option.bind_some, field]
    rfl
  · intro id other
    rw [← g.others id other]
    exact getElem?_insert_other h'.objects changed other

theorem Gains.setField?_none (g : h.Gains ref o h') (noField : o.fields.lookup name = none)
    (value : Value) : h'.setField? ref.id name value = none := by
  unfold setField?
  rw [g.there]
  simp only [Option.bind_eq_bind, Option.bind_some, noField, Option.bind_none]

end Heap

/-! ## 4. Boxing -/

namespace Vm

variable {v w : Vm} {p : Primitive} {o : ObjectRef} {c : ClassDef} {id : ThreadId} {call : CallId}

/-- Asked for its fields, an object shows this value in the first one of a name. -/
def Shows (v : Vm) (id : ObjectId) (name : String) (value : Value) : Prop :=
  ∃ fields, (objectFields id).run v = (.ok fields, v) ∧
    (fields.find? fun f => f.1.name = name).map (·.2) = some value

theorem run_objectFields {object : HeapObject} {id : ObjectId}
    (there : v.shared.heap.object? id = some object) : (objectFields id).run v =
      (.ok (object.classDef.instanceFields.zip (object.fields.map (·.2))), v) := by
  unfold objectFields
  apply Action.run_bind_ok
  unfold requireObject
  rw [Action.run_get_bind, there]
  rfl

/-- A primitive is in a new holder of its kind, and no other object is touched. -/
structure Boxed (v : Vm) (p : Primitive) (o : ObjectRef) (w : Vm) : Prop where
  type : o.runtimeType = p.kind.holderClass
  new : v.shared.heap.object? o.id = none
  value : w.Shows o.id "value" (.primitive p)
  others : ∀ id, id ≠ o.id → w.shared.heap.object? id = v.shared.heap.object? id

/-- The object is made first, and the store into it decides. -/
theorem box_loaded {s : Shared} (loaded : s.class? p.kind.holderClass = some c) : s.box p =
    ((s.heap.allocate c).2.setField? (s.heap.allocate c).1.id "value" (.primitive p)).elim
      (none, { s with heap := (s.heap.allocate c).2 })
      fun heap => (some (s.heap.allocate c).1, { s with heap }) := by
  unfold Shared.box
  rw [loaded]
  dsimp only
  cases (s.heap.allocate c).2.setField? (s.heap.allocate c).1.id "value" (.primitive p) <;> rfl

/-- Boxing into a class that has the field. -/
theorem Sound.box (h : v.Sound) (loaded : v.shared.class? p.kind.holderClass = some c)
    (field : c.HasField "value") :
    ∃ o heap, v.shared.box p = (some o, { v.shared with heap }) ∧
      ∀ w : Vm, w.shared.heap = heap → Boxed v p o w := by
  have allocated := Heap.allocate_gains h.objects c
  have readable : c.blank.fields.lookup "value" ≠ none := fun none =>
    ClassDef.lookup_blank.mp none field
  obtain ⟨old, readable⟩ := Option.ne_none_iff_exists'.mp readable
  obtain ⟨heap, stored, gains⟩ := allocated.setField readable (.primitive p)
  refine ⟨(v.shared.heap.allocate c).1, heap, ?_, ?_⟩
  · rw [box_loaded loaded, stored]
    rfl
  · rintro w rfl
    have type := gains.named.trans (h.classes _ c loaded)
    have value := find?_zip_storeField (.primitive p) field
    exact ⟨type, gains.new, ⟨_, run_objectFields gains.there, value⟩, gains.others⟩

/-- Boxing into a class that does not have it. -/
theorem Sound.box_refused (h : v.Sound) (loaded : v.shared.class? p.kind.holderClass = some c)
    (noField : ¬ c.HasField "value") :
    ∃ o heap, v.shared.box p = (none, { v.shared with heap }) ∧
      v.shared.heap.Gains o c.blank heap := by
  have allocated := Heap.allocate_gains h.objects c
  refine ⟨(v.shared.heap.allocate c).1, (v.shared.heap.allocate c).2, ?_, allocated⟩
  rw [box_loaded loaded, allocated.setField?_none (ClassDef.lookup_blank.mpr noField)]
  rfl

/-! ## 5. The two ways -/

theorem run_boxValue (up : v.launched = true) : (boxValue p).run v =
    ((match (v.shared.box p).1 with
      | some o => .ok o
      | none => .error (.classNotFound p.kind.holderClass)),
      { v with shared := (v.shared.box p).2 }) := by
  unfold boxValue
  have allowed : requireLaunched.run v = (.ok (), v) := by
    show (if !v.launched then throw .notLaunched else pure () : Op Unit).run v = _
    rw [up]
    rfl
  rw [Action.run_bind_ok allowed, Action.run_modifyGet_bind]
  dsimp only
  cases (v.shared.box p).1 <;> rfl

/-- A thread is about to end the task of a call with a primitive. -/
def Returning (v : Vm) (id : ThreadId) (call : CallId) (p : Primitive) : Prop :=
  ∃ t, v.threads[id]? = some t ∧
    t.worker = .busy ⟨call, .running (.done (.ok (.primitive p))), []⟩

theorem step?_eq {t t' : Thread} {s : Shared} (there : v.threads[id]? = some t)
    (step : t.step v.shared = some (t', s)) : v.step? id = some (v.putThread t' s) := by
  unfold step?
  rw [there]
  simp only [Option.bind_eq_bind, Option.bind_some, step]
  rfl

theorem putThread_self {t : Thread} {s : Shared} (own : t.id = id) :
    (v.putThread t s).threads[id]? = some t := by
  subst own
  exact TreeMap.getElem?_insert_self

/-- The primitive is boxed in one step, and in two more the caller is told what came of it. -/
theorem Sound.step_returning (h : v.Sound) (r : v.Returning id call p) :
    ∃ w, v.step? id = some w ∧ w.shared = (Thread.adapt (.primitive p) v.shared).2 ∧
      (w.after [.step id, .step id]).shared =
        w.shared.complete call (Thread.adapt (.primitive p) v.shared).1 := by
  obtain ⟨t, there, busy⟩ := r
  have own : t.id = id := (h.threads id t there).1
  rcases adapted : Thread.adapt (.primitive p) v.shared with ⟨outcome, s⟩
  -- The task has ended, the thread is free again, and the caller has been told.
  let ended := { t with worker := .ended call outcome }
  let idle := ended.finish call outcome
  have ends : t.step v.shared = some (ended, s) := by
    simp only [Thread.step, busy, Thread.proceed, Thread.run, Thread.conclude, adapted, ended]
  have frees : (v.putThread ended s).step? id = some ((v.putThread ended s).putThread idle s) :=
    step?_eq (putThread_self own) rfl
  have tells : ((v.putThread ended s).putThread idle s).step? id =
      some (((v.putThread ended s).putThread idle s).putThread { idle with worker := .waiting }
        (s.complete call outcome)) :=
    step?_eq (putThread_self own) rfl
  refine ⟨v.putThread ended s, step?_eq there ends, rfl, ?_⟩
  show (Deed.run (Deed.run (v.putThread ended s) (.step id)) (.step id)).shared = _
  simp only [Deed.run, frees, tells, Option.getD_some]
  rfl

/-- **Boxing depends on the field.** Take a debuggee after any deeds, and any primitive. -/
theorem boxing_depends_on_the_field (ds : List Deed) (p : Primitive) :
    let v := fresh.after ds
    ∃ c, v.shared.class? p.kind.holderClass = some c ∧
      -- If the class that is loaded has the field, the controller and the caller get the holder.
      (c.HasField "value" →
        (v.launched = true → ∃ o w, (boxValue p).run v = (.ok o, w) ∧ Boxed v p o w) ∧
        ∀ id call, v.Returning id call p → ∃ o w, v.step? id = some w ∧ Boxed v p o w ∧
          (w.after [.step id, .step id]).shared = w.shared.complete call (.success (some o))) ∧
      -- If not, they get an error and an exception, and there is a new object nevertheless.
      (¬ c.HasField "value" →
        (v.launched = true → ∃ o w,
          (boxValue p).run v = (.error (.classNotFound p.kind.holderClass), w) ∧
          v.shared.heap.Gains o c.blank w.shared.heap) ∧
        ∀ id call, v.Returning id call p → ∃ o w, v.step? id = some w ∧
          v.shared.heap.Gains o c.blank w.shared.heap ∧
          (w.after [.step id, .step id]).shared =
            w.shared.complete call (.exception .internal)) := by
  intro v
  have sound : v.Sound := (sound_fresh.after ds).sound
  obtain ⟨c, loaded, -⟩ := holder_loaded ds p.kind
  refine ⟨c, loaded, ?_, ?_⟩
  · intro field
    obtain ⟨o, heap, boxed, held⟩ := sound.box loaded field
    constructor
    · intro up
      refine ⟨o, v.withHeap heap, ?_, held _ rfl⟩
      rw [run_boxValue up, boxed]
      rfl
    · intro id call returning
      obtain ⟨w, step, shared, told⟩ := sound.step_returning returning
      simp only [Thread.adapt, boxed] at shared told
      exact ⟨o, w, step, held w (by rw [shared]), told⟩
  · intro noField
    obtain ⟨o, heap, refused, gains⟩ := sound.box_refused loaded noField
    constructor
    · intro up
      refine ⟨o, v.withHeap heap, ?_, gains⟩
      rw [run_boxValue up, refused]
      rfl
    · intro id call returning
      obtain ⟨w, step, shared, told⟩ := sound.step_returning returning
      simp only [Thread.adapt, refused] at shared told
      exact ⟨o, w, step, by rw [shared]; exact gains, told⟩

/-- A task that does nothing but return 5, up to where it does so. -/
def answering : List Deed :=
  [.launch, .submit 1 (.body (.done (.ok (.primitive (.int 5))))), .step 1, .step 1]

/-- A class without fields in place of the one for ints. -/
def fieldless : Deed := .define (.empty "tether.runtime.IntResult" .plain)

theorem answering_returns : (fresh.after answering).Returning 1 1 (.int 5) :=
  ⟨_, rfl, rfl⟩

theorem replaced_returns : (fresh.after (fieldless :: answering)).Returning 1 1 (.int 5) :=
  ⟨_, rfl, rfl⟩

/-- Five is boxed in either way, and in neither if the class is replaced. -/
theorem five_is_boxed :
    (∃ o w, (boxValue (.int 5)).run (fresh.after answering) = (.ok o, w) ∧
      Boxed (fresh.after answering) (.int 5) o w) ∧
    (∃ o w, (fresh.after answering).step? 1 = some w ∧ Boxed (fresh.after answering) (.int 5) o w ∧
      (w.after [.step 1, .step 1]).shared = w.shared.complete 1 (.success (some o))) ∧
    (∃ w, (boxValue (.int 5)).run (fresh.after (fieldless :: answering)) =
      (.error (.classNotFound "tether.runtime.IntResult"), w)) ∧
    ∃ w, (fresh.after (fieldless :: answering)).step? 1 = some w ∧
      (w.after [.step 1, .step 1]).shared = w.shared.complete 1 (.exception .internal) := by
  obtain ⟨c, loaded, held, -⟩ := boxing_depends_on_the_field answering (.int 5)
  obtain ⟨d, replaced, -, refused⟩ := boxing_depends_on_the_field (fieldless :: answering) (.int 5)
  have field : ∀ c ∈ (fresh.after answering).shared.class? "tether.runtime.IntResult",
      c.HasField "value" := by
    decide +kernel
  have noField : ∀ c ∈ (fresh.after (fieldless :: answering)).shared.class?
      "tether.runtime.IntResult", ¬ c.HasField "value" := by
    decide +kernel
  obtain ⟨byController, byTask⟩ := held (field c loaded)
  obtain ⟨notByController, notByTask⟩ := refused (noField d replaced)
  obtain ⟨-, w, error, -⟩ := notByController (by decide +kernel)
  obtain ⟨-, w', step, -, told⟩ := notByTask 1 1 replaced_returns
  exact ⟨byController (by decide +kernel), byTask 1 1 answering_returns, ⟨w, error⟩, w', step, told⟩

/-- **A refused boxing leaves an object,** empty and under a number that nobody was given. -/
theorem refused_boxing_leaves_an_object :
    let v := fresh.after [.launch, fieldless]
    ∃ w, (boxValue (.int 5)).run v = (.error (.classNotFound "tether.runtime.IntResult"), w) ∧
      v.shared.heap.size = 0 ∧ w.shared.heap.size = 1 ∧
      (objectFields 1).run v = (.error (.invalidObjectId 1), v) ∧
      (objectFields 1).run w = (.ok [], w) :=
  ⟨_, rfl, by decide +kernel, by decide +kernel, rfl, rfl⟩

end Vm

end Debugger
