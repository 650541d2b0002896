import Debugger.Proofs.Debuggee.Parameters
import Debugger.Proofs.Debuggee.Shutdown
import Debugger.Proofs.Debuggee.Stores
/-!
# What is in a field

The heap keeps the fields of an object as a list, in which stores change the first entry of a name.
Seen from outside it is much simpler. The stores that a debuggee undergoes are a list, and a field
holds the last one that was made there, or the default of its type if there is none. Whatever else
happened in between, other stores and the loading of classes among it, does not count.

* `Vm.Deed.remade` - what a deed does to objects: it drops them all, or it does what a step does.
* `Vm.stores` - the stores of a history. A store into a field that is not there is none.
* `Vm.field_holds_last_store` - what is in a field after any history.
* `Vm.made_of`, `Vm.MadeOf.unique` - the class an object goes by is the one it was made of, and of
  the versions of a class this is one. Loading another comes too late for it, even if the object was
  only asked for by then.

## 1. What a deed does to objects

## 2. Objects that hold what was stored

## 3. Histories

## 4. The class an object was made of
-/

namespace Debugger

open Std (TreeMap)

/-! ## 1. What a deed does to objects -/

namespace Vm

variable {v w : Vm} {d : Deed}

/-- The store into a field that a deed makes, if it makes one. -/
def Deed.store? (v : Vm) : Deed → Option Heap.Store
  | boxValue p => if v.launched then v.shared.boxing? p else none
  | step id => v.threads[id]?.bind (·.store? v.shared)
  | _ => none

/-- The call that a deed makes for a controller: it is a step of the thread that was given it. -/
def Deed.starts? (v : Vm) : Deed → Option CallId
  | step id => v.threads[id]?.bind Thread.starts?
  | _ => none

theorem Deed.starts?_step {id : ThreadId} {t : Thread} (there : v.threads[id]? = some t) :
    Deed.starts? v (.step id) = t.starts? := by
  show v.threads[id]?.bind Thread.starts? = _
  rw [there]
  rfl

/-- A class that a deed may make an object of. If the deed makes a controller's call, a thread was
given the class with it, and else the class is loaded. -/
def Supplies (v : Vm) (d : Deed) (c : ClassDef) : Prop :=
  match d.starts? v with
  | some call => ∃ (id : ThreadId) (t : Thread) (k : Option Method) (args : List Value),
      v.threads[id]? = some t ∧ t.HasTask call (.invoke (.construct c k args))
  | none => v.shared.Offers c

theorem Change.objects_kept (c : Change v d w) (steps : ∀ id, d ≠ .step id)
    (maker : d.makesObject = false) (down : d ≠ .shutdown) :
    w.shared.heap.objects = v.shared.heap.objects := by
  cases c with
  | steps => exact absurd rfl (steps _)
  | allocates up makes =>
    rw [makes] at maker
    cases maker
  | shutsDown => exact absurd rfl down
  | @asks d id t t' s' there asked lastCall => exact congrArg Heap.objects asked.shared.2.1
  | launches idle =>
    rw [launch_heap idle]
    exact (foldl_initStatics_kept _ _).1
  | installs there stored => exact (Heap.setStatic?_kept stored).2.1
  | takes full emptied => exact (Heap.setStatic?_kept emptied).2.1
  | idle | defines | spawns | releases | setsBreakpoint | clearsBreakpoint | breaksOnUncaught => rfl

theorem newString_remade (text : String) (v : Vm) :
    v.shared.Remade v.shared.Offers none ((newString text).run v).2.shared := by
  unfold newString
  rcases reads_requireLaunched.cases _ v with ⟨e, -, eq⟩ | ⟨_, -, eq⟩
  · rw [eq]
    exact .kept rfl
  · rw [eq]
    exact v.shared.newString_remade text

theorem boxValue_remade (p : Primitive) (v : Vm) :
    v.shared.Remade v.shared.Offers (Deed.store? v (.boxValue p))
      ((boxValue p).run v).2.shared := by
  cases up : v.launched with
  | true =>
    rw [run_boxValue up, Deed.store?, up]
    exact v.shared.box_remade p
  | false =>
    have refused : (boxValue p).run v = (.error .notLaunched, v) := by
      unfold boxValue
      refine Action.run_bind_error ?_
      show (if !v.launched then throw .notLaunched else pure () : Op Unit).run v = _
      rw [up]
      rfl
    rw [refused, Deed.store?, up]
    exact .kept rfl

theorem step_remade (id : ThreadId) (v : Vm) :
    v.shared.Remade (v.Supplies (.step id)) (Deed.store? v (.step id))
      (Deed.run v (.step id)).shared := by
  show v.shared.Remade _ (v.threads[id]?.bind (·.store? v.shared)) ((v.step? id).getD v).shared
  cases there : v.threads[id]? with
  | none =>
    have stays : v.step? id = none := by
      unfold step?
      rw [there]
      rfl
    rw [stays]
    exact .kept rfl
  | some t =>
    rw [Option.bind_some]
    cases step : t.step v.shared with
    | none =>
      have stays : v.step? id = none := by
        unfold step?
        rw [there]
        simp only [Option.bind_eq_bind, Option.bind_some, step, Option.bind_none]
      rw [stays, Thread.store?_of_stuck step]
      exact .kept rfl
    | some r =>
      obtain ⟨t', s'⟩ := r
      rw [step?_eq there step]
      obtain ⟨g, grows, objects⟩ := Thread.step_remade step
      refine ⟨g, grows.mono fun c supplied => ?_, objects⟩
      unfold Thread.Supplies at supplied
      unfold Supplies
      rw [Deed.starts?_step there]
      cases starts : t.starts? with
      | some call =>
        rw [starts] at supplied
        obtain ⟨k, args, task⟩ := supplied
        exact ⟨id, t, k, args, there, task⟩
      | none =>
        rw [starts] at supplied
        exact supplied

/-- **What a deed makes of the objects:** it drops them all, or one may come, and after that there
may be a store. -/
theorem Deed.remade (d : Deed) (v : Vm) : (d.run v).shared.heap.objects = ∅ ∨
    v.shared.Remade (v.Supplies d) (d.store? v) (d.run v).shared := by
  have kept (steps : ∀ id, d ≠ .step id) (maker : d.makesObject = false)
      (down : d ≠ .shutdown) : v.shared.Remade (v.Supplies d) none (d.run v).shared :=
    .kept ((d.change v).objects_kept steps maker down)
  cases d with
  | newString text => exact .inr (newString_remade text v)
  | boxValue p => exact .inr (boxValue_remade p v)
  | step id => exact .inr (step_remade id v)
  | shutdown =>
    cases up : v.launched with
    | true =>
      left
      show v.shutdown.shared.heap.objects = ∅
      rw [shutdown_eq up]
      rfl
    | false =>
      right
      show v.shared.Remade _ _ v.shutdown.shared
      rw [shutdown_of_down up]
      exact .kept rfl
  | _ => exact .inr (kept nofun rfl nofun)

end Vm

/-! ## 2. Objects that hold what was stored -/

namespace Heap

variable {h h' g : Heap} {From : ClassDef → Prop} {sts : List Store} {st : Store} {id : ObjectId}
  {o : HeapObject}

/-- The value that was stored last into a field of an object. -/
def lastStored (id : ObjectId) (field : String) (sts : List Store) : Option Value :=
  (sts.reverse.find? fun st => st.object = id ∧ st.field = field).map (·.value)

theorem lastStored_append (id : ObjectId) (field : String) (sts : List Store) (st : Store) :
    lastStored id field (sts ++ [st]) =
      if st.object = id ∧ st.field = field then some st.value else lastStored id field sts := by
  unfold lastStored
  rw [List.reverse_append]
  by_cases here : st.object = id ∧ st.field = field
  · simp [here]
  · simp [here]

theorem lastStored_none (field : String) (others : ∀ st ∈ sts, st.object ≠ id) :
    lastStored id field sts = none := by
  unfold lastStored
  rw [Option.map_eq_none_iff, List.find?_eq_none]
  intro st member
  have other := others st (List.mem_reverse.mp member)
  simp [other]

theorem field?_congr (objects : h'.objects = h.objects) (id : ObjectId) (field : String) :
    h'.field? id field = h.field? id field := by
  unfold field? object?
  rw [objects]

theorem field?_of_object? (there : h.object? id = some o) (field : String) :
    h.field? id field = o.fields.lookup field := by
  unfold field?
  rw [there]
  rfl

/-- An object has the fields it was made with. In each is what was stored there last, or what was
there when it was made. -/
structure Holds (o : HeapObject) (id : ObjectId) (sts : List Store) : Prop where
  names : o.fields.map (·.1) = o.pristine.fields.map (·.1)
  values : ∀ field, o.fields.lookup field =
    (o.pristine.fields.lookup field).map fun initial => (lastStored id field sts).getD initial

/-- The objects of a heap hold what was stored, and nothing was stored into those to come. -/
structure Records (h : Heap) (sts : List Store) : Prop where
  stored : ∀ st ∈ sts, st.object ≤ h.lastId
  holds : ∀ id o, h.object? id = some o → Holds o id sts

/-- A new object holds what it was made with, for nothing was stored into it yet. -/
theorem Records.grows (records : h.Records sts) (grows : h.Grows From g)
    (there : g.object? id = some o) : Holds o id sts := by
  unfold object? at there
  cases grows with
  | same objects =>
    rw [objects] at there
    exact records.holds id o there
  | made o' new supplied objects =>
    rw [objects, TreeMap.getElem?_insert] at there
    split at there
    · next same =>
      rw [Std.compare_eq_iff_eq] at same
      cases there
      refine ⟨by rw [new], fun field => ?_⟩
      have none : lastStored id field sts = none := lastStored_none field fun st member =>
        same ▸ Nat.ne_of_lt (Nat.lt_succ_of_le (records.stored st member))
      simp [none, new]
    · exact records.holds id o there

/-- A store changes one value of one object, and it is the last one there. -/
theorem Holds.put (holds : Holds o st.object sts) :
    Holds { o with fields := storeField st.field st.value o.fields } st.object (sts ++ [st]) where
  names := (map_fst_storeField st.field st.value o.fields).trans holds.names
  values field := by
    show _ = (o.pristine.fields.lookup field).map _
    rw [lookup_storeField, holds.values, lastStored_append]
    by_cases here : field = st.field
    · simp [here, Function.comp_def]
    · simp [here, Ne.symm here]

theorem Holds.elsewhere (holds : Holds o id sts) (other : st.object ≠ id) :
    Holds o id (sts ++ [st]) where
  names := holds.names
  values field := by
    rw [holds.values, lastStored_append, if_neg fun same => other same.1]

/-- A store that came to something, as one can tell afterwards: the field is there. -/
def effective (h : Heap) (st : Option Store) : List Store :=
  st.toList.filter fun st => (h.field? st.object st.field).isSome

theorem holds_puts (holds : ∀ id o, g.object? id = some o → Holds o id sts) (st : Option Store)
    (objects : h'.objects = (g.puts st).objects) (there : h'.object? id = some o) :
    Holds o id (sts ++ h'.effective st) := by
  unfold object? at there
  rw [objects] at there
  cases st with
  | none =>
    rw [show h'.effective none = [] from rfl, List.append_nil]
    exact holds id o there
  | some st =>
    replace there : (g.put st).objects[id]? = some o := there
    rcases g.put_cases st with ⟨missing, same⟩ | ⟨o', old, known, held, changed⟩
    · have kept : h'.objects = g.objects := objects.trans (congrArg Heap.objects same)
      have none : h'.effective (some st) = [] := by
        simp [effective, field?_congr kept, missing]
      rw [same] at there
      rw [none, List.append_nil]
      exact holds id o there
    · rw [changed, TreeMap.getElem?_insert] at there
      have one : h'.effective (some st) = [st] := by
        have present : h'.field? st.object st.field ≠ none := by
          replace objects : h'.objects = (g.put st).objects := objects
          unfold field? object?
          rw [objects, changed, TreeMap.getElem?_insert_self]
          simp [lookup_storeField, held]
        simp [effective, Option.isSome_iff_ne_none, present]
      rw [one]
      split at there
      · next same =>
        rw [Std.compare_eq_iff_eq] at same
        subst same
        cases there
        exact (holds st.object o' known).put
      · next other =>
        rw [Std.compare_eq_iff_eq] at other
        exact (holds id o there).elsewhere other

end Heap

/-! ## 3. Histories -/

namespace Vm

/-- The stores into fields that come of some deeds, in order. -/
def stores (v : Vm) : List Deed → List Heap.Store
  | [] => []
  | d :: ds => (d.run v).shared.heap.effective (d.store? v) ++ (d.run v).stores ds

theorem stores_append (v : Vm) (ds es : List Deed) :
    v.stores (ds ++ es) = v.stores ds ++ (v.after ds).stores es := by
  induction ds generalizing v with
  | nil => rfl
  | cons d ds ih =>
    rw [List.cons_append, stores, stores, ih, List.append_assoc]
    rfl

theorem Sound.records_deed {v : Vm} (sound : v.Sound) {sts : List Heap.Store}
    (records : v.shared.heap.Records sts) (d : Deed) :
    (d.run v).shared.heap.Records (sts ++ (d.run v).shared.heap.effective (d.store? v)) := by
  have on := (d.change v).onward sound
  constructor
  · intro st member
    rcases List.mem_append.mp member with old | new
    · exact Nat.le_trans (records.stored st old) on.lastId
    · have present := (List.mem_filter.mp new).2
      cases there : (d.run v).shared.heap.object? st.object with
      | none =>
        unfold Heap.field? at present
        rw [there] at present
        cases present
      | some o => exact on.sound.objects _ (getElem?_eq_some_iff.mp there).1
  · intro id o there
    rcases d.remade v with none | ⟨g, grows, objects⟩
    · unfold Heap.object? at there
      rw [none, TreeMap.getElem?_emptyc] at there
      cases there
    · exact Heap.holds_puts (fun id o => records.grows grows) (d.store? v) objects there

theorem records_after (ds : List Deed) :
    (fresh.after ds).shared.heap.Records (fresh.stores ds) := by
  induction ds using List.reverseRecOn with
  | nil =>
    refine ⟨nofun, fun id o there => ?_⟩
    have none : fresh.shared.heap.object? id = none := TreeMap.getElem?_emptyc
    cases none.symm.trans there
  | append_singleton ds d ih =>
    have step := (sound_fresh.after ds).sound.records_deed ih d
    rw [after_append, stores_append]
    simp only [stores, List.append_nil]
    exact step

variable {ds : List Deed} {id : ObjectId} {o : HeapObject}

/-- **A field holds what was stored last,** or the default of its type. -/
theorem field_holds_last_store (there : (fresh.after ds).shared.heap.object? id = some o)
    (field : String) :
    (fresh.after ds).shared.heap.field? id field = (o.declared? field).map fun type =>
      (Heap.lastStored id field (fresh.stores ds)).getD (.defaultOf type) := by
  rw [Heap.field?_of_object? there, ((records_after ds).holds id o there).values,
    o.lookup_pristine, Option.map_map]
  rfl

/-- The fields of an object are those that its class declares, in order. -/
theorem fields_are_declared (there : (fresh.after ds).shared.heap.object? id = some o)
    (plain : o.text = none) : o.fields.map (·.1) = o.classDef.instanceFields.map (·.name) := by
  rw [((records_after ds).holds id o there).names]
  unfold HeapObject.pristine
  rw [plain]
  simp [ClassDef.blank, Function.comp_def]

theorem string_has_no_fields (there : (fresh.after ds).shared.heap.object? id = some o)
    {text : String} (string : o.text = some text) : o.fields = [] := by
  have names := ((records_after ds).holds id o there).names
  unfold HeapObject.pristine at names
  rw [string] at names
  exact List.map_eq_nil_iff.mp names

/-- **Who goes through the declared fields finds what is found under the name.** -/
theorem listing_shows_fields (there : (fresh.after ds).shared.heap.object? id = some o)
    (field : String) :
    ((o.classDef.instanceFields.zip (o.fields.map (·.2))).find? fun f =>
      f.1.name = field).map (·.2) = (fresh.after ds).shared.heap.field? id field := by
  rw [Heap.field?_of_object? there]
  cases string : o.text with
  | none => exact find?_zip_declared (fields_are_declared there string) field
  | some text =>
    rw [string_has_no_fields there string, List.map_nil, List.zip_nil_right]
    rfl

/-- No value of an object is left out of a listing. -/
theorem listing_shows_values (there : (fresh.after ds).shared.heap.object? id = some o) :
    (o.classDef.instanceFields.zip (o.fields.map (·.2))).map (·.2) = o.fields.map (·.2) := by
  refine List.map_snd_zip ?_
  cases string : o.text with
  | none =>
    have long := congrArg List.length (fields_are_declared there string)
    simp only [List.length_map] at long ⊢
    exact Nat.le_of_eq long
  | some text =>
    rw [string_has_no_fields there string]
    exact Nat.zero_le _

/-! ## 4. The class an object was made of -/

/-- A class is loaded under its name. -/
def Loads (v : Vm) (c : ClassDef) : Prop := v.shared.class? c.name = some c

/-- A controller's request for an instance of a class was given this number as a call, and the class
was loaded when it was. -/
def AskedFor (ds : List Deed) (call : CallId) (c : ClassDef) : Prop :=
  ∃ earlier types args meanwhile, ds = earlier ++ .newInstance c.name types args :: meanwhile ∧
    call = (fresh.after earlier).lastCall + 1 ∧
    (fresh.after (earlier ++ [.newInstance c.name types args])).lastCall = call ∧
    (fresh.after earlier).Loads c

/-- A class is what a deed makes an object of after others. If the deed makes a controller's call,
it is the class that was loaded when this call was asked for, and else it is loaded right before the
deed. -/
def Provides (before : List Deed) (d : Deed) (c : ClassDef) : Prop :=
  match d.starts? (fresh.after before) with
  | some call => AskedFor before call c
  | none => (fresh.after before).Loads c

/-- An object came to be by one of some deeds, and this deed made it of a class. -/
def MadeOf (ds : List Deed) (id : ObjectId) (c : ClassDef) : Prop :=
  ∃ before d since, ds = before ++ d :: since ∧ id ∉ (fresh.after before).shared.heap.objects ∧
    id ∈ (fresh.after (before ++ [d])).shared.heap.objects ∧ Provides before d c

variable {c : ClassDef} {d : Deed}

theorem stringClass_loaded (ds : List Deed) :
    (fresh.after ds).shared.class? stringClass.name ≠ none := by
  have standard : stringClass ∈ standardClasses :=
    List.mem_append_left _ (List.mem_append_left _ List.mem_cons_self)
  have first : stringClass.name ∈ fresh.shared.classes := by
    rw [fresh_eq]
    exact loaded_of_define standard
  exact fun none => (getElem?_eq_none_iff _ _).mp none (loaded_after ds first)

theorem loads_of_class? {name : String}
    (there : (fresh.after ds).shared.class? name = some c) : (fresh.after ds).Loads c := by
  obtain rfl : c.name = name := (sound_fresh.after ds).sound.classes name c there
  exact there

theorem askedFor_of_hasTask (bodies : ∀ d ∈ ds, d.SubmitsBodies) {i : ThreadId} {t : Thread}
    {call : CallId} {k : Option Method} {args : List Value}
    (there : (fresh.after ds).threads[i]? = some t)
    (task : t.HasTask call (.invoke (.construct c k args))) : AskedFor ds call c := by
  obtain ⟨before, d, later, rfl, named, number, counted⟩ := tasks_after ds i t there call _ task
  have inside : d ∈ before ++ d :: later := List.mem_append_right _ List.mem_cons_self
  cases Deed.task?_starts (bodies d inside) named with
  | @construct className types _ _ _ loaded =>
    obtain rfl : c.name = className := (sound_fresh.after before).sound.classes _ c loaded
    exact ⟨before, types, args, later, rfl, number, counted, loaded⟩

theorem Supplies.provides (bodies : ∀ d ∈ ds, d.SubmitsBodies)
    (supplied : (fresh.after ds).Supplies d c) : Provides ds d c := by
  unfold Supplies at supplied
  unfold Provides
  cases starts : d.starts? (fresh.after ds) with
  | some call =>
    rw [starts] at supplied
    obtain ⟨i, t, k, args, there, task⟩ := supplied
    exact askedFor_of_hasTask bodies there task
  | none =>
    rw [starts] at supplied
    rcases supplied with ⟨name, there⟩ | ⟨absent, -⟩
    · exact loads_of_class? there
    · exact absurd absent (stringClass_loaded ds)

theorem MadeOf.later (made : MadeOf ds id c) (d : Deed) : MadeOf (ds ++ [d]) id c := by
  obtain ⟨before, e, since, rfl, made⟩ := made
  exact ⟨before, e, since ++ [d], by simp, made⟩

/-- **Every object was made of its class.** -/
theorem made_of (bodies : ∀ d ∈ ds, d.SubmitsBodies)
    (there : (fresh.after ds).shared.heap.object? id = some o) : MadeOf ds id o.classDef := by
  induction ds using List.reverseRecOn generalizing o with
  | nil =>
    have none : fresh.shared.heap.object? id = none := TreeMap.getElem?_emptyc
    cases none.symm.trans there
  | append_singleton ds d ih =>
    have bodies' : ∀ e ∈ ds, e.SubmitsBodies := fun e he => bodies e (List.mem_append_left _ he)
    have inside : id ∈ (fresh.after (ds ++ [d])).shared.heap.objects :=
      (getElem?_eq_some_iff.mp there).1
    rw [after_append] at there
    replace there : (d.run (fresh.after ds)).shared.heap.objects[id]? = some o := there
    rcases d.remade (fresh.after ds) with none | ⟨g, grows, objects⟩
    · rw [none, TreeMap.getElem?_emptyc] at there
      cases there
    rw [objects] at there
    obtain ⟨o', there, same⟩ := Heap.classDef_puts there
    rw [← same]
    replace there : g.objects[id]? = some o' := there
    cases grows with
    | same objects =>
      rw [objects] at there
      exact (ih bodies' there).later d
    | made new pristine supplied objects =>
      rw [objects, TreeMap.getElem?_insert] at there
      split at there
      · next same =>
        rw [Std.compare_eq_iff_eq] at same
        cases there
        refine ⟨ds, d, [], rfl, fun old => ?_, inside, Supplies.provides bodies' supplied⟩
        have counted := (sound_fresh.after ds).sound.objects id old
        exact absurd (same ▸ counted) (Nat.not_succ_le_self _)
      · exact (ih bodies' there).later d

/-- The class of an object stays loaded under its name, if only in another version. -/
theorem class_stays_loaded (bodies : ∀ d ∈ ds, d.SubmitsBodies)
    (there : (fresh.after ds).shared.heap.object? id = some o) :
    o.classDef.name ∈ (fresh.after ds).shared.classes := by
  have later {es fs : List Deed} (loaded : (fresh.after es).Loads o.classDef) :
      o.classDef.name ∈ (fresh.after (es ++ fs)).shared.classes := by
    rw [after_append]
    exact loaded_after fs (getElem?_eq_some_iff.mp loaded).1
  obtain ⟨before, d, since, rfl, -, -, provides⟩ := made_of bodies there
  unfold Provides at provides
  cases starts : d.starts? (fresh.after before) with
  | some call =>
    rw [starts] at provides
    obtain ⟨earlier, types, args, meanwhile, rfl, -, -, loaded⟩ := provides
    rw [List.append_assoc]
    exact later loaded
  | none =>
    rw [starts] at provides
    exact later provides

/-- A count that never goes back passes a number only once. -/
theorem passes_once {count : List Deed → Nat} (rises : ∀ ds es, count ds ≤ count (ds ++ es))
    {n : Nat} {before before' since since' : List Deed} {d d' : Deed}
    (split : before ++ d :: since = before' ++ d' :: since')
    (below : count before < n) (passed : n ≤ count (before ++ [d]))
    (below' : count before' < n) (passed' : n ≤ count (before' ++ [d'])) :
    before = before' ∧ d = d' := by
  have stays {es : List Deed} {e : Deed} (passed : n ≤ count (es ++ [e])) (more : List Deed) :
      n ≤ count (es ++ e :: more) := Nat.le_trans passed (by simpa using rises (es ++ [e]) more)
  rcases List.append_eq_append_iff.mp split with ⟨more, rfl, tail⟩ | ⟨more, rfl, tail⟩
  · cases more with
    | nil => exact ⟨(List.append_nil _).symm, (List.cons.inj tail).1⟩
    | cons e more =>
      obtain ⟨rfl, -⟩ := List.cons.inj tail
      exact absurd below' (Nat.not_lt_of_le (stays passed more))
  · cases more with
    | nil => exact ⟨List.append_nil _, (List.cons.inj tail).1.symm⟩
    | cons e more =>
      obtain ⟨rfl, -⟩ := List.cons.inj tail
      exact absurd below (Nat.not_lt_of_le (stays passed' more))

theorem Loads.unique {v : Vm} {c' : ClassDef} (loads : v.Loads c) (loads' : v.Loads c')
    (same : c.name = c'.name) : c = c' := by
  unfold Loads at loads loads'
  rw [same] at loads
  exact Option.some.inj (loads.symm.trans loads')

theorem AskedFor.unique {call : CallId} {c' : ClassDef} (asked : AskedFor ds call c)
    (asked' : AskedFor ds call c') : c = c' := by
  obtain ⟨earlier, types, args, meanwhile, rfl, number, counted, loaded⟩ := asked
  obtain ⟨earlier', types', args', meanwhile', split, number', counted', loaded'⟩ := asked'
  have rises (ds es : List Deed) :
      (fresh.after ds).lastCall ≤ (fresh.after (ds ++ es)).lastCall := by
    rw [after_append]
    exact (sound_fresh.after ds).sound.lastCall_le es
  obtain ⟨rfl, request⟩ := passes_once rises split (number ▸ Nat.lt_succ_self _)
    (Nat.le_of_eq counted.symm) (number' ▸ Nat.lt_succ_self _) (Nat.le_of_eq counted'.symm)
  exact loaded.unique loaded' (Deed.newInstance.inj request).1

/-- An object comes to be when its number is given out. -/
theorem lastId_passes (absent : id ∉ (fresh.after ds).shared.heap.objects)
    (present : id ∈ (fresh.after (ds ++ [d])).shared.heap.objects) :
    (fresh.after ds).shared.heap.lastId < id ∧
      id ≤ (fresh.after (ds ++ [d])).shared.heap.lastId := by
  rw [after_append] at present ⊢
  have on := (sound_fresh.after ds).sound.after [d]
  exact ⟨(on.objects id present).resolve_left absent, on.sound.objects id present⟩

/-- **An object was made of one class:** of all the versions that go by its name, one. -/
theorem MadeOf.unique {c' : ClassDef} (made : MadeOf ds id c) (made' : MadeOf ds id c')
    (same : c.name = c'.name) : c = c' := by
  obtain ⟨before, d, since, rfl, absent, present, provides⟩ := made
  obtain ⟨before', d', since', split, absent', present', provides'⟩ := made'
  have rises (ds es : List Deed) :
      (fresh.after ds).shared.heap.lastId ≤ (fresh.after (ds ++ es)).shared.heap.lastId := by
    rw [after_append]
    exact ((sound_fresh.after ds).sound.after es).lastId
  obtain ⟨rfl, rfl⟩ := passes_once rises split (lastId_passes absent present).1
    (lastId_passes absent present).2 (lastId_passes absent' present').1
    (lastId_passes absent' present').2
  unfold Provides at provides provides'
  cases starts : d.starts? (fresh.after before) with
  | some call =>
    rw [starts] at provides provides'
    exact provides.unique provides'
  | none =>
    rw [starts] at provides provides'
    exact provides.unique provides' same

end Vm

end Debugger
