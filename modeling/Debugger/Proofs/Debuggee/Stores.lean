import Debugger.Proofs.Debuggee.Boxing
import Debugger.Proofs.Debuggee.Tasks
/-!
# What threads do to objects

An object comes to be with every field at the default of its type, and from then on nothing but a
store into one of its fields changes it. This file follows a thread through one step and says which
object may come of it and which store is made, so that the contents of a field can be told from the
stores alone.

* `HeapObject.pristine` - an object as it was when it was made.
* `Heap.Grows`, `Heap.puts` - at most one object comes, and after that at most one store is made.
* `Thread.store?` - the store that comes with a step. It is read off what the thread is about to do,
  and says nothing of how the heap keeps it.
* `Thread.step_remade` - these are all that a step does to objects.

## 1. Fields of an object

## 2. Stores

## 3. Steps
-/

namespace Debugger

open Std (TreeMap)

/-! ## 1. Fields of an object -/

theorem map_fst_storeField (name : String) (value : Value) (fs : List (String × Value)) :
    (storeField name value fs).map (·.1) = fs.map (·.1) := by
  induction fs with
  | nil => rfl
  | cons f fs ih =>
    by_cases here : f.1 = name
    · simp [storeField, here]
    · simp [storeField, here, ih]

theorem lookup_storeField (name : String) (value : Value) (fs : List (String × Value))
    (field : String) : (storeField name value fs).lookup field =
      if field = name then (fs.lookup field).map fun _ => value else fs.lookup field := by
  induction fs with
  | nil => split <;> rfl
  | cons f fs ih =>
    obtain ⟨n, old⟩ := f
    by_cases stored : n = name
    · subst stored
      by_cases asked : field = n
      · simp [storeField, asked]
      · have other : (field == n) = false := beq_eq_false_iff_ne.mpr asked
        simp [storeField, List.lookup_cons, asked, other]
    · by_cases asked : field = n
      · subst asked
        simp [storeField, stored]
      · have other : (field == n) = false := beq_eq_false_iff_ne.mpr asked
        simp only [storeField, if_neg stored, List.lookup_cons, other, ih]

/-- A reader who goes through the declared fields finds what is found under the name. -/
theorem find?_zip_declared {infos : List FieldInfo} {fs : List (String × Value)}
    (aligned : fs.map (·.1) = infos.map (·.name)) (field : String) :
    ((infos.zip (fs.map (·.2))).find? fun f => f.1.name = field).map (·.2) = fs.lookup field := by
  induction infos generalizing fs with
  | nil =>
    obtain rfl : fs = [] := List.map_eq_nil_iff.mp aligned
    rfl
  | cons info infos ih =>
    cases fs with
    | nil => cases aligned
    | cons f fs =>
      obtain ⟨name, value⟩ := f
      obtain ⟨rfl, rest⟩ := List.cons.inj aligned
      by_cases here : info.name = field
      · simp [here]
      · have other : (field == info.name) = false := beq_eq_false_iff_ne.mpr (Ne.symm here)
        simp only [List.map_cons, List.zip_cons_cons, List.find?_cons, here, decide_false,
          List.lookup_cons, other, ih rest]

namespace HeapObject

/-- The object as it was when it was made. -/
def pristine (o : HeapObject) : HeapObject :=
  match o.text with
  | some _ => { o with fields := [] }
  | none => o.classDef.blank

/-- The type that is declared for a field, if the object has it. The first field of a name counts,
and a string has none. -/
def declared? (o : HeapObject) (field : String) : Option String :=
  match o.text with
  | some _ => none
  | none => (o.classDef.instanceFields.find? (·.name = field)).map (·.typeName)

variable {o : HeapObject}

theorem lookup_pristine (o : HeapObject) (field : String) :
    o.pristine.fields.lookup field = (o.declared? field).map Value.defaultOf := by
  unfold pristine declared?
  cases o.text with
  | some text => rfl
  | none =>
    simp only [ClassDef.blank]
    induction o.classDef.instanceFields with
    | nil => rfl
    | cons f fs ih =>
      by_cases here : f.name = field
      · simp [here]
      · have other : (field == f.name) = false := beq_eq_false_iff_ne.mpr (Ne.symm here)
        simp only [List.map_cons, List.lookup_cons, other, ih, List.find?_cons, here, decide_false]

end HeapObject

/-! ## 2. Stores -/

namespace Heap

/-- A value is stored into a field. -/
structure Store where
  object : ObjectId
  field : String
  value : Value
  deriving DecidableEq, Repr

/-- The heap after a store. Nothing happens if the field is not there. -/
def put (h : Heap) (st : Store) : Heap := (h.setField? st.object st.field st.value).getD h

/-- The heap after a store, if there is one. -/
def puts (h : Heap) (st : Option Store) : Heap := st.elim h h.put

/-- At most one object comes to a heap, as it is when it is made, under the number that is next. -/
inductive Grows (h : Heap) (From : ClassDef → Prop) : Heap → Prop
  | same {g : Heap} (objects : g.objects = h.objects) : Grows h From g
  | made {g : Heap} (o : HeapObject) (new : o.pristine = o) (supplied : From o.classDef)
      (objects : g.objects = h.objects.insert (h.lastId + 1) o) : Grows h From g

variable {h g : Heap} {From : ClassDef → Prop}

theorem put_cases (h : Heap) (st : Store) :
    (h.field? st.object st.field = none ∧ h.put st = h) ∨
      ∃ o old, h.object? st.object = some o ∧ o.fields.lookup st.field = some old ∧
        (h.put st).objects = h.objects.insert st.object
          { o with fields := storeField st.field st.value o.fields } := by
  unfold put field? setField?
  cases there : h.object? st.object with
  | none => exact .inl ⟨rfl, rfl⟩
  | some o =>
    cases held : o.fields.lookup st.field with
    | none =>
      left
      simp [held]
    | some old =>
      right
      refine ⟨o, old, rfl, held, ?_⟩
      simp [held]

/-- A store changes the class of no object. -/
theorem classDef_puts {st : Option Store} {id : ObjectId} {o : HeapObject}
    (there : (g.puts st).object? id = some o) :
    ∃ o', g.object? id = some o' ∧ o'.classDef = o.classDef := by
  cases st with
  | none => exact ⟨o, there, rfl⟩
  | some st =>
    replace there : (g.put st).objects[id]? = some o := there
    rcases g.put_cases st with ⟨-, same⟩ | ⟨o', old, known, -, changed⟩
    · rw [same] at there
      exact ⟨o, there, rfl⟩
    · rw [changed, TreeMap.getElem?_insert] at there
      split at there
      · next here =>
        rw [Std.compare_eq_iff_eq] at here
        subst here
        cases there
        exact ⟨o', known, rfl⟩
      · exact ⟨o, there, rfl⟩

theorem allocate_grows {c : ClassDef} (supplied : From c) : h.Grows From (h.allocate c).2 :=
  .made c.blank rfl supplied rfl

theorem Grows.mono {From' : ClassDef → Prop} (grows : h.Grows From g)
    (more : ∀ c, From c → From' c) : h.Grows From' g := by
  cases grows with
  | same objects => exact .same objects
  | made o new supplied objects => exact .made o new (more _ supplied) objects

end Heap

/-! ## 3. Steps -/

namespace Shared

variable {s s' : Shared} {From : ClassDef → Prop}

/-- A class that is loaded, or the one of strings if none is loaded under its name. -/
def Offers (s : Shared) (c : ClassDef) : Prop :=
  (∃ name, s.class? name = some c) ∨ s.class? stringClass.name = none ∧ c = stringClass

/-- The store into a holder that comes with boxing: the holder is the object that is made next. -/
def boxing? (s : Shared) (p : Primitive) : Option Heap.Store :=
  (s.class? p.kind.holderClass).map fun _ => ⟨s.heap.lastId + 1, "value", .primitive p⟩

/-- What becomes of the objects: one may be made, and after that there may be a store. -/
def Remade (s : Shared) (From : ClassDef → Prop) (st : Option Heap.Store) (s' : Shared) : Prop :=
  ∃ g, s.heap.Grows From g ∧ s'.heap.objects = (g.puts st).objects

theorem Remade.kept (objects : s'.heap.objects = s.heap.objects) : s.Remade From none s' :=
  ⟨s'.heap, .same objects, rfl⟩

theorem newString_remade (s : Shared) (text : String) :
    s.Remade s.Offers none (s.newString text).2 := by
  refine ⟨(s.newString text).2.heap, .made _ rfl ?_ rfl, rfl⟩
  show s.Offers ((s.class? stringClass.name).getD stringClass)
  cases there : s.class? stringClass.name with
  | none => exact .inr ⟨there, rfl⟩
  | some c => exact .inl ⟨_, there⟩

theorem box_remade (s : Shared) (p : Primitive) : s.Remade s.Offers (s.boxing? p) (s.box p).2 := by
  cases there : s.class? p.kind.holderClass with
  | none =>
    unfold boxing? box
    rw [there]
    exact .kept rfl
  | some c =>
    refine ⟨(s.heap.allocate c).2, Heap.allocate_grows (.inl ⟨_, there⟩), ?_⟩
    unfold boxing?
    rw [there, Vm.box_loaded there]
    show _ = ((s.heap.allocate c).2.put ⟨(s.heap.allocate c).1.id, "value", .primitive p⟩).objects
    unfold Heap.put
    cases (s.heap.allocate c).2.setField? (s.heap.allocate c).1.id "value" (.primitive p) <;> rfl

/-- The store into a field that comes with running a body up to and through its next request. -/
def storeOf? (s : Shared) (callers : List (Except Thrown Value → Body)) : Body → Option Heap.Store
  | .ask (.setField object field value) _ => some ⟨object, field, value⟩
  | .done (.ok (.primitive p)) => if callers.isEmpty then s.boxing? p else none
  | _ => none

theorem resolve_construct {call : Call} {c : ClassDef} {k : Option Method} {args : List Value}
    (resolved : s.resolve call = .ok (.construct c k args)) : s.Offers c := by
  cases call with
  | construct className values =>
    simp only [resolve] at resolved
    split at resolved
    · cases resolved
    · next there =>
      split at resolved
      · cases resolved
        exact .inl ⟨_, there⟩
      · cases resolved
  | static =>
    simp only [resolve] at resolved
    split at resolved
    · cases resolved
    · split at resolved <;> cases resolved
  | virtual =>
    simp only [resolve] at resolved
    split at resolved
    · cases resolved
    · split at resolved <;> cases resolved

end Shared

namespace Thread

variable {t t' : Thread} {a : Activity} {s s' : Shared} {From : ClassDef → Prop}

/-- The store into a field that a thread makes with its next step. -/
def store? (t : Thread) (s : Shared) : Option Heap.Store :=
  match t.worker with
  | .busy ⟨_, .running body, callers⟩ => s.storeOf? callers body
  | _ => none

theorem store?_of_stuck (stuck : t.step s = none) : t.store? s = none := by
  unfold store?
  split
  · next working =>
    unfold Thread.step at stuck
    rw [working] at stuck
    cases stuck
  · rfl

/-- The task that a thread begins with its next step, by making the call it was given. -/
def starts? (t : Thread) : Option CallId :=
  match t.worker with
  | .busy ⟨call, .starting _, _⟩ => some call
  | _ => none

/-- A class that a thread may make an object of with its next step. If the step makes the call that
is the thread's task, the class came with the task, and else it is loaded. -/
def Supplies (t : Thread) (s : Shared) (c : ClassDef) : Prop :=
  match t.starts? with
  | some call => ∃ k args, t.HasTask call (.invoke (.construct c k args))
  | none => s.Offers c

theorem invoke_remade (i : Invocation) (next : Except Thrown Value → Body)
    (supplied : ∀ c k args, i = .construct c k args → From c) :
    s.Remade From none (t.invoke a i next s).2 := by
  cases i with
  | method c m receiver args => exact .kept rfl
  | construct c constructor args =>
    have made : s.heap.Grows From (s.heap.allocate c).2 :=
      Heap.allocate_grows (supplied c constructor args rfl)
    cases constructor <;> exact ⟨_, made, rfl⟩

theorem reachLine_heap (n : Line) (next : Except Thrown Unit → Body) :
    (t.reachLine a n next s).2.heap = s.heap := by
  unfold reachLine
  split
  · rfl
  · split
    · rfl
    · dsimp only
      split <;> rfl

theorem enter_heap (body : Body) : (t.enter a body s).2.heap = s.heap := by
  unfold enter
  split
  · rfl
  · split
    · rfl
    · dsimp only
      split <;> rfl

theorem conclude_remade (result : Except Thrown Value) :
    s.Remade s.Offers (s.storeOf? [] (.done result)) (t.conclude a result s).2 := by
  cases result with
  | ok v =>
    cases v with
    | null | void | object => exact .kept rfl
    | primitive p =>
      have boxed := s.box_remade p
      simp only [conclude, adapt]
      rcases made : s.box p with ⟨_ | o, s'⟩ <;> (rw [made] at boxed; exact boxed)
  | error thrown =>
    cases thrown with
    | threadDeath => exact .kept rfl
    | exception typeName message frames =>
      refine .kept ?_
      simp only [conclude]
      split
      · split <;> rfl
      · rfl

theorem answer_remade (q : Query) (next : q.Answer → Body)
    (callers : List (Except Thrown Value → Body)) :
    s.Remade s.Offers (s.storeOf? callers (.ask q next)) (t.answer s q).2.2 := by
  cases q with
  | setField object field value =>
    refine ⟨s.heap, .same rfl, ?_⟩
    show _ = (s.heap.put ⟨object, field, value⟩).objects
    simp only [answer, Heap.put]
    cases s.heap.setField? object field value <;> rfl
  | setStaticField className field value =>
    refine .kept ?_
    simp only [answer]
    cases stored : s.heap.setStatic? className field value with
    | none => rfl
    | some heap => exact (Heap.setStatic?_kept stored).2.1
  | newString text => exact s.newString_remade text
  | setLocal name value =>
    refine .kept ?_
    simp only [answer]
    split <;> rfl
  | receiver | depth | frames | readLocal | field | staticField | stringOf => exact .kept rfl

theorem run_remade (body : Body) :
    s.Remade s.Offers (s.storeOf? a.callers body) (t.run a body s).2 := by
  cases body with
  | done result =>
    simp only [run]
    cases a.callers with
    | nil => exact conclude_remade result
    | cons next callers =>
      have none : s.storeOf? (next :: callers) (.done result) = none := by
        rcases result with e | (_ | _ | _ | _) <;> rfl
      rw [none]
      exact .kept rfl
  | ask q next => exact answer_remade q next a.callers
  | line n next => exact .kept (congrArg Heap.objects (reachLine_heap n next))
  | call c next =>
    simp only [run]
    cases resolved : s.resolve c with
    | ok i =>
      refine invoke_remade i next fun c k args same => ?_
      subst same
      exact Shared.resolve_construct resolved
    | error e => exact .kept rfl
  | panic | park | note => exact .kept rfl

/-- **What a step makes of the objects:** one may come, and after that there may be a store. -/
theorem step_remade (step : t.step s = some (t', s')) :
    s.Remade (t.Supplies s) (t.store? s) s' := by
  by_cases free : ∀ a, t.worker ≠ .busy a
  · have none : t.store? s = none := by
      unfold store?
      split
      · next working => exact absurd working (free _)
      · rfl
    rw [none]
    exact .kept (congrArg Heap.objects (step_heap step free))
  obtain ⟨⟨call, position, callers⟩, busy⟩ := Classical.not_forall.mp free
  have working := Classical.not_not.mp busy
  unfold Thread.step at step
  unfold Supplies store? starts?
  rw [working] at step ⊢
  simp only [proceed] at step
  cases position with
  | starting i =>
    obtain rfl : (t.invoke _ i .done s).2 = s' := congrArg Prod.snd (Option.some.inj step)
    refine invoke_remade i .done fun c k args same => ?_
    subst same
    exact ⟨k, args, .starting working⟩
  | running body =>
    obtain rfl : (t.run _ body s).2 = s' := congrArg Prod.snd (Option.some.inj step)
    exact run_remade (t := t) (a := ⟨call, .running body, callers⟩) body
  | entering body =>
    obtain rfl : (t.enter _ body s).2 = s' := congrArg Prod.snd (Option.some.inj step)
    exact .kept (congrArg Heap.objects (enter_heap body))
  | atLine | atEntry | atException =>
    dsimp only at step
    split at step <;> cases step <;> exact .kept rfl
  | parked => cases step

end Thread

end Debugger
