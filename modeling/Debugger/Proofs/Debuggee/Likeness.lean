import Debugger.Proofs.Debuggee.Shutdown
/-!
# What a thread cannot tell apart

A thread learns about the heap, the classes and the breakpoints by looking things up, and what it tells
goes to the end of logs that it never reads. So two states that answer every look-up alike are one and
the same to it, however their maps came about, and it does not matter what was told before.

* `Shared.Like` - the two states. One has a past that the other has not: its logs begin with it.
* `Thread.step_like` - a thread does the same in both.

## 1. Heaps

## 2. What threads have in common

## 3. A step
-/

namespace Debugger

open Std (TreeMap)

/-! ## 1. Heaps -/

theorem rel_cases {α β : Type} {R : α → β → Prop} {x : Option α} {y : Option β}
    (h : Option.Rel R x y) : (x = none ∧ y = none) ∨ ∃ a b, x = some a ∧ y = some b ∧ R a b := by
  cases h with
  | none => exact .inl ⟨rfl, rfl⟩
  | some related => exact .inr ⟨_, _, rfl, rfl, related⟩

namespace Heap

/-- Two heaps in which the same things are found. -/
structure Like (h k : Heap) : Prop where
  lastId : h.lastId = k.lastId
  object? : ∀ id, h.object? id = k.object? id
  static? : ∀ className field, h.static? className field = k.static? className field

variable {h k h' : Heap}

theorem Like.insert (l : h.Like k) (o : HeapObject) :
    (h.insert o).1 = (k.insert o).1 ∧ (h.insert o).2.Like (k.insert o).2 := by
  refine ⟨?_, ?_, ?_, l.static?⟩
  · simp only [Heap.insert, l.lastId]
  · simp only [Heap.insert, l.lastId]
  · intro id
    show (h.objects.insert _ o)[id]? = (k.objects.insert _ o)[id]?
    rw [l.lastId, TreeMap.getElem?_insert, TreeMap.getElem?_insert]
    split
    · rfl
    · exact l.object? id

theorem Like.field? (l : h.Like k) (id : ObjectId) (name : String) :
    h.field? id name = k.field? id name := by
  simp only [Heap.field?, l.object?]

theorem Like.setField? (l : h.Like k) (id : ObjectId) (name : String) (value : Value) :
    Option.Rel Like (h.setField? id name value) (k.setField? id name value) := by
  simp only [Heap.setField?, l.object?]
  cases k.object? id with
  | none => exact .none
  | some o =>
    cases hf : o.fields.lookup name with
    | none =>
      simp only [Option.bind_eq_bind, Option.bind_some, hf]
      exact .none
    | some old =>
      simp only [Option.bind_eq_bind, Option.bind_some, hf]
      refine .some ⟨l.lastId, fun i => ?_, l.static?⟩
      show (h.objects.insert id _)[i]? = (k.objects.insert id _)[i]?
      rw [TreeMap.getElem?_insert, TreeMap.getElem?_insert]
      split
      · rfl
      · exact l.object? i

/-- A store is seen at its field and at no other. -/
theorem static?_setStatic? {className field : String} {value : Value}
    (stored : h.setStatic? className field value = some h') (c f : String) :
    h'.static? c f = if className = c ∧ field = f then some value else h.static? c f := by
  unfold Heap.setStatic? at stored
  cases hs : h.statics[className]? with
  | none =>
    rw [hs] at stored
    cases stored
  | some fields =>
    cases hf : fields[field]? with
    | none =>
      simp only [hs, Option.bind_eq_bind, Option.bind_some, hf] at stored
      cases stored
    | some old =>
      simp only [hs, Option.bind_eq_bind, Option.bind_some, hf] at stored
      cases stored
      by_cases sameClass : className = c
      · subst sameClass
        by_cases sameField : field = f
        · subst sameField
          simp [Heap.static?]
        · simp [Heap.static?, sameField, hs, TreeMap.getElem?_insert]
      · simp [Heap.static?, sameClass, TreeMap.getElem?_insert]

theorem Like.setStatic? (l : h.Like k) (className field : String) (value : Value) :
    Option.Rel Like (h.setStatic? className field value)
      (k.setStatic? className field value) := by
  cases there : k.static? className field with
  | none =>
    rw [setStatic?_eq_none there, setStatic?_eq_none ((l.static? className field).trans there)]
    exact .none
  | some old =>
    obtain ⟨k', hk⟩ := setStatic?_of_static? there value
    obtain ⟨h', hh⟩ := setStatic?_of_static? ((l.static? className field).trans there) value
    rw [hk, hh]
    obtain ⟨last, objects, -⟩ := setStatic?_kept hh
    obtain ⟨last', objects', -⟩ := setStatic?_kept hk
    refine .some ⟨?_, fun id => ?_, fun c f => ?_⟩
    · rw [last, last', l.lastId]
    · rw [Heap.object?, Heap.object?, objects, objects']
      exact l.object? id
    · rw [static?_setStatic? hh, static?_setStatic? hk, l.static?]

theorem Like.initStatics (l : h.Like k) (c : ClassDef) : (h.initStatics c).Like (k.initStatics c) := by
  refine ⟨l.lastId, l.object?, fun className field => ?_⟩
  rw [static?_initStatics, static?_initStatics, l.static?]

theorem Like.reset (l : h.Like k) : h.reset.Like k.reset := ⟨l.lastId, fun _ => rfl, fun _ _ => rfl⟩

end Heap

theorem BreakpointTable.getElem?_resetHits (t : BreakpointTable) (l : BreakpointLocation) :
    t.resetHits[l]? = t[l]?.map fun b => { b with hits := 0 } :=
  TreeMap.getElem?_map

/-! ## 2. What threads have in common -/

/-- What was told before some moment. -/
structure Past where
  events : Array VmEvent
  journal : Array Note
  completed : Array (CallId × Outcome)

namespace Shared

variable {past : Past} {s r : Shared}

/-- Two states in which the same things are found. The logs of the first begin with the past. -/
structure Like (past : Past) (s r : Shared) : Prop where
  classes : ∀ name : String, s.classes[name]? = r.classes[name]?
  heap : s.heap.Like r.heap
  breakpoints : ∀ l : BreakpointLocation, s.breakpoints[l]? = r.breakpoints[l]?
  breakOnUncaught : s.breakOnUncaught = r.breakOnUncaught
  events : s.events = past.events ++ r.events
  journal : s.journal = past.journal ++ r.journal
  completed : s.completed = past.completed ++ r.completed

theorem Like.withHeap (l : Like past s r) {h k : Heap} (heap : h.Like k) :
    Like past { s with heap := h } { r with heap := k } :=
  ⟨l.classes, heap, l.breakpoints, l.breakOnUncaught, l.events, l.journal, l.completed⟩

theorem Like.emit (l : Like past s r) (e : VmEvent) : Like past (s.emit e) (r.emit e) :=
  ⟨l.classes, l.heap, l.breakpoints, l.breakOnUncaught,
    by simp only [Shared.emit, l.events, Array.push_append], l.journal, l.completed⟩

theorem Like.note (l : Like past s r) (n : Note) :
    Like past { s with journal := s.journal.push n } { r with journal := r.journal.push n } :=
  ⟨l.classes, l.heap, l.breakpoints, l.breakOnUncaught, l.events,
    by simp only [l.journal, Array.push_append], l.completed⟩

theorem Like.complete (l : Like past s r) (call : CallId) (outcome : Outcome) :
    Like past (s.complete call outcome) (r.complete call outcome) :=
  ⟨l.classes, l.heap, l.breakpoints, l.breakOnUncaught, l.events, l.journal,
    by simp only [Shared.complete, l.completed, Array.push_append]⟩

theorem Like.pass (l : Like past s r) (at_ : BreakpointLocation) :
    (s.breakpoints.pass at_).1 = (r.breakpoints.pass at_).1 ∧
      Like past { s with breakpoints := (s.breakpoints.pass at_).2 }
        { r with breakpoints := (r.breakpoints.pass at_).2 } := by
  have here := l.breakpoints at_
  unfold BreakpointTable.pass
  rw [here]
  cases r.breakpoints[at_]? with
  | none => exact ⟨rfl, l.classes, l.heap, l.breakpoints, l.breakOnUncaught, l.events, l.journal,
      l.completed⟩
  | some b =>
    refine ⟨rfl, l.classes, l.heap, fun other => ?_, l.breakOnUncaught, l.events, l.journal,
      l.completed⟩
    show (s.breakpoints.insert at_ b.hit)[other]? = (r.breakpoints.insert at_ b.hit)[other]?
    rw [TreeMap.getElem?_insert, TreeMap.getElem?_insert, l.breakpoints]

theorem Like.newString (l : Like past s r) (text : String) :
    (s.newString text).1 = (r.newString text).1 ∧
      Like past (s.newString text).2 (r.newString text).2 := by
  have loaded : s.class? stringClass.name = r.class? stringClass.name := l.classes _
  obtain ⟨ref, heap⟩ := l.heap.insert ⟨(r.class? stringClass.name).getD stringClass, [], some text⟩
  simp only [Shared.newString, loaded]
  exact ⟨ref, l.withHeap heap⟩

theorem Like.box (l : Like past s r) (p : Primitive) :
    (s.box p).1 = (r.box p).1 ∧ Like past (s.box p).2 (r.box p).2 := by
  have loaded : s.class? p.kind.holderClass = r.class? p.kind.holderClass := l.classes _
  simp only [Shared.box, loaded]
  cases r.class? p.kind.holderClass with
  | none => exact ⟨rfl, l⟩
  | some c =>
    obtain ⟨ref, heap⟩ := l.heap.insert
      ⟨c, c.instanceFields.map fun f => (f.name, Value.defaultOf f.typeName), none⟩
    have ref : (s.heap.allocate c).1 = (r.heap.allocate c).1 := ref
    have heap : (s.heap.allocate c).2.Like (r.heap.allocate c).2 := heap
    dsimp only
    rw [ref]
    rcases rel_cases (heap.setField? (r.heap.allocate c).1.id "value" (.primitive p)) with
      ⟨missing, missing'⟩ | ⟨h, k, stored, stored', like⟩
    · rw [missing, missing']
      exact ⟨rfl, l.withHeap heap⟩
    · rw [stored, stored']
      exact ⟨rfl, l.withHeap like⟩

theorem Like.resolve (l : Like past s r) (c : Call) : s.resolve c = r.resolve c := by
  have loaded (name : String) : s.class? name = r.class? name := l.classes name
  cases c with
  | construct className args => simp only [Shared.resolve, loaded]
  | static className method args => simp only [Shared.resolve, loaded]
  | virtual receiver method args => simp only [Shared.resolve, l.heap.object?]

end Shared

/-! ## 3. A step -/

namespace Thread

variable {past : Past} {t : Thread} {a : Activity} {s r : Shared}

/-- The same thread, in two states that are alike. -/
structure Twin (past : Past) (p q : Thread × Shared) : Prop where
  thread : p.1 = q.1
  shared : p.2.Like past q.2

theorem Twin.of_like (t : Thread) (l : s.Like past r) : Twin past (t, s) (t, r) := ⟨rfl, l⟩

theorem answer_like (l : s.Like past r) (q : Query) :
    (t.answer s q).1 = (t.answer r q).1 ∧ Twin past (t.answer s q).2 (t.answer r q).2 := by
  cases q with
  | receiver | depth | frames | readLocal name => exact ⟨rfl, .of_like t l⟩
  | setLocal name value =>
    simp only [answer]
    cases t.frames with
    | nil => exact ⟨trivial, .of_like t l⟩
    | cons f fs => exact ⟨trivial, .of_like _ l⟩
  | field object name => exact ⟨l.heap.field? object name, .of_like t l⟩
  | staticField className field => exact ⟨l.heap.static? className field, .of_like t l⟩
  | stringOf object =>
    refine ⟨?_, .of_like t l⟩
    simp only [answer, l.heap.object?]
  | newString text =>
    obtain ⟨ref, like⟩ := l.newString text
    exact ⟨ref, .of_like t like⟩
  | setField object name value =>
    simp only [answer]
    rcases rel_cases (l.heap.setField? object name value) with
      ⟨missing, missing'⟩ | ⟨h, k, stored, stored', like⟩
    · rw [missing, missing']
      exact ⟨rfl, .of_like t l⟩
    · rw [stored, stored']
      exact ⟨rfl, .of_like t (l.withHeap like)⟩
  | setStaticField className field value =>
    simp only [answer]
    rcases rel_cases (l.heap.setStatic? className field value) with
      ⟨missing, missing'⟩ | ⟨h, k, stored, stored', like⟩
    · rw [missing, missing']
      exact ⟨rfl, .of_like t l⟩
    · rw [stored, stored']
      exact ⟨rfl, .of_like t (l.withHeap like)⟩

theorem invoke_like (l : s.Like past r) (i : Invocation) (next : Except Thrown Value → Body) :
    Twin past (t.invoke a i next s) (t.invoke a i next r) := by
  cases i with
  | method c m receiver args => exact .of_like _ l
  | construct c constructor args =>
    obtain ⟨ref, heap⟩ := l.heap.insert
      ⟨c, c.instanceFields.map fun f => (f.name, Value.defaultOf f.typeName), none⟩
    have ref : (s.heap.allocate c).1 = (r.heap.allocate c).1 := ref
    cases constructor with
    | none =>
      simp only [invoke, ref]
      exact .of_like _ (l.withHeap heap)
    | some m =>
      simp only [invoke, ref]
      exact .of_like _ (l.withHeap heap)

theorem suspend_like (l : s.Like past r) (reason : StopReason)
    (exception : Option ExceptionDescription) :
    Twin past (t.suspend reason exception s) (t.suspend reason exception r) :=
  .of_like _ (l.emit _)

theorem reachLine_like (l : s.Like past r) (n : Line) (next : Except Thrown Unit → Body) :
    Twin past (t.reachLine a n next s) (t.reachLine a n next r) := by
  unfold reachLine
  split
  · exact .of_like _ l
  · cases t.frames with
    | nil => exact .of_like _ l
    | cons f fs =>
      obtain ⟨hit, like⟩ := l.pass (.line f.className n)
      dsimp only
      rw [hit]
      split
      · exact suspend_like like _ _
      · exact .of_like _ like

theorem enter_like (l : s.Like past r) (body : Body) :
    Twin past (t.enter a body s) (t.enter a body r) := by
  unfold enter
  split
  · exact .of_like _ l
  · cases t.frames with
    | nil => exact .of_like _ l
    | cons f fs =>
      obtain ⟨hit, like⟩ := l.pass (.method f.className f.methodName)
      dsimp only
      rw [hit]
      split
      · exact suspend_like like _ _
      · exact .of_like _ like

theorem adapt_like (l : s.Like past r) (v : Value) :
    (adapt v s).1 = (adapt v r).1 ∧ (adapt v s).2.Like past (adapt v r).2 := by
  cases v with
  | null | void | object o => exact ⟨rfl, l⟩
  | primitive p =>
    obtain ⟨holder, like⟩ := l.box p
    simp only [adapt]
    rcases hs : s.box p with ⟨o, s'⟩
    rcases hr : r.box p with ⟨o', r'⟩
    rw [hs, hr] at holder like
    cases holder
    cases o <;> exact ⟨rfl, like⟩

theorem conclude_like (l : s.Like past r) (result : Except Thrown Value) :
    Twin past (t.conclude a result s) (t.conclude a result r) := by
  cases result with
  | ok v =>
    obtain ⟨outcome, like⟩ := adapt_like l v
    simp only [conclude, outcome]
    exact .of_like _ like
  | error thrown =>
    cases thrown with
    | threadDeath => exact .of_like _ l
    | exception typeName message frames =>
      simp only [conclude, l.breakOnUncaught]
      split
      · split
        · exact .of_like _ l
        · exact suspend_like l _ _
      · exact .of_like _ (l.emit _)

theorem run_like (l : s.Like past r) (body : Body) :
    Twin past (t.run a body s) (t.run a body r) := by
  cases body with
  | done result =>
    simp only [run]
    cases a.callers with
    | nil => exact conclude_like l result
    | cons next callers => exact .of_like _ l
  | panic message => exact .of_like _ l
  | ask q next =>
    obtain ⟨reply, thread, like⟩ := answer_like (t := t) l q
    simp only [run]
    rw [reply, thread]
    exact .of_like _ like
  | line n next => exact reachLine_like l n next
  | call c next =>
    simp only [run, l.resolve]
    split
    · exact invoke_like l _ next
    · exact .of_like _ l
  | park next => exact .of_like _ l
  | note n next => exact .of_like _ (l.note n)

theorem proceed_like (l : s.Like past r) :
    Option.Rel (Twin past) (t.proceed a s) (t.proceed a r) := by
  unfold proceed
  cases a.position with
  | starting i => exact .some (invoke_like l i .done)
  | running body => exact .some (run_like l body)
  | entering body => exact .some (enter_like l body)
  | atLine next | atEntry body | atException description =>
    dsimp only
    split
    · exact .none
    · exact .some (.of_like _ l)
    · exact .some (.of_like _ l)
  | parked next => exact .none

/-- **A thread does the same in both states,** and they stay alike. -/
theorem step_like (l : s.Like past r) : Option.Rel (Twin past) (t.step s) (t.step r) := by
  unfold step
  cases t.worker with
  | waiting =>
    dsimp only
    split
    · exact .none
    · exact .some (.of_like _ l)
    · exact .some (.of_like _ l)
  | holding call task =>
    dsimp only
    unfold «begin»
    split
    · exact .some (.of_like _ (l.complete call .terminated))
    · exact .some (.of_like _ l)
  | busy a => exact proceed_like l
  | ended call outcome => exact .some (.of_like _ l)
  | telling call outcome => exact .some (.of_like _ (l.complete call outcome))
  | exited => exact .none

end Thread

end Debugger
