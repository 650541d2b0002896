import Debugger.Proofs.Debuggee.Fields
import Debugger.Proofs.Session.Identity
import Debugger.Proofs.Session.Keeping
/-!
# What a controller sees of an object

A controller and a body of the debuggee look at the same object in different ways. The body asks for
one field by its name. The controller has all fields listed, every object among their values gets a
proxy on the way if it has none, and then the list is searched for the name.

They see the same as long as proxies can be made. A class can be loaded in place of any other, the
one with the transport slot among them, and without the slot no reference passes any more. Then an
object one of whose fields refers to an object without a proxy cannot be looked at by a controller,
whichever field is asked for. And handles are numbers of one word, so there may be none left.

* `Session.ShownAs` - what a controller is to be shown of a value.
* `Session.Looks` - looking changes no object and loses no proxy.
* `Session.Obstructed` - a proxy is needed and cannot be made.
* `Session.Sees` - what is to be seen is seen, unless looking is obstructed or handles run out.
* `Session.inspection_is_faithful` - what is to be seen is what a body is answered, the last store.
* `Session.lost_slot_hides_fields` - where looking is obstructed, a body is answered still.

## 1. Asking for proxies

## 2. Showing values

## 3. Looking at an object

## 4. Sessions in which only bodies are submitted

## 5. Inspection
-/

namespace Debugger

open Std (TreeMap)

/-! ## 1. Asking for proxies -/

namespace Vm

variable {v w x : Vm} {id : ObjectId} {o : HeapObject}

/-- There is an object, and it is none of the debuggee's own machinery. -/
def Exposes (v : Vm) (id : ObjectId) : Prop :=
  ∃ o, v.shared.heap.object? id = some o ∧ o.classDef.category.isExposable = true

/-- There is no slot to pass a reference through. -/
def Slotless (v : Vm) : Prop :=
  v.shared.heap.static? transportClass.name transportField = none

/-- The class of every object is loaded under its name. -/
def Backed (v : Vm) : Prop :=
  ∀ id o, v.shared.heap.object? id = some o → o.classDef.name ∈ v.shared.classes

/-- A debuggee was looked at: its objects and classes are as they were. -/
structure Looked (v w : Vm) : Prop where
  objects : w.shared.heap.objects = v.shared.heap.objects
  classes : w.shared.classes = v.shared.classes
  slot : w.Slotless ↔ v.Slotless

theorem Looked.refl (v : Vm) : Looked v v := ⟨rfl, rfl, .rfl⟩

theorem Looked.trans (h : Looked v w) (h' : Looked w x) : Looked v x :=
  ⟨h'.objects.trans h.objects, h'.classes.trans h.classes, h'.slot.trans h.slot⟩

theorem Looked.exposes (h : Looked v w) : w.Exposes id ↔ v.Exposes id := by
  unfold Exposes Heap.object?
  rw [h.objects]

theorem Looked.backed (h : Looked v w) (backed : v.Backed) : w.Backed := by
  unfold Backed Heap.object?
  rw [h.objects, h.classes]
  exact backed

theorem run_requireObject (there : v.shared.heap.object? id = some o) :
    (requireObject id).run v = (.ok o, v) := by
  unfold requireObject
  rw [Action.run_get_bind, there]
  rfl

theorem run_requireObject_none (gone : v.shared.heap.object? id = none) :
    (requireObject id).run v = (.error (.invalidObjectId id), v) := by
  unfold requireObject
  rw [Action.run_get_bind, gone]
  rfl

/-- An object is put into the slot and picked up, unless there is no slot. -/
theorem run_transport (there : v.shared.heap.object? id = some o) :
    (v.Slotless ∧ (installTransport id).run v = (.error (.classNotFound transportClass.name), v)) ∨
      ∃ w w' handle, ¬ v.Slotless ∧ (installTransport id).run v = (.ok (), w) ∧
        takeTransport.run w = (.ok handle, w') ∧ Looked v w' := by
  unfold installTransport
  rw [Action.run_bind_ok (run_requireObject there), Action.run_get_bind]
  dsimp only
  cases full : v.shared.heap.static? transportClass.name transportField with
  | none =>
    refine .inl ⟨full, ?_⟩
    rw [Heap.setStatic?_eq_none full]
    rfl
  | some old =>
    right
    obtain ⟨heap, stored⟩ := Heap.setStatic?_of_static? full (.object (o.ref id))
    rw [stored]
    obtain ⟨heap', emptied⟩ := Heap.setStatic?_of_static? (Heap.static?_of_setStatic? stored) .null
    refine ⟨v.withHeap heap, ((v.withHeap heap').hold id).2, ⟨v.holds.last + 1⟩, ?_, rfl, ?_, ?_⟩
    · intro slotless
      cases slotless.symm.trans full
    · unfold takeTransport
      rw [Action.run_get_bind]
      dsimp only [withHeap]
      rw [Heap.static?_of_setStatic? stored]
      dsimp only
      rw [emptied]
      rfl
    · refine ⟨?_, rfl, ⟨fun slotless => ?_, fun slotless => ?_⟩⟩
      · exact (Heap.setStatic?_kept emptied).2.1.trans (Heap.setStatic?_kept stored).2.1
      · cases slotless.symm.trans (Heap.static?_of_setStatic? emptied)
      · cases slotless.symm.trans full

theorem looked_release (handle : Handle) (v : Vm) : Looked v ((release handle).run v).2 := by
  show Looked v ((if v.holds.byHandle.contains handle then _ else throw _ : Op Unit).run v).2
  split
  · exact ⟨rfl, rfl, .rfl⟩
  · exact .refl v

end Vm

namespace ProxyTable

variable {v : Vm} {t : ProxyTable} {object : ObjectRef}

/-- How a request for a proxy comes out, if the class of every object is loaded. -/
inductive Answers (t : ProxyTable) (v : Vm) (object : ObjectRef) :
    Except DebugError (Option Proxy) × (ProxyTable × Vm) → Prop
  | known {p : Proxy} (tracked : t.byObject[object.id]? = some p) :
      Answers t v object (.ok (some p), (t, v))
  | withheld (untracked : t.byObject[object.id]? = none) (hidden : ¬ v.Exposes object.id) :
      Answers t v object (.ok none, (t, v))
  | slotless (classes : TreeMap String ClassInfo) (untracked : t.byObject[object.id]? = none)
      (exposed : v.Exposes object.id) (slotless : v.Slotless) :
      Answers t v object (.error (.ofRuntime (.classNotFound transportClass.name)),
        ({ t with classes }, v))
  | clashed {handle : Handle} {existing : ObjectId} {w : Vm} (classes : TreeMap String ClassInfo)
      (untracked : t.byObject[object.id]? = none) (exposed : v.Exposes object.id)
      (looked : v.Looked w) :
      Answers t v object
        (.error (.cacheCorrupted handle existing object.id), ({ t with classes }, w))
  | made {p : Proxy} {w : Vm} (classes : TreeMap String ClassInfo)
      (untracked : t.byObject[object.id]? = none) (exposed : v.Exposes object.id)
      (slot : ¬ v.Slotless) (looked : v.Looked w) :
      Answers t v object (.ok (some p), (ProxyTable.enter { t with classes } object.id p, w))

/-- A class that is loaded is looked at without fail. -/
theorem run_classInfo_loaded {name : String} (loaded : name ∈ v.shared.classes) (t : ProxyTable) :
    ∃ info classes,
      (classInfo Vm.environment name).run (t, v) = (.ok info, ({ t with classes }, v)) := by
  obtain ⟨c, there⟩ := Option.isSome_iff_exists.mp (TreeMap.mem_iff_isSome_getElem?.mp loaded)
  have asked : (Vm.environment.classInfo name).run v = (.ok c.info, v) := by
    have found : v.shared.class? name = some c := there
    show (Vm.requireClass name >>= _).run v = _
    refine Action.run_bind_ok (v := c) (y := v) ?_
    unfold Vm.requireClass
    rw [Action.run_get_bind, found]
    rfl
  unfold classInfo
  rw [Action.run_bind, run_getTable]
  dsimp only
  cases t.classes[name]? with
  | some info => exact ⟨info, t.classes, rfl⟩
  | none =>
    dsimp only
    rw [Action.run_bind, run_ask, asked]
    exact ⟨c.info, _, rfl⟩

/-- An object that is not there, or not to be shown, gets no proxy. -/
theorem obtainFor_withheld (untracked : t.byObject[object.id]? = none)
    (hidden : ¬ v.Exposes object.id) :
    (obtainFor Vm.environment object).run (t, v) = (.ok none, (t, v)) := by
  unfold obtainFor
  rw [Action.run_bind, run_getTable]
  dsimp only
  rw [untracked]
  dsimp only
  rw [Action.run_bind, run_attempt]
  cases there : v.shared.heap.object? object.id with
  | none =>
    have gone : (Vm.environment.objectCategory object.id).run v =
        (.error (.invalidObjectId object.id), v) :=
      Action.run_bind_error (Vm.run_requireObject_none there)
    rw [gone]
    rfl
  | some o =>
    have category : (Vm.environment.objectCategory object.id).run v =
        (.ok o.classDef.category, v) := Action.run_bind_ok (Vm.run_requireObject there)
    have internal : o.classDef.category.isExposable = false :=
      Bool.eq_false_iff.mpr fun exposed => hidden ⟨o, there, exposed⟩
    rw [category]
    dsimp only
    rw [internal]
    rfl

theorem obtainFor_answers (backed : v.Backed) (t : ProxyTable) (object : ObjectRef) :
    Answers t v object ((obtainFor Vm.environment object).run (t, v)) := by
  cases tracked : t.byObject[object.id]? with
  | some p =>
    rw [obtainFor_known (x := (t, v)) Vm.environment tracked]
    exact .known tracked
  | none =>
    by_cases exposed : v.Exposes object.id
    case neg =>
      rw [obtainFor_withheld tracked exposed]
      exact .withheld tracked exposed
    have ⟨o, there, exposable⟩ := exposed
    have category : (Vm.environment.objectCategory object.id).run v =
        (.ok o.classDef.category, v) := Action.run_bind_ok (Vm.run_requireObject there)
    have className : (Vm.environment.objectClass object.id).run v =
        (.ok o.classDef.name, v) := Action.run_bind_ok (Vm.run_requireObject there)
    unfold obtainFor
    rw [Action.run_bind, run_getTable]
    dsimp only
    rw [tracked]
    dsimp only
    rw [Action.run_bind, run_attempt, category]
    dsimp only
    rw [exposable, if_neg (by decide), Action.run_bind, run_ask, className]
    dsimp only
    -- The class is loaded, so all that can be missing is the slot.
    obtain ⟨info, classes, looked⟩ := run_classInfo_loaded (backed _ o there) t
    rw [Action.run_bind, looked]
    dsimp only
    rw [Action.run_bind, run_ask]
    rcases Vm.run_transport there with
      ⟨slotless, install⟩ | ⟨w, w', handle, slot, install, take, looked⟩
    · replace install : (Vm.environment.installTransport object.id).run v = _ := install
      rw [install]
      exact .slotless classes tracked exposed slotless
    · replace install : (Vm.environment.installTransport object.id).run v = _ := install
      replace take : Vm.environment.takeTransport.run w = _ := take
      rw [install]
      dsimp only
      rw [Action.run_bind, run_ask, take]
      dsimp only
      rw [Action.run_bind, run_getTable]
      dsimp only
      cases bound : t.byHandle[handle]? with
      | none => exact .made classes tracked exposed slot looked
      | some existing =>
        dsimp only
        split
        · rw [Action.run_bind, run_attempt]
          exact .clashed classes tracked exposed (looked.trans (Vm.looked_release handle w'))
        · exact .made classes tracked exposed slot looked

end ProxyTable

/-! ## 2. Showing values -/

namespace Session

variable {s s' s'' : Session Vm} {o : ObjectRef}

/-- What a controller is shown of a value: a primitive as it is, an object as the proxy that stands
for it, and null for what is nothing or is not to be shown. -/
inductive ShownAs (v : Vm) (t : ProxyTable) : Value → ProxyValue → Prop
  | null : ShownAs v t .null .null
  | void : ShownAs v t .void .null
  | primitive (p : Primitive) : ShownAs v t (.primitive p) (.primitive p)
  | object {o : ObjectRef} {p : Proxy} (tracked : t.byObject[o.id]? = some p)
      (stands : ∃ o', t.objectFor? p.handle = some o' ∧ o'.id = o.id) :
      ShownAs v t (.object o) (.object p)
  | withheld {o : ObjectRef} (untracked : t.byObject[o.id]? = none) (hidden : ¬ v.Exposes o.id) :
      ShownAs v t (.object o) .null

/-- A value is an object that may be shown and has no proxy. -/
def Unproxied (s : Session Vm) (value : Value) : Prop :=
  ∃ o : ObjectRef, value = .object o ∧ s.proxies.byObject[o.id]? = none ∧ s.world.Exposes o.id

/-- Why a value cannot be shown: it needs a proxy, and there is no slot, or the handle that is given
for it belongs to another. -/
inductive Refuses (s : Session Vm) (value : Value) : DebugError → Prop
  | slotless (unproxied : s.Unproxied value) (slotless : s.world.Slotless) :
      Refuses s value (.ofRuntime (.classNotFound transportClass.name))
  | clashed (handle : Handle) (existing id : ObjectId) :
      Refuses s value (.cacheCorrupted handle existing id)

/-- The class of every object is loaded, and the maps of the session agree. -/
structure Ready (s : Session Vm) : Prop where
  backed : s.world.Backed
  consistent : s.proxies.Consistent

/-- A session goes on, and no more than so many handles are given out. -/
def Spends (n : Nat) (s s' : Session Vm) : Prop :=
  ∃ ds, Run (fun _ => True) s ds s' ∧ (s.world.handed ds).length ≤ n

theorem Spends.refl (n : Nat) (s : Session Vm) : Spends n s s := ⟨[], .refl s, Nat.zero_le n⟩

theorem Spends.trans {n k : Nat} (h : Spends n s s') (h' : Spends k s' s'') :
    Spends (n + k) s s'' := by
  obtain ⟨ds, run, spent⟩ := h
  obtain ⟨es, run', spent'⟩ := h'
  refine ⟨ds ++ es, run.trans run', ?_⟩
  rw [Vm.handed_append, ← run.world_eq, List.length_append]
  exact Nat.add_le_add spent spent'

theorem track_spends (object : ObjectRef) (s : Session Vm) :
    s.Spends 1 ((track Vm.environment object).run s).2 := by
  have plain : ∀ d, isPlain d = true → True := fun _ _ => trivial
  obtain ⟨ds, handle, run, es, short⟩ := run_track plain object s
  refine ⟨ds, run, ?_⟩
  have all := congrArg (fun ds => (s.world.handed ds).length) short
  rw [Vm.handed_append, List.length_append] at all
  -- A handle is given out where the object is picked up, and nowhere else.
  let w := Vm.Deed.run s.world (.installTransport object.id)
  have once : (Vm.Deed.handed w .takeTransport ++ []).length ≤ 1 := by
    rcases Vm.handed_cases .takeTransport w with ⟨none, -⟩ | ⟨one, -⟩
    · simp [none]
    · simp [one]
  exact Nat.le_trans (Nat.le_add_right _ _) (Nat.le_trans (Nat.le_of_eq all) once)

/-- So many values are looked at. The objects of the debuggee are as they were, proxies stay, and the
new ones are of objects that may be shown. -/
structure Looks (n : Nat) (s s' : Session Vm) : Prop where
  world : s.world.Looked s'.world
  known : ∀ (id : ObjectId) (p : Proxy), s.proxies.byObject[id]? = some p →
    s'.proxies.byObject[id]? = some p
  entered : ∀ (id : ObjectId) (p : Proxy), s'.proxies.byObject[id]? = some p →
    s.proxies.byObject[id]? = some p ∨ s.world.Exposes id ∧ ¬ s.world.Slotless
  spends : s.Spends n s'

variable {n k : Nat}

theorem Looks.refl (n : Nat) (s : Session Vm) : Looks n s s :=
  ⟨.refl _, fun _ _ tracked => tracked, fun _ _ tracked => .inl tracked, .refl n s⟩

theorem Looks.trans (h : Looks n s s') (h' : Looks k s' s'') : Looks (n + k) s s'' where
  world := h.world.trans h'.world
  known id p tracked := h'.known id p (h.known id p tracked)
  entered id p tracked := by
    rcases h'.entered id p tracked with before | ⟨exposed, slot⟩
    · exact h.entered id p before
    · exact .inr ⟨h.world.exposes.mp exposed, h.world.slot.not.mp slot⟩
  spends := h.spends.trans h'.spends

theorem Looks.mono (h : Looks n s s') (le : n ≤ k) : Looks k s s' :=
  have ⟨ds, run, spent⟩ := h.spends
  { h with spends := ⟨ds, run, Nat.le_trans spent le⟩ }

theorem Looks.consistent (h : Looks n s s') (consistent : s.proxies.Consistent) :
    s'.proxies.Consistent :=
  have ⟨_, run, _⟩ := h.spends
  run.keeps_consistent consistent

theorem Looks.untracked (h : Looks n s s') {id : ObjectId}
    (untracked : s'.proxies.byObject[id]? = none) : s.proxies.byObject[id]? = none := by
  cases tracked : s.proxies.byObject[id]? with
  | none => rfl
  | some p => cases untracked.symm.trans (h.known id p tracked)

theorem Looks.ready (h : Looks n s s') (ready : s.Ready) : s'.Ready :=
  ⟨h.world.backed ready.backed, h.consistent ready.consistent⟩

theorem shownAs_of_tracked {v : Vm} {t : ProxyTable} (consistent : t.Consistent) {p : Proxy}
    (tracked : t.byObject[o.id]? = some p) : ShownAs v t (.object o) (.object p) :=
  .object tracked ((consistent.inverse o.id p.handle).mp ⟨p, tracked, rfl⟩)

/-- What is shown goes on being shown. -/
theorem Looks.shownAs (h : Looks n s s') (ready : s.Ready) {value : Value} {shown : ProxyValue}
    (now : ShownAs s.world s.proxies value shown) : ShownAs s.world s'.proxies value shown := by
  cases now with
  | null => exact .null
  | void => exact .void
  | primitive p => exact .primitive p
  | object tracked => exact shownAs_of_tracked (h.ready ready).consistent (h.known _ _ tracked)
  | @withheld o untracked hidden =>
    refine .withheld ?_ hidden
    cases tracked : s'.proxies.byObject[o.id]? with
    | none => rfl
    | some p =>
      rcases h.entered _ _ tracked with before | ⟨exposed, -⟩
      · cases untracked.symm.trans before
      · exact absurd exposed hidden

/-- It does not matter whether the debuggee was looked at before or after. -/
theorem ShownAs.looked {v w : Vm} {t : ProxyTable} {value : Value} {shown : ProxyValue}
    (h : v.Looked w) : ShownAs w t value shown ↔ ShownAs v t value shown := by
  constructor
  · rintro (_ | _ | p | ⟨tracked, stands⟩ | ⟨untracked, hidden⟩)
    · exact .null
    · exact .void
    · exact .primitive p
    · exact .object tracked stands
    · exact .withheld untracked (h.exposes.not.mp hidden)
  · rintro (_ | _ | p | ⟨tracked, stands⟩ | ⟨untracked, hidden⟩)
    · exact .null
    · exact .void
    · exact .primitive p
    · exact .object tracked stands
    · exact .withheld untracked (h.exposes.not.mpr hidden)

/-- Without the slot, what is shown did not need a new proxy. -/
theorem Looks.not_unproxied (h : Looks n s s') (slotless : s.world.Slotless) {value : Value}
    {shown : ProxyValue} (as : ShownAs s.world s'.proxies value shown) : ¬ s.Unproxied value := by
  rintro ⟨o, rfl, untracked, exposed⟩
  cases as with
  | object tracked =>
    rcases h.entered _ _ tracked with before | ⟨-, slot⟩
    · cases untracked.symm.trans before
    · exact slot slotless
  | withheld _ hidden => exact hidden exposed

theorem Looks.refuses (h : Looks n s s') {value : Value} {e : DebugError}
    (later : s'.Refuses value e) : s.Refuses value e := by
  cases later with
  | slotless unproxied slotless =>
    obtain ⟨o, rfl, untracked, exposed⟩ := unproxied
    exact .slotless ⟨o, rfl, h.untracked untracked, h.world.exposes.mp exposed⟩
      (h.world.slot.mp slotless)
  | clashed handle existing id => exact .clashed handle existing id

/-- How showing a value comes out. -/
inductive Shows (s : Session Vm) (value : Value) : Except DebugError ProxyValue × Session Vm → Prop
  | shown {w : ProxyValue} {s' : Session Vm} (looks : s.Looks 1 s')
      (as : ShownAs s.world s'.proxies value w) : Shows s value (.ok w, s')
  | refused {e : DebugError} {s' : Session Vm} (looks : s.Looks 1 s') (why : s.Refuses value e)
      (fatal : e.isFatal = true → s'.lifecycle = .failed) : Shows s value (.error e, s')

theorem disable_failed {σ : Type} (e : DebugError) (s : Session σ) :
    (disable e s).lifecycle = .failed := by
  unfold disable
  split
  · assumption
  · rfl

/-- An object that was shown for the first time got a proxy. -/
theorem Looks.of_enter {p : Proxy} {classes : TreeMap String ClassInfo}
    (looked : s.world.Looked s'.world)
    (entered : s'.proxies = ProxyTable.enter { s.proxies with classes } o.id p)
    (untracked : s.proxies.byObject[o.id]? = none) (exposed : s.world.Exposes o.id)
    (slot : ¬ s.world.Slotless) (spends : s.Spends n s') : s.Looks n s' := by
  have now (id : ObjectId) : s'.proxies.byObject[id]? =
      if o.id = id then some p else s.proxies.byObject[id]? := by
    rw [entered]
    show (s.proxies.byObject.insert o.id p)[id]? = _
    simp only [TreeMap.getElem?_insert, Std.compare_eq_iff_eq]
  refine ⟨looked, fun id q tracked => ?_, fun id q tracked => ?_, spends⟩
  · have other : o.id ≠ id := by
      rintro rfl
      cases untracked.symm.trans tracked
    rw [now, if_neg other, tracked]
  · rw [now] at tracked
    split at tracked
    · next same => exact .inr ⟨same ▸ exposed, slot⟩
    · exact .inl tracked

theorem toProxyValue_shows (ready : s.Ready) (value : Value) :
    s.Shows value ((toProxyValue Vm.environment value).run s) := by
  cases value with
  | null => exact .shown (.refl 1 s) .null
  | void => exact .shown (.refl 1 s) .void
  | primitive p => exact .shown (.refl 1 s) (.primitive p)
  | object o =>
    have spends := track_spends o s
    unfold toProxyValue
    rw [Action.run_bind]
    unfold track at spends ⊢
    rw [run_noticeFatal, run_onProxies] at spends ⊢
    have answers := ProxyTable.obtainFor_answers ready.backed s.proxies o
    generalize (ProxyTable.obtainFor Vm.environment o).run (s.proxies, s.world) = x
      at answers spends
    cases answers with
    | known tracked => exact .shown (.refl 1 s) (shownAs_of_tracked ready.consistent tracked)
    | withheld untracked hidden => exact .shown (.refl 1 s) (.withheld untracked hidden)
    | slotless classes untracked exposed slotless =>
      exact .refused ⟨.refl _, fun _ _ tracked => tracked, fun _ _ tracked => .inl tracked, spends⟩
        (.slotless ⟨o, rfl, untracked, exposed⟩ slotless) nofun
    | @clashed handle existing w classes untracked exposed looked =>
      refine .refused ?_ (.clashed handle existing o.id) fun _ => disable_failed _ _
      replace spends : s.Spends 1 (disable (.cacheCorrupted handle existing o.id) _) := spends
      show s.Looks 1 (disable (.cacheCorrupted handle existing o.id) _)
      rw [disable_eq] at spends ⊢
      exact ⟨looked, fun _ _ tracked => tracked, fun _ _ tracked => .inl tracked, spends⟩
    | @made p w classes untracked exposed slot looked =>
      have looks : s.Looks 1 { s with
          world := w, proxies := ProxyTable.enter { s.proxies with classes } o.id p } :=
        .of_enter looked rfl untracked exposed slot spends
      exact .shown looks (shownAs_of_tracked (looks.consistent ready.consistent)
        TreeMap.getElem?_insert_self)

/-! ## 3. Looking at an object -/

/-- An entry shows a field. -/
def Entry (s : Session Vm) (t : ProxyTable) (f : FieldInfo × Value) (e : FieldEntry) : Prop :=
  e.name = f.1.name ∧ e.typeName = f.1.typeName ∧ ShownAs s.world t f.2 e.value

variable {t : ProxyTable} {fields : List (FieldInfo × Value)} {entries : List FieldEntry}

/-- How showing a list of fields comes out: all are shown, or one of them cannot be. -/
inductive Lists (s : Session Vm) (fields : List (FieldInfo × Value)) :
    Except DebugError (List FieldEntry) × Session Vm → Prop
  | shown {entries : List FieldEntry} {s' : Session Vm} (looks : s.Looks fields.length s')
      (each : List.Forall₂ (s.Entry s'.proxies) fields entries) : Lists s fields (.ok entries, s')
  | refused {f : FieldInfo × Value} {e : DebugError} {s' : Session Vm} (member : f ∈ fields)
      (looks : s.Looks fields.length s') (why : s.Refuses f.2 e)
      (fatal : e.isFatal = true → s'.lifecycle = .failed) : Lists s fields (.error e, s')

/-- The entry of a field. -/
def entryOf (f : FieldInfo × Value) : Op Vm FieldEntry := do
  return ⟨f.1.name, f.1.typeName, ← toProxyValue Vm.environment f.2⟩

theorem mapM_lists (ready : s.Ready) (fields : List (FieldInfo × Value)) :
    s.Lists fields ((fields.mapM entryOf).run s) := by
  induction fields generalizing s with
  | nil =>
    rw [List.mapM_nil]
    exact .shown (.refl _ s) .nil
  | cons f rest ih =>
    rw [List.mapM_cons, Action.run_bind]
    have first := toProxyValue_shows ready f.2
    unfold entryOf
    rw [Action.run_bind]
    generalize (toProxyValue Vm.environment f.2).run s = x at first
    cases first with
    | refused looks why fatal =>
      exact .refused List.mem_cons_self (looks.mono (Nat.le_add_left 1 rest.length)) why fatal
    | @shown w s₁ looks as =>
      show s.Lists (f :: rest) ((rest.mapM entryOf >>= _).run s₁)
      rw [Action.run_bind]
      have others := ih (looks.ready ready)
      generalize (rest.mapM entryOf).run s₁ = y at others
      have both {s₂ : Session Vm} (looks' : s₁.Looks rest.length s₂) :
          s.Looks (f :: rest).length s₂ :=
        (looks.trans looks').mono (Nat.le_of_eq (Nat.add_comm 1 rest.length))
      cases others with
      | refused member looks' why fatal =>
        exact .refused (List.mem_cons_of_mem f member) (both looks') (looks.refuses why) fatal
      | @shown entries s₂ looks' each =>
        -- The first value is shown with the proxies of then, and goes on being shown.
        have now := (ShownAs.looked looks.world).mpr as
        have here := (ShownAs.looked looks.world).mp (looks'.shownAs (looks.ready ready) now)
        refine .shown (both looks') (.cons ⟨rfl, rfl, here⟩ ?_)
        exact each.imp fun g e ⟨name, type, as⟩ =>
          ⟨name, type, (ShownAs.looked looks.world).mp as⟩

/-- The entries have the names and types of the fields they show. -/
theorem entries_declared (each : List.Forall₂ (s.Entry t) fields entries) :
    entries.map (fun e => (e.name, e.typeName)) =
      (fields.map (·.1)).map fun f => (f.name, f.typeName) := by
  induction each with
  | nil => rfl
  | cons entry _ ih => simp [entry.1, entry.2.1, ih]

theorem entry_of_mem (each : List.Forall₂ (s.Entry t) fields entries) {f : FieldInfo × Value}
    (member : f ∈ fields) : ∃ e, s.Entry t f e := by
  induction each with
  | nil => cases member
  | cons entry _ ih =>
    rcases List.mem_cons.mp member with rfl | later
    · exact ⟨_, entry⟩
    · exact ih later

/-- The first entry of a name shows the first field of the name. -/
theorem find?_entries (each : List.Forall₂ (s.Entry t) fields entries) (field : String) :
    Option.Rel (s.Entry t) (fields.find? fun f => f.1.name = field)
      (entries.find? (·.name == field)) := by
  induction each with
  | nil => exact .none
  | @cons f e fields entries entry _ ih =>
    by_cases here : f.1.name = field
    · have same : e.name = field := entry.1.trans here
      simp only [List.find?_cons, here, same, decide_true, beq_self_eq_true]
      exact .some entry
    · have other : ¬ e.name = field := fun same => here (entry.1.symm.trans same)
      simp only [List.find?_cons, here, decide_false, beq_eq_false_iff_ne.mpr other]
      exact ih

theorem find?_of_nodup {α β : Type} [DecidableEq β] {key : α → β} {xs : List α}
    (distinct : (xs.map key).Nodup) {x : α} (member : x ∈ xs) :
    xs.find? (fun y => key y == key x) = some x := by
  induction xs with
  | nil => cases member
  | cons y ys ih =>
    rw [List.map_cons, List.nodup_cons] at distinct
    rcases List.mem_cons.mp member with rfl | later
    · simp
    · have other : key y ≠ key x := fun same => distinct.1 (same ▸ List.mem_map_of_mem later)
      rw [List.find?_cons, beq_eq_false_iff_ne.mpr other]
      exact ih distinct.2 later

variable {m : Proxy} {object : HeapObject}

theorem objectFields_lists (ready : s.Ready) (usable : s.lifecycle ≠ .failed)
    (known : s.proxies.objectFor? m.handle = some o)
    (live : s.world.shared.heap.object? o.id = some object) :
    s.Lists (object.classDef.instanceFields.zip (object.fields.map (·.2)))
      ((objectFields Vm.environment m).run s) := by
  have declared : ∀ f ∈ object.classDef.instanceFields.zip (object.fields.map (·.2)),
      (!f.1.isStatic) = true := by
    rintro ⟨info, value⟩ member
    exact (List.mem_filter.mp (List.of_mem_zip member).1).2
  have resolved : (resolve m : Op Vm ObjectRef).run s = (.ok o, s) := by
    rw [run_resolve, known]
  have asked : (ask (Vm.environment.objectFields o.id)).run s =
      (.ok (object.classDef.instanceFields.zip (object.fields.map (·.2))), s) := by
    rw [run_ask]
    have read : (Vm.environment.objectFields o.id).run s.world = _ := Vm.run_objectFields live
    rw [read]
  unfold objectFields
  rw [Action.run_bind_ok (ensureUsable_ok usable), Action.run_bind_ok resolved,
    Action.run_bind_ok asked, List.filter_eq_self.mpr declared]
  exact mapM_lists ready _

/-- A field of an object refers to an object that has no proxy, and none can be made. -/
def Obstructed (s : Session Vm) (object : HeapObject) : Prop :=
  s.world.Slotless ∧ ∃ f ∈ object.fields, s.Unproxied f.2

/-- How looking at an object comes out. What is to be seen is seen, unless looking is obstructed, or
there are not as many handles left as the object has fields. -/
inductive Sees {α : Type} (s : Session Vm) (history : List Vm.Deed) (object : HeapObject)
    (Clear : ProxyTable → Except DebugError α → Prop) : Except DebugError α × Session Vm → Prop
  | clear {r : Except DebugError α} {s' : Session Vm} (looks : s.Looks object.fields.length s')
      (free : ¬ s.Obstructed object) (as : Clear s'.proxies r) : Sees s history object Clear (r, s')
  | obstructed {s' : Session Vm} (looks : s.Looks object.fields.length s')
      (why : s.Obstructed object) : Sees s history object Clear
        (.error (.ofRuntime (.classNotFound transportClass.name)), s')
  | overrun {handle : Handle} {existing id : ObjectId} {s' : Session Vm}
      (looks : s.Looks object.fields.length s') (failed : s'.lifecycle = .failed)
      (many : 2 ^ 64 < (Vm.fresh.handed history).length + object.fields.length) :
      Sees s history object Clear (.error (.cacheCorrupted handle existing id), s')

/-- What is to be seen of a field: what is found there, or that there is no such field. -/
inductive FieldShown (s : Session Vm) (m : Proxy) (field : String) :
    Option Value → ProxyTable → Except DebugError ProxyValue → Prop
  | shown {value : Value} {t : ProxyTable} {w : ProxyValue} (as : ShownAs s.world t value w) :
      FieldShown s m field (some value) t (.ok w)
  | absent {t : ProxyTable} : FieldShown s m field none t (.error (.noSuchField m.className field))

/-- What is to be seen of all fields. A string shows none. -/
inductive AllShown (s : Session Vm) (object : HeapObject) (id : ObjectId) :
    ProxyTable → Except DebugError (List FieldEntry) → Prop
  | shown {t : ProxyTable} {entries : List FieldEntry}
      (string : object.text.isSome = true → entries = [])
      (declared : object.text = none → entries.map (fun e => (e.name, e.typeName)) =
        object.classDef.instanceFields.map fun f => (f.name, f.typeName))
      (values : (object.classDef.instanceFields.map (·.name)).Nodup → ∀ e ∈ entries, ∃ value,
        s.world.shared.heap.field? id e.name = some value ∧ ShownAs s.world t value e.value) :
      AllShown s object id t (.ok entries)

/-- Entries that show the fields of an object, one by one, show all there is to be seen. -/
theorem allShown_of_entries {ds : List Vm.Deed} (history : s.world = Vm.fresh.after ds)
    (live : s.world.shared.heap.object? o.id = some object)
    (each : List.Forall₂ (s.Entry t)
      (object.classDef.instanceFields.zip (object.fields.map (·.2))) entries) :
    s.AllShown object o.id t (.ok entries) := by
  have there : (Vm.fresh.after ds).shared.heap.object? o.id = some object := history ▸ live
  have string (text : object.text.isSome = true) : entries = [] := by
    obtain ⟨text, string⟩ := Option.isSome_iff_exists.mp text
    rw [Vm.string_has_no_fields there string, List.map_nil, List.zip_nil_right] at each
    cases each
    rfl
  have declared (plain : object.text = none) : entries.map (fun e => (e.name, e.typeName)) =
      object.classDef.instanceFields.map fun f => (f.name, f.typeName) := by
    have long := congrArg List.length (Vm.fields_are_declared there plain)
    simp only [List.length_map] at long
    rw [entries_declared each, List.map_fst_zip (by simp [long])]
  refine .shown string declared fun distinct e member => ?_
  have named : (entries.map (·.name)).Nodup := by
    cases text : object.text with
    | none =>
      have names := congrArg (List.map (·.1)) (declared text)
      simp only [List.map_map, Function.comp_def] at names
      rwa [names]
    | some text' =>
      rw [string (by rw [text]; rfl)]
      exact .nil
  have found := find?_entries each e.name
  rw [find?_of_nodup named member] at found
  have listed := Vm.listing_shows_fields there e.name
  rw [← history] at listed
  generalize (object.classDef.instanceFields.zip (object.fields.map (·.2))).find?
    (fun f => f.1.name = e.name) = f at found listed
  cases found with
  | some entry => exact ⟨_, listed.symm, entry.2.2⟩

/-- The first entry of a name shows all there is to be seen of the field. -/
theorem fieldShown_of_entries {ds : List Vm.Deed} (history : s.world = Vm.fresh.after ds)
    (live : s.world.shared.heap.object? o.id = some object)
    (each : List.Forall₂ (s.Entry t)
      (object.classDef.instanceFields.zip (object.fields.map (·.2))) entries) (field : String) :
    s.FieldShown m field (s.world.shared.heap.field? o.id field) t
      (match entries.find? (·.name == field) with
        | some e => .ok e.value
        | none => .error (.noSuchField m.className field)) := by
  have listed := Vm.listing_shows_fields (history ▸ live) field
  rw [← history] at listed
  rw [← listed]
  have found := find?_entries each field
  generalize (object.classDef.instanceFields.zip (object.fields.map (·.2))).find?
    (fun f => f.1.name = field) = f at found ⊢
  generalize entries.find? (·.name == field) = e at found
  cases found with
  | none => exact .absent
  | some entry => exact .shown entry.2.2

/-- **Looking comes out as the listing does,** of which one may pick something. -/
theorem Run.sees {may : Vm.Deed → Prop} {before ds : List Vm.Deed} {settings : DebuggerSettings}
    (run : Run may (create Vm.environment (Vm.fresh.after before) settings) ds s)
    (live : s.world.shared.heap.object? o.id = some object)
    (history : s.world = Vm.fresh.after (before ++ ds))
    (lists : s.Lists (object.classDef.instanceFields.zip (object.fields.map (·.2)))
      ((objectFields Vm.environment m).run s))
    {α : Type} {r : Except DebugError α × Session Vm}
    {Clear : ProxyTable → Except DebugError α → Prop} (pick : List FieldEntry → Except DebugError α)
    (picked : r = match (objectFields Vm.environment m).run s with
      | (.ok entries, s') => (pick entries, s')
      | (.error e, s') => (.error e, s'))
    (clear : ∀ entries t, List.Forall₂ (s.Entry t)
      (object.classDef.instanceFields.zip (object.fields.map (·.2))) entries →
        Clear t (pick entries)) :
    s.Sees (before ++ ds) object Clear r := by
  have values := Vm.listing_shows_values (history ▸ live)
  have long : (object.classDef.instanceFields.zip (object.fields.map (·.2))).length ≤
      object.fields.length := by
    have length := congrArg List.length values
    rw [List.length_map, List.length_map] at length
    exact Nat.le_of_eq length
  generalize (objectFields Vm.environment m).run s = x at lists picked
  subst picked
  cases lists with
  | @shown entries s' looks each =>
    refine .clear (looks.mono long) ?_ (clear entries _ each)
    rintro ⟨slotless, f, member, unproxied⟩
    replace member := List.mem_map_of_mem (f := (·.2)) member
    rw [← values] at member
    obtain ⟨g, inside, same⟩ := List.mem_map.mp member
    obtain ⟨e, entry⟩ := entry_of_mem each inside
    exact looks.not_unproxied slotless entry.2.2 (same ▸ unproxied)
  | @refused f e s' inside looks why fatal =>
    cases why with
    | slotless unproxied slotless =>
      have member := List.mem_map_of_mem (f := (·.2)) inside
      rw [values] at member
      obtain ⟨g, member, same⟩ := List.mem_map.mp member
      exact .obstructed (looks.mono long) ⟨slotless, g, member, same ▸ unproxied⟩
    | clashed handle existing id =>
      refine .overrun (looks.mono long) (fatal rfl) (Nat.lt_of_not_le fun few => ?_)
      -- As long as handles last, a session does not fail.
      obtain ⟨es, more, spent⟩ := (looks.mono long).spends
      have enough : (Vm.fresh.handed (before ++ ds ++ es)).length ≤ 2 ^ 64 := by
        rw [Vm.handed_append, List.length_append, ← history]
        exact Nat.le_trans (Nat.add_le_add_left spent _) few
      have few' := Nat.le_trans (handed_length_le (before ++ ds) es) enough
      have intact := (run.intact (intact_create settings before) few').1
      exact (more.intact intact enough).1.usable (fatal rfl)

/-- Where there is a slot, and the session goes on, nothing was in the way. -/
theorem Sees.clear_of {α : Type} {history : List Vm.Deed}
    {Clear : ProxyTable → Except DebugError α → Prop} {r : Except DebugError α × Session Vm}
    (sees : s.Sees history object Clear r) (slot : ¬ s.world.Slotless)
    (usable : r.2.lifecycle ≠ .failed) : Clear r.2.proxies r.1 := by
  cases sees with
  | clear looks free as => exact as
  | obstructed looks why => exact absurd why.1 slot
  | overrun looks failed => exact absurd failed usable

theorem FieldShown.primitive {field : String} {found : Option Value} {p : Primitive}
    {r : Except DebugError ProxyValue} (shown : s.FieldShown m field found t r)
    (holds : found = some (.primitive p)) : r = .ok (.primitive p) := by
  subst holds
  obtain ⟨⟨⟩⟩ := shown
  rfl

/-! ## 4. Sessions in which only bodies are submitted -/

theorem Move.bodies {ds : List Vm.Deed} (m : Move Vm.Deed.SubmitsBodies s ds s') :
    ∀ d ∈ ds, d.SubmitsBodies := by
  cases m with
  | world allowed => simpa using allowed
  | _ => simp [Vm.Deed.SubmitsBodies]

theorem Run.bodies {ds : List Vm.Deed} (run : Run Vm.Deed.SubmitsBodies s ds s') :
    ∀ d ∈ ds, d.SubmitsBodies := by
  induction run with
  | refl => simp
  | move _ m ih =>
    intro d member
    rcases List.mem_append.mp member with old | new
    · exact ih d old
    · exact m.bodies d new

theorem submitsBodies_of_isPlain (d : Vm.Deed) (plain : isPlain d = true) : d.SubmitsBodies := by
  cases d with
  | submit id task =>
    cases task with
    | body b => exact ⟨b, rfl⟩
    | invoke i => cases plain
  | _ => trivial

/-- **A session submits bodies only,** so if nobody else submits a call that nobody looked up, then
nobody does. -/
theorem after_bodies {acts : List Act} (bodies : ∀ a ∈ acts, a.Needs Vm.Deed.SubmitsBodies)
    (s : Session Vm) :
    ∃ ds, Run Vm.Deed.SubmitsBodies s ds (s.after acts) ∧ ∀ d ∈ ds, d.SubmitsBodies := by
  obtain ⟨ds, run⟩ := after_run submitsBodies_of_isPlain bodies s
  exact ⟨ds, run, run.bodies⟩

/-! ## 5. Inspection -/

/-- **A controller is shown what the debuggee reads.** Take a session after any run in which only
bodies were submitted to threads, and a proxy of an object that is there. -/
theorem inspection_is_faithful {may : Vm.Deed → Prop} {before ds : List Vm.Deed}
    {settings : DebuggerSettings}
    (run : Run may (create Vm.environment (Vm.fresh.after before) settings) ds s)
    (bodies : ∀ d ∈ before ++ ds, d.SubmitsBodies) (usable : s.lifecycle ≠ .failed)
    (known : s.proxies.objectFor? m.handle = some o)
    (live : s.world.shared.heap.object? o.id = some object) :
    -- Looking at a field shows what a body that asks for the field is answered,
    (∀ (t : Thread) (field : String), s.Sees (before ++ ds) object
      (s.FieldShown m field (t.answer s.world.shared (.field o.id field)).1)
      ((fieldValue Vm.environment m field).run s)) ∧
    -- and this is what was stored there last, or the default of the declared type.
    (∀ (t : Thread) (field : String), (t.answer s.world.shared (.field o.id field)).1 =
      (object.declared? field).map fun type =>
        (Heap.lastStored o.id field (Vm.fresh.stores (before ++ ds))).getD (.defaultOf type)) ∧
    -- Looking at all fields shows those that the class of the object declares, in order.
    s.Sees (before ++ ds) object (s.AllShown object o.id)
      ((objectFields Vm.environment m).run s) ∧
    -- This class was loaded when the object was made or, if a thread made it with the call that a
    -- controller gave it, when this call was asked for.
    Vm.MadeOf (before ++ ds) o.id object.classDef ∧
    -- No other version of the class will do.
    ∀ c, Vm.MadeOf (before ++ ds) o.id c → c.name = object.classDef.name → c = object.classDef := by
  have history : s.world = Vm.fresh.after (before ++ ds) := by
    rw [run.world_eq, Vm.after_append]
    rfl
  have there : (Vm.fresh.after (before ++ ds)).shared.heap.object? o.id = some object :=
    history ▸ live
  have ready : s.Ready := by
    refine ⟨?_, run.keeps_consistent ProxyTable.consistent_empty⟩
    rw [history]
    exact fun id o there => Vm.class_stays_loaded bodies there
  have lists := objectFields_lists ready usable known live
  refine ⟨fun t field => ?_, fun t field => ?_, ?_, Vm.made_of bodies there,
    fun c made same => made.unique (Vm.made_of bodies there) same⟩
  · refine run.sees live history lists _ ?_
      fun entries t each => fieldShown_of_entries history live each field
    show (objectFields Vm.environment m >>= _).run s = _
    rw [Action.run_bind]
    rcases (objectFields Vm.environment m).run s with ⟨e | entries, s'⟩
    · rfl
    · dsimp only
      cases entries.find? (·.name == field) <;> rfl
  · show s.world.shared.heap.field? o.id field = _
    rw [history]
    exact Vm.field_holds_last_store there field
  · refine run.sees live history lists .ok ?_
      fun entries t each => allShown_of_entries history live each
    rcases (objectFields Vm.environment m).run s with ⟨e | entries, s'⟩ <;> rfl

/-- A class of pairs: each has a number, and a next one. -/
def pairClass : ClassDef :=
  { ClassDef.empty "P" .plain with fields := [⟨"x", "int", false⟩, ⟨"next", "P", false⟩] }

/-- Two pairs are made and linked, and the first gets a number. -/
def linking : Body := ExceptT.run do
  let a ← Routine.requireObject (← Routine.invoke (.construct "P" []))
  let b ← Routine.invoke (.construct "P" [])
  Routine.setField a "next" b
  Routine.setField a "x" (.primitive (.int 7))
  return .object a

/-- The first pair gets a proxy, and the second has none yet. -/
def linked : List Act :=
  [.direct (.define pairClass), .request .launch, .runBody linking] ++
    List.replicate 10 (.direct (.step 1)) ++ [.proxyFor ⟨1, "P"⟩]

/-- A session with two pairs. -/
def pairs : Session Vm := (create Vm.environment Vm.fresh {}).after linked

theorem pairs_run : ∃ ds, Run Vm.Deed.SubmitsBodies
    (create Vm.environment (Vm.fresh.after []) {}) ds pairs ∧ ∀ d ∈ [] ++ ds, d.SubmitsBodies :=
  after_bodies (by simp [linked, Act.Needs, Vm.Deed.SubmitsBodies]) _

set_option maxRecDepth 4000 in
theorem pairs_live : pairs.world.shared.heap.object? 1 = some
    ⟨pairClass, [("x", .primitive (.int 7)), ("next", .object ⟨2, "P"⟩)], none⟩ := by rfl

theorem pairs_known : pairs.proxies.objectFor? ⟨1⟩ = some ⟨1, "P"⟩ := by decide +kernel

theorem pairs_slot :
    pairs.world.shared.heap.static? transportClass.name transportField = some .null := by
  decide +kernel

/-- The number is shown, and it is what was stored last. -/
theorem linked_pair_is_shown :
    ((fieldValue Vm.environment ⟨⟨1⟩, "P"⟩ "x").run pairs).1 = .ok (.primitive (.int 7)) ∧
      ∃ ds, pairs.world = Vm.fresh.after ds ∧
        Heap.lastStored 1 "x" (Vm.fresh.stores ds) = some (.primitive (.int 7)) := by
  obtain ⟨ds, run, bodies⟩ := pairs_run
  have usable : pairs.lifecycle ≠ .failed := by decide +kernel
  obtain ⟨sees, stored, -, -, -⟩ :=
    inspection_is_faithful (m := ⟨⟨1⟩, "P"⟩) run bodies usable pairs_known pairs_live
  let t : Thread := { id := 1, name := "main", group := mainGroup }
  have answer : (t.answer pairs.world.shared (.field 1 "x")).1 = some (.primitive (.int 7)) := by
    show pairs.world.shared.heap.field? 1 "x" = _
    rw [Heap.field?_of_object? pairs_live]
    rfl
  have lasting : ((fieldValue Vm.environment ⟨⟨1⟩, "P"⟩ "x").run pairs).2.lifecycle ≠ .failed := by
    decide +kernel
  have slot : ¬ pairs.world.Slotless := fun slotless => by cases pairs_slot.symm.trans slotless
  refine ⟨((sees t "x").clear_of slot lasting).primitive answer, ds, run.world_eq, ?_⟩
  have held : some (.primitive (.int 7)) =
      some ((Heap.lastStored 1 "x" (Vm.fresh.stores ds)).getD (.primitive (.int 0))) :=
    answer.symm.trans (stored t "x")
  generalize Heap.lastStored 1 "x" (Vm.fresh.stores ds) = last at held ⊢
  cases last with
  | none => cases held
  | some value => exact held.symm

/-- The class with the slot is replaced by one without it. -/
def unslotted : Session Vm :=
  pairs.after [.direct (.define (.empty transportClass.name .internal))]

/-- A pair is asked for, and its class is replaced by one without fields. -/
def askedPair : Session Vm :=
  (create Vm.environment Vm.fresh {}).after
    [.direct (.define pairClass), .request .launch, .direct (.newInstance "P" [] []),
      .direct (.define (.empty "P" .plain))]

/-- The pair is made only now. -/
def madePair : Session Vm :=
  askedPair.after (List.replicate 6 (.direct (.step 1)) ++ [.proxyFor ⟨1, "P"⟩])

set_option maxRecDepth 4000 in
/-- Without the slot, a body reads the number still, and a controller is not shown it. And a pair
that is made late has the fields of the class that was replaced before. -/
theorem lost_slot_hides_fields :
    (unslotted.lifecycle = .launched ∧ unslotted.proxies.objectFor? ⟨1⟩ = some ⟨1, "P"⟩ ∧
      (∀ t : Thread, (t.answer unslotted.world.shared (.field 1 "x")).1 =
        some (.primitive (.int 7))) ∧
      ((fieldValue Vm.environment ⟨⟨1⟩, "P"⟩ "x").run unslotted).1 =
        .error (.ofRuntime (.classNotFound transportClass.name))) ∧
    askedPair.world.shared.heap.object? 1 = none ∧
      askedPair.world.shared.class? "P" = some (.empty "P" .plain) ∧
      ((objectFields Vm.environment ⟨⟨1⟩, "P"⟩).run madePair).1.map (·.map (·.name)) =
        .ok ["x", "next"] :=
  ⟨⟨by decide +kernel, by decide +kernel, fun _ => rfl, rfl⟩, rfl, rfl, rfl⟩

end Session

end Debugger
