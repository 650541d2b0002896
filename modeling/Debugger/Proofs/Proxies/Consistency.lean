import Debugger.ProxyTable
import Debugger.Environment.ObjectStore
import Debugger.Proofs.Actions
/-!
# The maps of proxies agree

A table of proxies is three maps that speak of the same objects: from objects to proxies, from
handles to objects, and from names to proxies. `ProxyTable.Consistent` says what it is for them to
agree, and `ProxyTable.consistent_after_every_run` that they do after any operations in any order.

Nothing is assumed of the environment. It is an arbitrary machine that may refuse anything, change
its mind, and hand out a handle that is in use. That is why the theorem quantifies over
`Environment σ` for every `σ` and has no hypothesis on it.

## 1. Agreement

## 2. Updates of a table

One lemma for each way in which a table is written.

## 3. Running an operation

How operations compose, and what those that ask the environment can do to a table: at most add a
class.

## 4. Getting a proxy

`Obtains` lists how a request for a proxy comes out, and the proof that the list is complete is the
only one that follows the operation through its six refusals. `Obtained` is what is left of the list
when one looks at the table alone.

## 5. Sequences of operations
-/

namespace Debugger

open Std (TreeMap)

namespace ProxyTable

variable {σ α β : Type} {t : ProxyTable}

/-! ## 1. Agreement -/

/-- The maps of a table agree. -/
structure Consistent (t : ProxyTable) : Prop where
  /-- An object has a proxy under a handle just when the handle has the object. -/
  inverse : ∀ (id : ObjectId) (h : Handle), (∃ p : Proxy, t.byObject[id]? = some p ∧ p.handle = h) ↔
    ∃ o : ObjectRef, t.byHandle[h]? = some o ∧ o.id = id
  named : ∀ (scope name : String) (bindings : TreeMap String Proxy) (p : Proxy),
    t.names[scope]? = some bindings → bindings[name]? = some p → p.handle ∈ t.byHandle
  /-- A scope without bindings does not exist. -/
  inhabited : ∀ (scope : String) (bindings : TreeMap String Proxy),
    t.names[scope]? = some bindings → bindings.isEmpty = false

theorem consistent_empty : Consistent {} := by
  refine ⟨?_, ?_, ?_⟩
  · intro id h
    constructor
    · rintro ⟨p, hp, -⟩
      rw [TreeMap.getElem?_emptyc] at hp
      cases hp
    · rintro ⟨o, ho, -⟩
      rw [TreeMap.getElem?_emptyc] at ho
      cases ho
  · intro scope name bindings p hs
    rw [TreeMap.getElem?_emptyc] at hs
    cases hs
  · intro scope bindings hs
    rw [TreeMap.getElem?_emptyc] at hs
    cases hs

/-- The classes play no part in it. -/
theorem Consistent.classes (h : t.Consistent) (classes : TreeMap String ClassInfo) :
    Consistent { t with classes } := ⟨h.inverse, h.named, h.inhabited⟩

/-! ## 2. Updates of a table -/

/-- The two maps stay inverse when an object without a proxy gets one under a free handle. -/
theorem Consistent.enter (h : t.Consistent) {id : ObjectId} {p : Proxy}
    (untracked : t.byObject[id]? = none) (free : t.byHandle[p.handle]? = none) :
    Consistent (t.enter id p) := by
  refine ⟨?_, ?_, h.inhabited⟩
  · intro other k
    simp only [ProxyTable.enter, TreeMap.getElem?_insert, Std.compare_eq_iff_eq]
    by_cases hid : id = other
    · subst hid
      by_cases hk : p.handle = k
      · simp [hk]
      · -- Whatever stands under another handle is another object.
        have apart : ¬∃ o, t.byHandle[k]? = some o ∧ o.id = id := by
          rw [← h.inverse]
          simp [untracked]
        simpa [hk] using apart
    · by_cases hk : p.handle = k
      · subst hk
        have apart : ¬∃ q, t.byObject[other]? = some q ∧ q.handle = p.handle := by
          rw [h.inverse]
          simp [free]
        simpa [hid] using apart
      · simpa [hid, hk] using h.inverse other k
  · intro scope name bindings q hs hn
    have known := h.named scope name bindings q hs hn
    exact TreeMap.mem_insert.mpr (.inr known)

/-- What is bound after the names of a proxy were dropped was bound before, and to another proxy. -/
theorem getElem?_dropNamesOf {p : Proxy} {names : TreeMap String (TreeMap String Proxy)}
    {scope : String} {bindings : TreeMap String Proxy}
    (h : (dropNamesOf p names)[scope]? = some bindings) :
    bindings.isEmpty = false ∧
      ∃ before, names[scope]? = some before ∧
        ∀ (name : String) (q : Proxy), bindings[name]? = some q →
          before[name]? = some q ∧ q.handle ≠ p.handle := by
  unfold dropNamesOf at h
  rw [TreeMap.getElem?_filter', TreeMap.getElem?_map, Option.filter_eq_some_iff,
    Option.map_eq_some_iff] at h
  obtain ⟨⟨before, hb, rfl⟩, inhabited⟩ := h
  refine ⟨by simpa using inhabited, before, hb, ?_⟩
  intro name q hq
  rw [TreeMap.getElem?_filter', Option.filter_eq_some_iff] at hq
  obtain ⟨hq, other⟩ := hq
  exact ⟨hq, by simpa [Proxy.same] using other⟩

theorem remove?_some {id : ObjectId} {p : Proxy} {t' : ProxyTable}
    (h : t.remove? id = some (p, t')) :
    t.byObject[id]? = some p ∧
      t' = { t with
        byObject := t.byObject.erase id
        byHandle := t.byHandle.erase p.handle
        names := dropNamesOf p t.names } := by
  unfold remove? at h
  cases hp : t.byObject[id]? with
  | none =>
    rw [hp] at h
    cases h
  | some q =>
    rw [hp] at h
    cases h
    exact ⟨rfl, rfl⟩

/-- Removing an object takes its proxy out of all three maps. -/
theorem Consistent.remove (h : t.Consistent) {id : ObjectId} {p : Proxy} {t' : ProxyTable}
    (removed : t.remove? id = some (p, t')) : Consistent t' := by
  obtain ⟨hp, rfl⟩ := remove?_some removed
  obtain ⟨o, ho, hid⟩ := (h.inverse id p.handle).mp ⟨p, hp, rfl⟩
  refine ⟨?_, ?_, ?_⟩
  · intro other k
    simp only [TreeMap.getElem?_erase, Std.compare_eq_iff_eq]
    by_cases hother : id = other
    · subst hother
      by_cases hk : p.handle = k
      · simp [hk]
      · -- The object has one proxy, and this is under another handle.
        have apart : ¬∃ o, t.byHandle[k]? = some o ∧ o.id = id := by
          rw [← h.inverse]
          simp [hp, hk]
        simpa [hk] using apart
    · by_cases hk : p.handle = k
      · subst hk
        have apart : ¬∃ q, t.byObject[other]? = some q ∧ q.handle = p.handle := by
          rw [h.inverse]
          simp [ho, hid, hother]
        simpa [hother] using apart
      · simpa [hother, hk] using h.inverse other k
  · intro scope name bindings q hs hn
    obtain ⟨-, before, hb, kept⟩ := getElem?_dropNamesOf hs
    obtain ⟨hq, hne⟩ := kept name q hn
    have known := h.named scope name before q hb hq
    exact TreeMap.mem_erase.mpr ⟨by simpa using Ne.symm hne, known⟩
  · intro scope bindings hs
    exact (getElem?_dropNamesOf hs).1

theorem Consistent.bind (h : t.Consistent) {scope name : String} {p : Proxy} {t' : ProxyTable}
    (bound : t.bind? scope name p = some t') : Consistent t' := by
  unfold bind? at bound
  split at bound
  · next known =>
    cases bound
    refine ⟨h.inverse, ?_, ?_⟩
    · intro other n bindings q hs hn
      rw [TreeMap.getElem?_insert] at hs
      split at hs
      -- In the scope itself the name is new, and the others were there if the scope was.
      · cases hs
        rw [TreeMap.getElem?_insert] at hn
        split at hn
        · cases hn
          exact TreeMap.mem_iff_contains.mpr known
        · rw [TreeMap.getD_eq_getD_getElem?] at hn
          cases hb : t.names[scope]? with
          | none =>
            rw [hb, Option.getD_none, TreeMap.getElem?_emptyc] at hn
            cases hn
          | some before =>
            rw [hb, Option.getD_some] at hn
            exact h.named scope n before q hb hn
      · exact h.named other n bindings q hs hn
    · intro other bindings hs
      rw [TreeMap.getElem?_insert] at hs
      split at hs
      · cases hs
        exact TreeMap.isEmpty_insert
      · exact h.inhabited other bindings hs
  · cases bound

theorem bind?_kept {scope name : String} {p : Proxy} {t' : ProxyTable}
    (bound : t.bind? scope name p = some t') :
    t'.byObject = t.byObject ∧ t'.byHandle = t.byHandle := by
  unfold bind? at bound
  split at bound
  · cases bound
    exact ⟨rfl, rfl⟩
  · cases bound

/-- What is bound after a binding was removed was bound before. -/
theorem Consistent.getElem?_unbind (h : t.Consistent) {scope name other : String}
    {bindings : TreeMap String Proxy}
    (hs : (t.unbind scope name).2.names[other]? = some bindings) :
    bindings.isEmpty = false ∧ ∃ all, t.names[other]? = some all ∧
      ∀ (n : String) (q : Proxy), bindings[n]? = some q → all[n]? = some q := by
  unfold ProxyTable.unbind at hs
  split at hs
  · exact ⟨h.inhabited other bindings hs, bindings, hs, fun _ _ hq => hq⟩
  next before hb =>
  dsimp only at hs
  split at hs
  · rw [TreeMap.getElem?_erase] at hs
    split at hs
    · cases hs
    · exact ⟨h.inhabited other bindings hs, bindings, hs, fun _ _ hq => hq⟩
  -- The scope has other bindings, so it stays.
  next inhabited =>
  rw [TreeMap.getElem?_insert] at hs
  split at hs
  · next same =>
    cases hs
    rw [Std.compare_eq_iff_eq] at same
    subst same
    refine ⟨Bool.of_not_eq_true inhabited, before, hb, ?_⟩
    intro n q hq
    rw [TreeMap.getElem?_erase] at hq
    split at hq
    · cases hq
    · exact hq
  · exact ⟨h.inhabited other bindings hs, bindings, hs, fun _ _ hq => hq⟩

theorem unbind_kept (t : ProxyTable) (scope name : String) :
    (t.unbind scope name).2.byObject = t.byObject ∧
      (t.unbind scope name).2.byHandle = t.byHandle := by
  unfold ProxyTable.unbind
  split
  · exact ⟨rfl, rfl⟩
  · exact ⟨rfl, rfl⟩

theorem Consistent.unbind (h : t.Consistent) (scope name : String) :
    Consistent (t.unbind scope name).2 := by
  obtain ⟨objects, handles⟩ := t.unbind_kept scope name
  refine ⟨?_, ?_, ?_⟩
  · rw [objects, handles]
    exact h.inverse
  · intro other n bindings q hs hn
    obtain ⟨-, all, ha, sub⟩ := h.getElem?_unbind hs
    rw [handles]
    exact h.named other n all q ha (sub n q hn)
  · intro other bindings hs
    exact (h.getElem?_unbind hs).1

/-! ## 3. Running an operation -/

variable {x : ProxyTable × σ}

theorem run_getTable (x : ProxyTable × σ) : (getTable : Op σ ProxyTable).run x = (.ok x.1, x) := rfl

theorem run_setTable (t : ProxyTable) (x : ProxyTable × σ) :
    (setTable t : Op σ Unit).run x = (.ok (), (t, x.2)) := rfl

theorem run_attempt (a : Action σ RuntimeError α) (x : ProxyTable × σ) :
    (attempt a).run x = (.ok (a.run x.2).1, (x.1, (a.run x.2).2)) := rfl

theorem run_ask (a : Action σ RuntimeError α) (x : ProxyTable × σ) :
    (ask a).run x =
      match a.run x.2 with
      | (.ok v, w) => (.ok v, (x.1, w))
      | (.error e, w) => (.error (.ofRuntime e), (x.1, w)) := by
  unfold ask
  rw [Action.run_bind, run_attempt]
  rcases a.run x.2 with ⟨e | v, w⟩ <;> rfl

/-- Looking at a class adds it to those that were looked at, or changes nothing. One that could be
looked at is among them. -/
theorem run_classInfo (env : Environment σ) (name : String) (x : ProxyTable × σ) :
    ∃ r classes w, (classInfo env name).run x = (r, ({ x.1 with classes }, w)) ∧
      (w = x.2 ∨ w = ((env.classInfo name).run x.2).2) ∧
      (∀ e, r = .error e → ∃ refusal, e = .ofRuntime refusal) ∧
      ∀ c, r = .ok c → name ∈ classes := by
  unfold classInfo
  rw [Action.run_bind, run_getTable]
  dsimp only
  cases viewed : x.1.classes[name]? with
  | some c =>
    refine ⟨_, _, _, rfl, .inl rfl, nofun, fun _ _ => ?_⟩
    exact TreeMap.mem_iff_isSome_getElem?.mpr (by rw [viewed, Option.isSome_some])
  | none =>
    dsimp only
    rw [Action.run_bind, run_ask]
    rcases (env.classInfo name).run x.2 with ⟨e | c, w⟩
    · refine ⟨_, x.1.classes, _, rfl, .inr rfl, ?_, nofun⟩
      rintro _ ⟨⟩
      exact ⟨e, rfl⟩
    · exact ⟨_, x.1.classes.insert name c, _, rfl, .inr rfl, nofun,
        fun _ _ => TreeMap.mem_insert_self⟩

theorem run_letGo (env : Environment σ) (handle : Handle) (x : ProxyTable × σ) :
    ((letGo env handle).run x).2.1 = x.1 := by
  unfold letGo
  rw [Action.run_bind, run_attempt]
  dsimp only
  cases ((env.release handle).run x.2).1 with
  | ok => rfl
  | error e => cases e <;> rfl

/-! ## 4. Getting a proxy -/

/-- **A proxy that is known is given out again, and nothing else happens.** -/
theorem obtainFor_known (env : Environment σ) {object : ObjectRef} {p : Proxy}
    (h : x.1.byObject[object.id]? = some p) :
    (obtainFor env object).run x = (.ok (some p), x) := by
  unfold obtainFor
  rw [Action.run_bind, run_getTable]
  dsimp only
  rw [h]
  rfl

/-- How a request for a proxy comes out. The first questions are about the object and its class, and
all that is said of the environment after them is that it is related to what it was. -/
inductive Obtains (R : σ → σ → Prop) (env : Environment σ) (object : ObjectRef)
    (x : ProxyTable × σ) : Except DebugError (Option Proxy) × (ProxyTable × σ) → Prop
  | known {p : Proxy} (tracked : x.1.byObject[object.id]? = some p) :
      Obtains R env object x (.ok (some p), x)
  /-- The object does not exist or is not to be shown. -/
  | hidden {w : σ} (looked : R x.2 w) : Obtains R env object x (.ok none, (x.1, w))
  | refused {w : σ} (e : RuntimeError) (classes : TreeMap String ClassInfo) (looked : R x.2 w) :
      Obtains R env object x (.error (.ofRuntime e), ({ x.1 with classes }, w))
  | notInstalled {w w' : σ} {e : RuntimeError} (classes : TreeMap String ClassInfo)
      (looked : R x.2 w) (install : (env.installTransport object.id).run w = (.error e, w')) :
      Obtains R env object x (.error (.ofRuntime e), ({ x.1 with classes }, w'))
  | notTaken {w w' w'' : σ} {e : RuntimeError} (classes : TreeMap String ClassInfo)
      (looked : R x.2 w) (install : (env.installTransport object.id).run w = (.ok (), w'))
      (take : env.takeTransport.run w' = (.error e, w'')) :
      Obtains R env object x (.error (.ofRuntime e), ({ x.1 with classes }, w''))
  | clashed {w w' w'' : σ} {handle : Handle} {existing : ObjectRef}
      (classes : TreeMap String ClassInfo) (looked : R x.2 w)
      (install : (env.installTransport object.id).run w = (.ok (), w'))
      (take : env.takeTransport.run w' = (.ok handle, w''))
      (bound : x.1.byHandle[handle]? = some existing) :
      Obtains R env object x (.error (.cacheCorrupted handle existing.id object.id),
        ({ x.1 with classes }, ((env.release handle).run w'').2))
  | made {w w' w'' : σ} {handle : Handle} {className : String}
      (classes : TreeMap String ClassInfo) (untracked : x.1.byObject[object.id]? = none)
      (looked : R x.2 w) (install : (env.installTransport object.id).run w = (.ok (), w'))
      (take : env.takeTransport.run w' = (.ok handle, w''))
      (unused : ∀ o : ObjectRef, x.1.byHandle[handle]? = some o → o.id = object.id)
      (viewed : className ∈ classes) :
      Obtains R env object x (.ok (some ⟨handle, className⟩),
        (enter { x.1 with classes } object.id ⟨handle, className⟩, w''))

/-- **How a request for a proxy comes out,** when questions about objects and classes keep the
environment within a relation. -/
theorem obtainFor_obtains {R : σ → σ → Prop} [Std.Refl R] [Trans R R R] {env : Environment σ}
    (category : ∀ id, Action.Within R (env.objectCategory id))
    (className : ∀ id, Action.Within R (env.objectClass id))
    (info : ∀ name, Action.Within R (env.classInfo name)) (object : ObjectRef)
    (x : ProxyTable × σ) : Obtains R env object x ((obtainFor env object).run x) := by
  cases untracked : x.1.byObject[object.id]? with
  | some p =>
    rw [obtainFor_known env untracked]
    exact .known untracked
  | none =>
    unfold obtainFor
    rw [Action.run_bind, run_getTable]
    dsimp only
    rw [untracked]
    dsimp only
    -- From here on each question may be refused, and nothing but a class has been entered yet.
    rw [Action.run_bind, run_attempt]
    have looked := category object.id x.2
    rcases hr : (env.objectCategory object.id).run x.2 with ⟨e | category, w₁⟩
    · rw [hr] at looked
      cases e <;> first | exact .hidden looked | exact .refused _ x.1.classes looked
    rw [hr] at looked
    dsimp only
    split
    · exact .hidden looked
    rw [Action.run_bind, run_ask]
    have next := className object.id w₁
    rcases hr : (env.objectClass object.id).run w₁ with ⟨e | name, w₂⟩
    · rw [hr] at next
      exact .refused e x.1.classes (Trans.trans looked next)
    rw [hr] at next
    replace looked : R x.2 w₂ := Trans.trans looked next
    dsimp only
    rw [Action.run_bind]
    obtain ⟨r, classes, w, hr, kept, refusal, viewed⟩ := run_classInfo env name (x.1, w₂)
    replace looked : R x.2 w := by
      rcases kept with rfl | rfl
      · exact looked
      · exact Trans.trans looked (info name w₂)
    rw [hr]
    cases r with
    | error e =>
      obtain ⟨e, rfl⟩ := refusal _ rfl
      exact .refused e classes looked
    | ok c =>
      replace viewed : name ∈ classes := viewed c rfl
      dsimp only
      rw [Action.run_bind, run_ask]
      rcases install : (env.installTransport object.id).run w with ⟨e | _, w'⟩
      · exact .notInstalled classes looked install
      dsimp only
      rw [Action.run_bind, run_ask]
      rcases take : env.takeTransport.run w' with ⟨e | handle, w''⟩
      · exact .notTaken classes looked install take
      dsimp only
      rw [Action.run_bind, run_getTable]
      dsimp only
      cases bound : x.1.byHandle[handle]? with
      | none =>
        refine .made classes untracked looked install take ?_ viewed
        intro o ho
        rw [bound] at ho
        cases ho
      | some existing =>
        dsimp only
        split
        · rw [Action.run_bind, run_attempt]
          exact .clashed classes looked install take bound
        · next same =>
          refine .made classes untracked looked install take ?_ viewed
          intro o ho
          rw [bound] at ho
          cases ho
          exact Decidable.not_not.mp same

/-- What can become of a table when a proxy for an object is asked for. -/
inductive Obtained (t : ProxyTable) (object : ObjectRef) :
    Except DebugError (Option Proxy) → ProxyTable → Prop
  | known {p : Proxy} (tracked : t.byObject[object.id]? = some p) :
      Obtained t object (.ok (some p)) t
  /-- The object does not exist or is not to be shown. -/
  | hidden : Obtained t object (.ok none) t
  | failed (e : DebugError) (classes : TreeMap String ClassInfo) :
      Obtained t object (.error e) { t with classes }
  | made (p : Proxy) (classes : TreeMap String ClassInfo)
      (untracked : t.byObject[object.id]? = none)
      (unused : ∀ o : ObjectRef, t.byHandle[p.handle]? = some o → o.id = object.id)
      (viewed : p.className ∈ classes) :
      Obtained t object (.ok (some p)) (enter { t with classes } object.id p)

/-- **What can become of a table when a proxy is asked for.** Here the environment may do anything at
any question. -/
theorem obtainFor_obtained (env : Environment σ) (object : ObjectRef) (x : ProxyTable × σ) :
    Obtained x.1 object ((obtainFor env object).run x).1 ((obtainFor env object).run x).2.1 := by
  let R : σ → σ → Prop := fun _ _ => True
  have : Std.Refl R := ⟨fun _ => trivial⟩
  have : Trans R R R := ⟨fun _ _ => trivial⟩
  have obtains : Obtains R env object x ((obtainFor env object).run x) :=
    obtainFor_obtains (fun _ _ => trivial) (fun _ _ => trivial) (fun _ _ => trivial) object x
  generalize (obtainFor env object).run x = out at obtains
  cases obtains with
  | known tracked => exact .known tracked
  | hidden => exact .hidden
  | refused _ classes | notInstalled classes | notTaken classes | clashed classes =>
    exact .failed _ classes
  | made classes untracked _ _ _ unused viewed => exact .made _ classes untracked unused viewed

variable {object : ObjectRef} {result : Except DebugError (Option Proxy)} {t' : ProxyTable}

theorem Obtained.consistent (h : Obtained t object result t') (ht : t.Consistent) :
    t'.Consistent := by
  cases h with
  | known | hidden => exact ht
  | failed e classes => exact ht.classes classes
  | made p classes untracked unused =>
    refine (ht.classes classes).enter untracked ?_
    cases held : t.byHandle[p.handle]? with
    | none => rfl
    | some o =>
      -- The handle would have to be the object's own, and it has none.
      obtain ⟨q, hq, -⟩ := (ht.inverse object.id p.handle).mpr ⟨o, held, unused o held⟩
      rw [untracked] at hq
      cases hq

theorem Obtained.kept (h : Obtained t object result t') (hr : ∀ p, result ≠ .ok (some p)) :
    t'.byObject = t.byObject ∧ t'.byHandle = t.byHandle ∧ t'.names = t.names := by
  cases h with
  | known | made => exact absurd rfl (hr _)
  | hidden | failed => exact ⟨rfl, rfl, rfl⟩

/-- The class of an object was looked at when the object got its proxy. -/
theorem Obtained.viewed {p : Proxy} (h : Obtained t object (.ok (some p)) t')
    (untracked : t.byObject[object.id]? = none) : p.className ∈ t'.classes := by
  cases h with
  | known tracked => cases untracked.symm.trans tracked
  | made _ _ _ _ viewed => exact viewed

/-! ## 5. Sequences of operations -/

/-- The operations that write a table. -/
inductive Command
  | obtain (object : ObjectRef)
  | forget (id : ObjectId)
  | forgetProxy (p : Proxy)
  | clear
  | bindName (scope name : String) (p : Proxy)
  | unbindName (scope name : String)
  | classInfo (name : String)

/-- What an operation leaves behind, whether it succeeds or not. -/
def Command.run (env : Environment σ) (x : ProxyTable × σ) : Command → ProxyTable × σ
  | obtain object => ((obtainFor env object).run x).2
  | forget id => ((ProxyTable.forget env id).run x).2
  | forgetProxy p => ((ProxyTable.forgetProxy env p).run x).2
  | clear => ({}, x.2)
  | bindName scope name p => ((ProxyTable.bindName scope name p).run x).2
  | unbindName scope name => ((ProxyTable.unbindName scope name).run x).2
  | classInfo name => ((ProxyTable.classInfo env name).run x).2

theorem run_forget_consistent (env : Environment σ) (id : ObjectId) (hx : x.1.Consistent) :
    ((forget env id).run x).2.1.Consistent := by
  unfold forget
  rw [Action.run_bind, run_getTable]
  dsimp only
  cases removed : x.1.remove? id with
  | none => exact hx
  | some r =>
    obtain ⟨p, t⟩ := r
    dsimp only
    rw [Action.run_bind, run_setTable]
    dsimp only
    rw [run_letGo]
    exact hx.remove removed

/-- **Every operation leaves the maps in agreement.** -/
theorem Command.run_consistent (env : Environment σ) (c : Command) (hx : x.1.Consistent) :
    (c.run env x).1.Consistent := by
  cases c with
  | obtain object => exact (obtainFor_obtained env object x).consistent hx
  | forget id => exact run_forget_consistent env id hx
  | forgetProxy p =>
    show ((ProxyTable.forgetProxy env p).run x).2.1.Consistent
    unfold ProxyTable.forgetProxy
    rw [Action.run_bind, run_getTable]
    dsimp only
    cases x.1.objectFor? p.handle with
    | none => exact hx
    | some o => exact run_forget_consistent env o.id hx
  | clear => exact consistent_empty
  | bindName scope name p =>
    show ((ProxyTable.bindName scope name p).run x).2.1.Consistent
    unfold ProxyTable.bindName
    rw [Action.run_bind, run_getTable]
    dsimp only
    cases bound : x.1.bind? scope name p with
    | none => exact hx
    | some t => exact hx.bind bound
  | unbindName scope name => exact hx.unbind scope name
  | classInfo name =>
    obtain ⟨r, classes, w, h, -, -⟩ := run_classInfo env name x
    show ((ProxyTable.classInfo env name).run x).2.1.Consistent
    rw [h]
    exact hx.classes classes

/-- What can become of an empty table. The environment does what it likes between two operations,
and need not be the same one twice. -/
inductive Reached : ProxyTable × σ → Prop
  | empty (world : σ) : Reached ({}, world)
  | command {x : ProxyTable × σ} (env : Environment σ) (c : Command) :
      Reached x → Reached (c.run env x)
  | elsewhere {x : ProxyTable × σ} (world : σ) : Reached x → Reached (x.1, world)

theorem Reached.consistent (h : Reached x) : x.1.Consistent := by
  induction h with
  | empty world => exact consistent_empty
  | command env c _ ih => exact c.run_consistent env ih
  | elsewhere world _ ih => exact ih

/-- **The maps of proxies agree after any operations, whatever the environment does.** A request for
a proxy that gives none leaves them as they were, and one for an object that has a proxy gives that
proxy out again, without a question to the environment. -/
theorem consistent_after_every_run (h : Reached x) :
    x.1.Consistent ∧
    (∀ (env : Environment σ) (object : ObjectRef),
      (∀ p, ((obtainFor env object).run x).1 ≠ .ok (some p)) →
      ((obtainFor env object).run x).2.1.byObject = x.1.byObject ∧
      ((obtainFor env object).run x).2.1.byHandle = x.1.byHandle ∧
      ((obtainFor env object).run x).2.1.names = x.1.names) ∧
    ∀ (env : Environment σ) (object : ObjectRef) (p : Proxy),
      x.1.byObject[object.id]? = some p → (obtainFor env object).run x = (.ok (some p), x) := by
  refine ⟨h.consistent, ?_, ?_⟩
  · intro env object none
    exact (obtainFor_obtained env object x).kept none
  · intro env object p known
    exact obtainFor_known env known

/-- A store with two objects, the first of which has a proxy. Its counter has been set back, so the
handle of this proxy is about to be given out again. -/
def secondHand : ProxyTable × ObjectStore :=
  let store := (({} : ObjectStore).insertObject 5 "Widget" .plain).insertObject 6 "Widget" .plain
  let x := (Command.obtain ⟨5, "Widget"⟩).run ObjectStore.environment ({}, store)
  (x.1, { x.2 with lastHandle := 0 })

theorem secondHand_reached : Reached secondHand :=
  .elsewhere _ (.command _ _ (.empty _))

/-- The handle is not entered for the second object, and the first object keeps its proxy. -/
theorem secondHand_kept :
    ((obtainFor ObjectStore.environment ⟨6, "Widget"⟩).run secondHand).1 =
      .error (.cacheCorrupted ⟨1⟩ 5 6) ∧
    ((obtainFor ObjectStore.environment ⟨6, "Widget"⟩).run secondHand).2.1.byHandle =
      secondHand.1.byHandle ∧
    (obtainFor ObjectStore.environment ⟨5, "Gadget"⟩).run secondHand =
      (.ok (some ⟨⟨1⟩, "Widget"⟩), secondHand) := by
  have refused : ((obtainFor ObjectStore.environment ⟨6, "Widget"⟩).run secondHand).1 =
      .error (.cacheCorrupted ⟨1⟩ 5 6) := by rfl
  obtain ⟨-, kept, known⟩ := consistent_after_every_run secondHand_reached
  refine ⟨refused, (kept _ _ ?_).2.1, known _ _ _ rfl⟩
  intro p
  rw [refused]
  exact nofun

end ProxyTable

end Debugger
