import Debugger.Proofs.Session.Work
/-!
# What a session knows it goes on knowing

A proxy is good for as long as its handle is known. There are few ways to lose one: it is forgotten,
or its object is, or the session is closed and with it every proxy goes. Whatever else is done in a
session, and whatever becomes of the debuggee meanwhile, a handle that was known stands for the object
it stood for.

* `Session.after_consistent` - the maps of a session agree after any acts. Nothing is assumed about how
  many handles the debuggee has given out: a handle that comes twice is refused and not entered.
* `Session.Keeps` - work that leaves a handle with its object.
* `Session.Act.LetsGo` - the acts that are there to give up a handle.
* `Session.after_knows` - no other act does.

## 1. The maps agree

## 2. Tables

## 3. Work in a session

## 4. Acts
-/

namespace Debugger

open Std (TreeMap)

/-! ## 1. The maps agree -/

namespace Session

variable {may : Vm.Deed → Prop} {s s' : Session Vm} {ds : List Vm.Deed}

theorem Move.keeps_consistent (m : Move may s ds s') (h : s.proxies.Consistent) :
    s'.proxies.Consistent := by
  cases m with
  | world | clashes | registers | unregisters | turns => exact h
  | learns classes => exact h.classes classes
  | @enters object className handle w untracked took free =>
    refine h.enter untracked ?_
    cases held : s.proxies.byHandle[handle]? with
    | none => rfl
    | some o =>
      -- The handle would have to be the object's own, and it has none.
      obtain ⟨p, tracked, -⟩ := (h.inverse object.id handle).mpr ⟨o, held, free o held⟩
      rw [untracked] at tracked
      cases tracked
  | forgets removed => exact h.remove removed
  | clears => exact ProxyTable.consistent_empty
  | binds bound => exact h.bind bound
  | unbinds scope name => exact h.unbind scope name
  | aside world proxies => exact proxies ▸ h

theorem Run.keeps_consistent (r : Run may s ds s') (h : s.proxies.Consistent) :
    s'.proxies.Consistent := by
  induction r with
  | refl => exact h
  | move _ m ih => exact m.keeps_consistent ih

/-- **The maps of a session agree, whatever was done with it.** -/
theorem after_consistent (h : s.proxies.Consistent) (acts : List Act) :
    (s.after acts).proxies.Consistent := by
  have needs : ∀ a ∈ acts, a.Needs fun _ => True := by
    intro a _
    cases a <;> simp [Act.Needs]
  obtain ⟨ds, run⟩ := after_run (fun _ _ => trivial) needs s
  exact run.keeps_consistent h

end Session

/-! ## 2. Tables -/

namespace ProxyTable

variable {t t' : ProxyTable} {handle : Handle} {o : ObjectRef}

/-- A handle stands for an object, in maps that agree. -/
structure Knows (t : ProxyTable) (handle : Handle) (o : ObjectRef) : Prop where
  consistent : t.Consistent
  known : t.byHandle[handle]? = some o

/-- The proxy of an object has the handle that stands for the object. -/
theorem Knows.proxy (h : t.Knows handle o) :
    ∃ p : Proxy, t.byObject[o.id]? = some p ∧ p.handle = handle :=
  (h.consistent.inverse o.id handle).mpr ⟨o, h.known, rfl⟩

theorem Knows.handle_eq (h : t.Knows handle o) {p : Proxy} (tracked : t.byObject[o.id]? = some p) :
    p.handle = handle := by
  obtain ⟨q, same, rfl⟩ := h.proxy
  rw [Option.some.inj (tracked.symm.trans same)]

theorem Knows.of_obtained {object : ObjectRef} {result : Except DebugError (Option Proxy)}
    (h : t.Knows handle o) (obtained : Obtained t object result t') : t'.Knows handle o := by
  refine ⟨obtained.consistent h.consistent, ?_⟩
  cases obtained with
  | known | hidden | failed => exact h.known
  | made p classes untracked unused =>
    -- The new handle is another one, or the object would have been tracked.
    have apart : p.handle ≠ handle := by
      rintro rfl
      obtain ⟨q, tracked, -⟩ := h.proxy
      rw [unused o h.known, untracked] at tracked
      cases tracked
    show (t.byHandle.insert p.handle _)[handle]? = _
    rw [TreeMap.getElem?_insert, if_neg (by simpa using apart)]
    exact h.known

theorem Knows.remove (h : t.Knows handle o) {id : ObjectId} {p : Proxy}
    (removed : t.remove? id = some (p, t')) (other : id ≠ o.id) : t'.Knows handle o := by
  refine ⟨h.consistent.remove removed, ?_⟩
  obtain ⟨tracked, rfl⟩ := remove?_some removed
  have apart : p.handle ≠ handle := by
    rintro rfl
    obtain ⟨o', known, same⟩ := (h.consistent.inverse id p.handle).mp ⟨p, tracked, rfl⟩
    cases known.symm.trans h.known
    exact other same.symm
  show (t.byHandle.erase p.handle)[handle]? = _
  rw [TreeMap.getElem?_erase, if_neg (by simpa using apart)]
  exact h.known

/-- Forgetting gives up one object and no other. -/
theorem Knows.forget {x : ProxyTable × Vm} (h : x.1.Knows handle o) {id : ObjectId}
    (other : id ≠ o.id) :
    ((ProxyTable.forget Vm.environment id).run x).2.1.Knows handle o := by
  unfold ProxyTable.forget
  rw [Action.run_bind, run_getTable]
  dsimp only
  cases removed : x.1.remove? id with
  | none => exact h
  | some r =>
    obtain ⟨p, t⟩ := r
    dsimp only
    rw [Action.run_bind, run_setTable]
    dsimp only
    rw [run_letGo]
    exact h.remove removed other

theorem Knows.forgetProxy {x : ProxyTable × Vm} (h : x.1.Knows handle o) {p : Proxy}
    (other : p.handle ≠ handle) :
    ((ProxyTable.forgetProxy Vm.environment p).run x).2.1.Knows handle o := by
  unfold ProxyTable.forgetProxy
  rw [Action.run_bind, run_getTable]
  dsimp only
  cases known : x.1.objectFor? p.handle with
  | none => exact h
  | some o' =>
    -- Two handles never stand for one object.
    have apart : o'.id ≠ o.id := by
      intro same
      obtain ⟨q, tracked, own⟩ :=
        (h.consistent.inverse o.id p.handle).mpr ⟨o', known, same⟩
      exact other (own.symm.trans (h.handle_eq tracked))
    exact h.forget apart

end ProxyTable

/-! ## 3. Work in a session -/

namespace Session

variable {handle : Handle} {o : ObjectRef} {α : Type}

/-- If a handle stood for an object, it still does. -/
def Keeps (handle : Handle) (o : ObjectRef) (s s' : Session Vm) : Prop :=
  s.proxies.Knows handle o → s'.proxies.Knows handle o

instance : Std.Refl (Keeps handle o) := ⟨fun _ h => h⟩

instance : Trans (Keeps handle o) (Keeps handle o) (Keeps handle o) := ⟨fun h h' k => h' (h k)⟩

theorem keeps_onProxies {a : ProxyTable.Op Vm α}
    (h : ∀ x, x.1.Knows handle o → (a.run x).2.1.Knows handle o) :
    Action.Within (Keeps handle o) (onProxies a) := by
  intro s known
  rw [run_onProxies]
  exact h _ known

/-- No piece of a session's work gives up a handle. -/
theorem keeps_permitted : Permits Vm.environment (Keeps handle o) where
  asks _ _ h := h
  tracks object := by
    refine within_noticeFatal (keeps_onProxies fun x h => ?_) fun e s h => ?_
    · exact h.of_obtained (ProxyTable.obtainFor_obtained Vm.environment object x)
    · rw [disable_eq]
      exact h
  looks className := by
    refine keeps_onProxies fun x h => ?_
    obtain ⟨r, classes, w, looked, -⟩ := ProxyTable.run_classInfo Vm.environment className x
    rw [looked]
    exact ⟨h.consistent.classes classes, h.known⟩
  binds s scope name p proxies bound h := by
    obtain ⟨-, same⟩ := ProxyTable.bind?_kept bound
    exact ⟨h.consistent.bind bound, same ▸ h.known⟩
  unbinds s scope name h := by
    obtain ⟨-, same⟩ := s.proxies.unbind_kept scope name
    have known : (s.proxies.unbind scope name).2.byHandle[handle]? = some o := same ▸ h.known
    exact ⟨h.consistent.unbind scope name, known⟩
  breakpoints _ _ h := h
  listeners _ _ _ h := h

theorem keeps_refresh (s : Session Vm) (reported : List ThreadInfo) :
    Keeps handle o s (refresh reported s) := by
  intro h
  obtain ⟨_, _, eq⟩ := refresh_eq reported s
  rw [eq]
  exact h

/-! ## 4. Acts -/

/-- An act that is there to give up the handle of an object. -/
def Act.LetsGo (handle : Handle) (id : ObjectId) : Act → Prop
  | request (.forget p) | table (.forgetProxy p) => p.handle = handle
  | table (.forget id') => id' = id
  | request (.close _) | table .clear => True
  | _ => False

theorem keeps_perform (r : Request) (stays : ¬ (Act.request r).LetsGo handle o.id) :
    Action.Within (Keeps handle o) (perform Vm.environment r) := by
  by_cases everyday : r.isEveryday = true
  · exact keeps_permitted.perform r everyday
  cases r with
  | launch => exact keeps_permitted.launch fun _ h => h
  | close => exact absurd trivial stays
  | forget object =>
    exact Permits.usable.bind fun _ => keeps_onProxies fun _ h => h.forgetProxy stays
  | hideSystemThreads hide => exact Permits.usable.bind fun _ => .modify fun _ h => h
  | threads => exact keeps_permitted.listing keeps_refresh
  | thread id => exact keeps_permitted.thread keeps_refresh id
  | threadTree => exact (keeps_permitted.listing keeps_refresh).bind fun _ => .pure _
  | _ => exact absurd rfl everyday

/-- **An act that is not there to give up a handle leaves it with its object.** -/
theorem Act.knows (a : Act) {s : Session Vm} (stays : ¬ a.LetsGo handle o.id)
    (h : s.proxies.Knows handle o) : (a.run s).proxies.Knows handle o := by
  have permits : Permits Vm.environment (Keeps handle o) := keeps_permitted
  cases a with
  | request r => exact keeps_perform r stays s h
  | runBody body => exact permits.runBody body (fun _ _ h => h) s h
  | finish outcome => exact permits.finish outcome s h
  | proxyFor object => exact permits.proxyFor object s h
  | table c =>
    cases c with
    | obtain object =>
      exact h.of_obtained (ProxyTable.obtainFor_obtained Vm.environment object (s.proxies, s.world))
    | forget id => exact ProxyTable.Knows.forget (x := (s.proxies, s.world)) h stays
    | forgetProxy p => exact ProxyTable.Knows.forgetProxy (x := (s.proxies, s.world)) h stays
    | clear => exact absurd trivial stays
    | bindName scope name p =>
      have kept := permits.bindName scope name p s h
      rwa [run_onProxies] at kept
    | unbindName scope name =>
      have kept := permits.unbindName scope name s h
      rwa [run_onProxies] at kept
    | classInfo name =>
      have kept := permits.looks name s h
      rwa [run_onProxies] at kept
  | resume id kind => exact permits.resume id (fun _ h => h) kind s h
  | halt id => exact permits.halt id s h
  | terminateThread id => exact permits.terminateThread id s h
  | selectFrame id index => exact h
  | variableObject id frame index => exact permits.variableObject id frame index s h
  | receiverOf id frame => exact permits.receiverOf id frame s h
  | direct d => exact h
  | settle => exact h

/-- **A handle stands for its object until it is given up.** -/
theorem after_knows {s : Session Vm} {acts : List Act}
    (stay : ∀ a ∈ acts, ¬ a.LetsGo handle o.id) (h : s.proxies.Knows handle o) :
    (s.after acts).proxies.Knows handle o := by
  induction acts generalizing s with
  | nil => exact h
  | cons a rest ih =>
    exact ih (fun b hb => stay b (List.mem_cons_of_mem _ hb))
      (a.knows (stay a List.mem_cons_self) h)

end Session

end Debugger
