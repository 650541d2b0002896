import Debugger.Bench
import Debugger.Proofs.Debuggee.Counters
import Debugger.Proofs.Proxies.Consistency
/-!
# What a session goes through

A session and its debuggee change together, and the session is not alone with the debuggee: threads
get on by themselves, and others may use the environment behind the session's back. What they all do
comes down to a handful of moves.

* `Session.Move` - one indivisible change, with the deeds that the debuggee undergoes. What may be
  done to the debuggee apart from the bookkeeping of the session is a parameter, so that one can
  speak of runs in which, say, nobody else touches the breakpoints.
* `Session.Run` - any number of moves.
* `Session.Act.run_run` - every operation of a session, of its table of proxies and of its thread
  controllers is such a run, and so is anything done to the debuggee directly.

What holds after every move holds after every sequence of operations, however they interleave with
what the debuggee does.

## 1. Moves

## 2. Work that is a run

How the pieces are put together that operations consist of.

## 3. Proxies

## 4. Operations

## 5. Sequences of operations
-/

namespace Debugger

open Std (TreeMap)

namespace Session

/-! ## 1. Moves -/

/-- A change of a session over a debuggee, with what was done to the debuggee. -/
inductive Move (may : Vm.Deed → Prop) (s : Session Vm) : List Vm.Deed → Session Vm → Prop
  /-- Something is done to the debuggee and to nothing else. -/
  | world {d : Vm.Deed} (allowed : may d) : Move may s [d] { s with world := d.run s.world }
  /-- A class is looked at. -/
  | learns (classes : TreeMap String ClassInfo) :
      Move may s [] { s with proxies := { s.proxies with classes } }
  /-- An object that has no proxy gets one under the handle that was picked up for it. -/
  | enters {object : ObjectRef} {className : String} {handle : Handle} {w : Vm}
      (untracked : s.proxies.byObject[object.id]? = none)
      (took : Vm.takeTransport.run s.world = (.ok handle, w))
      (free : ∀ o : ObjectRef, s.proxies.byHandle[handle]? = some o → o.id = object.id) :
      Move may s [.takeTransport]
        { s with world := w, proxies := s.proxies.enter object.id ⟨handle, className⟩ }
  /-- The handle that was picked up stands for another object. -/
  | clashes {existing : ObjectRef} {handle : Handle} {w : Vm} (lifecycle : Lifecycle)
      (notifier : Notifier) (took : Vm.takeTransport.run s.world = (.ok handle, w))
      (bound : s.proxies.byHandle[handle]? = some existing) :
      Move may s [.takeTransport] { s with world := w, lifecycle, notifier }
  | forgets {id : ObjectId} {p : Proxy} {proxies : ProxyTable}
      (known : s.proxies.remove? id = some (p, proxies)) : Move may s [] { s with proxies }
  | clears : Move may s [] { s with proxies := {} }
  | binds {scope name : String} {p : Proxy} {proxies : ProxyTable}
      (known : s.proxies.bind? scope name p = some proxies) : Move may s [] { s with proxies }
  | unbinds (scope name : String) :
      Move may s [] { s with proxies := (s.proxies.unbind scope name).2 }
  /-- A breakpoint is accepted, and entered with its properties. -/
  | registers {l : BreakpointLocation} {properties : BreakpointProperties}
      {hitCount : Option UInt32} {w : Vm} (denoted : hitCount? properties = .ok hitCount)
      (accepted : (Vm.setBreakpoint ⟨l, hitCount⟩).run s.world = (.ok (), w)) :
      Move may s [.setBreakpoint ⟨l, hitCount⟩]
        { s with world := w, breakpoints := s.breakpoints.insert l properties }
  | unregisters (l : BreakpointLocation) :
      Move may s [.clearBreakpoint l]
        { s with
          world := Vm.Deed.run s.world (.clearBreakpoint l)
          breakpoints := s.breakpoints.erase l }
  | turns {lifecycle : Lifecycle} (ordinary : lifecycle = .launched ∨ lifecycle = .terminated) :
      Move may s [] { s with lifecycle }
  /-- Something changes that neither the debuggee nor the bookkeeping depends on. -/
  | aside {s' : Session Vm} (world : s'.world = s.world) (proxies : s'.proxies = s.proxies)
      (breakpoints : s'.breakpoints = s.breakpoints) (lifecycle : s'.lifecycle = s.lifecycle) :
      Move may s [] s'

/-- Any number of moves, with all that was done to the debuggee in order. -/
inductive Run (may : Vm.Deed → Prop) : Session Vm → List Vm.Deed → Session Vm → Prop
  | refl (s : Session Vm) : Run may s [] s
  | move {s s' s'' : Session Vm} {ds es : List Vm.Deed} :
      Run may s ds s' → Move may s' es s'' → Run may s (ds ++ es) s''

variable {may : Vm.Deed → Prop} {s s' s'' : Session Vm} {ds es : List Vm.Deed} {α β : Type}

/-- What a session does to its debuggee in the course of its work, launches and breakpoints apart. -/
def isPlain : Vm.Deed → Bool
  | .launch | .setBreakpoint _ | .clearBreakpoint _ | .step _ | .define _ | .spawn _ | .unpark _
  | .submit _ (.invoke _) =>
    false
  | _ => true

theorem Move.run (m : Move may s ds s') : Run may s ds s' := (Run.refl s).move m

theorem Run.trans (h : Run may s ds s') (h' : Run may s' es s'') : Run may s (ds ++ es) s'' := by
  induction h' with
  | refl =>
    rw [List.append_nil]
    exact h
  | move _ m ih =>
    rw [← List.append_assoc]
    exact ih.move m

/-- A move without deeds after others. -/
theorem Run.silently (h : Run may s ds s') (m : Move may s' [] s'') : Run may s ds s'' := by
  have run := h.move m
  rwa [List.append_nil] at run

/-- What is done to the debuggee is all that becomes of it. -/
theorem Move.world_eq (m : Move may s ds s') : s'.world = s.world.after ds := by
  cases m with
  | world | unregisters | learns | forgets | clears | binds | unbinds | turns => rfl
  | enters untracked took free =>
    show _ = (Vm.takeTransport.run s.world).2
    rw [took]
  | clashes _ _ took bound =>
    show _ = (Vm.takeTransport.run s.world).2
    rw [took]
  | registers denoted accepted =>
    show _ = ((Vm.setBreakpoint _).run s.world).2
    rw [accepted]
  | aside world => exact world

theorem Run.world_eq (r : Run may s ds s') : s'.world = s.world.after ds := by
  induction r with
  | refl => rfl
  | move _ m ih => rw [m.world_eq, ih, Vm.after_append]

/-! ## 2. Work that is a run -/

/-- A session gets from one state to the other by moves. -/
def Goes (may : Vm.Deed → Prop) (s s' : Session Vm) : Prop := ∃ ds, Run may s ds s'

instance : Std.Refl (Goes may) := ⟨fun s => ⟨[], .refl s⟩⟩

instance : Trans (Goes may) (Goes may) (Goes may) where
  trans := by
    rintro s s' s'' ⟨ds, first⟩ ⟨es, second⟩
    exact ⟨ds ++ es, first.trans second⟩

/-- Work that changes a session by moves only, however it ends. -/
def Traced (may : Vm.Deed → Prop) (op : Op Vm α) : Prop := ∀ s, ∃ ds, Run may s ds (op.run s).2

theorem traced_of_reads {op : Op Vm α} (h : op.Reads) : Traced may op :=
  Action.Within.of_reads (R := Goes may) h

theorem traced_pure (v : α) : Traced may (pure v : Op Vm α) := traced_of_reads (.pure v)

theorem traced_throw (e : DebugError) : Traced may (throw e : Op Vm α) := traced_of_reads (.throw e)

theorem Traced.bind {op : Op Vm α} {f : α → Op Vm β} (h : Traced may op)
    (hf : ∀ v, Traced may (f v)) : Traced may (op >>= f) :=
  Action.Within.bind (R := Goes may) h hf

theorem traced_get_bind {f : Session Vm → Op Vm β} (hf : ∀ s, Traced may (f s)) :
    Traced may (get >>= f) := fun s => hf s s

theorem traced_modify {f : Session Vm → Session Vm} (h : ∀ s, Move may s [] (f s)) :
    Traced may (modify f : Op Vm Unit) := fun s => ⟨[], (h s).run⟩

theorem Traced.mapM {f : α → Op Vm β} (h : ∀ v, Traced may (f v)) (vs : List α) :
    Traced may (vs.mapM f) :=
  Action.Within.mapM (R := Goes may) h vs

theorem Traced.forIn {f : α → β → Op Vm (ForInStep β)} (h : ∀ v b, Traced may (f v b))
    (vs : List α) (b : β) : Traced may (forIn vs b f) :=
  Action.Within.forIn (R := Goes may) h vs b

/-- What an operation of the debuggee does is one deed. -/
def Does (a : Vm.Op α) (d : Vm.Deed) : Prop := ∀ v, (a.run v).2 = d.run v

theorem traced_attempt {a : Vm.Op α} {d : Vm.Deed} (does : Does a d) (allowed : may d) :
    Traced may (attempt a) := by
  intro s
  refine ⟨[d], ?_⟩
  show Run may s [d] { s with world := (a.run s.world).2 }
  rw [does]
  exact (Move.world allowed).run

theorem reads_attempt {a : Vm.Op α} (h : a.Reads) : (attempt a : Op Vm _).Reads := by
  intro s
  show { s with world := (a.run s.world).2 } = s
  rw [h]

theorem run_ask {σ α : Type} (a : Action σ RuntimeError α) (s : Session σ) : (ask a).run s =
    match a.run s.world with
    | (.ok v, w) => (.ok v, { s with world := w })
    | (.error e, w) => (.error (.ofRuntime e), { s with world := w }) := by
  have asked : (attempt a).run s = (.ok (a.run s.world).1, { s with world := (a.run s.world).2 }) :=
    rfl
  refine (Action.run_bind_ok asked).trans ?_
  rcases a.run s.world with ⟨e | v, w⟩ <;> rfl

theorem traced_ask {a : Vm.Op α} {d : Vm.Deed} (does : Does a d) (allowed : may d) :
    Traced may (ask a) := by
  refine (traced_attempt does allowed).bind fun r => ?_
  cases r with
  | ok v => exact traced_pure v
  | error e => exact traced_throw _

theorem reads_ask {a : Vm.Op α} (h : a.Reads) : (ask a : Op Vm _).Reads := by
  refine (reads_attempt h).bind fun r => ?_
  cases r with
  | ok v => exact .pure v
  | error e => exact .throw _

theorem run_ensureUsable {σ : Type} (s : Session σ) : (ensureUsable : Op σ Unit).run s =
    if s.lifecycle = .failed then (.error .sessionFailed, s) else (.ok (), s) := by
  show ((if s.lifecycle = .failed then throw .sessionFailed else pure () : Op σ Unit).run s) = _
  split <;> rfl

theorem run_usable_bind {σ α : Type} (f : Unit → Op σ α) (s : Session σ) :
    (ensureUsable >>= f).run s =
      if s.lifecycle = .failed then (.error .sessionFailed, s) else (f ()).run s := by
  rw [Action.run_bind, run_ensureUsable]
  by_cases failed : s.lifecycle = .failed <;> simp [failed]

theorem reads_ensureUsable {σ : Type} : (ensureUsable : Op σ Unit).Reads := by
  intro s
  rw [run_ensureUsable]
  split <;> rfl

theorem run_onProxies {σ : Type} (a : ProxyTable.Op σ α) (s : Session σ) :
    (onProxies a).run s =
      ((a.run (s.proxies, s.world)).1,
        { s with
          proxies := (a.run (s.proxies, s.world)).2.1
          world := (a.run (s.proxies, s.world)).2.2 }) := by
  have first : (modifyGet fun s : Session σ =>
      let (answer, proxies, world) := a.run (s.proxies, s.world)
      (answer, { s with proxies, world }) : Op σ (Except DebugError α)).run s =
        (.ok (a.run (s.proxies, s.world)).1,
          { s with
            proxies := (a.run (s.proxies, s.world)).2.1
            world := (a.run (s.proxies, s.world)).2.2 }) := rfl
  refine (Action.run_bind_ok first).trans ?_
  cases (a.run (s.proxies, s.world)).1 <;> rfl

/-! ## 3. Proxies -/

theorem isFatal_ofRuntime (e : RuntimeError) : (DebugError.ofRuntime e).isFatal = false := by
  cases e <;> rfl

/-- Looking at a class asks the debuggee and changes nothing there. -/
theorem run_classInfo (name : String) (t : ProxyTable) (v : Vm) :
    ∃ r classes, (ProxyTable.classInfo Vm.environment name).run (t, v) =
      (r, ({ t with classes }, v)) ∧ ∀ e, r = .error e → e.isFatal = false := by
  obtain ⟨r, classes, w, looked, kept, refusal, -⟩ :=
    ProxyTable.run_classInfo Vm.environment name (t, v)
  have same : w = v := by
    rcases kept with rfl | rfl
    · rfl
    · exact Vm.reads_classInfo name v
  subst same
  refine ⟨r, classes, looked, ?_⟩
  intro e he
  obtain ⟨e, rfl⟩ := refusal e he
  exact isFatal_ofRuntime e

/-- What can become of a table and a debuggee when a proxy is asked for. -/
inductive Tried (object : ObjectRef) (t : ProxyTable) (v : Vm) :
    Except DebugError (Option Proxy) → ProxyTable → Vm → Prop
  /-- The proxy is known, or the object has none to have. -/
  | answered (answer : Option Proxy) : Tried object t v (.ok answer) t v
  | refused {e : DebugError} (harmless : e.isFatal = false)
      (classes : TreeMap String ClassInfo) (ds : List Vm.Deed)
      (done : ds = [] ∨ ds = [.installTransport object.id]) :
      Tried object t v (.error e) { t with classes } (v.after ds)
  | made {className : String} {handle : Handle} {w : Vm} (classes : TreeMap String ClassInfo)
      (untracked : t.byObject[object.id]? = none)
      (took : Vm.takeTransport.run (Vm.Deed.run v (.installTransport object.id)) = (.ok handle, w))
      (free : ∀ o : ObjectRef, t.byHandle[handle]? = some o → o.id = object.id) :
      Tried object t v (.ok (some ⟨handle, className⟩))
        (ProxyTable.enter { t with classes } object.id ⟨handle, className⟩) w
  | clashed {existing : ObjectRef} {handle : Handle} {w : Vm} (classes : TreeMap String ClassInfo)
      (took : Vm.takeTransport.run (Vm.Deed.run v (.installTransport object.id)) = (.ok handle, w))
      (bound : t.byHandle[handle]? = some existing) :
      Tried object t v (.error (.cacheCorrupted handle existing.id object.id)) { t with classes }
        (Vm.Deed.run w (.release handle))

theorem obtainFor_tried (object : ObjectRef) (t : ProxyTable) (v : Vm) :
    Tried object t v ((ProxyTable.obtainFor Vm.environment object).run (t, v)).1
      ((ProxyTable.obtainFor Vm.environment object).run (t, v)).2.1
      ((ProxyTable.obtainFor Vm.environment object).run (t, v)).2.2 := by
  have : Std.Refl (@Eq Vm) := ⟨Eq.refl⟩
  have obtains : ProxyTable.Obtains Eq Vm.environment object (t, v)
      ((ProxyTable.obtainFor Vm.environment object).run (t, v)) :=
    ProxyTable.obtainFor_obtains (fun id => .of_reads (Vm.reads_objectCategory id))
      (fun id => .of_reads (Vm.reads_objectClass id))
      (fun name => .of_reads (Vm.reads_classInfo name)) object (t, v)
  have installed {w w' : Vm} {r : Except RuntimeError Unit} (looked : v = w)
      (install : (Vm.environment.installTransport object.id).run w = (r, w')) :
      w' = Vm.Deed.run v (.installTransport object.id) := by
    subst looked
    exact (congrArg Prod.snd install).symm
  generalize (ProxyTable.obtainFor Vm.environment object).run (t, v) = out at obtains
  cases obtains with
  | known tracked => exact .answered _
  | hidden looked =>
    subst looked
    exact .answered none
  | refused e classes looked =>
    subst looked
    exact .refused (isFatal_ofRuntime e) classes [] (.inl rfl)
  | notInstalled classes looked install =>
    cases installed looked install
    exact .refused (isFatal_ofRuntime _) classes [.installTransport object.id] (.inr rfl)
  | notTaken classes looked install take =>
    cases installed looked install
    -- A refusal to pick up the transport leaves the debuggee as it was.
    rcases Vm.takeTransport_cases (Vm.Deed.run v (.installTransport object.id)) with
      ⟨e, eq⟩ | ⟨_, _, -, -, eq⟩
    · cases eq.symm.trans take
      exact .refused (isFatal_ofRuntime _) classes [.installTransport object.id] (.inr rfl)
    · cases eq.symm.trans take
  | clashed classes looked install take bound =>
    cases installed looked install
    exact .clashed classes take bound
  | made classes untracked looked install take unused =>
    cases installed looked install
    exact .made classes untracked take unused

theorem run_noticeFatal {σ : Type} (a : Op σ α) (s : Session σ) :
    (noticeFatal a).run s =
      match a.run s with
      | (.ok v, s') => (.ok v, s')
      | (.error e, s') => (.error e, if e.isFatal then disable e s' else s') := by
  unfold noticeFatal
  rw [Action.run_tryCatch]
  rcases a.run s with ⟨e | v, s'⟩
  · dsimp only
    split <;> rfl
  · rfl

theorem disable_eq {σ : Type} (e : DebugError) (s : Session σ) :
    disable e s =
      { s with lifecycle := (disable e s).lifecycle, notifier := (disable e s).notifier } := by
  unfold disable
  split <;> rfl

section

variable (plain : ∀ d, isPlain d = true → may d)
include plain

/-- A request for a proxy takes three deeds, if the handle is in use, and it may end earlier. -/
theorem run_obtainFor (object : ObjectRef) (s : Session Vm) : ∃ ds handle,
    Run may s ds ((onProxies (ProxyTable.obtainFor Vm.environment object)).run s).2 ∧
      ds <+: [.installTransport object.id, .takeTransport, .release handle] := by
  rw [run_onProxies]
  have tried := obtainFor_tried object s.proxies s.world
  generalize (ProxyTable.obtainFor Vm.environment object).run (s.proxies, s.world) = x at tried ⊢
  obtain ⟨r, t, w⟩ := x
  have install : Run may s [.installTransport object.id] _ :=
    (Move.world (plain (.installTransport object.id) rfl)).run
  cases tried with
  | answered => exact ⟨[], ⟨0⟩, .refl s, List.nil_prefix⟩
  | refused harmless classes _ done =>
    rcases done with rfl | rfl
    · exact ⟨[], ⟨0⟩, (Move.learns classes).run, List.nil_prefix⟩
    · exact ⟨_, ⟨0⟩, install.silently (.learns classes), ⟨_, rfl⟩⟩
  | @made _ handle _ classes untracked took free =>
    exact ⟨_, handle, (install.silently (.learns classes)).move (.enters untracked took free),
      ⟨_, rfl⟩⟩
  | @clashed existing handle w classes took bound =>
    have clash := (install.silently (.learns classes)).move
      (.clashes s.lifecycle s.notifier took bound)
    exact ⟨_, handle, clash.move (.world (plain (.release handle) rfl)), List.prefix_rfl⟩

theorem traced_obtainFor (object : ObjectRef) :
    Traced may (onProxies (ProxyTable.obtainFor Vm.environment object)) := fun s =>
  have ⟨ds, _, run, _⟩ := run_obtainFor plain object s
  ⟨ds, run⟩

/-- A clash of handles disables the session as soon as it is noticed. -/
theorem run_track (object : ObjectRef) (s : Session Vm) : ∃ ds handle,
    Run may s ds ((track Vm.environment object).run s).2 ∧
      ds <+: [.installTransport object.id, .takeTransport, .release handle] := by
  unfold track
  rw [run_noticeFatal]
  obtain ⟨ds, handle, run, short⟩ := run_obtainFor plain object s
  rw [run_onProxies] at run ⊢
  have tried := obtainFor_tried object s.proxies s.world
  generalize (ProxyTable.obtainFor Vm.environment object).run (s.proxies, s.world) = x at tried run ⊢
  obtain ⟨r, t, w⟩ := x
  cases tried with
  | answered | made => exact ⟨ds, handle, run, short⟩
  | refused harmless classes _ done =>
    dsimp only
    rw [harmless, if_neg Bool.false_ne_true]
    exact ⟨ds, handle, run, short⟩
  | @clashed existing handle w classes took bound =>
    have fatal : (DebugError.cacheCorrupted handle existing.id object.id).isFatal = true := rfl
    dsimp only
    rw [if_pos fatal, disable_eq]
    have install : Run may s [.installTransport object.id] _ :=
      (Move.world (plain (.installTransport object.id) rfl)).run
    exact ⟨_, handle, ((install.silently (.learns classes)).move (.clashes _ _ took bound)).move
      (.world (plain (.release handle) rfl)), List.prefix_rfl⟩

theorem traced_track (object : ObjectRef) : Traced may (track Vm.environment object) := fun s =>
  have ⟨ds, _, run, _⟩ := run_track plain object s
  ⟨ds, run⟩

theorem traced_forget (id : ObjectId) :
    Traced may (onProxies (ProxyTable.forget Vm.environment id)) := by
  intro s
  rw [run_onProxies]
  unfold ProxyTable.forget
  rw [Action.run_bind, ProxyTable.run_getTable]
  dsimp only
  cases known : s.proxies.remove? id with
  | none => exact ⟨[], .refl s⟩
  | some r =>
    obtain ⟨p, t⟩ := r
    dsimp only
    rw [Action.run_bind, ProxyTable.run_setTable]
    dsimp only
    have table := ProxyTable.run_letGo Vm.environment p.handle (t, s.world)
    have world : ((ProxyTable.letGo Vm.environment p.handle).run (t, s.world)).2.2 =
        Vm.Deed.run s.world (.release p.handle) := by
      unfold ProxyTable.letGo
      rw [Action.run_bind, ProxyTable.run_attempt]
      dsimp only
      cases ((Vm.environment.release p.handle).run s.world).1 with
      | ok => rfl
      | error e => cases e <;> rfl
    rw [table, world]
    exact ⟨_, (Move.forgets known).run.move (.world (plain (.release p.handle) rfl))⟩

theorem traced_forgetProxy (p : Proxy) :
    Traced may (onProxies (ProxyTable.forgetProxy Vm.environment p)) := by
  intro s
  cases known : s.proxies.objectFor? p.handle with
  | none =>
    refine ⟨[], ?_⟩
    rw [run_onProxies]
    unfold ProxyTable.forgetProxy
    rw [Action.run_bind, ProxyTable.run_getTable]
    dsimp only
    rw [known]
    exact .refl s
  | some o =>
    have same : (onProxies (ProxyTable.forgetProxy Vm.environment p)).run s =
        (onProxies (ProxyTable.forget Vm.environment o.id)).run s := by
      rw [run_onProxies, run_onProxies]
      unfold ProxyTable.forgetProxy
      rw [Action.run_bind, ProxyTable.run_getTable]
      dsimp only
      rw [known]
    rw [same]
    exact traced_forget plain o.id s

end

theorem traced_classInfo (name : String) :
    Traced may (onProxies (ProxyTable.classInfo Vm.environment name)) := by
  intro s
  obtain ⟨r, classes, looked, -⟩ := run_classInfo name s.proxies s.world
  rw [run_onProxies, looked]
  exact ⟨[], (Move.learns classes).run⟩

theorem traced_bindName (scope name : String) (p : Proxy) :
    Traced may (onProxies (ProxyTable.bindName scope name p)) := by
  intro s
  rw [run_onProxies]
  unfold ProxyTable.bindName
  rw [Action.run_bind, ProxyTable.run_getTable]
  dsimp only
  cases bound : s.proxies.bind? scope name p with
  | none => exact ⟨[], .refl s⟩
  | some t => exact ⟨[], (Move.binds bound).run⟩

theorem traced_unbindName (scope name : String) :
    Traced may (onProxies (ProxyTable.unbindName scope name)) := by
  intro s
  rw [run_onProxies]
  have ran : ((ProxyTable.unbindName scope name).run (s.proxies, s.world)).2 =
      ((s.proxies.unbind scope name).2, s.world) := rfl
  rw [ran]
  exact ⟨[], (Move.unbinds scope name).run⟩

theorem run_resolve {σ : Type} (p : Proxy) (s : Session σ) : (resolve p : Op σ ObjectRef).run s =
    match s.proxies.objectFor? p.handle with
    | some o => (.ok o, s)
    | none => (.error (.unknownHandle p.handle), s) := by
  unfold resolve
  rw [run_onProxies]
  unfold ProxyTable.resolve
  rw [Action.run_bind, ProxyTable.run_getTable]
  dsimp only
  cases s.proxies.objectFor? p.handle <;> rfl

theorem reads_resolve {σ : Type} (p : Proxy) : (resolve p : Op σ ObjectRef).Reads := by
  intro s
  rw [run_resolve]
  cases s.proxies.objectFor? p.handle <;> rfl

/-! ## 4. Operations -/

theorem reads_toValue {σ : Type} (v : ProxyValue) : (toValue v : Op σ Value).Reads := by
  cases v with
  | null | primitive => exact .pure _
  | object p => exact (reads_resolve p).bind fun _ => .pure _

theorem reads_threads : (ask Vm.environment.threads : Op Vm _).Reads := reads_ask Vm.reads_threadInfos

theorem foldl_meet_eq {σ : Type} (reported : List ThreadInfo) (s : Session σ) :
    ∃ controllers selectedFrames, reported.foldl meet s = { s with controllers, selectedFrames } := by
  induction reported generalizing s with
  | nil => exact ⟨_, _, rfl⟩
  | cons t rest ih =>
    obtain ⟨controllers, selectedFrames, eq⟩ := ih (s.meet t)
    rw [List.foldl_cons, eq, meet]
    split <;> exact ⟨_, _, rfl⟩

/-- A listing changes nothing but what the session keeps about threads. -/
theorem refresh_eq {σ : Type} (reported : List ThreadInfo) (s : Session σ) :
    ∃ controllers selectedFrames, refresh reported s = { s with controllers, selectedFrames } :=
  foldl_meet_eq reported _

theorem traced_allThreads : Traced may (allThreads Vm.environment) := by
  refine (traced_of_reads reads_ensureUsable).bind fun _ => ?_
  refine (traced_of_reads reads_threads).bind fun reported => ?_
  refine (traced_modify fun s => ?_).bind fun _ => traced_get_bind fun _ => traced_pure _
  obtain ⟨_, _, eq⟩ := refresh_eq reported s
  rw [eq]
  exact .aside rfl rfl rfl rfl

theorem traced_threads : Traced may (threads Vm.environment) :=
  traced_get_bind fun _ => traced_allThreads.bind fun _ => traced_pure _

theorem traced_thread (id : ThreadId) : Traced may (thread Vm.environment id) := by
  refine traced_allThreads.bind fun all => ?_
  cases all[id]? with
  | none => exact traced_throw _
  | some t => exact traced_pure t

theorem reads_stack (id : ThreadId) : (stack Vm.environment id).Reads :=
  reads_ask (Vm.reads_framesOf id)

theorem reads_frame (id : ThreadId) (index : Nat) : (frame Vm.environment id index).Reads := by
  refine (reads_stack id).bind fun fs => ?_
  cases fs[index]? with
  | none => exact .throw _
  | some f => exact .pure f

theorem reads_localVariable (id : ThreadId) (frameIndex index : Nat) :
    (localVariable Vm.environment id frameIndex index).Reads := by
  refine (reads_frame id frameIndex).bind fun f => ?_
  cases f.locals[index]? with
  | none => exact .throw _
  | some v => exact .pure v

theorem reads_waitForStatus {σ : Type} (env : Environment σ) (accepted : List SessionStatus) :
    (waitForStatus env accepted).Reads := by
  refine .get_bind fun s => ?_
  dsimp only
  split
  · exact .pure _
  · exact .throw _

theorem traced_ensureUsable : Traced may ensureUsable := traced_of_reads reads_ensureUsable

section

variable (plain : ∀ d, isPlain d = true → may d)
include plain

theorem traced_toProxyValue (v : Value) : Traced may (toProxyValue Vm.environment v) := by
  cases v with
  | null | void | primitive => exact traced_pure _
  | object o =>
    refine (traced_track plain o).bind fun p => ?_
    cases p <;> exact traced_pure _

theorem traced_shutDown : Traced may (shutDown Vm.environment) := by
  refine (traced_modify fun _ => .clears).bind fun _ => ?_
  refine Traced.bind (traced_modify fun _ => ?_) fun _ => ?_
  · exact .aside rfl rfl rfl rfl
  refine (traced_attempt (d := .shutdown) (fun _ => rfl) (plain _ rfl)).bind fun answer => ?_
  refine (traced_modify fun _ => .turns (.inr rfl)).bind fun _ => ?_
  cases answer with
  | ok => exact traced_pure ()
  | error e => exact traced_throw _

/-- Launching is the one thing that has to be allowed on its own. -/
theorem traced_launch (launch : may .launch) : Traced may (Session.launch Vm.environment) := by
  refine traced_ensureUsable.bind fun _ => ?_
  refine (traced_ask (d := .launch) (fun _ => rfl) launch).bind fun _ => ?_
  refine traced_get_bind fun s => ?_
  have turned : Traced may (modify fun s => { s with lifecycle := .launched } : Op Vm Unit) :=
    traced_modify fun _ => .turns (.inl rfl)
  split
  · refine (traced_attempt (d := .setBreakOnUncaught true) (fun _ => rfl) (plain _ rfl)).bind ?_
    intro answer
    split
    · exact (traced_pure ()).bind fun _ => turned
    · exact (traced_pure ()).bind fun _ => turned
    · exact (traced_throw _).bind fun _ => turned
  · exact turned

theorem traced_close (restart : Bool) (launch : restart = true → may .launch) :
    Traced may (close Vm.environment restart) := by
  refine (traced_shutDown plain).bind fun _ => ?_
  cases restart with
  | true => exact traced_launch plain (launch rfl)
  | false => exact traced_pure ()

theorem traced_instantiate (className : String) (types : List String) (args : List ProxyValue) :
    Traced may (instantiate Vm.environment className types args) :=
  traced_ensureUsable.bind fun _ =>
    (Traced.mapM (fun v => traced_of_reads (reads_toValue v)) args).bind fun args =>
      traced_ask (d := .newInstance className types args) (fun _ => rfl) (plain _ rfl)

theorem traced_runMain (className : String) : Traced may (runMain Vm.environment className) := by
  refine traced_ensureUsable.bind fun _ => (traced_classInfo className).bind fun info => ?_
  split
  · exact traced_ask (d := .invokeStatic className mainMethod [] []) (fun _ => rfl) (plain _ rfl)
  · split
    · exact traced_ask (d := .invokeStatic className mainMethod [mainParameter] [.null])
        (fun _ => rfl) (plain _ rfl)
    · exact traced_pure _

theorem traced_invoke (receiver : Proxy) (method : String) (types : List String)
    (args : List ProxyValue) : Traced may (invoke Vm.environment receiver method types args) :=
  traced_ensureUsable.bind fun _ =>
    (traced_of_reads (reads_resolve receiver)).bind fun object =>
      (Traced.mapM (fun v => traced_of_reads (reads_toValue v)) args).bind fun args =>
        traced_ask (d := .invokeMethod object method types args) (fun _ => rfl) (plain _ rfl)

theorem traced_finish (outcome : Outcome) : Traced may (finish Vm.environment outcome) := by
  cases outcome with
  | success o =>
    cases o with
    | none => exact (traced_pure none).bind fun _ => traced_pure _
    | some object => exact (traced_track plain object).bind fun _ => traced_pure _
  | exception | terminated => exact traced_pure _

theorem traced_runBody (body : Body) : Traced may (Bench.runBody body) :=
  traced_ensureUsable.bind fun _ =>
    (traced_of_reads (reads_ask Vm.reads_requireMain)).bind fun main =>
      traced_ask (d := .submit main (.body body)) (fun _ => rfl) (plain _ rfl)

theorem traced_proxyFor (object : ObjectRef) : Traced may (proxyFor Vm.environment object) :=
  traced_ensureUsable.bind fun _ => traced_track plain object

theorem traced_staticValue (className field : String) :
    Traced may (staticValue Vm.environment className field) := by
  refine traced_ensureUsable.bind fun _ => ?_
  refine (traced_of_reads (reads_ask (Vm.reads_getStatic className field))).bind fun v => ?_
  cases v with
  | null | void => exact traced_pure none
  | primitive p =>
    exact (traced_ask (d := .boxValue p) (fun _ => rfl) (plain _ rfl)).bind fun o =>
      traced_track plain o
  | object o => exact traced_track plain o

theorem traced_objectFields (p : Proxy) : Traced may (objectFields Vm.environment p) :=
  traced_ensureUsable.bind fun _ =>
    (traced_of_reads (reads_resolve p)).bind fun object =>
      (traced_of_reads (reads_ask (Vm.reads_objectFields object.id))).bind fun _ =>
        Traced.mapM (fun f : FieldInfo × Value =>
          (traced_toProxyValue plain f.2).bind fun _ => traced_pure _) _

theorem traced_fieldValue (p : Proxy) (field : String) :
    Traced may (fieldValue Vm.environment p field) := by
  refine (traced_objectFields plain p).bind fun fields => ?_
  cases fields.find? (·.name == field) with
  | none => exact traced_throw _
  | some entry => exact traced_pure _

theorem traced_made (object : ObjectRef) :
    Traced may (proxyOfLiteral.made Vm.environment object) := by
  refine (traced_track plain object).bind fun p => ?_
  cases p with
  | none => exact traced_throw _
  | some p => exact traced_pure p

theorem traced_proxyOfLiteral (l : Literal) : Traced may (proxyOfLiteral Vm.environment l) := by
  cases l with
  | null => exact traced_throw _
  | string text =>
    exact (traced_ask (d := .newString text) (fun _ => rfl) (plain _ rfl)).bind fun o =>
      traced_made plain o
  | primitive p =>
    exact (traced_ask (d := .boxValue p) (fun _ => rfl) (plain _ rfl)).bind fun o =>
      traced_made plain o
  | handle h =>
    refine traced_get_bind fun s => ?_
    cases s.proxies.objectFor? h with
    | none => exact traced_throw _
    | some object =>
      refine (traced_track plain object).bind fun p => ?_
      cases p with
      | none => exact traced_throw _
      | some p => exact traced_pure p
  | name text =>
    refine traced_get_bind fun s => ?_
    cases s.proxies.bindings[text]? with
    | none => exact traced_throw _
    | some p => exact traced_pure p

theorem traced_proxyOfText (text : String) : Traced may (proxyOfText Vm.environment text) := by
  refine traced_ensureUsable.bind fun _ => ?_
  cases Literal.parse text with
  | ok l => exact traced_proxyOfLiteral plain l
  | error e => exact traced_throw e

theorem traced_variableObject (id : ThreadId) (frameIndex index : Nat) :
    Traced may (variableObject Vm.environment id frameIndex index) := by
  refine (traced_of_reads (reads_localVariable id frameIndex index)).bind fun v => ?_
  cases v.value with
  | object o =>
    refine (traced_track plain o).bind fun p => ?_
    cases p with
    | none => exact traced_throw _
    | some p => exact traced_pure p
  | null | void | primitive => exact traced_throw _

theorem traced_receiverOf (id : ThreadId) (index : Nat) :
    Traced may (receiverOf Vm.environment id index) := by
  refine (traced_of_reads (reads_frame id index)).bind fun f => ?_
  cases f.receiver with
  | none => exact traced_pure none
  | some o => exact traced_track plain o

end

/-- What a session does with a breakpoint is entered together with what the debuggee does. -/
theorem run_setBreakpoint (l : BreakpointLocation) (properties : BreakpointProperties)
    (s : Session Vm) :
    (∃ refusal, (setBreakpoint Vm.environment l properties).run s = (.ok (.error refusal), s)) ∨
      ∃ hitCount w, hitCount? properties = .ok hitCount ∧
        (Vm.setBreakpoint ⟨l, hitCount⟩).run s.world = (.ok (), w) ∧
        (setBreakpoint Vm.environment l properties).run s =
          (.ok (.ok hitCount),
            { s with world := w, breakpoints := s.breakpoints.insert l properties }) := by
  unfold setBreakpoint
  cases denoted : hitCount? properties with
  | error complaint => exact .inl ⟨_, rfl⟩
  | ok hitCount =>
    rcases Vm.setBreakpoint_cases ⟨l, hitCount⟩ s.world with ⟨e, refused⟩ | accepted
    · have first : (attempt (Vm.environment.setBreakpoint ⟨l, hitCount⟩) : Op Vm _).run s =
          (.ok (.error e), s) := by
        show (Except.ok ((Vm.setBreakpoint ⟨l, hitCount⟩).run s.world).1,
          { s with world := ((Vm.setBreakpoint ⟨l, hitCount⟩).run s.world).2 }) = _
        rw [refused]
      exact .inl ⟨_, (Action.run_bind_ok first).trans rfl⟩
    · refine .inr ⟨hitCount, _, rfl, accepted, ?_⟩
      have first : (attempt (Vm.environment.setBreakpoint ⟨l, hitCount⟩) : Op Vm _).run s =
          (.ok (.ok ()), { s with world := ((Vm.setBreakpoint ⟨l, hitCount⟩).run s.world).2 }) := by
        show (Except.ok ((Vm.setBreakpoint ⟨l, hitCount⟩).run s.world).1,
          { s with world := ((Vm.setBreakpoint ⟨l, hitCount⟩).run s.world).2 }) = _
        rw [accepted]
      refine (Action.run_bind_ok first).trans ?_
      rw [accepted]
      rfl

theorem run_clearBreakpoint (l : BreakpointLocation) (s : Session Vm) :
    (clearBreakpoint Vm.environment l).run s =
      (.ok none,
        { s with
          world := Vm.Deed.run s.world (.clearBreakpoint l)
          breakpoints := s.breakpoints.erase l }) := rfl

/-- A toggle that is answered by a message changes nothing at all. -/
theorem run_toggleBreakpoint (l : BreakpointLocation) (set : Bool)
    (properties : BreakpointProperties) (s : Session Vm) :
    (∃ message, (toggleBreakpoint Vm.environment l set properties).run s =
      (.ok (some message), s)) ∨
    (∃ hitCount w, hitCount? properties = .ok hitCount ∧
      (Vm.setBreakpoint ⟨l, hitCount⟩).run s.world = (.ok (), w) ∧
      (toggleBreakpoint Vm.environment l set properties).run s =
        (.ok none, { s with world := w, breakpoints := s.breakpoints.insert l properties })) ∨
    (toggleBreakpoint Vm.environment l set properties).run s =
      (.ok none,
        { s with
          world := Vm.Deed.run s.world (.clearBreakpoint l)
          breakpoints := s.breakpoints.erase l }) := by
  unfold toggleBreakpoint
  by_cases failed : s.lifecycle = .failed
  · refine .inl ⟨DebugError.sessionFailed.message, ?_⟩
    show ((if s.lifecycle = .failed then pure (some DebugError.sessionFailed.message)
      else _ : Op Vm _).run s) = _
    rw [if_pos failed]
    rfl
  · have open' {rest : Op Vm (Option String)} : (do
        if (← get).lifecycle = .failed then return some DebugError.sessionFailed.message
        rest : Op Vm (Option String)).run s = rest.run s := by
      show ((if s.lifecycle = .failed then pure (some DebugError.sessionFailed.message)
        else rest : Op Vm _).run s) = _
      rw [if_neg failed]
    rw [open']
    cases set with
    | false => exact .inr (.inr (run_clearBreakpoint l s))
    | true =>
      rcases run_setBreakpoint l properties s with
        ⟨refusal, refused⟩ | ⟨hitCount, w, denoted, accepted, eq⟩
      · exact .inl ⟨refusal.message, (Action.run_bind_ok refused).trans rfl⟩
      · exact .inr (.inl ⟨hitCount, w, denoted, accepted, (Action.run_bind_ok eq).trans rfl⟩)

theorem traced_toggleBreakpoint (l : BreakpointLocation) (set : Bool)
    (properties : BreakpointProperties) :
    Traced may (toggleBreakpoint Vm.environment l set properties) := by
  intro s
  rcases run_toggleBreakpoint l set properties s with
    ⟨message, eq⟩ | ⟨hitCount, w, denoted, accepted, eq⟩ | eq
  · exact ⟨[], by rw [eq]; exact .refl s⟩
  · exact ⟨_, by rw [eq]; exact (Move.registers denoted accepted).run⟩
  · exact ⟨_, by rw [eq]; exact (Move.unregisters l).run⟩

theorem traced_removeBreakpoints (className : String) :
    Traced may (removeBreakpoints Vm.environment className) := by
  refine traced_ensureUsable.bind fun _ => traced_get_bind fun s => ?_
  refine (Traced.forIn ?_ _ _).bind fun _ => traced_pure ()
  intro l _ s
  exact ⟨_, (Move.unregisters l).run⟩

section

variable (plain : ∀ d, isPlain d = true → may d)
include plain

/-- **Every request of a controller is a run.** -/
theorem traced_perform (r : Request)
    (launch : r = .launch ∨ r = .close true → may .launch) :
    Traced may (perform Vm.environment r) := by
  cases r with
  | capabilities => exact traced_pure _
  | status => exact traced_get_bind fun _ => traced_pure _
  | launch => exact traced_launch plain (launch (.inl rfl))
  | close restart =>
    refine traced_close plain restart fun again => launch (.inr ?_)
    rw [again]
  | waitForStatus accepted => exact traced_of_reads (reads_waitForStatus _ accepted)
  | instantiate className types args => exact traced_instantiate plain className types args
  | runMain className => exact traced_runMain plain className
  | invoke receiver method types args => exact traced_invoke plain receiver method types args
  | classInfo className => exact traced_ensureUsable.bind fun _ => traced_classInfo className
  | staticValue className field => exact traced_staticValue plain className field
  | addObject scope name object =>
    exact traced_ensureUsable.bind fun _ => traced_bindName scope name object
  | removeObject scope name =>
    exact traced_ensureUsable.bind fun _ =>
      (traced_unbindName scope name).bind fun _ => traced_pure _
  | objects => exact traced_ensureUsable.bind fun _ => traced_get_bind fun _ => traced_pure _
  | freshName className =>
    exact traced_ensureUsable.bind fun _ => traced_get_bind fun _ => traced_pure _
  | literal text => exact traced_proxyOfText plain text
  | objectFields object => exact traced_objectFields plain object
  | fieldValue object field => exact traced_fieldValue plain object field
  | stringValue object =>
    exact traced_ensureUsable.bind fun _ =>
      (traced_of_reads (reads_resolve object)).bind fun o =>
        traced_of_reads (reads_ask (Vm.reads_stringValue o.id))
  | forget object => exact traced_ensureUsable.bind fun _ => traced_forgetProxy plain object
  | toggleBreakpoint location set properties =>
    exact traced_toggleBreakpoint location set properties
  | removeBreakpoints className => exact traced_removeBreakpoints className
  | setBreakOnUncaught enabled =>
    exact traced_ensureUsable.bind fun _ =>
      traced_ask (d := .setBreakOnUncaught enabled) (fun _ => rfl) (plain _ rfl)
  | hideSystemThreads hide =>
    exact traced_ensureUsable.bind fun _ => traced_modify fun _ => .aside rfl rfl rfl rfl
  | threads => exact traced_threads
  | thread id => exact traced_thread id
  | threadTree => exact traced_threads.bind fun _ => traced_pure _
  | addListener | removeListener =>
    intro s
    refine ⟨[], Move.run ?_⟩
    exact .aside rfl rfl rfl rfl

theorem traced_resume (id : ThreadId) (kind : Option StepKind) :
    Traced may (resume Vm.environment id kind) :=
  traced_ensureUsable.bind fun _ =>
    (traced_ask (d := .resume id kind) (fun _ => rfl) (plain _ rfl)).bind fun _ =>
      traced_modify fun _ => .aside rfl rfl rfl rfl

theorem traced_halt (id : ThreadId) : Traced may (halt Vm.environment id) :=
  traced_ensureUsable.bind fun _ => traced_ask (d := .halt id) (fun _ => rfl) (plain _ rfl)

theorem traced_terminateThread (id : ThreadId) : Traced may (terminateThread Vm.environment id) :=
  traced_ensureUsable.bind fun _ => traced_ask (d := .terminate id) (fun _ => rfl) (plain _ rfl)

end

/-! ## 5. Sequences of operations -/

/-- Something that is done with a session, with its table of proxies, with a thread controller, or
with the environment behind the session's back. -/
inductive Act
  | request (r : Request)
  /-- A body is run on the main thread. -/
  | runBody (body : Body)
  /-- The outcome of a call is taken over. -/
  | finish (outcome : Outcome)
  | proxyFor (object : ObjectRef)
  | table (c : ProxyTable.Command)
  | resume (id : ThreadId) (kind : Option StepKind)
  | halt (id : ThreadId)
  | terminateThread (id : ThreadId)
  | selectFrame (id : ThreadId) (index : Nat)
  | variableObject (id : ThreadId) (frame index : Nat)
  | receiverOf (id : ThreadId) (frame : Nat)
  /-- Something is done to the debuggee directly, or it does something by itself. -/
  | direct (d : Vm.Deed)
  /-- The debuggee runs until it can get no further. -/
  | settle

/-- What is left of a session after an act, whether it succeeds or not. -/
def Act.run (s : Session Vm) : Act → Session Vm
  | request r => ((perform Vm.environment r).run s).2
  | runBody body => ((Bench.runBody body).run s).2
  | finish outcome => ((Session.finish Vm.environment outcome).run s).2
  | proxyFor object => ((Session.proxyFor Vm.environment object).run s).2
  | table c =>
    let x := c.run Vm.environment (s.proxies, s.world)
    { s with proxies := x.1, world := x.2 }
  | resume id kind => ((Session.resume Vm.environment id kind).run s).2
  | halt id => ((Session.halt Vm.environment id).run s).2
  | terminateThread id => ((Session.terminateThread Vm.environment id).run s).2
  | selectFrame id index => Session.selectFrame id index s
  | variableObject id frame index => ((Session.variableObject Vm.environment id frame index).run s).2
  | receiverOf id frame => ((Session.receiverOf Vm.environment id frame).run s).2
  | direct d => { s with world := d.run s.world }
  | settle => Session.settle Vm.environment s

/-- What is left of a session after some acts. -/
def after (s : Session Vm) (acts : List Act) : Session Vm := acts.foldl Act.run s

/-- What an act may do to the debuggee beyond what every session does. -/
def Act.Needs (may : Vm.Deed → Prop) : Act → Prop
  | request r => r = .launch ∨ r = .close true → may .launch
  | direct d => may d
  | settle => ∀ id, may (.step id)
  | _ => True

theorem steps_run (ids : List ThreadId) (steps : ∀ id, may (.step id)) (s : Session Vm) :
    ∃ ds, Run may s ds { s with world := s.world.after (ids.map .step) } := by
  induction ids generalizing s with
  | nil => exact ⟨[], .refl s⟩
  | cons id rest ih =>
    obtain ⟨ds, run⟩ := ih { s with world := Vm.Deed.run s.world (.step id) }
    exact ⟨_, (Move.world (steps id)).run.trans run⟩

/-- **Whatever is done with a session is a run.** -/
theorem Act.run_run (plain : ∀ d, isPlain d = true → may d) (a : Act) (needs : a.Needs may)
    (s : Session Vm) : ∃ ds, Run may s ds (a.run s) := by
  cases a with
  | request r => exact traced_perform plain r needs s
  | runBody body => exact traced_runBody plain body s
  | finish outcome => exact traced_finish plain outcome s
  | proxyFor object => exact traced_proxyFor plain object s
  | table c =>
    cases c with
    | obtain object =>
      have run := traced_obtainFor plain object s
      rwa [run_onProxies] at run
    | forget id =>
      have run := traced_forget plain id s
      rwa [run_onProxies] at run
    | forgetProxy p =>
      have run := traced_forgetProxy plain p s
      rwa [run_onProxies] at run
    | clear => exact ⟨[], Move.clears.run⟩
    | bindName scope name p =>
      have traced : Traced may _ := traced_bindName scope name p
      have run := traced s
      rwa [run_onProxies] at run
    | unbindName scope name =>
      have traced : Traced may _ := traced_unbindName scope name
      have run := traced s
      rwa [run_onProxies] at run
    | classInfo name =>
      have traced : Traced may _ := traced_classInfo name
      have run := traced s
      rwa [run_onProxies] at run
  | resume id kind => exact traced_resume plain id kind s
  | halt id => exact traced_halt plain id s
  | terminateThread id => exact traced_terminateThread plain id s
  | selectFrame id index =>
    refine ⟨[], Move.run ?_⟩
    exact .aside rfl rfl rfl rfl
  | variableObject id frame index => exact traced_variableObject plain id frame index s
  | receiverOf id frame => exact traced_receiverOf plain id frame s
  | direct d => exact ⟨_, (Move.world needs).run⟩
  | settle =>
    obtain ⟨ids, eq⟩ := Vm.settle_after s.world
    obtain ⟨ds, run⟩ := steps_run ids needs s
    have world : (Session.settle Vm.environment s).world = s.world.after (ids.map .step) := eq
    exact ⟨ds, run.silently (.aside world rfl rfl rfl)⟩

theorem after_run (plain : ∀ d, isPlain d = true → may d) {acts : List Act}
    (needs : ∀ a ∈ acts, a.Needs may) (s : Session Vm) : ∃ ds, Run may s ds (s.after acts) := by
  induction acts generalizing s with
  | nil => exact ⟨[], .refl s⟩
  | cons a rest ih =>
    obtain ⟨ds, first⟩ := a.run_run plain (needs a List.mem_cons_self) s
    obtain ⟨es, others⟩ := ih (fun b hb => needs b (List.mem_cons_of_mem _ hb)) (a.run s)
    exact ⟨_, first.trans others⟩

end Session

end Debugger
