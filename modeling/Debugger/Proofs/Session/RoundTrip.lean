import Debugger.Proofs.Debuggee.Answers
import Debugger.Proofs.Session.Keeping
/-!
# Proxies passed back

A controller calls into the debuggee with the proxies it was given, and what it is given back may be
one of them. An object takes a long way there and back: through the table of the session into a task,
through the thread that makes the call, and from what the body returns through the table again. On all
of it the object is the same, and it comes back as the proxy it left as.

Proxies are looked up before anything is started. So one that is not known, whether it was forgotten
or made up, ends the call before it has an effect, wherever it stands among the arguments.

* `ProxyTable.Denotes` - the debuggee's value that a controller's value is.
* `ProxyCall.start_cases` - how a call begins.
* `Session.proxies_come_back` - how it goes on, and how it ends.

## 1. What proxies denote

## 2. How a call begins

## 3. What is submitted

## 4. There and back
-/

namespace Debugger

open Std (TreeMap)

/-! ## 1. What proxies denote -/

namespace ProxyTable

/-- What a controller's value is to the debuggee. -/
inductive Denotes (t : ProxyTable) : ProxyValue → Value → Prop
  | null : Denotes t .null .null
  | primitive (p : Primitive) : Denotes t (.primitive p) (.primitive p)
  | object {p : Proxy} {o : ObjectRef} (known : t.byHandle[p.handle]? = some o) :
      Denotes t (.object p) (.object o)

/-- The first of some proxies that is not known. -/
def stranger? (t : ProxyTable) (ps : List Proxy) : Option Proxy :=
  ps.find? fun p => (t.objectFor? p.handle).isNone

end ProxyTable

namespace Session

variable {s : Session Vm}

/-- A value is what it denotes, or it is a proxy that is not known. -/
theorem run_toValue (v : ProxyValue) (s : Session Vm) :
    (∃ p, v.object? = some p ∧ s.proxies.objectFor? p.handle = none ∧
      (toValue v : Op Vm Value).run s = (.error (.unknownHandle p.handle), s)) ∨
    (∀ p, v.object? = some p → s.proxies.objectFor? p.handle ≠ none) ∧
      ∃ w, s.proxies.Denotes v w ∧ (toValue v : Op Vm Value).run s = (.ok w, s) := by
  cases v with
  | null => exact .inr ⟨nofun, .null, .null, rfl⟩
  | primitive p => exact .inr ⟨nofun, .primitive p, .primitive p, rfl⟩
  | object p =>
    have ran := run_resolve p s
    cases known : s.proxies.objectFor? p.handle with
    | none =>
      rw [known] at ran
      exact .inl ⟨p, rfl, known, Action.run_bind_error ran⟩
    | some o =>
      rw [known] at ran
      refine .inr ⟨?_, .object o, .object known, (Action.run_bind_ok ran).trans rfl⟩
      rintro _ ⟨⟩ unknown
      rw [known] at unknown
      cases unknown

/-- Values are looked up in order, up to the first that is not known. -/
theorem run_toValues (args : List ProxyValue) (s : Session Vm) :
    (∃ p, s.proxies.stranger? (args.filterMap ProxyValue.object?) = some p ∧
      (args.mapM toValue : Op Vm (List Value)).run s = (.error (.unknownHandle p.handle), s)) ∨
    s.proxies.stranger? (args.filterMap ProxyValue.object?) = none ∧
      ∃ vs, List.Forall₂ s.proxies.Denotes args vs ∧
        (args.mapM toValue : Op Vm (List Value)).run s = (.ok vs, s) := by
  induction args with
  | nil => exact .inr ⟨rfl, [], .nil, rfl⟩
  | cons v rest ih =>
    have skips (known : ∀ p, v.object? = some p → s.proxies.objectFor? p.handle ≠ none) :
        s.proxies.stranger? ((v :: rest).filterMap ProxyValue.object?) =
          s.proxies.stranger? (rest.filterMap ProxyValue.object?) := by
      cases object : v.object? with
      | none => rw [List.filterMap_cons_none object]
      | some p =>
        rw [List.filterMap_cons_some object]
        exact List.find?_cons_of_neg (by simpa using known p object)
    rw [List.mapM_cons]
    rcases run_toValue v s with ⟨p, object, unknown, ran⟩ | ⟨known, w, denotes, ran⟩
    · refine .inl ⟨p, ?_, Action.run_bind_error ran⟩
      rw [List.filterMap_cons_some object]
      exact List.find?_cons_of_pos (by rw [unknown]; rfl)
    · rw [skips known, Action.run_bind_ok ran]
      rcases ih with ⟨p, stranger, ran⟩ | ⟨none, vs, denote, ran⟩
      · exact .inl ⟨p, stranger, Action.run_bind_error ran⟩
      · exact .inr ⟨none, w :: vs, .cons denotes denote, (Action.run_bind_ok ran).trans rfl⟩

end Session

/-! ## 2. How a call begins -/

/-- A call that a controller makes on proxies. -/
inductive ProxyCall
  | instantiate (className : String) (types : List String) (args : List ProxyValue)
  | invoke (receiver : Proxy) (method : String) (types : List String) (args : List ProxyValue)

namespace ProxyCall

/-- The request that makes the call. -/
def start : ProxyCall → Session.Op Vm PendingCall
  | instantiate className types args => Session.instantiate Vm.environment className types args
  | invoke receiver method types args => Session.invoke Vm.environment receiver method types args

def receiver? : ProxyCall → Option Proxy
  | instantiate .. => none
  | invoke receiver .. => some receiver

def args : ProxyCall → List ProxyValue
  | instantiate _ _ args => args
  | invoke _ _ _ args => args

/-- The proxies that are passed, the receiver first. -/
def proxies (c : ProxyCall) : List Proxy :=
  c.receiver?.toList ++ c.args.filterMap ProxyValue.object?

/-- What the call is to the debuggee, and how the session asks for it. -/
inductive Means (t : ProxyTable) : ProxyCall → Vm.Deed → Vm.Op PendingCall → Prop
  | instantiate {className : String} {types : List String} {args : List ProxyValue}
      {vs : List Value} (denote : List.Forall₂ t.Denotes args vs) :
      Means t (.instantiate className types args) (.newInstance className types vs)
        (Vm.newInstance className types vs)
  | invoke {receiver : Proxy} {method : String} {types : List String} {args : List ProxyValue}
      {o : ObjectRef} {vs : List Value} (known : t.objectFor? receiver.handle = some o)
      (denote : List.Forall₂ t.Denotes args vs) :
      Means t (.invoke receiver method types args) (.invokeMethod o method types vs)
        (Vm.invokeMethod o method types vs)

variable {c : ProxyCall} {s s' : Session Vm} {n : CallId}

/-- **A call with a proxy that is not known ends before it has begun, and any other is passed on.** -/
theorem start_cases (usable : s.lifecycle ≠ .failed) (c : ProxyCall) :
    (∃ p, s.proxies.stranger? c.proxies = some p ∧
      c.start.run s = (.error (.unknownHandle p.handle), s)) ∨
    s.proxies.stranger? c.proxies = none ∧ ∃ d a, c.Means s.proxies d a ∧
      c.start.run s = (Session.ask a).run s := by
  have open' : Session.ensureUsable.run s = (.ok (), s) := by
    rw [Session.run_ensureUsable, if_neg usable]
  cases c with
  | instantiate className types args =>
    have begun : (start (.instantiate className types args)).run s = _ := Action.run_bind_ok open'
    rw [begun]
    rcases Session.run_toValues args s with ⟨p, stranger, ran⟩ | ⟨none, vs, denote, ran⟩
    · exact .inl ⟨p, stranger, Action.run_bind_error ran⟩
    · exact .inr ⟨none, _, _, .instantiate denote, Action.run_bind_ok ran⟩
  | invoke receiver method types args =>
    have begun : (start (.invoke receiver method types args)).run s = _ :=
      Action.run_bind_ok open'
    have first : (invoke receiver method types args).proxies =
        receiver :: args.filterMap ProxyValue.object? := rfl
    have ran := Session.run_resolve receiver s
    rw [begun, first]
    cases known : s.proxies.objectFor? receiver.handle with
    | none =>
      rw [known] at ran
      exact .inl ⟨receiver, List.find?_cons_of_pos (by rw [known]; rfl), Action.run_bind_error ran⟩
    | some o =>
      rw [known] at ran
      have skips : s.proxies.stranger? (receiver :: args.filterMap ProxyValue.object?) =
          s.proxies.stranger? (args.filterMap ProxyValue.object?) :=
        List.find?_cons_of_neg (by rw [known]; exact Bool.false_ne_true)
      rw [Action.run_bind_ok ran, skips]
      rcases Session.run_toValues args s with ⟨p, stranger, ran⟩ | ⟨none, vs, denote, ran⟩
      · exact .inl ⟨p, stranger, Action.run_bind_error ran⟩
      · exact .inr ⟨none, _, _, .invoke known denote, Action.run_bind_ok ran⟩

end ProxyCall

/-! ## 3. What is submitted -/

namespace Vm

variable {v w : Vm} {n : CallId}

theorem submit_queued {id : ThreadId} {task : Task}
    (queued : (submit id task).run v = (.ok (.queued n), w)) :
    n = v.lastCall + 1 ∧ w.lastCall = v.lastCall + 1 := by
  unfold submit at queued
  rcases (reads_requireThread id).cases _ v with ⟨e, -, eq⟩ | ⟨t, -, eq⟩
  · rw [eq] at queued
    cases queued
  · rw [eq] at queued
    cases queued
    exact ⟨rfl, rfl⟩

theorem submitToMain_queued {task : Task}
    (queued : (submitToMain task).run v = (.ok (.queued n), w)) :
    n = v.lastCall + 1 ∧ w.lastCall = v.lastCall + 1 := by
  unfold submitToMain at queued
  rcases reads_requireMain.cases _ v with ⟨e, -, eq⟩ | ⟨id, -, eq⟩
  · rw [eq] at queued
    cases queued
  · rw [eq] at queued
    exact submit_queued queued

theorem newInstance_queued {className : String} {types : List String} {args : List Value}
    (queued : (newInstance className types args).run v = (.ok (.queued n), w)) :
    n = v.lastCall + 1 ∧ w.lastCall = v.lastCall + 1 ∧ ∃ c constructor,
      (Deed.newInstance className types args).task? v =
        some (.invoke (.construct c constructor args)) := by
  unfold newInstance at queued
  rcases reads_requireLaunched.cases _ v with ⟨e, -, eq⟩ | ⟨_, -, eq⟩
  · rw [eq] at queued
    cases queued
  rw [eq] at queued
  rcases (reads_requireClass className).cases _ v with ⟨e, -, eq⟩ | ⟨c, ok, eq⟩
  · rw [eq] at queued
    cases queued
  rw [eq] at queued
  cases found : c.findConstructor? (.types types) types.isEmpty with
  | none =>
    rw [found] at queued
    cases queued
  | some constructor =>
    rw [found] at queued
    obtain ⟨number, counted⟩ := submitToMain_queued queued
    refine ⟨number, counted, c, constructor, ?_⟩
    simp only [Deed.task?, class?_of_ok ok, Option.bind_eq_bind, Option.bind_some, found]
    rfl

theorem invokeMethod_queued {receiver : ObjectRef} {method : String} {types : List String}
    {args : List Value}
    (queued : (invokeMethod receiver method types args).run v = (.ok (.queued n), w)) :
    n = v.lastCall + 1 ∧ w.lastCall = v.lastCall + 1 ∧ ∃ c m,
      (Deed.invokeMethod receiver method types args).task? v =
        some (.invoke (.method c m (some receiver) args)) := by
  unfold invokeMethod at queued
  rcases reads_requireLaunched.cases _ v with ⟨e, -, eq⟩ | ⟨_, -, eq⟩
  · rw [eq] at queued
    cases queued
  rw [eq] at queued
  rcases (reads_requireObject receiver.id).cases _ v with ⟨e, -, eq⟩ | ⟨o, ok, eq⟩
  · rw [eq] at queued
    cases queued
  rw [eq] at queued
  cases found : o.classDef.findMethod? method .virtual (.types types) with
  | none =>
    rw [found] at queued
    cases queued
  | some m =>
    rw [found] at queued
    obtain ⟨number, counted⟩ := submitToMain_queued queued
    refine ⟨number, counted, o.classDef, m, ?_⟩
    simp only [Deed.task?, object?_of_ok ok, Option.bind_eq_bind, Option.bind_some, found]
    rfl

end Vm

namespace ProxyCall

variable {c : ProxyCall} {t : ProxyTable} {d : Vm.Deed} {a : Vm.Op PendingCall} {v w : Vm}
  {s s' : Session Vm} {n : CallId}

/-- An invocation passes what a call means. -/
structure Passed (c : ProxyCall) (t : ProxyTable) (i : Invocation) : Prop where
  args : ∀ cd m args, i.target? = some (cd, m, args) → List.Forall₂ t.Denotes c.args args
  receiver : ∀ p, c.receiver? = some p →
    ∃ cd m o args, i = .method cd m (some o) args ∧ t.objectFor? p.handle = some o

/-- **What is submitted passes what the proxies stand for.** -/
theorem Means.queued (means : c.Means t d a) (queued : a.run v = (.ok (.queued n), w)) :
    w = d.run v ∧ n = v.lastCall + 1 ∧ w.lastCall = v.lastCall + 1 ∧
      ∃ i, d.task? v = some (.invoke i) ∧ c.Passed t i := by
  cases means with
  | instantiate denote =>
    obtain ⟨number, counted, cd, constructor, named⟩ := Vm.newInstance_queued queued
    refine ⟨(congrArg Prod.snd queued).symm, number, counted, _, named, ?_, nofun⟩
    intro cd' m args target
    cases constructor with
    | none => cases target
    | some m' =>
      cases target
      exact denote
  | @invoke receiver method types args o vs known denote =>
    obtain ⟨number, counted, cd, m, named⟩ := Vm.invokeMethod_queued queued
    refine ⟨(congrArg Prod.snd queued).symm, number, counted, _, named, ?_, ?_⟩
    · intro cd' m' args' target
      cases target
      exact denote
    · rintro p ⟨⟩
      exact ⟨cd, m, o, vs, rfl, known⟩

/-- The session asks its debuggee, and nothing else of it changes. -/
theorem run_ask_queued (queued : (Session.ask a).run s = (.ok (.queued n), s')) :
    ∃ w, a.run s.world = (.ok (.queued n), w) ∧ s' = { s with world := w } := by
  rw [Session.run_ask] at queued
  rcases ran : a.run s.world with ⟨e | answer, w⟩
  · rw [ran] at queued
    cases queued
  · rw [ran] at queued
    cases queued
    exact ⟨w, rfl, rfl⟩

/-- **A call that was queued is all that is made under its number,** however long it takes. -/
theorem queued_serves {ds : List Vm.Deed} (world : s.world = Vm.fresh.after ds)
    (usable : s.lifecycle ≠ .failed) (queued : c.start.run s = (.ok (.queued n), s')) :
    s'.proxies = s.proxies ∧ ∃ d i, s'.world = Vm.fresh.after (ds ++ [d]) ∧
      c.Passed s.proxies i ∧ ∀ later : List Vm.Deed, (s'.world.after later).AllServe n i := by
  rcases start_cases usable c with ⟨p, -, refused⟩ | ⟨-, d, a, means, begun⟩
  · cases refused.symm.trans queued
  · obtain ⟨w, ran, rfl⟩ := run_ask_queued (begun.symm.trans queued)
    obtain ⟨rfl, rfl, counted, i, named, passed⟩ := means.queued ran
    refine ⟨rfl, d, i, ?_, passed, fun later => ?_⟩
    · show d.run s.world = _
      rw [world, Vm.after_append]
      rfl
    · rw [world] at counted named
      show ((d.run s.world).after later).AllServe _ i
      rw [world]
      exact Vm.allServe_after named counted later

end ProxyCall

/-! ## 4. There and back -/

namespace Session

variable {s s' : Session Vm} {handle : Handle} {o : ObjectRef}

/-- An object that is known comes back as its proxy, and nothing is entered for it. -/
theorem finish_known (h : s.proxies.Knows handle o) {object : ObjectRef} (same : object.id = o.id) :
    ∃ q : Proxy, q.handle = handle ∧
      (finish Vm.environment (.success (some object))).run s = (.ok (.success (some q)), s) := by
  obtain ⟨q, tracked, own⟩ := h.proxy
  refine ⟨q, own, ?_⟩
  have ran : (track Vm.environment object).run s = (.ok (some q), s) := by
    unfold track
    rw [run_noticeFatal, run_onProxies]
    have found : s.proxies.byObject[object.id]? = some q := same ▸ tracked
    rw [ProxyTable.obtainFor_known (x := (s.proxies, s.world)) Vm.environment found]
  exact (Action.run_bind_ok ran).trans rfl

/-- A proxy that is given out for an object stands for the object. -/
theorem track_knows (h : s.proxies.Consistent) {object : ObjectRef} {p : Proxy}
    (tracked : (track Vm.environment object).run s = (.ok (some p), s')) :
    ∃ o, s'.proxies.Knows p.handle o ∧ o.id = object.id := by
  unfold track at tracked
  rw [run_noticeFatal, run_onProxies] at tracked
  have obtained := ProxyTable.obtainFor_obtained Vm.environment object (s.proxies, s.world)
  have consistent := obtained.consistent h
  generalize (ProxyTable.obtainFor Vm.environment object).run (s.proxies, s.world) = x
    at tracked obtained consistent
  obtain ⟨e | q, t, w⟩ := x
  · cases tracked
  · cases tracked
    cases obtained with
    | known found =>
      obtain ⟨o, known, same⟩ := (h.inverse object.id p.handle).mp ⟨p, found, rfl⟩
      exact ⟨o, ⟨consistent, known⟩, same⟩
    | made p classes untracked unused =>
      exact ⟨⟨object.id, p.className⟩, ⟨consistent, TreeMap.getElem?_insert_self⟩, rfl⟩

/-- Whatever is done with a session is, to its debuggee, a list of deeds. -/
theorem after_world (s : Session Vm) (acts : List Act) :
    ∃ ds, (s.after acts).world = s.world.after ds := by
  have needs : ∀ a ∈ acts, a.Needs fun _ => True := by
    intro a _
    cases a <;> simp [Act.Needs]
  obtain ⟨ds, run⟩ := after_run (fun _ _ => trivial) needs s
  exact ⟨ds, run.world_eq⟩

/-- A session over a debuggee with a history. -/
structure Reached (s : Session Vm) : Prop where
  world : ∃ ds, s.world = Vm.fresh.after ds
  consistent : s.proxies.Consistent

theorem reached_after (history : List Vm.Deed) (settings : DebuggerSettings) (acts : List Act) :
    ((create Vm.environment (Vm.fresh.after history) settings).after acts).Reached := by
  obtain ⟨ds, world⟩ := after_world (create Vm.environment (Vm.fresh.after history) settings) acts
  refine ⟨⟨history ++ ds, ?_⟩, after_consistent ProxyTable.consistent_empty acts⟩
  rw [world, Vm.after_append]
  rfl

variable {c : ProxyCall} {n : CallId} {id : ThreadId} {object : ObjectRef}

/-- The body that a call enters is given what the proxies stood for. -/
theorem entered_with (h : s.Reached) (usable : s.lifecycle ≠ .failed)
    (queued : c.start.run s = (.ok (.queued n), s')) (later : List Act) {t t' : Thread} {r : Shared}
    {b : Body} {k : Except Thrown Value → Body}
    (there : (s'.after later).world.threads[id]? = some t)
    (step : t.step (s'.after later).world.shared = some (t', r))
    (entered : t'.worker = .busy ⟨n, .entering b, [k]⟩) :
    ∃ (f : Frame) (m : Method) (args : List Value), b = m.body args ∧ t'.frames = f :: t.frames ∧
      List.Forall₂ s.proxies.Denotes c.args args ∧
      ∀ p, c.receiver? = some p → f.receiver = s.proxies.objectFor? p.handle := by
  obtain ⟨ds, world⟩ := h.world
  obtain ⟨-, d, i, -, passed, serve⟩ := ProxyCall.queued_serves world usable queued
  obtain ⟨es, world'⟩ := s'.after_world later
  have serves : t.Serves n i := serve es id t (world' ▸ there)
  obtain ⟨a, j, next, f, cd, m, args, busy, rfl, outer, calls, target, -, receiver, frames, rfl⟩ :=
    Thread.step_enters step entered
  have stage := serves.stage a.position a.callers busy
  have same : j = i := by
    obtain ⟨call, position, callers⟩ := a
    obtain rfl : [] = callers := outer
    cases calls with
    | byTask given =>
      obtain rfl : position = .starting j := given
      exact (Task.invoke.inj (serves.given _ (.starting busy)))
    | byBody asked resolved =>
      -- A call of the body itself would have the body waiting for it.
      obtain rfl : position = .running (.call _ next) := asked
      generalize waiting : ([] : List (Except Thrown Value → Body)) = callers at stage
      cases stage with
      | inside => exact absurd waiting.symm (by simp)
  subst same
  refine ⟨f, m, args, rfl, frames, passed.args cd m args target, fun p hp => ?_⟩
  obtain ⟨cd', m', o, args', rfl, known⟩ := passed.receiver p hp
  rw [known]
  exact receiver (some o) rfl

/-- The body of a call has come to an object, and the task waits for nothing else. -/
def Gives (s : Session Vm) (n : CallId) (id : ThreadId) (object : ObjectRef) : Prop :=
  ∃ t k, s.world.threads[id]? = some t ∧
    t.worker = .busy ⟨n, .running (.done (.ok (.object object))), [k]⟩

/-- What the body of a method gives is what its caller is told. -/
theorem told_as_given (h : s.Reached) (usable : s.lifecycle ≠ .failed)
    (queued : c.start.run s = (.ok (.queued n), s')) (method : c.receiver?.isSome = true)
    (soon later : List Act) (gives : (s'.after soon).Gives n id object) :
    ∃ k ≤ 4, ((s'.after soon).after later).world.Sound ∧
      ((s'.after soon).after later).world.Due n object id k := by
  obtain ⟨ds, world⟩ := h.world
  obtain ⟨-, d, i, world', passed, serve⟩ := ProxyCall.queued_serves world usable queued
  obtain ⟨es, passing⟩ := s'.after_world soon
  obtain ⟨fs, after⟩ := (s'.after soon).after_world later
  obtain ⟨t, k, there, busy⟩ := gives
  have serves : t.Serves n i := serve es id t (passing ▸ there)
  have bears : t.worker.Bears n object 3 := by
    obtain ⟨p, hp⟩ := Option.isSome_iff_exists.mp method
    obtain ⟨cd, m, o, args, rfl, -⟩ := passed.receiver p hp
    have stage := serves.stage _ _ busy
    generalize waiting : [k] = callers at stage
    cases stage with
    | @inside _ inner k' quiet past returns =>
      obtain ⟨-, rfl⟩ : inner = [] ∧ k = k' := by
        cases inner with
        | nil => exact ⟨rfl, (List.cons.inj waiting).1⟩
        | cons n inner => simp at waiting
      cases returns
      rw [busy]
      exact .returning
    | left => cases waiting
  have history : (s'.after soon).world = Vm.fresh.after (ds ++ [d] ++ es) := by
    rw [passing, world', ← Vm.after_append]
  rw [history] at there
  have sound := (Vm.sound_fresh.after (ds ++ [d] ++ es)).sound
  obtain ⟨j, below, due⟩ := sound.after_due fs (Vm.due_of_returning there bears)
  rw [after, history]
  exact ⟨j, below, (sound.after fs).sound, due⟩

/-- **Proxies that are passed back denote the objects they were given out for, all or none.** Take a
session over a debuggee with any history, after any acts, and a call on an object or for a new one. -/
theorem proxies_come_back (history : List Vm.Deed) (settings : DebuggerSettings) (acts : List Act)
    (c : ProxyCall)
    (usable : ((create Vm.environment (Vm.fresh.after history) settings).after acts).lifecycle ≠
      .failed) :
    let s := (create Vm.environment (Vm.fresh.after history) settings).after acts
    -- A proxy that is given out for an object stands for the object until it is given up.
    (∀ (object : ObjectRef) (p : Proxy) (s' : Session Vm) (meanwhile : List Act),
      (track Vm.environment object).run s = (.ok (some p), s') →
      (∀ a ∈ meanwhile, ¬ a.LetsGo p.handle object.id) →
      ∃ o, (s'.after meanwhile).proxies.objectFor? p.handle = some o ∧ o.id = object.id) ∧
    -- The first one that is not known ends the call, and nothing has changed.
    (∀ p, s.proxies.stranger? c.proxies = some p →
      c.start.run s = (.error (.unknownHandle p.handle), s)) ∧
    -- If all are known, the debuggee is asked with the objects they stand for.
    (s.proxies.stranger? c.proxies = none → ∃ d a, c.Means s.proxies d a ∧
      c.start.run s = (ask a).run s) ∧
    ∀ (n : CallId) (s' : Session Vm), c.start.run s = (.ok (.queued n), s') →
      s'.proxies = s.proxies ∧
      -- Whenever a body is entered for the call, it is given these objects, in order.
      (∀ (later : List Act) (id : ThreadId) (t t' : Thread) (r : Shared) (b : Body)
        (k : Except Thrown Value → Body), (s'.after later).world.threads[id]? = some t →
        t.step (s'.after later).world.shared = some (t', r) →
        t'.worker = .busy ⟨n, .entering b, [k]⟩ →
        ∃ (f : Frame) (m : Method) (args : List Value), b = m.body args ∧ t'.frames = f :: t.frames ∧
          List.Forall₂ s.proxies.Denotes c.args args ∧
          ∀ p, c.receiver? = some p → f.receiver = s.proxies.objectFor? p.handle) ∧
      -- If the body of a method gives an object that had a proxy, such as one of those that were
      -- passed, and nobody has given up the proxy,
      ∀ (soon later : List Act) (id : ThreadId) (object : ObjectRef) (p : Proxy),
        c.receiver?.isSome = true → (s'.after soon).Gives n id object →
        (∃ o, s.proxies.objectFor? p.handle = some o ∧ o.id = object.id) →
        (∀ a ∈ soon ++ later, ¬ a.LetsGo p.handle object.id) →
        let s'' := (s'.after soon).after later
        -- then no other outcome is told, and four steps of the thread tell this one,
        (s''.world.outcome? n = none ∨ s''.world.outcome? n = some (.success (some object))) ∧
        (s''.after (List.replicate 4 (.direct (.step id)))).world.outcome? n =
          some (.success (some object)) ∧
        -- and the session makes the same proxy of it again, and enters nothing.
        ∃ q : Proxy, q.handle = p.handle ∧
          (finish Vm.environment (.success (some object))).run s'' =
            (.ok (.success (some q)), s'') := by
  intro s
  have reached : s.Reached := reached_after history settings acts
  refine ⟨?_, ?_, ?_, fun n s' queued => ⟨?_, ?_, ?_⟩⟩
  · intro object p s' meanwhile tracked stay
    obtain ⟨o, knows, same⟩ := track_knows reached.consistent tracked
    rw [← same] at stay
    exact ⟨o, (after_knows stay knows).known, same⟩
  · intro p stranger
    rcases ProxyCall.start_cases usable c with ⟨q, found, ran⟩ | ⟨none, -⟩
    · cases found.symm.trans stranger
      exact ran
    · cases none.symm.trans stranger
  · intro none
    rcases ProxyCall.start_cases usable c with ⟨q, found, -⟩ | ⟨-, known⟩
    · cases found.symm.trans none
    · exact known
  · obtain ⟨ds, world⟩ := reached.world
    exact (ProxyCall.queued_serves world usable queued).1
  · intro later id t t' r b k there step entered
    exact entered_with reached usable queued later there step entered
  · intro soon later id object p method gives denoted stay
    obtain ⟨o, known, same⟩ := denoted
    obtain ⟨k, below, sound, due⟩ := told_as_given reached usable queued method soon later gives
    obtain ⟨ds, world⟩ := reached.world
    have table := (ProxyCall.queued_serves world usable queued).1
    rw [← same] at stay
    have knows : s'.proxies.Knows p.handle o :=
      ⟨table ▸ reached.consistent, table ▸ known⟩
    have kept : ((s'.after soon).after later).proxies.Knows p.handle o := by
      have after := after_knows stay knows
      rwa [Session.after, List.foldl_append] at after
    refine ⟨due.outcome, ?_, finish_known kept same.symm⟩
    have steps (n : Nat) (x : Session Vm) :
        (x.after (List.replicate n (.direct (.step id)))).world =
          x.world.after (List.replicate n (.step id)) := by
      induction n generalizing x with
      | zero => rfl
      | succ n ih => exact ih _
    rw [steps]
    exact sound.steps_due due below

/-- A class whose method gives the object that is passed to it. -/
def picker : ClassDef :=
  { ClassDef.empty "A" .plain with
    methods := [
      { name := "pick"
        params := [⟨"o", "Object"⟩]
        returnType := "Object"
        kind := .virtual
        lines := []
        body args := .done (.ok (args.headD .null)) }] }

/-- An instance of the class has a proxy, and so has a string. -/
def picking : List Act :=
  [.direct (.define picker), .request .launch, .direct (.newInstance "A" [] [])] ++
    List.replicate 6 (.direct (.step 1)) ++
    [.proxyFor ⟨1, "A"⟩, .direct (.newString "kept"), .proxyFor ⟨2, "String"⟩]

/-- The method is called with the proxy of a handle. -/
def pick (h : Handle) : ProxyCall :=
  .invoke ⟨⟨1⟩, "A"⟩ "pick" ["Object"] [.object ⟨h, "String"⟩]

set_option maxRecDepth 4000 in
/-- The string is passed, and it comes back as its proxy, although that of the receiver has been given
up. A handle that was made up is refused. -/
theorem picked_string_comes_back :
    let s := (create Vm.environment Vm.fresh {}).after picking
    let returning := ((pick ⟨2⟩).start.run s).2.after (List.replicate 4 (.direct (.step 1)))
    let forgotten := returning.after [.request (.forget ⟨⟨1⟩, "A"⟩)]
    (pick ⟨7⟩).start.run s = (.error (.unknownHandle ⟨7⟩), s) ∧
      (forgotten.after (List.replicate 4 (.direct (.step 1)))).world.outcome? 2 =
        some (.success (some ⟨2, "String"⟩)) ∧
      ∃ q : Proxy, q.handle = ⟨2⟩ ∧
        (finish Vm.environment (.success (some ⟨2, "String"⟩))).run forgotten =
          (.ok (.success (some q)), forgotten) := by
  intro s returning forgotten
  have usable : s.lifecycle ≠ .failed := by decide +kernel
  obtain ⟨-, refused, -, -⟩ := proxies_come_back [] {} picking (pick ⟨7⟩) usable
  obtain ⟨-, -, -, called⟩ := proxies_come_back [] {} picking (pick ⟨2⟩) usable
  have queued : (pick ⟨2⟩).start.run s = (.ok (.queued 2), ((pick ⟨2⟩).start.run s).2) :=
    Prod.ext rfl rfl
  obtain ⟨-, -, back⟩ := called 2 _ queued
  have stay : ∀ a ∈ List.replicate 4 (Act.direct (.step 1)) ++ [.request (.forget ⟨⟨1⟩, "A"⟩)],
      ¬ a.LetsGo ⟨2⟩ 2 := by simp [Act.LetsGo]
  obtain ⟨-, told, comes⟩ := back (List.replicate 4 (.direct (.step 1)))
    [.request (.forget ⟨⟨1⟩, "A"⟩)] 1 ⟨2, "String"⟩ ⟨⟨2⟩, "String"⟩ rfl ⟨_, _, rfl, rfl⟩
    ⟨_, rfl, rfl⟩ stay
  exact ⟨refused _ rfl, told, comes⟩

end Session

end Debugger
