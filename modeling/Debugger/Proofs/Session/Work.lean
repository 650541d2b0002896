import Debugger.Proofs.Session.Runs
/-!
# The everyday work of a session

Most of what a session is asked for is put together from a few pieces: the environment is asked for
something, an object is tracked, a class is looked at, a name is bound or unbound, and the registry
of breakpoints or the listeners change. A relation between the sessions before and after that
permits each of the pieces permits everything that is put together from them. So what is to be shown
of all requests is shown of the pieces, and then of the few requests that are not everyday work.

* `Environment.Offers` - what an environment can be asked for.
* `Session.Permits` - the pieces.
* `Session.Permits.perform` - the requests.

## 1. Pieces

## 2. Proxies and values

## 3. Requests

## 4. What is not a request
-/

namespace Debugger

/-! ## 1. Pieces -/

/-- The operations of an environment. -/
inductive Environment.Offers {σ : Type} (env : Environment σ) :
    {α : Type} → Action σ RuntimeError α → Prop
  | launch : env.Offers env.launch
  | shutdown : env.Offers env.shutdown
  | classInfo (className : String) : env.Offers (env.classInfo className)
  | getStatic (className field : String) : env.Offers (env.getStatic className field)
  | objectClass (id : ObjectId) : env.Offers (env.objectClass id)
  | objectCategory (id : ObjectId) : env.Offers (env.objectCategory id)
  | objectFields (id : ObjectId) : env.Offers (env.objectFields id)
  | stringValue (id : ObjectId) : env.Offers (env.stringValue id)
  | newString (text : String) : env.Offers (env.newString text)
  | boxValue (p : Primitive) : env.Offers (env.boxValue p)
  | newInstance (className : String) (types : List String) (args : List Value) :
      env.Offers (env.newInstance className types args)
  | invokeStatic (className method : String) (types : List String) (args : List Value) :
      env.Offers (env.invokeStatic className method types args)
  | invokeMethod (receiver : ObjectRef) (method : String) (types : List String)
      (args : List Value) : env.Offers (env.invokeMethod receiver method types args)
  | installTransport (id : ObjectId) : env.Offers (env.installTransport id)
  | takeTransport : env.Offers env.takeTransport
  | release (handle : Handle) : env.Offers (env.release handle)
  | threads : env.Offers env.threads
  | mainThread : env.Offers env.mainThread
  | frames (id : ThreadId) : env.Offers (env.frames id)
  | resume (id : ThreadId) (kind : Option StepKind) : env.Offers (env.resume id kind)
  | halt (id : ThreadId) : env.Offers (env.halt id)
  | terminateThread (id : ThreadId) : env.Offers (env.terminateThread id)
  | waitForStop (id : ThreadId) : env.Offers (env.waitForStop id)
  | setBreakpoint (r : BreakpointRequest) : env.Offers (env.setBreakpoint r)
  | clearBreakpoint (l : BreakpointLocation) : env.Offers (env.clearBreakpoint l)
  | setBreakOnUncaught (enabled : Bool) : env.Offers (env.setBreakOnUncaught enabled)

/-- Whether a request is everyday work: it neither launches nor closes, and it concerns neither the
listing of threads nor the forgetting of an object. -/
def Request.isEveryday : Request → Bool
  | launch | close _ | forget _ | hideSystemThreads _ | threads | thread _ | threadTree => false
  | _ => true

namespace Session

variable {σ α : Type} {env : Environment σ} {R : Session σ → Session σ → Prop}

/-- What a relation has to permit, so that the everyday work of a session stays within it. -/
structure Permits (env : Environment σ) (R : Session σ → Session σ → Prop) : Prop where
  asks : ∀ {α : Type} {a : Action σ RuntimeError α}, env.Offers a →
    Action.Within R (attempt a)
  tracks : ∀ object, Action.Within R (track env object)
  looks : ∀ className, Action.Within R (onProxies (ProxyTable.classInfo env className))
  binds : ∀ s scope name p proxies, s.proxies.bind? scope name p = some proxies →
    R s { s with proxies }
  unbinds : ∀ s scope name, R s { s with proxies := (s.proxies.unbind scope name).2 }
  breakpoints : ∀ s breakpoints, R s { s with breakpoints }
  /-- The listeners change, and what they have yet to hear does not. -/
  listeners : ∀ s notifier, notifier.control = s.notifier.control → R s { s with notifier }

/-- A relation that permits disabling permits the tracking of objects if it permits looking for
them. -/
theorem within_noticeFatal {a : Op σ α} (h : Action.Within R a) [Trans R R R]
    (disables : ∀ e s, R s (disable e s)) : Action.Within R (noticeFatal a) := by
  intro s
  have first := h s
  rw [run_noticeFatal]
  rcases ran : a.run s with ⟨e | v, s'⟩
  · rw [ran] at first
    dsimp only
    split
    · exact Trans.trans first (disables e s')
    · exact first
  · rw [ran] at first
    exact first

section Life

variable [Std.Refl R] [Trans R R R]

theorem within_ask {a : Action σ RuntimeError α} (asks : Action.Within R (attempt a)) :
    Action.Within R (ask a) := by
  refine asks.bind fun answer => ?_
  cases answer with
  | ok v => exact .pure v
  | error e => exact .throw _

variable (asks : ∀ {α : Type} {a : Action σ RuntimeError α}, env.Offers a →
  Action.Within R (attempt a))
include asks

/-- A relation that permits questions permits the launch if it permits a session to be called
launched. -/
theorem within_launch (turns : ∀ s : Session σ, R s { s with lifecycle := .launched }) :
    Action.Within R (launch env) := by
  have usable : Action.Within R (ensureUsable : Op σ Unit) := .of_reads reads_ensureUsable
  refine usable.bind fun _ => (within_ask (asks .launch)).bind fun _ => .get_bind fun s => ?_
  have turned : Action.Within R
      (modify fun s => { s with lifecycle := .launched } : Op σ Unit) := .modify turns
  split
  · refine (asks (.setBreakOnUncaught true)).bind fun answer => ?_
    split
    · exact .bind (.pure ()) fun _ => turned
    · exact .bind (.pure ()) fun _ => turned
    · exact .bind (.throw _) fun _ => turned
  · exact turned

/-- The same of the close, if it also permits the proxies and the threads to be forgotten. -/
theorem within_close (drops : ∀ s : Session σ, R s { s with proxies := {} })
    (leaves : ∀ s : Session σ, R s { s with controllers := ∅ })
    (turns : ∀ (s : Session σ) lifecycle, lifecycle ≠ .failed → R s { s with lifecycle })
    (restart : Bool) : Action.Within R (close env restart) := by
  have ended : Action.Within R (shutDown env) := by
    refine .bind (.modify drops) fun _ => .bind (.modify leaves) fun _ => ?_
    refine (asks .shutdown).bind fun answer => ?_
    refine .bind (.modify fun s => turns s .terminated nofun) fun _ => ?_
    cases answer with
    | ok => exact .pure ()
    | error e => exact .throw _
  refine ended.bind fun _ => ?_
  cases restart with
  | true => exact within_launch asks fun s => turns s .launched nofun
  | false => exact .pure ()

end Life

namespace Permits

variable [Std.Refl R] [Trans R R R] (h : Permits env R)
include h

theorem ask {a : Action σ RuntimeError α} (offered : env.Offers a) :
    Action.Within R (Session.ask a) := within_ask (h.asks offered)

omit h [Trans R R R] in
theorem usable : Action.Within R (ensureUsable : Op σ Unit) := .of_reads reads_ensureUsable

omit h [Trans R R R] in
theorem resolves (p : Proxy) : Action.Within R (resolve p : Op σ ObjectRef) :=
  .of_reads (reads_resolve p)

/-! ## 2. Proxies and values -/

omit h in
theorem toValues (args : List ProxyValue) :
    Action.Within R (args.mapM toValue : Op σ (List Value)) :=
  .mapM (fun v => .of_reads (reads_toValue v)) args

theorem toProxyValue (v : Value) : Action.Within R (Session.toProxyValue env v) := by
  cases v with
  | null | void | primitive => exact .pure _
  | object o =>
    refine (h.tracks o).bind fun p => ?_
    cases p <;> exact .pure _

/-- An object that is tracked, and must be one that can be shown. -/
theorem made (object : ObjectRef) : Action.Within R (proxyOfLiteral.made env object) := by
  refine (h.tracks object).bind fun p => ?_
  cases p with
  | none => exact .throw _
  | some p => exact .pure p

theorem proxyOfLiteral (l : Literal) : Action.Within R (Session.proxyOfLiteral env l) := by
  cases l with
  | null => exact .throw _
  | string text => exact (h.ask (.newString text)).bind fun o => h.made o
  | primitive p => exact (h.ask (.boxValue p)).bind fun o => h.made o
  | handle handle =>
    refine .get_bind fun s => ?_
    cases s.proxies.objectFor? handle with
    | none => exact .throw _
    | some object =>
      refine (h.tracks object).bind fun p => ?_
      cases p with
      | none => exact .throw _
      | some p => exact .pure p
  | name text =>
    refine .get_bind fun s => ?_
    cases s.proxies.bindings[text]? with
    | none => exact .throw _
    | some p => exact .pure p

/-! ## 3. Requests -/

theorem instantiate (className : String) (types : List String) (args : List ProxyValue) :
    Action.Within R (Session.instantiate env className types args) :=
  usable.bind fun _ => (toValues args).bind fun args => h.ask (.newInstance className types args)

theorem runMain (className : String) : Action.Within R (Session.runMain env className) := by
  refine usable.bind fun _ => (h.looks className).bind fun info => ?_
  split
  · exact h.ask (.invokeStatic className mainMethod [] [])
  · split
    · exact h.ask (.invokeStatic className mainMethod [mainParameter] [.null])
    · exact .pure _

theorem invoke (receiver : Proxy) (method : String) (types : List String)
    (args : List ProxyValue) : Action.Within R (Session.invoke env receiver method types args) :=
  usable.bind fun _ => (resolves receiver).bind fun object =>
    (toValues args).bind fun args => h.ask (.invokeMethod object method types args)

theorem staticValue (className field : String) :
    Action.Within R (Session.staticValue env className field) := by
  refine usable.bind fun _ => (h.ask (.getStatic className field)).bind fun v => ?_
  cases v with
  | null | void => exact .pure none
  | primitive p => exact (h.ask (.boxValue p)).bind fun o => h.tracks o
  | object o => exact h.tracks o

omit [Trans R R R] in
theorem bindName (scope name : String) (p : Proxy) :
    Action.Within R (onProxies (ProxyTable.bindName scope name p)) := by
  intro s
  rw [run_onProxies]
  unfold ProxyTable.bindName
  rw [Action.run_bind, ProxyTable.run_getTable]
  dsimp only
  cases bound : s.proxies.bind? scope name p with
  | none => exact Std.Refl.refl s
  | some proxies => exact h.binds s scope name p proxies bound

omit [Std.Refl R] [Trans R R R] in
theorem unbindName (scope name : String) :
    Action.Within R (onProxies (ProxyTable.unbindName scope name)) := by
  intro s
  rw [run_onProxies]
  exact h.unbinds s scope name

theorem objectFields (p : Proxy) : Action.Within R (Session.objectFields env p) :=
  usable.bind fun _ => (resolves p).bind fun object =>
    (h.ask (.objectFields object.id)).bind fun _ => .mapM
      (fun f : FieldInfo × Value => (h.toProxyValue f.2).bind fun _ => .pure _) _

theorem fieldValue (p : Proxy) (field : String) :
    Action.Within R (Session.fieldValue env p field) := by
  refine (h.objectFields p).bind fun fields => ?_
  cases fields.find? (·.name == field) with
  | none => exact .throw _
  | some entry => exact .pure _

theorem proxyOfText (text : String) : Action.Within R (Session.proxyOfText env text) := by
  refine usable.bind fun _ => ?_
  cases Literal.parse text with
  | ok l => exact h.proxyOfLiteral l
  | error e => exact .throw e

theorem setBreakpoint (l : BreakpointLocation) (properties : BreakpointProperties) :
    Action.Within R (Session.setBreakpoint env l properties) := by
  unfold Session.setBreakpoint
  cases hitCount? properties with
  | error complaint => exact .pure _
  | ok hitCount =>
    refine (h.asks (.setBreakpoint ⟨l, hitCount⟩)).bind fun answer => ?_
    cases answer with
    | error e => exact .pure _
    | ok => exact .bind (.modify fun s => h.breakpoints s _) fun _ => .pure _

theorem clearBreakpoint (l : BreakpointLocation) :
    Action.Within R (Session.clearBreakpoint env l) := by
  refine (h.asks (.clearBreakpoint l)).bind fun answer => ?_
  cases answer with
  | error e => exact .pure _
  | ok => exact .bind (.modify fun s => h.breakpoints s _) fun _ => .pure _

theorem toggleBreakpoint (l : BreakpointLocation) (set : Bool)
    (properties : BreakpointProperties) :
    Action.Within R (Session.toggleBreakpoint env l set properties) := by
  refine .get_bind fun s => ?_
  split
  · exact .pure _
  cases set with
  | false => exact h.clearBreakpoint l
  | true =>
    refine (h.setBreakpoint l properties).bind fun answer => ?_
    cases answer <;> exact .pure _

theorem removeBreakpoints (className : String) :
    Action.Within R (Session.removeBreakpoints env className) := by
  refine usable.bind fun _ => .get_bind fun s => ?_
  refine (Action.Within.forIn (fun l _ => ?_) _ _).bind fun _ => .pure _
  exact (h.ask (.clearBreakpoint l)).bind fun _ =>
    .bind (.modify fun s => h.breakpoints s _) fun _ => .pure _

/-- **A relation that permits the pieces permits every everyday request.** -/
theorem perform (r : Request) (everyday : r.isEveryday = true) :
    Action.Within R (Session.perform env r) := by
  cases r with
  | launch | close | forget | hideSystemThreads | threads | thread | threadTree =>
    simp [Request.isEveryday] at everyday
  | capabilities => exact .pure _
  | status => exact .get_bind fun _ => .pure _
  | waitForStatus accepted => exact .of_reads (reads_waitForStatus env accepted)
  | instantiate className types args => exact h.instantiate className types args
  | runMain className => exact h.runMain className
  | invoke receiver method types args => exact h.invoke receiver method types args
  | classInfo className => exact usable.bind fun _ => h.looks className
  | staticValue className field => exact h.staticValue className field
  | addObject scope name object => exact usable.bind fun _ => h.bindName scope name object
  | removeObject scope name =>
    exact usable.bind fun _ => (h.unbindName scope name).bind fun _ => .pure _
  | objects | freshName => exact usable.bind fun _ => .get_bind fun _ => .pure _
  | literal text => exact h.proxyOfText text
  | objectFields object => exact h.objectFields object
  | fieldValue object field => exact h.fieldValue object field
  | stringValue object =>
    exact usable.bind fun _ => (resolves object).bind fun o => h.ask (.stringValue o.id)
  | toggleBreakpoint location set properties => exact h.toggleBreakpoint location set properties
  | removeBreakpoints className => exact h.removeBreakpoints className
  | setBreakOnUncaught enabled => exact usable.bind fun _ => h.ask (.setBreakOnUncaught enabled)
  | addListener => exact fun s => h.listeners s _ rfl
  | removeListener => exact fun s => h.listeners s _ rfl

/-- A relation that also permits a session to be called launched permits the launch. -/
theorem launch (turns : ∀ s : Session σ, R s { s with lifecycle := .launched }) :
    Action.Within R (Session.launch env) := within_launch h.asks turns

/-- A relation that also permits the table of threads to be brought up to date permits listings. -/
theorem allThreads (lists : ∀ (s : Session σ) reported, R s (refresh reported s)) :
    Action.Within R (Session.allThreads env) :=
  usable.bind fun _ => (h.ask .threads).bind fun reported =>
    .bind (.modify fun s => lists s reported) fun _ => .get_bind fun _ => .pure _

theorem listing (lists : ∀ (s : Session σ) reported, R s (refresh reported s)) :
    Action.Within R (Session.threads env) :=
  .get_bind fun _ => (h.allThreads lists).bind fun _ => .pure _

theorem thread (lists : ∀ (s : Session σ) reported, R s (refresh reported s)) (id : ThreadId) :
    Action.Within R (Session.thread env id) := by
  refine (h.allThreads lists).bind fun all => ?_
  cases all[id]? with
  | none => exact .throw _
  | some t => exact .pure t

/-! ## 4. What is not a request -/

theorem finish (outcome : Outcome) : Action.Within R (Session.finish env outcome) := by
  cases outcome with
  | success o =>
    cases o with
    | none => exact .bind (.pure none) fun _ => .pure _
    | some object => exact (h.tracks object).bind fun _ => .pure _
  | exception | terminated => exact .pure _

theorem proxyFor (object : ObjectRef) : Action.Within R (Session.proxyFor env object) :=
  usable.bind fun _ => h.tracks object

theorem frame (id : ThreadId) (index : Nat) : Action.Within R (Session.frame env id index) := by
  refine (h.ask (.frames id)).bind fun fs => ?_
  cases fs[index]? with
  | none => exact .throw _
  | some f => exact .pure f

theorem variableObject (id : ThreadId) (frameIndex index : Nat) :
    Action.Within R (Session.variableObject env id frameIndex index) := by
  have looked : Action.Within R (localVariable env id frameIndex index) := by
    refine (h.frame id frameIndex).bind fun f => ?_
    cases f.locals[index]? with
    | none => exact .throw _
    | some v => exact .pure v
  refine looked.bind fun v => ?_
  cases v.value with
  | object o => exact h.made o
  | null | void | primitive => exact .throw _

theorem receiverOf (id : ThreadId) (index : Nat) :
    Action.Within R (Session.receiverOf env id index) := by
  refine (h.frame id index).bind fun f => ?_
  cases f.receiver with
  | none => exact .pure none
  | some o => exact h.tracks o

theorem halt (id : ThreadId) : Action.Within R (Session.halt env id) :=
  usable.bind fun _ => h.ask (.halt id)

theorem terminateThread (id : ThreadId) : Action.Within R (Session.terminateThread env id) :=
  usable.bind fun _ => h.ask (.terminateThread id)

/-- A relation that also permits the innermost frame to be selected permits threads to be
resumed. -/
theorem resume (id : ThreadId) (selects : ∀ s : Session σ, R s (selectFrame id 0 s))
    (kind : Option StepKind) : Action.Within R (Session.resume env id kind) :=
  usable.bind fun _ => (h.ask (.resume id kind)).bind fun _ => .modify selects

end Permits

/-- A body is put on the main thread without a request. -/
theorem Permits.runBody {R : Session Vm → Session Vm → Prop} [Std.Refl R] [Trans R R R]
    (h : Permits Vm.environment R) (body : Body)
    (submits : ∀ id, Action.Within R (attempt (Vm.submit id (.body body)))) :
    Action.Within R (Bench.runBody body) := by
  refine usable.bind fun _ => (h.ask .mainThread).bind fun main => ?_
  refine (submits main).bind fun answer => ?_
  cases answer with
  | ok v => exact .pure v
  | error e => exact .throw _

end Session

end Debugger
