import Debugger.Proofs.Notifier.Delivery
import Debugger.Proofs.Session.Work
/-!
# Failed sessions

When a handle turns out to stand for two objects, nothing that the session knows can be relied on.
It is disabled: its listeners are told, and until it is closed it turns down whatever would use what
it knows.

Nothing is assumed of the environment here. It need not even be the kind of environment that can
hand out a handle twice.

* `Session.perform_failed` - what a failed session answers, and that nothing changes meanwhile.
* `Session.Turn` - how an operation can change the life of a session, together with what it tells
  the listeners of that.
* `Session.failed_session_is_inert` - what follows for everything that is done with a session.

## 1. What is turned down

## 2. How a session's life can turn

## 3. Operations

## 4. Everything that is done with a session
-/

namespace Debugger

namespace Request

/-- What a failed session answers all the same. -/
def outlivesFailure : Request → Bool
  | capabilities | status | waitForStatus _ | addListener _ | removeListener _ | close _ => true
  | _ => false

/-- How a failed session turns a request down. -/
def turnedDown : (r : Request) → Except DebugError r.Answer
  | toggleBreakpoint .. => .ok (some DebugError.sessionFailed.message)
  | _ => .error .sessionFailed

/-- Whether a request begins or ends a launch. -/
def turnsLife : Request → Bool
  | .launch | .close _ => true
  | _ => false

end Request

namespace Session

variable {σ α β : Type} {env : Environment σ} {s s' s'' : Session σ}

/-! ## 1. What is turned down -/

theorem turnsDown (failed : s.lifecycle = .failed) (f : Unit → Op σ α) :
    (ensureUsable >>= f).run s = (.error .sessionFailed, s) := by
  apply Action.run_bind_error
  rw [run_ensureUsable, if_pos failed]

theorem allThreads_failed (failed : s.lifecycle = .failed) :
    (allThreads env).run s = (.error .sessionFailed, s) := turnsDown failed _

theorem threads_failed (failed : s.lifecycle = .failed) :
    (threads env).run s = (.error .sessionFailed, s) := by
  show (allThreads env >>= _).run s = _
  exact Action.run_bind_error (allThreads_failed failed)

/-- **What would use what a failed session knows is turned down, and changes nothing.** -/
theorem perform_failed (failed : s.lifecycle = .failed) (r : Request)
    (used : r.outlivesFailure = false) : (perform env r).run s = (r.turnedDown, s) := by
  cases r with
  | capabilities | status | waitForStatus | addListener | removeListener | close =>
    simp [Request.outlivesFailure] at used
  | threads => exact threads_failed failed
  | thread => exact Action.run_bind_error (allThreads_failed failed)
  | threadTree => exact Action.run_bind_error (threads_failed failed)
  | fieldValue => exact Action.run_bind_error (turnsDown failed _)
  | toggleBreakpoint location set properties =>
    show ((if s.lifecycle = .failed then pure (some DebugError.sessionFailed.message)
      else _ : Op σ (Option String)).run s) = _
    rw [if_pos failed]
    rfl
  | _ => exact turnsDown failed _

/-! ## 2. How a session's life can turn -/

/-- The news of the controller that the listeners have yet to hear. -/
def news (s : Session σ) : List DebuggerEvent :=
  s.notifier.control.filterMap ControlMessage.event?

/-- What work in a session makes of its life, unless it launches or ends it. -/
inductive Turn (s s' : Session σ) : Prop
  | kept (lifecycle : s'.lifecycle = s.lifecycle) (untold : s'.news = s.news)
  /-- Corruption is found. -/
  | failed (handle : Handle) (existing object : ObjectId) (usable : s.lifecycle ≠ .failed)
      (now : s'.lifecycle = .failed)
      (told : s'.news =
        s.news ++ [.disabled (DebugError.cacheCorrupted handle existing object).message])

theorem Turn.trans (h : Turn s s') (h' : Turn s' s'') : Turn s s'' := by
  cases h with
  | kept same untold =>
    cases h' with
    | kept same' untold' => exact .kept (same'.trans same) (untold'.trans untold)
    | failed handle existing object usable now told =>
      exact .failed handle existing object (same ▸ usable) now (by rw [told, untold])
  | failed handle existing object usable now told =>
    cases h' with
    | kept same' untold' =>
      exact .failed handle existing object usable (same'.trans now) (untold'.trans told)
    | failed _ _ _ usable' => exact absurd now usable'

instance : Std.Refl (Turn : Session σ → Session σ → Prop) := ⟨fun _ => .kept rfl rfl⟩

instance : Trans (Turn : Session σ → Session σ → Prop) Turn Turn := ⟨Turn.trans⟩

theorem turn_disable {e : DebugError} (fatal : e.isFatal = true) (s : Session σ) :
    Turn s (disable e s) := by
  unfold disable
  split
  · exact .kept rfl rfl
  · next usable =>
    cases e with
    | cacheCorrupted handle existing object =>
      refine .failed handle existing object usable rfl ?_
      simp [news, Notifier.emit]
    | _ => simp [DebugError.isFatal] at fatal

/-- Only the tracking of objects can fail a session. -/
theorem turn_track (object : ObjectRef) : Action.Within Turn (track env object) := by
  intro s
  unfold track
  rw [run_noticeFatal, run_onProxies]
  rcases (ProxyTable.obtainFor env object).run (s.proxies, s.world) with ⟨e | v, proxies, world⟩
  · by_cases fatal : e.isFatal = true
    · simp only [fatal, if_true]
      have asked : Turn s { s with proxies, world } := .kept rfl rfl
      exact asked.trans (turn_disable fatal _)
    · simp only [fatal]
      exact .kept rfl rfl
  · exact .kept rfl rfl

/-! ## 3. Operations -/

theorem turn_permitted : Permits env (Turn : Session σ → Session σ → Prop) where
  asks _ _ := .kept rfl rfl
  tracks := turn_track
  looks className s := by
    rw [run_onProxies]
    exact .kept rfl rfl
  binds _ _ _ _ _ _ := .kept rfl rfl
  unbinds _ _ _ := .kept rfl rfl
  breakpoints _ _ := .kept rfl rfl
  listeners _ _ same := .kept rfl (by simp [news, same])

theorem turn_refresh (s : Session σ) (reported : List ThreadInfo) :
    Turn s (refresh reported s) := by
  obtain ⟨_, _, eq⟩ := refresh_eq reported s
  rw [eq]
  exact .kept rfl rfl

theorem turn_perform (r : Request) (h : r.turnsLife = false) :
    Action.Within Turn (perform env r) := by
  by_cases everyday : r.isEveryday = true
  · exact turn_permitted.perform r everyday
  cases r with
  | launch | close => simp [Request.turnsLife] at h
  | forget p =>
    refine Permits.usable.bind fun _ s => ?_
    rw [run_onProxies]
    exact .kept rfl rfl
  | hideSystemThreads => exact Permits.usable.bind fun _ => .modify fun _ => .kept rfl rfl
  | threads => exact turn_permitted.listing turn_refresh
  | thread id => exact turn_permitted.thread turn_refresh id
  | threadTree => exact (turn_permitted.listing turn_refresh).bind fun _ => .pure _
  | _ => exact absurd rfl everyday

/-- What neither fails a session nor tells the listeners anything. -/
def Quiet (s s' : Session σ) : Prop :=
  (s.lifecycle ≠ .failed → s'.lifecycle ≠ .failed) ∧ s'.news <:+ s.news

instance : Std.Refl (Quiet : Session σ → Session σ → Prop) := ⟨fun _ => ⟨id, List.suffix_rfl⟩⟩

instance : Trans (Quiet : Session σ → Session σ → Prop) Quiet Quiet :=
  ⟨fun h h' => ⟨h'.1 ∘ h.1, h'.2.trans h.2⟩⟩

theorem quiet_attempt (a : Action σ RuntimeError α) : Action.Within Quiet (attempt a) :=
  fun _ => ⟨id, List.suffix_rfl⟩

theorem quiet_turns (s : Session σ) {lifecycle : Lifecycle} (h : lifecycle ≠ .failed) :
    Quiet s { s with lifecycle } := ⟨fun _ => h, List.suffix_rfl⟩

theorem quiet_launch : Action.Within Quiet (Session.launch env) :=
  within_launch (fun _ => quiet_attempt _) fun s => quiet_turns s nofun

theorem quiet_close (restart : Bool) : Action.Within Quiet (close env restart) :=
  within_close (fun _ => quiet_attempt _) (fun _ => ⟨id, List.suffix_rfl⟩)
    (fun _ => ⟨id, List.suffix_rfl⟩) (fun s _ => quiet_turns s) restart

/-- However the environment answers, a debuggee that was shut down has terminated. -/
theorem shutDown_terminated (s : Session σ) :
    ((shutDown env).run s).2.lifecycle = .terminated := by
  unfold shutDown
  rw [Action.run_modify_bind, Action.run_modify_bind, attempt, Action.run_modifyGet_bind,
    Action.run_modify_bind]
  rcases env.shutdown.run s.world with ⟨e | v, w⟩ <;> rfl

/-- A close brings a failed session back. -/
theorem close_usable (restart : Bool) (s : Session σ) :
    ((close env restart).run s).2.lifecycle ≠ .failed := by
  have ended : ((shutDown env).run s).2.lifecycle ≠ .failed := by
    rw [shutDown_terminated]
    exact nofun
  unfold close
  rcases hr : (shutDown env).run s with ⟨e | v, s'⟩
  · rw [Action.run_bind_error hr]
    rwa [hr] at ended
  · rw [Action.run_bind_ok hr]
    rw [hr] at ended
    cases restart with
    | true => exact (quiet_launch s').1 ended
    | false => exact ended

/-! ## 4. Everything that is done with a session -/

/-- What is begun in the environment through the session without a request. -/
def execute (start : Action σ RuntimeError PendingCall) : Op σ PendingCall := do
  ensureUsable
  ask start

/-- A body is run on the main thread in this way. -/
theorem runBody_eq (body : Body) (s : Session Vm) :
    (Bench.runBody body).run s =
      (execute (Vm.requireMain >>= fun main => Vm.submit main (.body body))).run s := by
  unfold Bench.runBody execute
  rw [Action.run_bind, Action.run_bind]
  rcases ensureUsable.run s with ⟨e | v, s'⟩
  · rfl
  · simp only [Action.run_bind, run_ask]
    rcases Vm.requireMain.run s'.world with ⟨e | main, w⟩ <;> rfl

/-- Something that is done with a session, with a thread controller or behind the session's back,
or that happens by itself. -/
inductive Use (σ : Type)
  | request (r : Request)
  | proxyFor (object : ObjectRef)
  | execute (start : Action σ RuntimeError PendingCall)
  /-- The outcome of a call is taken over. -/
  | finish (outcome : Outcome)
  | resume (id : ThreadId) (kind : Option StepKind)
  | halt (id : ThreadId)
  | terminateThread (id : ThreadId)
  | selectFrame (id : ThreadId) (index : Nat)
  | variableObject (id : ThreadId) (frame index : Nat)
  | receiverOf (id : ThreadId) (frame : Nat)
  /-- The table of proxies is used directly, or the environment is, or it changes by itself. -/
  | behind (f : ProxyTable × σ → ProxyTable × σ)
  | settle
  /-- The notifier's thread takes a message or an event if there is one. -/
  | takeMessage
  | takeEvent

namespace Use

/-- What is left of a session. -/
def run (env : Environment σ) (s : Session σ) : Use σ → Session σ
  | request r => ((perform env r).run s).2
  | proxyFor object => ((Session.proxyFor env object).run s).2
  | execute start => ((Session.execute start).run s).2
  | finish outcome => ((Session.finish env outcome).run s).2
  | resume id kind => ((Session.resume env id kind).run s).2
  | halt id => ((Session.halt env id).run s).2
  | terminateThread id => ((Session.terminateThread env id).run s).2
  | selectFrame id index => Session.selectFrame id index s
  | variableObject id frame index => ((Session.variableObject env id frame index).run s).2
  | receiverOf id frame => ((Session.receiverOf env id frame).run s).2
  | behind f => { s with proxies := (f (s.proxies, s.world)).1, world := (f (s.proxies, s.world)).2 }
  | settle => Session.settle env s
  | takeMessage => { s with notifier := s.notifier.takeMessage?.getD s.notifier }
  | takeEvent => { s with notifier := s.notifier.takeEvent?.getD s.notifier }

def isClose : Use σ → Bool
  | request (.close _) => true
  | _ => false

end Use

theorem turn_execute (start : Action σ RuntimeError PendingCall) :
    Action.Within Turn (execute start) := by
  refine Permits.usable.bind fun _ s => ?_
  rw [run_ask]
  rcases start.run s.world with ⟨e | v, w⟩ <;> exact .kept rfl rfl

theorem news_suffix (control : s'.notifier.control <:+ s.notifier.control) : s'.news <:+ s.news :=
  control.filterMap _

/-- What the debuggee does by itself comes by its own stream. -/
theorem settle_news (s : Session σ) : (settle env s).news <:+ s.news := by
  have sent (n : Notifier) (es : List VmEvent) : (n.send es).control = n.control := by
    unfold Notifier.send
    split <;> rfl
  have ran (n : Notifier) (same : n.control = s.notifier.control) :
      n.requestFlush.2.run.control.filterMap ControlMessage.event? <:+ s.news := by
    have consumed := n.requestFlush.2.runFor_control
      (n.requestFlush.2.control.length + n.requestFlush.2.stream.length)
    simpa [Notifier.requestFlush, Notifier.run, same, news, List.filterMap_cons]
      using consumed.filterMap ControlMessage.event?
  show (settle env s).notifier.control.filterMap ControlMessage.event? <:+ s.news
  unfold settle
  cases s.eventsSeen with
  | none => exact ran _ rfl
  | some seen => exact ran _ (sent _ _)

/-- What an act makes of a session's life and of the news. -/
inductive Use.Effect (u : Use σ) (s s' : Session σ) : Prop
  | aside (life : s'.lifecycle = s.lifecycle) (heard : s'.news <:+ s.news)
  | turns (turn : Turn s s')
  | bounds (bound : u = .request .launch ∨ u.isClose = true) (quiet : Quiet s s')

theorem Use.effect (u : Use σ) (s : Session σ) : u.Effect s (u.run env s) := by
  cases u with
  | request r =>
    by_cases h : r.turnsLife = true
    · cases r with
      | launch => exact .bounds (.inl rfl) (quiet_launch s)
      | close restart => exact .bounds (.inr rfl) (quiet_close restart s)
      | _ => simp [Request.turnsLife] at h
    · exact .turns (turn_perform r (by simpa using h) s)
  | proxyFor object => exact .turns (turn_permitted.proxyFor object s)
  | execute start => exact .turns (turn_execute start s)
  | finish outcome => exact .turns (turn_permitted.finish outcome s)
  | resume id kind => exact .turns (turn_permitted.resume id (fun _ => .kept rfl rfl) kind s)
  | halt id => exact .turns (turn_permitted.halt id s)
  | terminateThread id => exact .turns (turn_permitted.terminateThread id s)
  | variableObject id frame index => exact .turns (turn_permitted.variableObject id frame index s)
  | receiverOf id frame => exact .turns (turn_permitted.receiverOf id frame s)
  | selectFrame | behind => exact .aside rfl List.suffix_rfl
  | settle => exact .aside rfl (settle_news s)
  | takeMessage =>
    refine .aside rfl (news_suffix ?_)
    cases hm : s.notifier.takeMessage? with
    | none => simp [run, hm]
    | some n => simpa [run, hm] using Notifier.takeMessage?_control hm
  | takeEvent =>
    refine .aside rfl (news_suffix ?_)
    cases he : s.notifier.takeEvent? with
    | none => simp [run, he]
    | some n => simp [run, he, Notifier.takeEvent?_control he]

/-- Nothing but a close brings a failed session back. -/
theorem Use.stays_failed {u : Use σ} (open' : u.isClose = false) (failed : s.lifecycle = .failed) :
    (u.run env s).lifecycle = .failed := by
  cases u.effect s with
  | aside life => rw [life, failed]
  | turns turn =>
    cases turn with
    | kept life => rw [life, failed]
    | failed _ _ _ _ now => exact now
  | bounds bound =>
    rcases bound with rfl | close
    · show ((perform env .launch).run s).2.lifecycle = .failed
      rw [perform_failed failed .launch rfl]
      exact failed
    · simp [open'] at close

/-- What is left of a session after some acts. -/
def used (env : Environment σ) (s : Session σ) (us : List (Use σ)) : Session σ :=
  us.foldl (Use.run env) s

theorem used_failed (env : Environment σ) {us : List (Use σ)}
    (open' : ∀ u ∈ us, u.isClose = false) (failed : s.lifecycle = .failed) :
    (used env s us).lifecycle = .failed := by
  induction us generalizing s with
  | nil => exact failed
  | cons u rest ih =>
    apply ih
    · intro v hv
      exact open' v (List.mem_cons_of_mem _ hv)
    · exact Use.stays_failed (open' u List.mem_cons_self) failed

/-- The sessions before and after each of some acts. -/
def trail (env : Environment σ) (s : Session σ) : List (Use σ) → List (Session σ × Session σ)
  | [] => []
  | u :: rest => (s, u.run env s) :: trail env (u.run env s) rest

/-- What an act told the listeners in the name of the controller. -/
def emitted (s s' : Session σ) : List DebuggerEvent := s'.news.drop s.news.length

/-- Whether a session was disabled. -/
def fell (s s' : Session σ) : Bool :=
  decide (s.lifecycle ≠ .failed) && decide (s'.lifecycle = .failed)

/-- The news of a disabled session. -/
def isDisabled : DebuggerEvent → Bool
  | .disabled _ => true
  | _ => false

/-- An act that disables a session tells why, and no other tells anything. -/
theorem Use.fell_or_silent (env : Environment σ) (u : Use σ) (s : Session σ) :
    (fell s (u.run env s) = false ∧ (u.run env s).news <:+ s.news) ∨
    (fell s (u.run env s) = true ∧ ∃ handle existing object, (u.run env s).news =
      s.news ++ [.disabled (DebugError.cacheCorrupted handle existing object).message]) := by
  cases u.effect s with
  | aside life heard => exact .inl ⟨by simp [fell, life], heard⟩
  | turns turn =>
    cases turn with
    | kept life untold => exact .inl ⟨by simp [fell, life], untold ▸ List.suffix_rfl⟩
    | failed handle existing object usable now told =>
      exact .inr ⟨by simp [fell, usable, now], handle, existing, object, told⟩
  | bounds bound quiet =>
    refine .inl ⟨?_, quiet.2⟩
    by_cases failed : s.lifecycle = .failed
    · simp [fell, failed]
    · simp [fell, quiet.1 failed]

theorem emitted_of_suffix (heard : s'.news <:+ s.news) : emitted s s' = [] := by
  simpa [emitted] using heard.length_le

theorem emitted_of_append {es : List DebuggerEvent} (told : s'.news = s.news ++ es) :
    emitted s s' = es := by simp [emitted, told]

theorem disabled_count (s : Session σ) (us : List (Use σ)) :
    ((trail env s us).flatMap fun x => emitted x.1 x.2).countP isDisabled =
      (trail env s us).countP fun x => fell x.1 x.2 := by
  induction us generalizing s with
  | nil => rfl
  | cons u rest ih =>
    rcases u.fell_or_silent env s with ⟨stood, heard⟩ | ⟨fallen, _, _, _, told⟩
    · simp [trail, emitted_of_suffix heard, stood, ih]
    · simp [trail, emitted_of_append told, fallen, ih, isDisabled, List.countP_cons]

theorem trail_news {us : List (Use σ)} {x : Session σ × Session σ} (h : x ∈ trail env s us) :
    x.2.news <:+ x.1.news ∨ ∃ handle existing object, x.2.news =
      x.1.news ++ [.disabled (DebugError.cacheCorrupted handle existing object).message] := by
  induction us generalizing s with
  | nil => simp [trail] at h
  | cons u rest ih =>
    rcases List.mem_cons.1 h with rfl | later
    · rcases u.fell_or_silent env s with ⟨-, heard⟩ | ⟨-, told⟩
      · exact .inl heard
      · exact .inr told
    · exact ih later

/-- **A failed session is inert.** Until it is closed it stays failed, whatever is done; what would
use what it knows is turned down and changes nothing. Over any acts, the listeners are told that the
session is disabled as often as it was disabled, and the reason is always corruption. -/
theorem failed_session_is_inert (env : Environment σ) :
    (∀ (s : Session σ) (us : List (Use σ)), s.lifecycle = .failed →
      (∀ u ∈ us, u.isClose = false) →
      (used env s us).status env = .failed ∧
      (∀ r : Request, r.outlivesFailure = false →
        (perform env r).run (used env s us) = (r.turnedDown, used env s us)) ∧
      (∀ object : ObjectRef,
        (proxyFor env object).run (used env s us) = (.error .sessionFailed, used env s us)) ∧
      ∀ start : Action σ RuntimeError PendingCall,
        (execute start).run (used env s us) = (.error .sessionFailed, used env s us)) ∧
    (∀ (s : Session σ) (us : List (Use σ)),
      ((trail env s us).flatMap fun x => emitted x.1 x.2).countP isDisabled =
        ((trail env s us).countP fun x => fell x.1 x.2) ∧
      ∀ x ∈ trail env s us, x.2.news <:+ x.1.news ∨ ∃ handle existing object, x.2.news =
        x.1.news ++ [.disabled (DebugError.cacheCorrupted handle existing object).message]) ∧
    ∀ (s : Session Vm) (body : Body), s.lifecycle = .failed →
      (Bench.runBody body).run s = (.error .sessionFailed, s) := by
  refine ⟨?_, ?_, ?_⟩
  · intro s us failed open'
    have still := used_failed env open' failed
    refine ⟨?_, fun r used => perform_failed still r used, fun _ => turnsDown still _,
      fun _ => turnsDown still _⟩
    simp [status, still]
  · intro s us
    exact ⟨disabled_count s us, fun x hx => trail_news hx⟩
  · intro s body failed
    exact turnsDown failed _

/-- A launched session whose store is about to give out a handle for the second time. -/
def clashing : Session ObjectStore where
  world := ProxyTable.secondHand.2
  proxies := ProxyTable.secondHand.1
  lifecycle := .launched

/-- The store as it was before, and the table with it. -/
def again : Use ObjectStore := .behind fun _ => ProxyTable.secondHand

/-- The session fails, is closed, and fails again. -/
theorem clashing_disabled_twice :
    (used ObjectStore.environment clashing [.proxyFor ⟨6, "Widget"⟩]).lifecycle = .failed ∧
    (perform ObjectStore.environment (.forget ⟨⟨1⟩, "Widget"⟩)).run
        (used ObjectStore.environment clashing [.proxyFor ⟨6, "Widget"⟩, .settle]) =
      (.error .sessionFailed,
        used ObjectStore.environment clashing [.proxyFor ⟨6, "Widget"⟩, .settle]) ∧
    ((trail ObjectStore.environment clashing
      [.proxyFor ⟨6, "Widget"⟩, .proxyFor ⟨6, "Widget"⟩, .settle, .request (.close false), again,
        .proxyFor ⟨6, "Widget"⟩]).flatMap fun x => emitted x.1 x.2).countP isDisabled = 2 := by
  obtain ⟨inert, told, -⟩ := failed_session_is_inert ObjectStore.environment
  have fallen : (used ObjectStore.environment clashing [.proxyFor ⟨6, "Widget"⟩]).lifecycle =
    .failed := by rfl
  refine ⟨fallen, ?_, (told _ _).1.trans (by rfl)⟩
  exact (inert _ [.settle] fallen (by simp [Use.isClose])).2.1 (.forget ⟨⟨1⟩, "Widget"⟩) rfl

end Session

end Debugger
