import Debugger.Proofs.Debuggee.Shutdown
import Debugger.Proofs.Session.Runs
/-!
# Identities that are never taken for one another

A controller keeps proxies and thread controllers for as long as it likes, over forgetting, closing
and launching again. That is safe because no number is ever used for a second thing: a proxy that
the session has let go of is unknown from then on, and a thread that has gone from the list is
refused from then on, whatever the numbers of the next launch are.

The debuggee sees to it that its counters go on. What is left to a session is that its table holds
only handles that the debuggee gave out, and so never holds the next one.

## 1. Handles of a session

## 2. Closing and forgetting

## 3. Threads that are gone

## 4. Identities
-/

namespace Debugger

open Std (TreeMap)

namespace Session

variable {may : Vm.Deed → Prop} {s s' : Session Vm} {history ds es : List Vm.Deed}

/-! ## 1. Handles of a session -/

/-- A session over a debuggee with a history, and with handles that were given out in it. -/
structure Intact (history : List Vm.Deed) (s : Session Vm) : Prop where
  world : s.world = Vm.fresh.after history
  consistent : s.proxies.Consistent
  handed : ∀ h ∈ s.proxies.byHandle, h ∈ Vm.fresh.handed history
  usable : s.lifecycle ≠ .failed

theorem handed_takeTransport {handle : Handle} {w : Vm}
    (took : Vm.takeTransport.run (Vm.fresh.after history) = (.ok handle, w)) :
    Vm.fresh.handed (history ++ [.takeTransport]) = Vm.fresh.handed history ++ [handle] := by
  rw [Vm.handed_append]
  simp only [Vm.handed, Vm.Deed.handed, took, List.append_nil]

/-- The next handle is in no table. -/
theorem Intact.next_unknown (h : s.Intact history) {handle : Handle} {w : Vm}
    (few : (Vm.fresh.handed (history ++ [.takeTransport])).length ≤ 2 ^ 64)
    (took : Vm.takeTransport.run s.world = (.ok handle, w)) :
    handle ∉ Vm.fresh.handed history ∧ handle ∉ s.proxies.byHandle := by
  rw [h.world] at took
  have distinct := Vm.handed_nodup few
  rw [handed_takeTransport took, List.nodup_append] at distinct
  have new : handle ∉ Vm.fresh.handed history := fun old =>
    distinct.2.2 handle old handle List.mem_cons_self rfl
  exact ⟨new, fun known => new (h.handed handle known)⟩

/-- What becomes of the handles of a table: one that is new is the one that was just picked up. -/
theorem Move.mem_byHandle (m : Move may s ds s') {k : Handle} (known : k ∈ s'.proxies.byHandle) :
    k ∈ s.proxies.byHandle ∨
      ds = [.takeTransport] ∧ ∃ w, Vm.takeTransport.run s.world = (.ok k, w) := by
  cases m with
  | world | learns | clashes | registers | unregisters | turns => exact .inl known
  | @enters object className handle w untracked took free =>
    have known : k ∈ s.proxies.byHandle.insert handle _ := known
    rw [TreeMap.mem_insert, Std.compare_eq_iff_eq] at known
    rcases known with rfl | old
    · exact .inr ⟨rfl, w, took⟩
    · exact .inl old
  | forgets removed =>
    obtain ⟨-, rfl⟩ := ProxyTable.remove?_some removed
    exact .inl (TreeMap.mem_of_mem_erase known)
  | clears => exact absurd known TreeMap.not_mem_emptyc
  | binds bound =>
    obtain ⟨-, same⟩ := ProxyTable.bind?_kept bound
    exact .inl (same ▸ known)
  | unbinds scope name =>
    obtain ⟨-, same⟩ := s.proxies.unbind_kept scope name
    exact .inl (same ▸ known)
  | aside world proxies => exact .inl (proxies ▸ known)

/-- **A session stays intact,** as long as a word can count the handles. -/
theorem Move.intact (m : Move may s ds s') (h : s.Intact history)
    (few : (Vm.fresh.handed (history ++ ds)).length ≤ 2 ^ 64) : s'.Intact (history ++ ds) := by
  have world : s'.world = Vm.fresh.after (history ++ ds) := by
    rw [m.world_eq, h.world, Vm.after_append]
  have handed : ∀ k ∈ s'.proxies.byHandle, k ∈ Vm.fresh.handed (history ++ ds) := by
    intro k known
    rcases m.mem_byHandle known with old | ⟨rfl, w, took⟩
    · rw [Vm.handed_append]
      exact List.mem_append_left _ (h.handed k old)
    · rw [h.world] at took
      rw [handed_takeTransport took]
      exact List.mem_append_right _ List.mem_cons_self
  refine ⟨world, ?_, handed, ?_⟩
  · cases m with
    | world | clashes | registers | unregisters | turns => exact h.consistent
    | learns classes => exact h.consistent.classes classes
    | enters untracked took =>
      exact h.consistent.enter untracked (TreeMap.getElem?_eq_none (h.next_unknown few took).2)
    | forgets removed => exact h.consistent.remove removed
    | clears => exact ProxyTable.consistent_empty
    | binds bound => exact h.consistent.bind bound
    | unbinds scope name => exact h.consistent.unbind scope name
    | aside world proxies =>
      rw [proxies]
      exact h.consistent
  · cases m with
    | world | learns | enters | forgets | clears | binds | unbinds | registers | unregisters =>
      exact h.usable
    | @clashes existing handle w lifecycle notifier took bound =>
      -- The table would have to hold the next handle.
      have known : handle ∈ s.proxies.byHandle :=
        (getElem?_eq_some_iff.mp bound).1
      exact absurd known (h.next_unknown few took).2
    | turns ordinary => rcases ordinary with rfl | rfl <;> exact nofun
    | aside world proxies breakpoints lifecycle =>
      rw [lifecycle]
      exact h.usable

theorem Move.stays_unknown (m : Move may s ds s') (h : s.Intact history)
    (few : (Vm.fresh.handed (history ++ ds)).length ≤ 2 ^ 64) {k : Handle}
    (old : k ∈ Vm.fresh.handed history) (unknown : k ∉ s.proxies.byHandle) :
    k ∉ s'.proxies.byHandle := by
  intro known
  rcases m.mem_byHandle known with known | ⟨rfl, w, took⟩
  · exact unknown known
  · exact (h.next_unknown few took).1 old

theorem handed_length_le (history ds : List Vm.Deed) :
    (Vm.fresh.handed history).length ≤ (Vm.fresh.handed (history ++ ds)).length := by
  rw [Vm.handed_append, List.length_append]
  exact Nat.le_add_right _ _

/-- **What a session has let go of it never knows again.** -/
theorem Run.intact (r : Run may s ds s') (h : s.Intact history)
    (few : (Vm.fresh.handed (history ++ ds)).length ≤ 2 ^ 64) :
    s'.Intact (history ++ ds) ∧ ∀ k ∈ Vm.fresh.handed history,
      k ∉ s.proxies.byHandle → k ∉ s'.proxies.byHandle := by
  induction r with
  | refl =>
    rw [List.append_nil]
    exact ⟨h, fun _ _ unknown => unknown⟩
  | move _ m ih =>
    rw [← List.append_assoc] at few ⊢
    obtain ⟨intact, kept⟩ := ih (Nat.le_trans (handed_length_le _ _) few)
    refine ⟨m.intact intact few, fun k old unknown => ?_⟩
    refine m.stays_unknown intact few ?_ (kept k old unknown)
    rw [Vm.handed_append]
    exact List.mem_append_left _ old

theorem intact_create (settings : DebuggerSettings) (history : List Vm.Deed) :
    (create Vm.environment (Vm.fresh.after history) settings).Intact history :=
  ⟨rfl, ProxyTable.consistent_empty, fun _ known => absurd known TreeMap.not_mem_emptyc, nofun⟩

/-! ## 2. Closing and forgetting -/

theorem ensureUsable_ok (usable : s.lifecycle ≠ .failed) : ensureUsable.run s = (.ok (), s) := by
  rw [run_ensureUsable, if_neg usable]

theorem run_shutDown (s : Session Vm) :
    (shutDown Vm.environment).run s =
      (.ok (), { s with
        proxies := {}, controllers := ∅, world := Vm.Deed.run s.world .shutdown
        lifecycle := .terminated }) := rfl

/-- A close empties the table, and what it does to the debuggee begins with shutting it down. -/
theorem run_close (restart : Bool) (s : Session Vm) :
    ∃ ds, (close Vm.environment restart).run s =
      (.ok (), { s with
        proxies := {}
        controllers := ∅
        world := (Vm.Deed.run s.world .shutdown).after ds
        lifecycle := if restart then .launched else .terminated }) := by
  cases restart with
  | false => exact ⟨[], rfl⟩
  | true =>
    cases uncaught : s.settings.breakOnUncaught with
    | false =>
      refine ⟨[.launch], (Action.run_bind_ok (run_shutDown s)).trans ?_⟩
      show ((if s.settings.breakOnUncaught then _ else _ : Op Vm Unit).run _) = _
      rw [uncaught]
      rfl
    | true =>
      refine ⟨[.launch, .setBreakOnUncaught true], (Action.run_bind_ok (run_shutDown s)).trans ?_⟩
      show ((if s.settings.breakOnUncaught then _ else _ : Op Vm Unit).run _) = _
      rw [uncaught]
      rfl

theorem close_unknown (restart : Bool) (s : Session Vm) (k : Handle) :
    k ∉ ((perform Vm.environment (.close restart)).run s).2.proxies.byHandle := by
  obtain ⟨ds, eq⟩ := run_close restart s
  show k ∉ ((close Vm.environment restart).run s).2.proxies.byHandle
  rw [eq]
  exact TreeMap.not_mem_emptyc

theorem Intact.forget_unknown (h : s.Intact history) (p : Proxy) :
    p.handle ∉ ((perform Vm.environment (.forget p)).run s).2.proxies.byHandle := by
  show p.handle ∉ ((forget Vm.environment p).run s).2.proxies.byHandle
  unfold forget
  rw [Action.run_bind_ok (ensureUsable_ok h.usable), run_onProxies]
  unfold ProxyTable.forgetProxy
  rw [Action.run_bind, ProxyTable.run_getTable]
  dsimp only
  cases known : s.proxies.objectFor? p.handle with
  | none =>
    have known : s.proxies.byHandle[p.handle]? = none := known
    intro member
    exact (getElem?_eq_none_iff _ _).mp known member
  | some o =>
    -- The object has a proxy, and it is this one.
    obtain ⟨q, tracked, same⟩ := (h.consistent.inverse o.id p.handle).mpr ⟨o, known, rfl⟩
    dsimp only
    unfold ProxyTable.forget
    rw [Action.run_bind, ProxyTable.run_getTable]
    dsimp only
    cases removed : s.proxies.remove? o.id with
    | none =>
      simp only [ProxyTable.remove?, tracked, Option.bind_eq_bind, Option.bind_some] at removed
      cases removed
    | some r =>
      obtain ⟨q', t⟩ := r
      obtain ⟨tracked', rfl⟩ := ProxyTable.remove?_some removed
      rw [tracked] at tracked'
      cases tracked'
      dsimp only
      rw [Action.run_bind, ProxyTable.run_setTable]
      dsimp only
      rw [ProxyTable.run_letGo, same]
      exact fun member => (TreeMap.mem_erase.mp member).1 Std.ReflCmp.compare_self

theorem run_resolve_unknown {p : Proxy} (unknown : p.handle ∉ s.proxies.byHandle) :
    (resolve p : Op Vm ObjectRef).run s = (.error (.unknownHandle p.handle), s) := by
  have none : s.proxies.objectFor? p.handle = none := TreeMap.getElem?_eq_none unknown
  rw [run_resolve, none]

/-! ## 3. Threads that are gone -/

/-- A thread that a controller can neither drive nor look into, and that looks terminated. -/
structure OutOfReach (s : Session Vm) (id : ThreadId) : Prop where
  resume : ∀ kind, (resume Vm.environment id kind).run s = (.error (.unknownThread id), s)
  halt : (halt Vm.environment id).run s = (.error (.unknownThread id), s)
  terminate : (terminateThread Vm.environment id).run s = (.error (.unknownThread id), s)
  wait : (waitUntilSuspended Vm.environment id).run s = (.error (.unknownThread id), s)
  stack : (stack Vm.environment id).run s = (.error (.unknownThread id), s)
  object : ∀ frame index,
    (variableObject Vm.environment id frame index).run s = (.error (.unknownThread id), s)
  receiver : ∀ frame, (receiverOf Vm.environment id frame).run s = (.error (.unknownThread id), s)
  status : threadStatus Vm.environment s id = .terminated

theorem run_ask_refused {α : Type} {a : Vm.Op α} {e : RuntimeError}
    (refused : a.run s.world = (.error e, s.world)) :
    (ask a : Op Vm α).run s = (.error (.ofRuntime e), s) := by
  rw [run_ask, refused]

/-- A thread that is off the list counts as terminated. -/
theorem threadStatus_of_unlisted (sound : s.world.Sound) {id : ThreadId} {t : Thread}
    (there : s.world.threads[id]? = some t) (off : t.listed = false) :
    s.threadStatus Vm.environment id = .terminated := by
  unfold threadStatus Vm.environment Vm.threadInfos
  dsimp only
  rcases Vm.reads_requireLaunched.cases _ s.world with ⟨e, -, eq⟩ | ⟨_, -, eq⟩
  · rw [eq]
  · rw [eq]
    have unseen : (s.world.listedThreads.map Thread.info).find? (·.id == id) = none := by
      rw [List.find?_eq_none]
      intro info member same
      obtain ⟨u, listed, rfl⟩ := List.mem_map.mp member
      have at' := sound.listedThreads.1 u listed
      have same : u.id = id := beq_iff_eq.mp same
      rw [same, there] at at'
      cases at'
      rw [(List.mem_filter.mp listed).2] at off
      cases off
    show ((((s.world.listedThreads.map Thread.info).find? (·.id == id)).map
      (·.status)).getD .terminated) = ThreadStatus.terminated
    rw [unseen]
    rfl

theorem outOfReach_of_unlisted (sound : s.world.Sound) (usable : s.lifecycle ≠ .failed)
    {id : ThreadId} {t : Thread} (there : s.world.threads[id]? = some t) (off : t.listed = false) :
    s.OutOfReach id := by
  have unknown : s.world.thread? id = .error (.unknownThread id) := by
    unfold Vm.thread?
    rw [there]
    simp only [off, Bool.false_eq_true, if_false]
  have required : (Vm.requireThread id).run s.world = (.error (.unknownThread id), s.world) := by
    unfold Vm.requireThread
    rw [Action.run_get_bind, unknown]
    rfl
  have refused {α : Type} (f : Thread → Vm.Op α) :
      (ask (Vm.requireThread id >>= f) : Op Vm α).run s = (.error (.unknownThread id), s) :=
    run_ask_refused (Action.run_bind_error required)
  have stack : (stack Vm.environment id).run s = (.error (.unknownThread id), s) := refused _
  have frame (index : Nat) : (frame Vm.environment id index).run s = (.error (.unknownThread id), s) :=
    Action.run_bind_error stack
  refine ⟨fun kind => ?_, ?_, ?_, Action.run_bind_error (refused _), stack, fun index n => ?_,
    fun index => Action.run_bind_error (frame index), ?_⟩
  · exact (Action.run_bind_ok (ensureUsable_ok usable)).trans (Action.run_bind_error (refused _))
  · exact (Action.run_bind_ok (ensureUsable_ok usable)).trans (refused _)
  · exact (Action.run_bind_ok (ensureUsable_ok usable)).trans (refused _)
  · have missing : (localVariable Vm.environment id index n).run s =
        (.error (.unknownThread id), s) := Action.run_bind_error (frame index)
    exact Action.run_bind_error missing
  · exact threadStatus_of_unlisted sound there off

/-- A close takes the threads of the launch off the list, also if it launches again. -/
theorem close_unlisted (sound : s.world.Sound) (unmanned : s.world.Unmanned) (restart : Bool)
    {id : ThreadId} (old : id ∈ s.world.threads) :
    ∃ t, ((perform Vm.environment (.close restart)).run s).2.world.threads[id]? = some t ∧
      t.listed = false := by
  obtain ⟨ds, eq⟩ := run_close restart s
  have there := TreeMap.getElem?_eq_some_getElem old
  have down := (Vm.Deed.change .shutdown s.world).onward sound
  obtain ⟨t', there', -⟩ := down.old id _ there
  obtain ⟨t'', there'', later⟩ := (down.sound.after ds).old id t' there'
  have off := sound.shutdown_unlisted unmanned there'
  refine ⟨t'', ?_, ?_⟩
  · show ((close Vm.environment restart).run s).2.world.threads[id]? = some t''
    rw [eq]
    exact there''
  · cases listed : t''.listed with
    | false => rfl
    | true => exact (later.listed listed).symm.trans off

/-! ## 4. Identities -/

theorem obtainFor_uncorrupted (h : s.Intact history)
    (few : (Vm.fresh.handed history).length < 2 ^ 64) (object : ObjectRef) (handle : Handle)
    (existing id : ObjectId) :
    ((ProxyTable.obtainFor Vm.environment object).run (s.proxies, s.world)).1 ≠
      .error (.cacheCorrupted handle existing id) := by
  have tried := obtainFor_tried object s.proxies s.world
  generalize (ProxyTable.obtainFor Vm.environment object).run (s.proxies, s.world) = x at tried ⊢
  obtain ⟨r, t, w⟩ := x
  cases tried with
  | answered | made => exact nofun
  | @refused e harmless =>
    rintro ⟨⟩
    cases harmless
  | @clashed existing k w classes took bound =>
    have none : Vm.fresh.handed (history ++ [.installTransport object.id]) =
        Vm.fresh.handed history := by
      rw [Vm.handed_append]
      exact List.append_nil _
    have install : Move (fun _ => True) s [.installTransport object.id]
      { s with world := Vm.Deed.run s.world (.installTransport object.id) } := .world trivial
    have intact := install.intact h (by rw [none]; exact Nat.le_of_lt few)
    have one_more : (Vm.fresh.handed (history ++ [.installTransport object.id] ++
        [.takeTransport])).length ≤ 2 ^ 64 := by
      have took' := took
      rw [show Vm.Deed.run s.world _ = _ from intact.world] at took'
      rw [handed_takeTransport took', none, List.length_append]
      exact few
    have known : k ∈ s.proxies.byHandle :=
      (getElem?_eq_some_iff.mp bound).1
    exact absurd known (intact.next_unknown one_more took).2

theorem status_ne_failed (usable : s.lifecycle ≠ .failed) : s.status Vm.environment ≠ .failed := by
  unfold status
  cases life : s.lifecycle with
  | notReady | terminated => exact nofun
  | failed => exact absurd life usable
  | launched =>
    dsimp only
    split
    · exact nofun
    · split
      · exact nofun
      · unfold statusOfThreads
        split
        · exact nofun
        · split <;> exact nofun

/-- The numbers that are next are none that were in use at an earlier moment. -/
theorem next_unused (before since : List Vm.Deed) :
    (∀ o, ((Vm.fresh.after (before ++ since)).shared.heap.insert o).1.id ∉
        (Vm.fresh.after before).shared.heap.objects) ∧
      ∀ name group, ((Vm.fresh.after (before ++ since)).startThread name group).1 ∉
        (Vm.fresh.after before).threads := by
  have sound := (Vm.sound_fresh.after before).sound
  have on := sound.after since
  rw [← Vm.after_append] at on
  constructor
  · intro o used
    have counted := Nat.le_trans (sound.objects _ used) on.lastId
    exact absurd counted (Nat.not_succ_le_self _)
  · intro name group used
    have there := TreeMap.getElem?_eq_some_getElem used
    have counted := Nat.le_trans (sound.threads _ _ there).2 on.lastThread
    exact absurd counted (Nat.not_succ_le_self _)

/-- **Identities are never recycled.** Take a session over a debuggee that has been through anything
before it, at any moment `s` and at any later moment `s'`, with no more handles given out than a
word can count. -/
theorem identities_are_never_recycled {before : List Vm.Deed} {settings : DebuggerSettings}
    (run : Run may (create Vm.environment (Vm.fresh.after before) settings) ds s)
    (more : Run may s es s')
    (few : (Vm.fresh.handed (before ++ ds ++ es)).length < 2 ^ 64) :
    -- No handle was given out twice, and the next object and thread get numbers that none had.
    (Vm.fresh.handed (before ++ ds ++ es)).Nodup ∧
    (∀ past since, before ++ ds = past ++ since →
      (∀ o, (s.world.shared.heap.insert o).1.id ∉ (Vm.fresh.after past).shared.heap.objects) ∧
      ∀ name group, (s.world.startThread name group).1 ∉ (Vm.fresh.after past).threads) ∧
    -- Forgetting and closing make proxies unknown, and one that is unknown stays so for ever.
    (∀ p, p.handle ∉ ((perform Vm.environment (.forget p)).run s).2.proxies.byHandle) ∧
    (∀ restart k, k ∉ ((perform Vm.environment (.close restart)).run s).2.proxies.byHandle) ∧
    (∀ p : Proxy, p.handle ∈ Vm.fresh.handed (before ++ ds) → p.handle ∉ s.proxies.byHandle →
      (resolve p : Op Vm ObjectRef).run s' = (.error (.unknownHandle p.handle), s')) ∧
    -- Closing takes every thread off the list, and one that is off stays out of reach for ever.
    (∀ restart, ∀ id ∈ s.world.threads, ∃ t,
      ((perform Vm.environment (.close restart)).run s).2.world.threads[id]? = some t ∧
        t.listed = false) ∧
    (∀ (id : ThreadId) (t : Thread), s.world.threads[id]? = some t → t.listed = false →
      s'.OutOfReach id) ∧
    -- No handle is found to stand for two objects, so nothing disables the session.
    (∀ object handle existing id,
      ((ProxyTable.obtainFor Vm.environment object).run (s.proxies, s.world)).1 ≠
        .error (.cacheCorrupted handle existing id)) ∧
    s.status Vm.environment ≠ .failed := by
  have few' : (Vm.fresh.handed (before ++ ds)).length < 2 ^ 64 :=
    Nat.lt_of_le_of_lt (handed_length_le _ _) few
  obtain ⟨intact, -⟩ := run.intact (intact_create settings before) (Nat.le_of_lt few')
  obtain ⟨intact', kept⟩ := more.intact intact (Nat.le_of_lt few)
  have sound : s.world.Sound := by
    rw [intact.world]
    exact (Vm.sound_fresh.after _).sound
  have unmanned : s.world.Unmanned := by
    rw [intact.world, Vm.fresh_eq, ← Vm.after_append]
    exact Vm.unmanned_after Vm.sound_empty (fun _ => Vm.dark_empty.unlisted) _
  refine ⟨Vm.handed_nodup (Nat.le_of_lt few), ?_, intact.forget_unknown, ?_, ?_, ?_, ?_, ?_, ?_⟩
  · intro past since eq
    rw [intact.world, eq]
    exact next_unused past since
  · exact fun restart k => close_unknown restart s k
  · exact fun p old unknown => run_resolve_unknown (kept p.handle old unknown)
  · exact fun restart id old => close_unlisted sound unmanned restart old
  · intro id t there off
    have on := sound.after es
    rw [← more.world_eq] at on
    obtain ⟨t', there', later⟩ := on.old id t there
    refine outOfReach_of_unlisted on.sound intact'.usable there' ?_
    cases listed : t'.listed with
    | false => rfl
    | true => exact (later.listed listed).symm.trans off
  · exact obtainFor_uncorrupted intact few'
  · exact status_ne_failed intact.usable

/-- The proxy of a string and the main thread, kept over a restart: both are stale, and the main
thread of the new launch has another number. -/
theorem stale_after_restart :
    ∃ s : Session Vm, s.world.mainThread = some 5 ∧ s.OutOfReach 1 ∧
      (resolve ⟨⟨1⟩, "String"⟩ : Op Vm ObjectRef).run s = (.error (.unknownHandle ⟨1⟩), s) := by
  have start : Run (fun _ => True) (create Vm.environment (Vm.fresh.after []) {}) [] _ := .refl _
  have made := (start.move (.world (d := .launch) trivial)).move
    (.world (d := .newString "kept") trivial)
  have tracked := (made.move (.world (d := .installTransport 1) trivial)).move
    (@Move.enters _ _ ⟨1, "String"⟩ "String" _ _ rfl rfl nofun)
  have closed := (tracked.silently .clears).move (.world (d := .shutdown) trivial)
  have again := closed.move (.world (d := .launch) trivial)
  have few : (Vm.fresh.handed ([.launch, .newString "kept", .installTransport 1, .takeTransport,
      .shutdown, .launch])).length < 2 ^ 64 := by
    show 1 < 2 ^ 64
    decide
  obtain ⟨-, -, -, -, stale, -, gone, -⟩ := identities_are_never_recycled again (.refl _) few
  refine ⟨_, rfl, gone 1 _ rfl rfl, stale ⟨⟨1⟩, "String"⟩ ?_ TreeMap.not_mem_emptyc⟩
  show (⟨1⟩ : Handle) ∈ [⟨1⟩]
  exact List.mem_singleton.mpr rfl

end Session

end Debugger
