import Mathlib.Data.List.Basic
import Debugger.Proofs.Session.Identity
import Debugger.Proofs.Session.Work
/-!
# Listings of threads

A session keeps a controller for each thread of its debuggee and brings the table up to date at
every listing. In between threads come and go, the debuggee may be launched anew, and the
controllers that somebody holds outlive their threads. Here is what the listings show all the same.

* `Session.groupThreads_perm` - a tree of threads is a partition of the list.
* `Session.Act.Heeds` - what any act does to what a session keeps about threads.
* `Session.Booked` - the controllers are those of threads of the debuggee, as the settings have it.
* `Session.listings_are_complete` - what is listed, what is found, and which frame stays selected.

## 1. Groups

## 2. The table of controllers

## 3. What becomes of the table

## 4. Threads of the debuggee

## 5. Listings
-/

namespace Debugger

open Std (TreeMap)

namespace Session

/-! ## 1. Groups -/

section Groups

variable {α κ : Type} [DecidableEq κ] {ts : List ThreadController} {g : ThreadGroup}

/-- A list is put together again from its parts under distinct keys. -/
theorem flatMap_filter_perm (key : α → κ) {keys : List κ} {xs : List α} (distinct : keys.Nodup)
    (covered : ∀ x ∈ xs, key x ∈ keys) :
    (keys.flatMap fun k => xs.filter (key · == k)).Perm xs := by
  induction keys generalizing xs with
  | nil =>
    have none : xs = [] := List.eq_nil_iff_forall_not_mem.mpr fun x there => by
      simpa using covered x there
    simp [none]
  | cons k rest ih =>
    rw [List.nodup_cons] at distinct
    -- The other parts are parts of what is left without the first one.
    have others : (rest.flatMap fun k' => xs.filter (key · == k')) =
        rest.flatMap fun k' => (xs.filter (!key · == k)).filter (key · == k') := by
      refine List.flatMap_congr fun k' there => ?_
      rw [List.filter_filter]
      refine List.filter_congr fun x _ => ?_
      by_cases same : key x = k'
      · have apart : k' ≠ k := by
          rintro rfl
          exact distinct.1 there
        simp [same, apart]
      · simp [same]
    rw [List.flatMap_cons, others]
    refine .trans (.append_left _ (ih distinct.2 fun x there => ?_)) (List.filter_append_perm _ xs)
    rw [List.mem_filter] at there
    have apart : key x ≠ k := by simpa using there.2
    simpa [apart] using covered x there.1

theorem getElem?_foldl_group (ts : List ThreadController)
    (groups : TreeMap String (List ThreadController)) (name : String) :
    (ts.foldl (fun groups t =>
      groups.insert t.group (groups.getD t.group [] ++ [t])) groups)[name]? =
      if ts.filter (·.group == name) = [] then groups[name]?
      else some (groups.getD name [] ++ ts.filter (·.group == name)) := by
  induction ts generalizing groups with
  | nil => simp
  | cons t rest ih =>
    rw [List.foldl_cons, ih]
    by_cases here : t.group = name
    · subst here
      by_cases more : rest.filter (·.group == t.group) = [] <;> simp [more]
    · simp [here, TreeMap.getElem?_insert, TreeMap.getD_insert]

theorem mem_groupThreads :
    g ∈ groupThreads ts ↔ g.threads ≠ [] ∧ g.threads = ts.filter (·.group == g.name) := by
  obtain ⟨name, threads⟩ := g
  unfold groupThreads
  simp only [List.mem_map, Prod.exists, ThreadGroup.mk.injEq,
    TreeMap.mem_toList_iff_getElem?_eq_some]
  constructor
  · rintro ⟨name, threads, found, rfl, rfl⟩
    rw [getElem?_foldl_group] at found
    split at found
    · simp at found
    · next inhabited =>
      have same : ts.filter (·.group == name) = threads := by simpa using found
      exact ⟨same ▸ inhabited, same.symm⟩
  · rintro ⟨inhabited, rfl⟩
    refine ⟨name, _, ?_, rfl, rfl⟩
    rw [getElem?_foldl_group, if_neg inhabited]
    simp

theorem groupThreads_ascending (ts : List ThreadController) :
    (groupThreads ts).Pairwise (·.name < ·.name) := by
  unfold groupThreads
  rw [List.pairwise_map]
  refine TreeMap.ordered_keys_toList.imp fun {a b} less => ?_
  exact compareOfLessAndEq_eq_lt.mp less

/-- **A tree of threads is a partition of the list.** -/
theorem groupThreads_perm (ts : List ThreadController) :
    ((groupThreads ts).flatMap (·.threads)).Perm ts := by
  have parts : (groupThreads ts).flatMap (·.threads) =
      ((groupThreads ts).map (·.name)).flatMap fun name => ts.filter (·.group == name) := by
    rw [List.flatMap_map]
    exact List.flatMap_congr fun g there => (mem_groupThreads.mp there).2
  rw [parts]
  refine flatMap_filter_perm ThreadController.group ?_ fun t there => ?_
  · refine (List.pairwise_map.mpr (groupThreads_ascending ts)).imp fun less => ?_
    rintro same
    rw [same] at less
    exact String.lt_irrefl _ less
  · refine List.mem_map.mpr ⟨⟨t.group, ts.filter (·.group == t.group)⟩, ?_, rfl⟩
    have here : t ∈ ts.filter (·.group == t.group) := List.mem_filter.mpr ⟨there, by simp⟩
    exact mem_groupThreads.mpr ⟨List.ne_nil_of_mem here, rfl⟩

end Groups

/-! ## 2. The table of controllers -/

section Table

variable {σ : Type} {s : Session σ} {id : ThreadId} {reported : List ThreadInfo}

theorem getElem?_meet (s : Session σ) (t : ThreadInfo) (id : ThreadId) :
    (s.meet t).controllers[id]? =
      s.controllers[id]?.or (if t.id = id then some (controllerOf s.settings t) else none) := by
  unfold meet
  rw [TreeMap.contains_eq_isSome_getElem?]
  by_cases same : t.id = id
  · subst same
    cases known : s.controllers[t.id]? <;> simp [known]
  · cases known : s.controllers[t.id]? with
    | some c => simp [same]
    | none => simp [same, TreeMap.getElem?_insert]

theorem meet_settings (s : Session σ) (t : ThreadInfo) : (s.meet t).settings = s.settings := by
  unfold meet
  split <;> rfl

theorem getElem?_foldl_meet (reported : List ThreadInfo) (s : Session σ) (id : ThreadId) :
    (reported.foldl meet s).controllers[id]? =
      s.controllers[id]?.or ((reported.find? (·.id == id)).map (controllerOf s.settings)) := by
  induction reported generalizing s with
  | nil => simp
  | cons t rest ih =>
    rw [List.foldl_cons, ih, getElem?_meet, meet_settings, Option.or_assoc]
    by_cases same : t.id = id <;> simp [same]

theorem refresh_kept (reported : List ThreadInfo) (s : Session σ) :
    (refresh reported s).world = s.world ∧ (refresh reported s).settings = s.settings ∧
      (refresh reported s).hideSystemThreads = s.hideSystemThreads := by
  obtain ⟨controllers, selectedFrames, eq⟩ := refresh_eq reported s
  rw [eq]
  exact ⟨rfl, rfl, rfl⟩

/-- **A thread that is reported keeps its controller or gets one, and the others have none.** -/
theorem getElem?_refresh (reported : List ThreadInfo) (s : Session σ) (id : ThreadId) :
    (refresh reported s).controllers[id]? =
      (reported.find? (·.id == id)).map fun t =>
        s.controllers[id]?.getD (controllerOf s.settings t) := by
  unfold refresh
  rw [getElem?_foldl_meet, TreeMap.getElem?_filter']
  cases found : reported.find? (·.id == id) with
  | none =>
    have unreported : reported.any (·.id == id) = false := by
      rw [List.find?_eq_none] at found
      simpa using found
    cases s.controllers[id]? <;> simp [unreported]
  | some t =>
    have there : reported.any (·.id == id) = true := by
      rw [List.any_eq_true]
      refine ⟨t, List.mem_of_find?_eq_some found, ?_⟩
      simpa using List.find?_some found
    cases s.controllers[id]? with
    | none => simp
    | some c => simp [there, Option.filter_some_pos]

theorem meet_selectedFrame {t : ThreadInfo} (h : id ∈ s.controllers ∨ t.id ≠ id) :
    (s.meet t).selectedFrame id = s.selectedFrame id := by
  unfold meet
  split
  · rfl
  next unknown =>
  have apart : t.id ≠ id := by
    rcases h with known | apart
    · rintro rfl
      exact unknown (TreeMap.mem_iff_contains.mp known)
    · exact apart
  simp [selectedFrame, TreeMap.getD_erase, apart]

/-- **A listing leaves the frame selected that is selected on a thread,** unless it is one that the
session has just met. -/
theorem refresh_selectedFrame (h : id ∈ s.controllers ∨ ∀ t ∈ reported, t.id ≠ id) :
    (refresh reported s).selectedFrame id = s.selectedFrame id := by
  have fold (rest : List ThreadInfo) (s : Session σ)
      (h : id ∈ s.controllers ∨ ∀ t ∈ rest, t.id ≠ id) :
      (rest.foldl meet s).selectedFrame id = s.selectedFrame id := by
    induction rest generalizing s with
    | nil => rfl
    | cons t rest ih =>
      rw [List.foldl_cons, ih]
      · exact meet_selectedFrame (h.imp_right fun apart => apart t List.mem_cons_self)
      · refine h.imp (fun known => ?_) fun apart u there => apart u (List.mem_cons_of_mem t there)
        rw [TreeMap.mem_iff_isSome_getElem?] at known ⊢
        rw [getElem?_meet, Option.isSome_or, known, Bool.true_or]
  unfold refresh
  rw [fold]
  · rfl
  by_cases there : reported.any (·.id == id) = true
  · obtain ⟨t, member, same⟩ := List.any_eq_true.mp there
    refine .inl ?_
    have known := h.resolve_right fun apart => apart t member (beq_iff_eq.mp same)
    rw [TreeMap.mem_iff_isSome_getElem?] at known ⊢
    rw [TreeMap.getElem?_filter']
    obtain ⟨c, known⟩ := Option.isSome_iff_exists.mp known
    simp [known, there]
  · refine .inr fun t member same => there ?_
    exact List.any_eq_true.mpr ⟨t, member, beq_iff_eq.mpr same⟩

end Table

/-! ## 3. What becomes of the table -/

variable {s s' : Session Vm} {id : ThreadId}

/-- What a session keeps about threads is left alone. -/
structure SameBook (s s' : Session Vm) : Prop where
  controllers : s'.controllers = s.controllers
  selectedFrames : s'.selectedFrames = s.selectedFrames
  settings : s'.settings = s.settings
  hideSystemThreads : s'.hideSystemThreads = s.hideSystemThreads

theorem SameBook.refl (s : Session Vm) : SameBook s s := ⟨rfl, rfl, rfl, rfl⟩

instance : Std.Refl SameBook := ⟨SameBook.refl⟩

instance : Trans SameBook SameBook SameBook where
  trans h h' := ⟨h'.controllers.trans h.controllers, h'.selectedFrames.trans h.selectedFrames,
    h'.settings.trans h.settings, h'.hideSystemThreads.trans h.hideSystemThreads⟩

theorem sameBook_onProxies {α : Type} (a : ProxyTable.Op Vm α) :
    Action.Within SameBook (onProxies a) := by
  intro s
  rw [run_onProxies]
  exact ⟨rfl, rfl, rfl, rfl⟩

/-- Everyday work has nothing to do with it. -/
theorem sameBook_permitted : Permits Vm.environment SameBook where
  asks _ _ := ⟨rfl, rfl, rfl, rfl⟩
  tracks object := by
    refine within_noticeFatal (sameBook_onProxies _) fun e s => ?_
    rw [disable_eq]
    exact ⟨rfl, rfl, rfl, rfl⟩
  looks className := sameBook_onProxies _
  binds _ _ _ _ _ _ := ⟨rfl, rfl, rfl, rfl⟩
  unbinds _ _ _ := ⟨rfl, rfl, rfl, rfl⟩
  breakpoints _ _ := ⟨rfl, rfl, rfl, rfl⟩
  listeners _ _ _ := ⟨rfl, rfl, rfl, rfl⟩

/-- The threads that a debuggee reports. -/
def reported (v : Vm) : List ThreadInfo := v.listedThreads.map Thread.info

theorem run_threads (v : Vm) : Vm.environment.threads.run v =
    if v.launched then (.ok (reported v), v) else (.error .notLaunched, v) := by
  have required : Vm.requireLaunched.run v =
      if v.launched then (.ok (), v) else (.error .notLaunched, v) := by
    show ((if !v.launched then throw .notLaunched else pure () : Vm.Op Unit).run v) = _
    cases v.launched <;> rfl
  show Vm.threadInfos.run v = _
  unfold Vm.threadInfos
  rw [Action.run_bind, required]
  cases v.launched <;> rfl

/-- A listing brings the table up to date with what the debuggee reports, if it reports anything. -/
theorem run_allThreads (s : Session Vm) : (allThreads Vm.environment).run s =
    if s.lifecycle = .failed then (.error .sessionFailed, s)
    else if s.world.launched then
      (.ok (refresh (reported s.world) s).controllers, refresh (reported s.world) s)
    else (.error (.ofRuntime .notLaunched), s) := by
  unfold allThreads
  rw [run_usable_bind]
  split
  · rfl
  · rw [Action.run_bind, run_ask, run_threads]
    cases s.world.launched <;> rfl

/-- An act after which another frame may be selected on a thread. -/
def Act.Resets (s : Session Vm) (id : ThreadId) : Act → Prop
  | selectFrame other _ => other = id
  | resume other kind => other = id ∧ ((Session.resume Vm.environment id kind).run s).1 = .ok ()
  | request (.close _) => True
  | _ => False

/-- What an act does to what a session keeps about threads. -/
inductive Act.Heeds (a : Act) (s : Session Vm) : Session Vm → Prop
  | aside {s' : Session Vm} (same : SameBook s s') : a.Heeds s s'
  | lists (world : s.world.launched = true) : a.Heeds s (refresh (reported s.world) s)
  | hides (hide : Bool) (asked : a = .request (.hideSystemThreads hide)) :
      a.Heeds s { s with hideSystemThreads := hide }
  /-- A frame is selected, by itself or after a thread was resumed. -/
  | selects {s' : Session Vm} (id : ThreadId) (index : Nat) (same : SameBook s s')
      (resets : a.Resets s id) : a.Heeds s (Session.selectFrame id index s')
  | closes {s' : Session Vm} (resets : ∀ id, a.Resets s id)
      (same : SameBook { s with controllers := ∅ } s') : a.Heeds s s'

theorem heeds_allThreads (a : Act) (s : Session Vm) :
    a.Heeds s ((allThreads Vm.environment).run s).2 := by
  rw [run_allThreads]
  by_cases failed : s.lifecycle = .failed
  · rw [if_pos failed]
    exact .aside (.refl s)
  · rw [if_neg failed]
    cases up : s.world.launched with
    | false => exact .aside (.refl s)
    | true => exact .lists up

theorem run_threads_snd (s : Session Vm) :
    ((threads Vm.environment).run s).2 = ((allThreads Vm.environment).run s).2 := by
  unfold threads
  rw [Action.run_get_bind, Action.run_bind_reads]
  exact fun all => .pure _

theorem run_threadTree_snd (s : Session Vm) :
    ((threadTree Vm.environment).run s).2 = ((allThreads Vm.environment).run s).2 := by
  unfold threadTree
  rw [Action.run_bind_reads, run_threads_snd]
  exact fun ts => .pure _

theorem run_thread_snd (s : Session Vm) (id : ThreadId) :
    ((thread Vm.environment id).run s).2 = ((allThreads Vm.environment).run s).2 := by
  unfold thread
  rw [Action.run_bind_reads]
  intro all
  cases all[id]? with
  | none => exact .throw _
  | some t => exact .pure t

theorem run_resume (id : ThreadId) (kind : Option StepKind) (s : Session Vm) :
    (resume Vm.environment id kind).run s =
      if s.lifecycle = .failed then (.error .sessionFailed, s)
      else match (Vm.resume id kind).run s.world with
        | (.ok _, w) => (.ok (), selectFrame id 0 { s with world := w })
        | (.error e, w) => (.error (.ofRuntime e), { s with world := w }) := by
  unfold resume
  rw [run_usable_bind]
  split
  · rfl
  · rw [Action.run_bind, run_ask]
    have same : Vm.environment.resume id kind = Vm.resume id kind := rfl
    rw [same]
    rcases (Vm.resume id kind).run s.world with ⟨e | v, w⟩ <;> rfl

theorem run_setHideSystemThreads (hide : Bool) (s : Session Vm) :
    (setHideSystemThreads hide).run s =
      if s.lifecycle = .failed then (.error .sessionFailed, s)
      else (.ok (), { s with hideSystemThreads := hide }) := by
  exact run_usable_bind _ s

theorem heeds_perform (r : Request) (s : Session Vm) :
    (Act.request r).Heeds s ((perform Vm.environment r).run s).2 := by
  have permits := sameBook_permitted
  by_cases everyday : r.isEveryday = true
  · exact .aside (permits.perform r everyday s)
  cases r with
  | launch => exact .aside (permits.launch (fun _ => ⟨rfl, rfl, rfl, rfl⟩) s)
  | close restart =>
    obtain ⟨ds, eq⟩ := run_close restart s
    refine .closes (fun _ => trivial) ?_
    show SameBook _ ((close Vm.environment restart).run s).2
    rw [eq]
    exact ⟨rfl, rfl, rfl, rfl⟩
  | forget p => exact .aside ((Permits.usable.bind fun _ => sameBook_onProxies _) s)
  | hideSystemThreads hide =>
    show Act.Heeds _ s ((setHideSystemThreads hide).run s).2
    rw [run_setHideSystemThreads]
    by_cases failed : s.lifecycle = .failed
    · rw [if_pos failed]
      exact .aside (.refl s)
    · rw [if_neg failed]
      exact .hides hide rfl
  | threads => exact run_threads_snd s ▸ heeds_allThreads _ s
  | thread id => exact run_thread_snd s id ▸ heeds_allThreads _ s
  | threadTree => exact run_threadTree_snd s ▸ heeds_allThreads _ s
  | _ => exact absurd rfl everyday

/-- **What becomes of the table of threads at any act.** -/
theorem Act.heeds (a : Act) (s : Session Vm) : a.Heeds s (a.run s) := by
  have permits := sameBook_permitted
  cases a with
  | request r => exact heeds_perform r s
  | runBody body => exact .aside (permits.runBody body (fun _ _ => ⟨rfl, rfl, rfl, rfl⟩) s)
  | finish outcome => exact .aside (permits.finish outcome s)
  | proxyFor object => exact .aside (permits.proxyFor object s)
  | resume id kind =>
    have resets : ((Session.resume Vm.environment id kind).run s).1 = .ok () →
        (Act.resume id kind).Resets s id := .intro rfl
    show Heeds _ s ((Session.resume Vm.environment id kind).run s).2
    rw [run_resume] at resets ⊢
    by_cases failed : s.lifecycle = .failed
    · rw [if_pos failed]
      exact .aside (.refl s)
    · rw [if_neg failed] at resets ⊢
      rcases ran : (Vm.resume id kind).run s.world with ⟨e | v, w⟩ <;> rw [ran] at resets
      · exact .aside ⟨rfl, rfl, rfl, rfl⟩
      · have same : SameBook s { s with world := w } := ⟨rfl, rfl, rfl, rfl⟩
        exact .selects id 0 same (resets rfl)
  | halt id => exact .aside (permits.halt id s)
  | terminateThread id => exact .aside (permits.terminateThread id s)
  | selectFrame id index => exact .selects id index (.refl s) rfl
  | variableObject id frame index => exact .aside (permits.variableObject id frame index s)
  | receiverOf id frame => exact .aside (permits.receiverOf id frame s)
  | table | direct | settle => exact .aside ⟨rfl, rfl, rfl, rfl⟩

/-! ## 4. Threads of the debuggee -/

variable {settings : DebuggerSettings}

theorem mem_reported {v : Vm} (sound : v.Sound) {i : ThreadInfo} :
    i ∈ reported v ↔ ∃ t, v.threads[i.id]? = some t ∧ t.listed = true ∧ t.info = i := by
  obtain ⟨there, -, all⟩ := sound.listedThreads
  constructor
  · intro member
    obtain ⟨t, listed, rfl⟩ := List.mem_map.mp member
    exact ⟨t, there t listed, (List.mem_filter.mp listed).2, rfl⟩
  · intro ⟨t, at', listed, same⟩
    exact List.mem_map.mpr ⟨t, all i.id t at' listed, same⟩

/-- A thread is found by its number, and no two are reported under one. -/
theorem find?_reported_iff {v : Vm} (sound : v.Sound) {i : ThreadInfo} :
    (reported v).find? (·.id == id) = some i ↔
      ∃ t, v.threads[id]? = some t ∧ t.listed = true ∧ t.info = i := by
  have own {i : ThreadInfo} (found : (reported v).find? (·.id == id) = some i) :
      ∃ t, v.threads[id]? = some t ∧ t.listed = true ∧ t.info = i := by
    have same : i.id = id := by simpa using List.find?_some found
    exact same ▸ (mem_reported sound).mp (List.mem_of_find?_eq_some found)
  refine ⟨own, fun ⟨t, there, listed, same⟩ => ?_⟩
  have number : i.id = id := same ▸ (sound.threads id t there).1
  have member : i ∈ reported v := (mem_reported sound).mpr ⟨t, number ▸ there, listed, same⟩
  have isSome : ((reported v).find? (·.id == id)).isSome := by
    rw [List.find?_isSome]
    exact ⟨i, member, beq_iff_eq.mpr number⟩
  obtain ⟨i', found⟩ := Option.isSome_iff_exists.mp isSome
  obtain ⟨t', there', -, same'⟩ := own found
  cases there.symm.trans there'
  exact found.trans (congrArg some (same'.symm.trans same))

theorem find?_reported {v : Vm} (sound : v.Sound) {t : ThreadInfo} (member : t ∈ reported v) :
    (reported v).find? (·.id == t.id) = some t :=
  (find?_reported_iff sound).mpr ((mem_reported sound).mp member)

theorem controllerOf_later {t t' : Thread} (later : t.Later t') :
    controllerOf settings t'.info = controllerOf settings t.info := by
  simp [controllerOf, Thread.info, later.id, later.named.1, later.named.2]

/-- Whatever is done with a session, the debuggee goes on. -/
theorem Act.onward (a : Act) (sound : s.world.Sound) : Vm.Onward s.world (a.run s).world := by
  have needs : a.Needs fun _ => True := by
    cases a <;> simp [Act.Needs]
  obtain ⟨ds, run⟩ := a.run_run (fun _ _ => trivial) needs s
  rw [run.world_eq]
  exact sound.after ds

/-- A session whose controllers are those of threads that its debuggee has, listed or not. -/
structure Booked (settings : DebuggerSettings) (s : Session Vm) : Prop where
  sound : s.world.Sound
  configured : s.settings = settings
  controllers : ∀ (id : ThreadId) (c : ThreadController), s.controllers[id]? = some c →
    ∃ t, s.world.threads[id]? = some t ∧ c = controllerOf settings t.info

theorem Booked.on (h : s.Booked settings) (onward : Vm.Onward s.world s'.world)
    (same : s'.settings = s.settings)
    (controllers : ∀ (id : ThreadId) (c : ThreadController), s'.controllers[id]? = some c →
      ∃ t, s.world.threads[id]? = some t ∧ c = controllerOf settings t.info) :
    s'.Booked settings := by
  refine ⟨onward.sound, same.trans h.configured, fun id c known => ?_⟩
  obtain ⟨t, there, rfl⟩ := controllers id c known
  obtain ⟨t', there', later⟩ := onward.old id t there
  exact ⟨t', there', (controllerOf_later later).symm⟩

/-- **After a listing the table holds the controllers of the reported threads and no others.** -/
theorem Booked.getElem?_refresh (h : s.Booked settings) (id : ThreadId) :
    (refresh (reported s.world) s).controllers[id]? =
      ((reported s.world).find? (·.id == id)).map (controllerOf settings) := by
  rw [Session.getElem?_refresh, h.configured]
  cases found : (reported s.world).find? (·.id == id) with
  | none => rfl
  | some i =>
    cases known : s.controllers[id]? with
    | none => rfl
    | some c =>
      obtain ⟨t, there, rfl⟩ := h.controllers id c known
      obtain ⟨t', there', -, rfl⟩ := (find?_reported_iff h.sound).mp found
      cases there.symm.trans there'
      rfl

/-- **Whatever is done with a session, the controllers are those of its threads.** -/
theorem Booked.act (h : s.Booked settings) (a : Act) : (a.run s).Booked settings := by
  have onward := a.onward h.sound
  have heeds := a.heeds s
  generalize a.run s = s' at onward heeds
  cases heeds with
  | aside same => exact h.on onward same.settings (same.controllers ▸ h.controllers)
  | hides => exact h.on onward rfl h.controllers
  | selects id index same => exact h.on onward same.settings (same.controllers ▸ h.controllers)
  | closes resets same =>
    refine h.on onward same.settings fun id c known => ?_
    rw [same.controllers, TreeMap.getElem?_emptyc] at known
    cases known
  | lists =>
    refine h.on onward (refresh_kept _ s).2.1 fun id c known => ?_
    rw [h.getElem?_refresh, Option.map_eq_some_iff] at known
    obtain ⟨i, found, rfl⟩ := known
    obtain ⟨t, there, -, rfl⟩ := (find?_reported_iff h.sound).mp found
    exact ⟨t, there, rfl⟩

theorem Booked.after (h : s.Booked settings) (acts : List Act) :
    (s.after acts).Booked settings := by
  induction acts generalizing s with
  | nil => exact h
  | cons a rest ih => exact ih (h.act a)

theorem booked_create (before : List Vm.Deed) (settings : DebuggerSettings) :
    (create Vm.environment (Vm.fresh.after before) settings).Booked settings where
  sound := (Vm.sound_fresh.after before).sound
  configured := rfl
  controllers id c known := by
    have none : (∅ : TreeMap ThreadId ThreadController)[id]? = some c := known
    simp at none

/-- A thread that no listing meets for the first time: it has its controller, or is off the list. -/
def Met (s : Session Vm) (id : ThreadId) : Prop :=
  id ∈ s.controllers ∨ ∃ t, s.world.threads[id]? = some t ∧ t.listed = false

theorem Met.on (h : s.Met id) (onward : Vm.Onward s.world s'.world)
    (known : id ∈ s.controllers → s'.Met id) : s'.Met id := by
  rcases h with here | ⟨t, there, off⟩
  · exact known here
  · obtain ⟨t', there', later⟩ := onward.old id t there
    refine .inr ⟨t', there', ?_⟩
    cases listed : t'.listed with
    | false => rfl
    | true => exact (later.listed listed).symm.trans off

/-- **What an act leaves selected on a thread that was met,** if it is none that selects anew. -/
theorem Booked.keeps_frame (h : s.Booked settings) (met : s.Met id) {a : Act}
    (stands : ¬ a.Resets s id) :
    (a.run s).Met id ∧ (a.run s).selectedFrame id = s.selectedFrame id := by
  have onward := a.onward h.sound
  have heeds := a.heeds s
  generalize a.run s = s' at onward heeds
  cases heeds with
  | aside same =>
    refine ⟨met.on onward fun known => .inl (same.controllers ▸ known), ?_⟩
    unfold selectedFrame
    rw [same.selectedFrames]
  | hides => exact ⟨met.on onward .inl, rfl⟩
  | @selects s' other index same resets =>
    have apart : other ≠ id := by
      rintro rfl
      exact stands resets
    refine ⟨met.on onward fun known => .inl ?_, ?_⟩
    · show id ∈ s'.controllers
      exact same.controllers ▸ known
    · simp [selectedFrame, selectFrame, same.selectedFrames, TreeMap.getD_insert, apart]
  | closes resets => exact absurd (resets id) stands
  | lists =>
    -- A thread that has its controller is reported still, or has gone from the list for ever.
    refine ⟨met.on onward fun known => ?_, refresh_selectedFrame ?_⟩
    · obtain ⟨c, known⟩ := TreeMap.mem_iff_isSome_getElem?.mp known |> Option.isSome_iff_exists.mp
      obtain ⟨t, there, rfl⟩ := h.controllers id c known
      cases listed : t.listed with
      | false =>
        refine .inr ⟨t, ?_, listed⟩
        rw [(refresh_kept _ s).1]
        exact there
      | true =>
        refine .inl (TreeMap.mem_iff_isSome_getElem?.mpr ?_)
        rw [h.getElem?_refresh, (find?_reported_iff h.sound).mpr ⟨t, there, listed, rfl⟩]
        rfl
    · rcases met with known | ⟨t, there, off⟩
      · exact .inl known
      · refine .inr fun i member => ?_
        rintro rfl
        obtain ⟨t', there', listed, -⟩ := (mem_reported h.sound).mp member
        rw [there] at there'
        cases there'
        rw [off] at listed
        cases listed

/-- **A frame stays selected until something is done that selects anew.** -/
theorem Booked.frame_kept (h : s.Booked settings) (met : s.Met id) {acts : List Act}
    (stands : ∀ past a since, acts = past ++ a :: since → ¬ a.Resets (s.after past) id) :
    (s.after acts).selectedFrame id = s.selectedFrame id := by
  induction acts generalizing s with
  | nil => rfl
  | cons a rest ih =>
    obtain ⟨met', kept⟩ := h.keeps_frame met (stands [] a rest rfl)
    refine (ih (h.act a) met' fun past b since eq => ?_).trans kept
    exact stands (a :: past) b since (congrArg (a :: ·) eq)

/-! ## 5. Listings -/

theorem values_eq {α β : Type} {cmp : α → α → Ordering} (m : TreeMap α β cmp) :
    m.values = m.toList.map (·.2) := by
  show m.inner.inner.values = (Std.DTreeMap.Internal.Impl.Const.toList m.inner.inner).map (·.2)
  rw [Std.DTreeMap.Internal.Impl.values_eq_map_snd,
    Std.DTreeMap.Internal.Impl.Const.toList_eq_toListModel_map]
  simp

/-- A thread that belongs to the infrastructure or was named in the settings. -/
def IsSystemThread (settings : DebuggerSettings) (t : ThreadInfo) : Prop :=
  t.group = systemGroup ∨ t.name ∈ settings.systemThreads

/-- A request that is answered from the list of threads. -/
inductive AnswersFromList : Request → Prop
  | threads : AnswersFromList .threads
  | threadTree : AnswersFromList .threadTree
  | thread (id : ThreadId) : AnswersFromList (.thread id)

/-- What a listing of threads shows. -/
def listed (s : Session Vm) : List ThreadController :=
  (refresh (reported s.world) s).controllers.values.filter fun c =>
    !(s.hideSystemThreads && c.isSystem)

section Usable

variable (usable : s.lifecycle ≠ .failed) (up : s.world.launched = true)
include usable up

theorem run_allThreads_ok : (allThreads Vm.environment).run s =
    (.ok (refresh (reported s.world) s).controllers, refresh (reported s.world) s) := by
  rw [run_allThreads, if_neg usable, if_pos up]

theorem run_threads_ok :
    (Session.threads Vm.environment).run s = (.ok s.listed, refresh (reported s.world) s) := by
  unfold Session.threads
  rw [Action.run_get_bind, Action.run_bind_ok (run_allThreads_ok usable up)]
  rfl

theorem run_threadTree_ok : (threadTree Vm.environment).run s =
    (.ok (groupThreads s.listed), refresh (reported s.world) s) :=
  Action.run_bind_ok (run_threads_ok usable up)

theorem run_listing {r : Request} (lists : AnswersFromList r) :
    (Act.request r).run s = refresh (reported s.world) s := by
  have all := congrArg Prod.snd (run_allThreads_ok usable up)
  cases lists with
  | threads => exact (run_threads_snd s).trans all
  | threadTree => exact (run_threadTree_snd s).trans all
  | thread id => exact (run_thread_snd s id).trans all

theorem Booked.run_thread (h : s.Booked settings) (id : ThreadId) :
    ((thread Vm.environment id).run s).1 =
      match (reported s.world).find? (·.id == id) with
      | some t => .ok (controllerOf settings t)
      | none => .error (.unknownThread id) := by
  unfold thread
  rw [Action.run_bind_ok (run_allThreads_ok usable up), h.getElem?_refresh]
  cases (reported s.world).find? (·.id == id) <;> rfl

end Usable

theorem Booked.mem_listed (h : s.Booked settings) {c : ThreadController} :
    c ∈ s.listed ↔ ∃ t ∈ reported s.world,
      ¬ (s.hideSystemThreads = true ∧ IsSystemThread settings t) ∧
        c = controllerOf settings t := by
  have shown (t : ThreadInfo) :
      (!(s.hideSystemThreads && (controllerOf settings t).isSystem)) = true ↔
        ¬ (s.hideSystemThreads = true ∧ IsSystemThread settings t) := by
    simp [IsSystemThread, controllerOf, or_iff_not_imp_left]
  unfold listed
  rw [List.mem_filter, values_eq, List.mem_map]
  constructor
  · intro ⟨⟨⟨id, c⟩, member, same⟩, kept⟩
    dsimp only at same
    subst same
    rw [TreeMap.mem_toList_iff_getElem?_eq_some, h.getElem?_refresh,
      Option.map_eq_some_iff] at member
    obtain ⟨t, found, rfl⟩ := member
    exact ⟨t, List.mem_of_find?_eq_some found, (shown t).mp kept, rfl⟩
  · intro ⟨t, member, visible, same⟩
    subst same
    refine ⟨⟨(t.id, controllerOf settings t), ?_, rfl⟩, (shown t).mpr visible⟩
    rw [TreeMap.mem_toList_iff_getElem?_eq_some, h.getElem?_refresh,
      find?_reported h.sound member]
    rfl

theorem Booked.listed_ascending (h : s.Booked settings) : s.listed.Pairwise (·.id < ·.id) := by
  have number {p : ThreadId × ThreadController}
      (member : p ∈ (refresh (reported s.world) s).controllers.toList) : p.2.id = p.1 := by
    rw [TreeMap.mem_toList_iff_getElem?_eq_some, h.getElem?_refresh,
      Option.map_eq_some_iff] at member
    obtain ⟨t, found, same⟩ := member
    have number : t.id = p.1 := by simpa using List.find?_some found
    rw [← same]
    exact number
  refine List.Pairwise.filter _ ?_
  rw [values_eq, List.pairwise_map]
  refine TreeMap.ordered_keys_toList.imp_of_mem fun first second less => ?_
  rw [number first, number second]
  exact Nat.compare_eq_lt.mp less

/-- **Listings of threads are complete and agree with each other.** Take a session over any debuggee
with any settings, at any moment, as long as it is usable and the debuggee reports its threads. -/
theorem listings_are_complete {before : List Vm.Deed} {settings : DebuggerSettings}
    {acts : List Act} {threads : List ThreadInfo}
    (since : s = (create Vm.environment (Vm.fresh.after before) settings).after acts)
    (usable : s.lifecycle ≠ .failed)
    (reports : (Vm.environment.threads.run s.world).1 = .ok threads) :
    ∃ list tree,
      ((perform Vm.environment .threads).run s).1 = .ok list ∧
      ((perform Vm.environment .threadTree).run s).1 = .ok tree ∧
      -- The list has each reported thread once, by number, except for those that are hidden.
      list.Pairwise (·.id < ·.id) ∧
      (∀ c, c ∈ list ↔ ∃ t ∈ threads,
        ¬ (s.hideSystemThreads = true ∧ IsSystemThread settings t) ∧
          c = controllerOf settings t) ∧
      -- The tree is a partition of the list.
      (tree.flatMap (·.threads)).Perm list ∧
      tree.Pairwise (·.name < ·.name) ∧
      (∀ g ∈ tree, g.threads ≠ [] ∧ g.threads.Pairwise (·.id < ·.id) ∧
        ∀ c ∈ g.threads, c.group = g.name) ∧
      -- Every reported thread is found, hidden or not, and no other.
      (∀ t ∈ threads,
        ((perform Vm.environment (.thread t.id)).run s).1 = .ok (controllerOf settings t)) ∧
      (∀ id, (∀ t ∈ threads, t.id ≠ id) →
        ((perform Vm.environment (.thread id)).run s).1 = .error (.unknownThread id)) ∧
      -- System threads are hidden or not as was said last.
      (∀ hide, ((Act.request (.hideSystemThreads hide)).run s).hideSystemThreads = hide) ∧
      (∀ a : Act, (∀ hide, a ≠ .request (.hideSystemThreads hide)) →
        (a.run s).hideSystemThreads = s.hideSystemThreads) ∧
      -- The frame that is selected on a thread once it was listed stays so over any listings.
      ∀ r, AnswersFromList r → ∀ t ∈ threads, ∀ more : List Act,
        (∀ past a since, more = past ++ a :: since →
          ¬ a.Resets (((Act.request r).run s).after past) t.id) →
        (((Act.request r).run s).after more).selectedFrame t.id =
          ((Act.request r).run s).selectedFrame t.id := by
  have h : s.Booked settings := since ▸ (booked_create before settings).after acts
  have up : s.world.launched = true ∧ reported s.world = threads := by
    rw [run_threads] at reports
    cases up : s.world.launched with
    | false =>
      rw [up] at reports
      cases reports
    | true =>
      rw [up] at reports
      exact ⟨rfl, Except.ok.inj reports⟩
  obtain ⟨up, rfl⟩ := up
  refine ⟨s.listed, groupThreads s.listed, congrArg Prod.fst (run_threads_ok usable up),
    congrArg Prod.fst (run_threadTree_ok usable up), h.listed_ascending, fun c => h.mem_listed,
    groupThreads_perm _, groupThreads_ascending _, ?_, ?_, ?_, ?_, ?_, ?_⟩
  · intro g member
    obtain ⟨inhabited, part⟩ := mem_groupThreads.mp member
    refine ⟨inhabited, part ▸ h.listed_ascending.filter _, fun c within => ?_⟩
    rw [part, List.mem_filter] at within
    exact beq_iff_eq.mp within.2
  · intro t member
    refine (h.run_thread usable up t.id).trans ?_
    rw [find?_reported h.sound member]
  · intro id unreported
    have unfound : (reported s.world).find? (·.id == id) = none := by
      rw [List.find?_eq_none]
      simpa using unreported
    refine (h.run_thread usable up id).trans ?_
    rw [unfound]
  · intro hide
    show ((setHideSystemThreads hide).run s).2.hideSystemThreads = hide
    rw [run_setHideSystemThreads, if_neg usable]
  · intro a other
    have heeds := a.heeds s
    generalize a.run s = s' at heeds
    cases heeds with
    | aside same => exact same.hideSystemThreads
    | lists => exact (refresh_kept _ s).2.2
    | hides hide asked => exact absurd asked (other hide)
    | selects id index same => exact same.hideSystemThreads
    | closes resets same => exact same.hideSystemThreads
  · intro r lists t member more stands
    refine (h.act (.request r)).frame_kept (.inl ?_) stands
    rw [run_listing usable up lists, TreeMap.mem_iff_isSome_getElem?, h.getElem?_refresh,
      find?_reported h.sound member]
    rfl

/-- A launch with two threads more, one of which the settings name, and a frame selected on the
first. -/
def peopled : List Act :=
  [.request .launch, .direct (.spawn "helper"), .direct (.spawn "worker"), .request .threads,
    .selectFrame 1 3]

theorem named_thread_is_hidden :
    ∃ s list, s = (create Vm.environment (Vm.fresh.after []) { systemThreads := ["helper"] }).after
        peopled ∧
      ((perform Vm.environment .threads).run s).1 = .ok list ∧
      (⟨1, "main", mainGroup, false⟩ : ThreadController) ∈ list ∧
      (⟨5, "helper", mainGroup, true⟩ : ThreadController) ∉ list ∧
      ((perform Vm.environment (.thread 5)).run s).1 = .ok ⟨5, "helper", mainGroup, true⟩ ∧
      (s.after [.request .threadTree, .halt 1, .request .threads]).selectedFrame 1 = 3 := by
  have stands : ∀ past a since, [.halt 1, .request .threads] = past ++ a :: since →
      ∀ s, ¬ Act.Resets s 1 a := by
    intro past a since eq s
    have member : a ∈ [Act.halt 1, .request .threads] := by simp [eq]
    simp only [List.mem_cons, List.not_mem_nil, or_false] at member
    rcases member with rfl | rfl <;> exact id
  obtain ⟨list, -, shown, -, -, members, -, -, -, found, -, -, -, kept⟩ :=
    @listings_are_complete _ [] { systemThreads := ["helper"] } peopled
      [⟨1, "main", mainGroup, .idle⟩, ⟨2, "Reference Handler", systemGroup, .idle⟩,
        ⟨3, "Finalizer", systemGroup, .idle⟩, ⟨4, "Signal Dispatcher", systemGroup, .idle⟩,
        ⟨5, "helper", mainGroup, .idle⟩, ⟨6, "worker", mainGroup, .idle⟩] rfl nofun rfl
  refine ⟨_, list, rfl, shown, (members _).mpr ?_, fun hidden => ?_, ?_, ?_⟩
  · refine ⟨⟨1, "main", mainGroup, .idle⟩, List.mem_cons_self, ?_, rfl⟩
    simp [IsSystemThread, systemGroup, mainGroup]
  · obtain ⟨t, -, visible, same⟩ := (members _).mp hidden
    rw [ThreadController.mk.injEq] at same
    refine visible ⟨rfl, .inr ?_⟩
    exact List.mem_singleton.mpr same.2.1.symm
  · exact found ⟨5, "helper", mainGroup, .idle⟩ (by simp)
  · have selected := kept .threadTree .threadTree ⟨1, "main", mainGroup, .idle⟩
      List.mem_cons_self _ fun past a since eq => stands past a since eq _
    refine selected.trans ?_
    decide +kernel

end Session

end Debugger
