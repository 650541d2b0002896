import Debugger.Proofs.Debuggee.Boxing
import Debugger.Proofs.Proxies.Holds
import Debugger.Proofs.Session.ClassViews
import Debugger.Proofs.Session.Restart
/-!
# Programs

A program of a class is run by its main method: the one without parameters, or else the one with an
argument list. Which of the two it is the session decides by its view of the class, and the debuggee
then looks the method up once more, in the class that is loaded. The two agree unless the class was
loaded anew since the session first looked at it.

* `Vm.catalogued`, `ObjectStore.catalogued` - nothing that a session asks for loads a class.
* `Vm.Manned` - a debuggee that is launched has its main thread on the list.
* `Session.run_runMain` - what is started, by the view and by the class that is loaded.
* `Session.classes_are_viewed_once` - what a session shows of a class, and what it starts of it.

## 1. Environments that leave their classes alone

## 2. The main thread

## 3. Main methods

## 4. Programs
-/

namespace Debugger

open Std (TreeMap)

/-! ## 1. Environments that leave their classes alone -/

namespace Vm

variable {v w : Vm} {name : String}

theorem shownClass_eq (v : Vm) (name : String) : environment.shownClass v name =
    match v.shared.class? name with
    | some c => .ok c.info
    | none => .error (.classNotFound name) := by
  show ((requireClass name >>= fun c => pure c.info).run v).1 = _
  unfold requireClass
  rw [Action.run_bind, Action.run_get_bind]
  cases v.shared.class? name <;> rfl

theorem shownClass_of_classes (same : w.shared.classes = v.shared.classes) :
    environment.shownClass w = environment.shownClass v := by
  funext name
  rw [shownClass_eq, shownClass_eq]
  unfold Shared.class?
  rw [same]

theorem knows_iff : environment.Knows v name ↔ ∃ c, v.shared.class? name = some c := by
  unfold Environment.Knows
  rw [shownClass_eq]
  cases v.shared.class? name <;> simp

theorem shownClass_of_deed {d : Deed} (other : ∀ c, d ≠ .define c) (v : Vm) :
    environment.shownClass (d.run v) = environment.shownClass v :=
  shownClass_of_classes ((d.change v).classes other)

theorem shownClass_of_reads {α : Type} {a : Op α} (reads : a.Reads) (v : Vm) :
    environment.shownClass (a.run v).2 = environment.shownClass v := by rw [reads v]

/-- What a session asks of a debuggee leaves the classes as they are. -/
theorem catalogued : environment.Catalogued where
  offers offered v := by
    cases offered with
    | launch => exact shownClass_of_deed (d := .launch) nofun v
    | shutdown => exact shownClass_of_deed (d := .shutdown) nofun v
    | classInfo name => exact shownClass_of_reads (reads_classInfo name) v
    | getStatic className field => exact shownClass_of_reads (reads_getStatic className field) v
    | objectClass id => exact shownClass_of_reads (reads_objectClass id) v
    | objectCategory id => exact shownClass_of_reads (reads_objectCategory id) v
    | objectFields id => exact shownClass_of_reads (reads_objectFields id) v
    | stringValue id => exact shownClass_of_reads (reads_stringValue id) v
    | newString text => exact shownClass_of_deed (d := .newString text) nofun v
    | boxValue p => exact shownClass_of_deed (d := .boxValue p) nofun v
    | newInstance className types args =>
      exact shownClass_of_deed (d := .newInstance className types args) nofun v
    | invokeStatic className method types args =>
      exact shownClass_of_deed (d := .invokeStatic className method types args) nofun v
    | invokeMethod receiver method types args =>
      exact shownClass_of_deed (d := .invokeMethod receiver method types args) nofun v
    | installTransport id => exact shownClass_of_deed (d := .installTransport id) nofun v
    | takeTransport => exact shownClass_of_deed (d := .takeTransport) nofun v
    | release handle => exact shownClass_of_deed (d := .release handle) nofun v
    | threads => exact shownClass_of_reads reads_threadInfos v
    | mainThread => exact shownClass_of_reads reads_requireMain v
    | frames id => exact shownClass_of_reads (reads_framesOf id) v
    | resume id kind => exact shownClass_of_deed (d := .resume id kind) nofun v
    | halt id => exact shownClass_of_deed (d := .halt id) nofun v
    | terminateThread id => exact shownClass_of_deed (d := .terminate id) nofun v
    | waitForStop id =>
      exact shownClass_of_reads ((reads_requireThread id).bind fun t => .pure t.status) v
    | setBreakpoint r => exact shownClass_of_deed (d := .setBreakpoint r) nofun v
    | clearBreakpoint l => exact shownClass_of_deed (d := .clearBreakpoint l) nofun v
    | setBreakOnUncaught enabled =>
      exact shownClass_of_deed (d := .setBreakOnUncaught enabled) nofun v
  settles v := by
    have stepped (ids : List ThreadId) (v : Vm) :
        environment.shownClass (v.after (ids.map .step)) = environment.shownClass v := by
      induction ids generalizing v with
      | nil => rfl
      | cons id rest ih => exact (ih _).trans (shownClass_of_deed (d := .step id) nofun v)
    obtain ⟨ids, eq⟩ := v.settle_after
    exact (congrArg environment.shownClass eq).trans (stepped ids v)

/-- Whatever is done to a debuggee, it keeps its classes or replaces them. -/
theorem loads_deed (d : Deed) : environment.Loads d.run := by
  intro v name known
  rw [knows_iff] at known ⊢
  have loaded := TreeMap.mem_iff_isSome_getElem?.mpr (Option.isSome_iff_exists.mpr known)
  have stays := (d.change v).loaded loaded
  exact Option.isSome_iff_exists.mp (TreeMap.mem_iff_isSome_getElem?.mp stays)

end Vm

namespace ObjectStore

variable {s s' : ObjectStore}

theorem shownClass_of_classes (same : s'.classes = s.classes) :
    environment.shownClass s' = environment.shownClass s := by
  funext name
  show ((classInfo name).run s').1 = ((classInfo name).run s).1
  unfold classInfo
  rw [Action.run_get_bind, Action.run_get_bind, same]
  cases s.classes[name]? <;> rfl

/-- What a session asks of a store leaves the classes as they are. -/
theorem catalogued : environment.Catalogued where
  offers offered s := by
    refine shownClass_of_classes ?_
    cases offered with
    | classInfo name => exact congrArg classes (reads_classInfo name s)
    | objectClass id =>
      exact congrArg classes (((reads_requireObject id).bind fun o => .pure o.className) s)
    | objectCategory id =>
      exact congrArg classes (((reads_requireObject id).bind fun o => .pure o.category) s)
    | installTransport id =>
      show ((installTransport id).run s).2.classes = s.classes
      unfold installTransport
      rcases (reads_requireObject id).cases _ s with ⟨e, -, eq⟩ | ⟨o, -, eq⟩ <;> rw [eq]
      rfl
    | takeTransport =>
      show (takeTransport.run s).2.classes = s.classes
      unfold takeTransport
      rw [Action.run_get_bind]
      cases s.slot <;> rfl
    | release handle =>
      show ((if s.holds.contains handle then _ else _ :
        Action ObjectStore RuntimeError Unit).run s).2.classes = s.classes
      split <;> rfl
    | _ => rfl
  settles s := rfl

end ObjectStore

/-! ## 2. The main thread -/

namespace Vm

variable {v w : Vm}

/-- A debuggee that is launched has its main thread on the list. -/
def Manned (v : Vm) : Prop :=
  v.launched = true → ∃ id t, v.mainThread = some id ∧ v.threads[id]? = some t ∧ t.listed = true

/-- A thread takes the place of what it was, and stays on the list if it was there. -/
theorem Manned.put (h : v.Manned) (sound : v.Sound) {id : ThreadId} {t t' : Thread}
    (there : v.threads[id]? = some t) (same : t'.id = t.id) (listed : t'.listed = t.listed)
    (launched : w.launched = v.launched) (main : w.mainThread = v.mainThread)
    (threads : w.threads = v.threads.insert t'.id t') : w.Manned := by
  intro up
  obtain ⟨m, u, named, at', on⟩ := h (launched.symm.trans up)
  obtain ⟨rfl, -⟩ := sound.threads id t there
  have get : w.threads[m]? = if t.id = m then some t' else v.threads[m]? := by
    rw [threads, same, TreeMap.getElem?_insert]
    simp only [Std.compare_eq_iff_eq]
  by_cases here : t.id = m
  · subst here
    cases there.symm.trans at'
    exact ⟨t.id, t', main.trans named, get.trans (if_pos rfl), listed.trans on⟩
  · exact ⟨m, u, main.trans named, get.trans ((if_neg here).trans at'), on⟩

theorem Change.manned {d : Deed} (c : Change v d w) (sound : v.Sound) (h : v.Manned) :
    w.Manned := by
  cases c with
  | idle => exact h
  | steps there step =>
    have same := (Thread.step_effect step).same
    exact h.put sound there same.1 same.2.1 rfl rfl rfl
  | asks there asked lastCall => exact h.put sound there asked.later.id asked.listed rfl rfl rfl
  | launches down =>
    let main : Thread := { id := v.lastThread + 1, name := "main", group := mainGroup }
    refine fun _ => ⟨v.lastThread + 1, main, ?_, ?_, rfl⟩
    · rw [launch_eq down]
      rfl
    · rw [launch_getElem? down]
      simp [crew, main]
  | shutsDown up =>
    intro still
    obtain ⟨-, launched, -⟩ := foldl_retire_kept
      (listedThreads { v with launched := false, mainThread := none })
      { v with launched := false, mainThread := none }
    rw [shutdown_eq up] at still
    cases still.symm.trans launched
  | spawns up name =>
    intro up'
    obtain ⟨m, u, named, at', listed⟩ := h up
    refine ⟨m, u, named, ?_, listed⟩
    rw [startThread_getElem?, if_neg]
    · exact at'
    · rintro rfl
      exact absurd (sound.threads _ u at').2 (Nat.not_succ_le_self _)
  | defines | allocates | installs | takes | releases | setsBreakpoint | clearsBreakpoint
  | breaksOnUncaught => exact h

theorem manned_after (ds : List Deed) (sound : v.Sound) (h : v.Manned) : (v.after ds).Manned := by
  induction ds generalizing v with
  | nil => exact h
  | cons d rest ih =>
    exact ih ((d.change v).onward sound).sound ((d.change v).manned sound h)

theorem manned_fresh (ds : List Deed) : (fresh.after ds).Manned := by
  refine manned_after ds sound_fresh fun up => ?_
  cases up

end Vm

/-! ## 3. Main methods -/

/-- Whether a class shows a static method of a name with exactly the given parameter types. -/
def ClassInfo.Declares (c : ClassInfo) (name : String) (types : List String) : Prop :=
  ∃ m ∈ c.methods, m.isStatic = true ∧ m.name = name ∧ m.paramTypes = types

theorem ClassInfo.isSome_staticMethod?_iff {c : ClassInfo} {name : String} {types : List String} :
    (c.staticMethod? name types).isSome = true ↔ c.Declares name types := by
  simp [ClassInfo.staticMethod?, ClassInfo.Declares, List.find?_isSome, and_assoc]

/-- The view of a class and the class itself have the same static methods. -/
theorem ClassDef.isSome_findMethod?_iff {c : ClassDef} {name : String} {types : List String} :
    (c.findMethod? name .static (.types types)).isSome = true ↔ c.info.Declares name types := by
  simp [ClassDef.findMethod?, ClassInfo.Declares, ClassDef.info, List.find?_isSome, Method.info,
    Overload.admits, Method.acceptsTypes, and_assoc]

/-- The main method that a program of a class is run by, and what it is given. -/
inductive ClassInfo.RunsBy (c : ClassInfo) : List String → List Value → Prop
  | plain (declared : c.Declares Session.mainMethod []) : c.RunsBy [] []
  | listed (other : ¬ c.Declares Session.mainMethod [])
      (declared : c.Declares Session.mainMethod [Session.mainParameter]) :
      c.RunsBy [Session.mainParameter] [.null]

/-- What becomes of a debuggee when its main thread is handed a task: the task waits for its turn,
unless the thread has terminated. -/
inductive Vm.Handed (v : Vm) (task : Task) : Vm → Prop
  | queued {id : ThreadId} {t : Thread} (main : v.mainThread = some id)
      (there : v.threads[id]? = some t) (alive : t.status ≠ .terminated) :
      v.Handed task
        { v.putThread { t with inbox := t.inbox ++ [.run (v.lastCall + 1) task] } v.shared with
          lastCall := v.lastCall + 1 }
  | refused {id : ThreadId} {t : Thread} (main : v.mainThread = some id)
      (there : v.threads[id]? = some t) (dead : t.status = .terminated) :
      v.Handed task
        { v.putThread t (v.shared.complete (v.lastCall + 1) .terminated) with
          lastCall := v.lastCall + 1 }

namespace Vm

variable {v : Vm}

/-- A main thread that is on the list is handed what it is given. -/
theorem Manned.run_submitToMain (h : v.Manned) (up : v.launched = true) (task : Task) :
    ∃ w, (submitToMain task).run v = (.ok (.queued (v.lastCall + 1)), w) ∧ v.Handed task w := by
  obtain ⟨id, t, main, there, on⟩ := h up
  have required : requireMain.run v = (.ok id, v) := by
    unfold requireMain
    rw [Action.run_get_bind, main]
    rfl
  have found : (requireThread id).run v = (.ok t, v) := by
    unfold requireThread thread?
    rw [Action.run_get_bind, there]
    simp only [on, if_true]
    rfl
  let handed := t.submit (v.lastCall + 1) task v.shared
  have run : (submitToMain task).run v = (.ok (.queued (v.lastCall + 1)),
      { v.putThread handed.1 handed.2 with lastCall := v.lastCall + 1 }) :=
    (Action.run_bind_ok required).trans (Action.run_bind_ok found)
  refine ⟨_, run, ?_⟩
  by_cases dead : t.status = .terminated
  · have same : handed = (t, v.shared.complete (v.lastCall + 1) .terminated) := if_pos dead
    rw [same]
    exact .refused main there dead
  · have same : handed = ({ t with inbox := t.inbox ++ [.run (v.lastCall + 1) task] }, v.shared) :=
      if_neg dead
    rw [same]
    exact .queued main there dead

/-- A static method is looked up in the class that is loaded. -/
theorem run_invokeStatic (up : v.launched = true) {name : String} {c : ClassDef}
    (loaded : v.shared.class? name = some c) (method : String) (types : List String)
    (args : List Value) : (invokeStatic name method types args).run v =
      match c.findMethod? method .static (.types types) with
      | some m => (submitToMain (.invoke (.method c m none args))).run v
      | none => (.ok noTarget, v) := by
  have launched : requireLaunched.run v = (.ok (), v) := by
    show ((if !v.launched then throw .notLaunched else pure () : Op Unit).run v) = _
    rw [up]
    rfl
  have found : (requireClass name).run v = (.ok c, v) := by
    unfold requireClass
    rw [Action.run_get_bind, loaded]
    rfl
  refine (Action.run_bind_ok launched).trans ((Action.run_bind_ok found).trans ?_)
  cases c.findMethod? method .static (.types types) <;> rfl

end Vm

/-! ## 4. Programs -/

namespace Session

variable {s : Session Vm} {name : String}

theorem classInfo_kept (s : Session Vm) (name : String) :
    ((classInfo Vm.environment name).run s).2.world = s.world ∧
      ((classInfo Vm.environment name).run s).2.lifecycle = s.lifecycle := by
  unfold classInfo
  rw [run_usable_bind]
  split
  · exact ⟨rfl, rfl⟩
  · rw [run_onProxies]
    obtain ⟨r, classes, looked, -⟩ := run_classInfo name s.proxies s.world
    rw [looked]
    exact ⟨rfl, rfl⟩

/-- The main method is chosen by what the session shows of the class. -/
theorem run_runMain (s : Session Vm) (name : String) :
    (perform Vm.environment (.runMain name)).run s =
      match (classInfo Vm.environment name).run s with
      | (.ok c, s') =>
        if (c.staticMethod? mainMethod []).isSome then
          (ask (Vm.invokeStatic name mainMethod [] [])).run s'
        else if (c.staticMethod? mainMethod [mainParameter]).isSome then
          (ask (Vm.invokeStatic name mainMethod [mainParameter] [.null])).run s'
        else (.ok Vm.noTarget, s')
      | (.error e, s') => (.error e, s') := by
  show (runMain Vm.environment name).run s = _
  unfold runMain classInfo
  rw [run_usable_bind, run_usable_bind]
  by_cases failed : s.lifecycle = .failed
  · rw [if_pos failed, if_pos failed]
  · rw [if_neg failed, if_neg failed, Action.run_bind]
    rcases (onProxies (ProxyTable.classInfo Vm.environment name)).run s with ⟨e | c, s'⟩
    · rfl
    · dsimp only
      split
      · rfl
      · split <;> rfl

/-- **What is started,** by the view of the class and by the class that is loaded. -/
theorem runMain_of_view {history : List Vm.Deed} (reached : s.world = Vm.fresh.after history)
    (up : s.world.launched = true) {c : ClassInfo} {d : ClassDef}
    (shown : ((classInfo Vm.environment name).run s).1 = .ok c)
    (loaded : s.world.shared.class? name = some d) :
    (∀ types args, c.RunsBy types args → d.info.Declares mainMethod types →
      ∃ m s', d.findMethod? mainMethod .static (.types types) = some m ∧
        (perform Vm.environment (.runMain name)).run s =
          (.ok (.queued (s.world.lastCall + 1)), s') ∧
        s.world.Handed (.invoke (.method d m none args)) s'.world) ∧
    (∀ types args, c.RunsBy types args → ¬ d.info.Declares mainMethod types →
      ∃ s', (perform Vm.environment (.runMain name)).run s =
        (.ok (.settled (.exception .internal)), s') ∧ s'.world = s.world) ∧
    ((∀ types args, ¬ c.RunsBy types args) →
      ∃ s', (perform Vm.environment (.runMain name)).run s =
        (.ok (.settled (.exception .internal)), s') ∧ s'.world = s.world) := by
  obtain ⟨world, -⟩ := classInfo_kept s name
  have manned : s.world.Manned := reached ▸ Vm.manned_fresh history
  have run := run_runMain s name
  rcases looked : (classInfo Vm.environment name).run s with ⟨r, s'⟩
  rw [looked] at shown world run
  cases shown
  dsimp only at world run
  rw [← world] at manned up loaded ⊢
  have chosen {types : List String} {args : List Value} (runs : c.RunsBy types args) :
      (perform Vm.environment (.runMain name)).run s =
        (ask (Vm.invokeStatic name mainMethod types args)).run s' := by
    cases runs with
    | plain declared => rw [run, if_pos (ClassInfo.isSome_staticMethod?_iff.mpr declared)]
    | listed other declared =>
      rw [run, if_neg (fun there => other (ClassInfo.isSome_staticMethod?_iff.mp there)),
        if_pos (ClassInfo.isSome_staticMethod?_iff.mpr declared)]
  refine ⟨fun types args runs declared => ?_, fun types args runs undeclared => ?_, fun none => ?_⟩
  · obtain ⟨m, found⟩ := Option.isSome_iff_exists.mp (ClassDef.isSome_findMethod?_iff.mpr declared)
    obtain ⟨w, submitted, handed⟩ := manned.run_submitToMain up (.invoke (.method d m none args))
    refine ⟨m, { s' with world := w }, found, ?_, handed⟩
    rw [chosen runs, run_ask, Vm.run_invokeStatic up loaded, found]
    dsimp only
    rw [submitted]
  · have missing : d.findMethod? mainMethod .static (.types types) = none := by
      rw [← Option.not_isSome_iff_eq_none, ClassDef.isSome_findMethod?_iff]
      exact undeclared
    refine ⟨s', ?_, rfl⟩
    rw [chosen runs, run_ask, Vm.run_invokeStatic up loaded, missing]
    rfl
  · refine ⟨s', ?_, rfl⟩
    rw [run, if_neg, if_neg]
    · rfl
    · intro there
      by_cases plain : c.Declares mainMethod []
      · exact none _ _ (.plain plain)
      · exact none _ _ (.listed plain (ClassInfo.isSome_staticMethod?_iff.mp there))
    · exact fun there => none _ _ (.plain (ClassInfo.isSome_staticMethod?_iff.mp there))

/-- **Classes are viewed once, and programs are run by the view.** -/
theorem classes_are_viewed_once :
    -- A session shows the classes that are known, as they were at its first look at them.
    (∀ {σ : Type} {env : Environment σ} {s : Session σ} {us : List (Use σ)}, env.Catalogued →
      (∀ name : String, s.proxies.classes[name]? = none) → (∀ u ∈ us, u.Fair env) →
      (used env s us).lifecycle ≠ .failed → ∀ name,
      ((∃ c, ((perform env (.classInfo name)).run (used env s us)).1 = .ok c) ↔
        env.Knows (used env s us).world name) ∧
      (∀ c : ClassInfo, ((perform env (.classInfo name)).run (used env s us)).1 = .ok c ↔
        ∃ past since, us = past ++ since ∧ FirstLook env s past since name c) ∧
      (∀ e, ((perform env (.classInfo name)).run (used env s us)).1 = .error e →
        ∃ refusal, env.shownClass (used env s us).world name = .error refusal ∧
          e = .ofRuntime refusal) ∧
      -- One that has not been replaced since the views were last emptied is shown as it is.
      ((∀ past since, us = past ++ since → (∀ u ∈ since, ¬ u.Empties env) →
          env.shownClass (used env s past).world name =
            env.shownClass (used env s us).world name) →
        ∀ c : ClassInfo, ((perform env (.classInfo name)).run (used env s us)).1 = .ok c ↔
          env.shownClass (used env s us).world name = .ok c)) ∧
    -- A debuggee and an object store are such environments, whatever is done to the debuggee.
    Vm.environment.Catalogued ∧ ObjectStore.environment.Catalogued ∧
    (∀ d : Vm.Deed, Use.Fair Vm.environment (.behind fun x => (x.1, d.run x.2))) ∧
    -- The main method is chosen by the view, and looked up in the class that is loaded.
    ∀ {s : Session Vm} {history : List Vm.Deed}, s.world = Vm.fresh.after history →
      s.world.launched = true → ∀ name,
      (∀ e, ((perform Vm.environment (.classInfo name)).run s).1 = .error e →
        ((perform Vm.environment (.runMain name)).run s).1 = .error e) ∧
      ∀ (c : ClassInfo) (d : ClassDef),
        ((perform Vm.environment (.classInfo name)).run s).1 = .ok c →
        s.world.shared.class? name = some d →
        (∀ types args, c.RunsBy types args → d.info.Declares mainMethod types →
          ∃ m s', d.findMethod? mainMethod .static (.types types) = some m ∧
            (perform Vm.environment (.runMain name)).run s =
              (.ok (.queued (s.world.lastCall + 1)), s') ∧
            s.world.Handed (.invoke (.method d m none args)) s'.world) ∧
        (∀ types args, c.RunsBy types args → ¬ d.info.Declares mainMethod types →
          ∃ s', (perform Vm.environment (.runMain name)).run s =
            (.ok (.settled (.exception .internal)), s') ∧ s'.world = s.world) ∧
        ((∀ types args, ¬ c.RunsBy types args) →
          ∃ s', (perform Vm.environment (.runMain name)).run s =
            (.ok (.settled (.exception .internal)), s') ∧ s'.world = s.world) := by
  refine ⟨?_, Vm.catalogued, ObjectStore.catalogued,
    fun d => .inr ⟨d.run, Vm.loads_deed d, rfl⟩, ?_⟩
  · intro σ env s us catalogued unviewed fair usable name
    refine ⟨exists_classInfo_iff catalogued fair unviewed usable,
      fun c => ok_classInfo_iff catalogued fair unviewed usable, fun e refused => ?_,
      fun same c => ?_⟩
    · have refused : ((classInfo env name).run (used env s us)).1 = .error e := refused
      rw [run_classInfo_fst usable] at refused
      cases view : (used env s us).proxies.classes[name]? with
      | some c =>
        rw [view] at refused
        cases refused
      | none =>
        rw [view] at refused
        cases shown : env.shownClass (used env s us).world name with
        | ok c =>
          rw [shown] at refused
          cases refused
        | error refusal =>
          rw [shown] at refused
          cases refused
          exact ⟨refusal, rfl, rfl⟩
    · show ((classInfo env name).run (used env s us)).1 = .ok c ↔ _
      rw [classInfo_of_same catalogued fair unviewed usable same]
      cases env.shownClass (used env s us).world name <;> simp [Except.mapError]
  · intro s history reached up name
    refine ⟨fun e refused => ?_, fun c d shown loaded => runMain_of_view reached up shown loaded⟩
    have refused : ((classInfo Vm.environment name).run s).1 = .error e := refused
    rw [run_runMain]
    rcases looked : (classInfo Vm.environment name).run s with ⟨r, s'⟩
    rw [looked] at refused
    cases refused
    rfl

/-- A class with a main method that has the given line. -/
def programClass (line : Line) : ClassDef :=
  { ClassDef.empty "A" .plain with
    methods := [⟨"main", [], "void", .static, [line], fun _ => ExceptT.run (pure .void)⟩] }

/-- A launch, and a class that is looked at before it is replaced. -/
def replaced (old new : ClassDef) : List (Use Vm) :=
  [.request .launch, .behind fun x => (x.1, (Vm.Deed.define old).run x.2),
    .request (.classInfo "A"), .behind fun x => (x.1, (Vm.Deed.define new).run x.2)]

/-- The session shows the program as it was, and runs the one that is loaded. -/
theorem loaded_program_is_run :
    ∃ m s', (programClass 2).findMethod? mainMethod .static (.types []) = some m ∧
      ((perform Vm.environment (.classInfo "A")).run
        (used Vm.environment (create Vm.environment Vm.fresh {})
          (replaced (programClass 1) (programClass 2)))).1 = .ok (programClass 1).info ∧
      (perform Vm.environment (.runMain "A")).run
        (used Vm.environment (create Vm.environment Vm.fresh {})
          (replaced (programClass 1) (programClass 2))) = (.ok (.queued 1), s') ∧
      (used Vm.environment (create Vm.environment Vm.fresh {})
        (replaced (programClass 1) (programClass 2))).world.Handed
          (.invoke (.method (programClass 2) m none [])) s'.world := by
  obtain ⟨views, catalogued, -, done, programs⟩ := classes_are_viewed_once
  have declared (line : Line) : (programClass line).info.Declares mainMethod [] :=
    ⟨_, List.mem_singleton.mpr rfl, rfl, rfl, rfl⟩
  have fair : ∀ u ∈ replaced (programClass 1) (programClass 2), u.Fair Vm.environment :=
    List.forall_mem_cons.mpr ⟨trivial, List.forall_mem_cons.mpr ⟨done (.define (programClass 1)),
      List.forall_mem_cons.mpr ⟨trivial, List.forall_mem_singleton.mpr
        (done (.define (programClass 2)))⟩⟩⟩
  have kept : ¬ Use.Empties Vm.environment
      (.behind fun x => (x.1, (Vm.Deed.define (programClass 2)).run x.2)) := by
    intro same
    have there := congrArg (fun x => (x.2.shared.class? "A").isSome) (congrFun same ({}, {}))
    cases there
  have look : FirstLook Vm.environment (create Vm.environment Vm.fresh {})
      [.request .launch, .behind fun x => (x.1, (Vm.Deed.define (programClass 1)).run x.2)]
      [.request (.classInfo "A"),
        .behind fun x => (x.1, (Vm.Deed.define (programClass 2)).run x.2)]
      "A" (programClass 1).info := by
    refine ⟨rfl, rfl, fun u first => ?_, ?_⟩
    · cases first
      exact TreeMap.mem_iff_isSome_getElem?.mpr rfl
    · exact List.forall_mem_cons.mpr ⟨id, List.forall_mem_singleton.mpr kept⟩
  have shown := ((@views Vm Vm.environment (create Vm.environment Vm.fresh {})
    (replaced (programClass 1) (programClass 2)) catalogued
    (fun _ => TreeMap.getElem?_emptyc) fair nofun "A").2.1 _).mpr ⟨_, _, rfl, look⟩
  obtain ⟨m, s', found, run, handed⟩ := ((@programs _
    [.launch, .define (programClass 1), .define (programClass 2)]
    rfl rfl "A").2 _ (programClass 2) shown rfl).1 [] [] (.plain (declared 1)) (declared 2)
  exact ⟨m, s', found, shown, run, handed⟩

/-- A class without a main method is replaced by one that has it. The session goes on showing the
one that it looked at, and turns down to run the program. -/
theorem view_outlives_replacement :
    let s := used Vm.environment (create Vm.environment Vm.fresh {})
      (replaced (.empty "A" .plain) (programClass 1))
    Vm.environment.shownClass s.world "A" = .ok (programClass 1).info ∧
      ((perform Vm.environment (.classInfo "A")).run s).1 = .ok (ClassDef.empty "A" .plain).info ∧
      (ClassDef.empty "A" .plain).info ≠ (programClass 1).info ∧
      (programClass 1).info.Declares mainMethod [] ∧
      ((perform Vm.environment (.runMain "A")).run s).1 =
        .ok (.settled (.exception .internal)) :=
  ⟨rfl, rfl, by decide, ⟨_, List.mem_singleton.mpr rfl, rfl, rfl, rfl⟩, rfl⟩

end Session

end Debugger
