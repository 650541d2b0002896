import Mathlib.Data.List.Basic
import Mathlib.Data.List.Induction
import Debugger.Proofs.Session.Failure
/-!
# Views of classes

The first time that a session looks at a class it keeps what it was shown, and from then on it shows
that, whether the class has been loaded anew or not. Many things make it look: the class is asked
for, a program of it is run, or an object of it gets a proxy. Its views go when its table is
emptied, and then it looks again.

Nothing is assumed of the environment but that what a session asks of it leaves the classes as they
are, and that a class which is known stays known.

* `ProxyTable.Learns` - what work on a table makes of its views.
* `Session.Use.minds` - what becomes of the views of a session at any use.
* `Session.getElem?_views` - a view is of the class as it was at the first look.
* `Session.ok_classInfo_iff` - what a session shows of a class.
* `Session.LooksAt` - the uses that look at a class. Afterwards it has been looked at.

## 1. Classes of an environment

## 2. Tables

## 3. Work in a session

## 4. Uses of a session

## 5. What a session shows
-/

namespace Debugger

open Std (TreeMap)

/-! ## 1. Classes of an environment -/

namespace Environment

variable {σ α : Type} (env : Environment σ)

/-- What an environment shows of a class. -/
def shownClass (w : σ) (name : String) : Except RuntimeError ClassInfo :=
  ((env.classInfo name).run w).1

def Knows (w : σ) (name : String) : Prop := ∃ c, env.shownClass w name = .ok c

/-- Whatever a session asks of the environment leaves the classes as they are. -/
structure Catalogued : Prop where
  offers : ∀ {α : Type} {a : Action σ RuntimeError α}, env.Offers a →
    ∀ w, env.shownClass (a.run w).2 = env.shownClass w
  settles : ∀ w, env.shownClass (env.settle w) = env.shownClass w

/-- Classes may be loaded, also in place of others, but none goes. -/
def Loads (f : σ → σ) : Prop := ∀ w name, env.Knows w name → env.Knows (f w) name

end Environment

/-! ## 2. Tables -/

namespace ProxyTable

variable {σ α : Type} {env : Environment σ} {x y z : ProxyTable × σ}

/-- Classes may be looked at that were not looked at before, and the classes themselves stay. -/
structure Learns (env : Environment σ) (x y : ProxyTable × σ) : Prop where
  shown : env.shownClass y.2 = env.shownClass x.2
  views : ∀ name : String, y.1.classes[name]? = x.1.classes[name]? ∨
    x.1.classes[name]? = none ∧
      ∃ c, env.shownClass x.2 name = .ok c ∧ y.1.classes[name]? = some c

theorem Learns.of_same (shown : env.shownClass y.2 = env.shownClass x.2)
    (views : y.1.classes = x.1.classes) : Learns env x y :=
  ⟨shown, fun name => .inl (by rw [views])⟩

theorem Learns.trans (h : Learns env x y) (h' : Learns env y z) : Learns env x z := by
  refine ⟨h'.shown.trans h.shown, fun name => ?_⟩
  rcases h'.views name with same | ⟨unviewed, c, shown, view⟩
  · rw [same]
    exact h.views name
  · rcases h.views name with same | ⟨-, c', -, view'⟩
    · exact .inr ⟨same.symm.trans unviewed, c, h.shown ▸ shown, view⟩
    · cases unviewed.symm.trans view'

instance : Std.Refl (Learns env) := ⟨fun _ => .of_same rfl rfl⟩

instance : Trans (Learns env) (Learns env) (Learns env) := ⟨Learns.trans⟩

theorem learns_setTable {t : ProxyTable} (same : t.classes = x.1.classes) :
    Learns env x ((setTable t : Op σ Unit).run x).2 := .of_same rfl same

section

variable (catalogued : env.Catalogued)
include catalogued

theorem learns_attempt {a : Action σ RuntimeError α} (offered : env.Offers a) :
    Action.Within (Learns env) (attempt a) := by
  intro x
  rw [run_attempt]
  exact .of_same (catalogued.offers offered x.2) rfl

theorem learns_ask {a : Action σ RuntimeError α} (offered : env.Offers a) :
    Action.Within (Learns env) (ask a) := by
  refine (learns_attempt catalogued offered).bind fun answer => ?_
  cases answer with
  | ok v => exact .pure v
  | error e => exact .throw _

theorem learns_classInfo (name : String) :
    Action.Within (Learns env) (ProxyTable.classInfo env name) := by
  intro x
  unfold ProxyTable.classInfo
  rw [Action.run_bind, run_getTable]
  dsimp only
  cases unviewed : x.1.classes[name]? with
  | some c => exact Std.Refl.refl x
  | none =>
    have same := catalogued.offers (.classInfo name) x.2
    dsimp only
    rw [Action.run_bind, run_ask]
    rcases asked : (env.classInfo name).run x.2 with ⟨e | c, w⟩ <;> rw [asked] at same
    · exact .of_same same rfl
    · refine ⟨same, fun other => ?_⟩
      show (x.1.classes.insert name c)[other]? = _ ∨ _ ∧ ∃ c', _ ∧
        (x.1.classes.insert name c)[other]? = _
      rw [TreeMap.getElem?_insert]
      by_cases here : name = other
      · subst here
        have shown : env.shownClass x.2 name = .ok c := congrArg Prod.fst asked
        simp [unviewed, shown]
      · simp [here]

theorem learns_obtainFor (object : ObjectRef) :
    Action.Within (Learns env) (obtainFor env object) := by
  intro x
  unfold obtainFor
  rw [Action.run_bind, run_getTable]
  dsimp only
  split
  · exact Std.Refl.refl x
  suffices within : Action.Within (Learns env) _ from within x
  refine (learns_attempt catalogued (.objectCategory object.id)).bind fun answer => ?_
  split
  · exact .pure none
  · exact .throw _
  split
  · exact .pure none
  refine (learns_ask catalogued (.objectClass object.id)).bind fun className => ?_
  refine (learns_classInfo catalogued className).bind fun _ => ?_
  refine (learns_ask catalogued (.installTransport object.id)).bind fun _ => ?_
  refine (learns_ask catalogued .takeTransport).bind fun handle => ?_
  -- The table is entered as it is at this moment.
  intro y
  rw [Action.run_bind, run_getTable]
  dsimp only
  split
  · split
    · exact (learns_attempt catalogued (.release handle)).bind (fun _ => .throw _) y
    · exact learns_setTable rfl
  · exact learns_setTable rfl

theorem learns_letGo (handle : Handle) : Action.Within (Learns env) (letGo env handle) := by
  refine (learns_attempt catalogued (.release handle)).bind fun answer => ?_
  split
  · exact .pure ()
  · exact .pure ()
  · exact .throw _

theorem learns_forget (id : ObjectId) : Action.Within (Learns env) (forget env id) := by
  intro x
  unfold forget
  rw [Action.run_bind, run_getTable]
  dsimp only
  cases removed : x.1.remove? id with
  | none => exact Std.Refl.refl x
  | some r =>
    obtain ⟨p, t⟩ := r
    obtain ⟨-, rfl⟩ := remove?_some removed
    dsimp only
    rw [Action.run_bind, run_setTable]
    dsimp only
    refine .trans ?_ (learns_letGo catalogued p.handle _)
    exact .of_same rfl rfl

theorem learns_forgetProxy (p : Proxy) : Action.Within (Learns env) (forgetProxy env p) := by
  refine .bind (.of_reads fun _ => rfl : Action.Within (Learns env) getTable) fun t => ?_
  cases t.objectFor? p.handle with
  | none => exact .pure ()
  | some o => exact learns_forget catalogued o.id

end

theorem bind?_classes {t t' : ProxyTable} {scope name : String} {p : Proxy}
    (bound : t.bind? scope name p = some t') : t'.classes = t.classes := by
  unfold bind? at bound
  split at bound
  · cases bound
    rfl
  · cases bound

theorem unbind_classes (t : ProxyTable) (scope name : String) :
    (t.unbind scope name).2.classes = t.classes := by
  unfold ProxyTable.unbind
  split <;> rfl

theorem learns_bindName (scope name : String) (p : Proxy) :
    Action.Within (Learns env) (bindName scope name p) := by
  intro x
  unfold bindName
  rw [Action.run_bind, run_getTable]
  dsimp only
  cases bound : x.1.bind? scope name p with
  | none => exact Std.Refl.refl x
  | some t => exact learns_setTable (bind?_classes bound)

theorem learns_unbindName (scope name : String) :
    Action.Within (Learns env) (unbindName scope name) :=
  fun x => .of_same rfl (unbind_classes x.1 scope name)

theorem Command.learns (catalogued : env.Catalogued) (c : Command) (stays : c ≠ .clear)
    (x : ProxyTable × σ) : Learns env x (c.run env x) := by
  cases c with
  | obtain object => exact learns_obtainFor catalogued object x
  | forget id => exact learns_forget catalogued id x
  | forgetProxy p => exact learns_forgetProxy catalogued p x
  | clear => exact absurd rfl stays
  | bindName scope name p => exact learns_bindName scope name p x
  | unbindName scope name => exact learns_unbindName scope name x
  | classInfo name => exact learns_classInfo catalogued name x

end ProxyTable

/-! ## 3. Work in a session -/

namespace Session

variable {σ : Type} {env : Environment σ} {s s' : Session σ} {name : String}

/-- The same of a session. -/
def Learns (env : Environment σ) (s s' : Session σ) : Prop :=
  ProxyTable.Learns env (s.proxies, s.world) (s'.proxies, s'.world)

instance : Std.Refl (Learns env) := ⟨fun s => Std.Refl.refl (s.proxies, s.world)⟩

instance : Trans (Learns env) (Learns env) (Learns env) := ⟨ProxyTable.Learns.trans⟩

/-- Neither the table nor the environment has changed. -/
theorem learns_aside (proxies : s'.proxies = s.proxies) (world : s'.world = s.world) :
    Learns env s s' := .of_same (by rw [world]) (by rw [proxies])

theorem learns_onProxies {α : Type} {a : ProxyTable.Op σ α}
    (h : Action.Within (ProxyTable.Learns env) a) : Action.Within (Learns env) (onProxies a) := by
  intro s
  rw [run_onProxies]
  exact h (s.proxies, s.world)

theorem learns_refresh (s : Session σ) (reported : List ThreadInfo) :
    Learns env s (refresh reported s) := by
  obtain ⟨_, _, eq⟩ := refresh_eq reported s
  rw [eq]
  exact learns_aside rfl rfl

/-- No class is looked at, and views may go. -/
def Fades (env : Environment σ) (s s' : Session σ) : Prop :=
  env.shownClass s'.world = env.shownClass s.world ∧
    ∀ name : String, s'.proxies.classes[name]? = s.proxies.classes[name]? ∨
      s'.proxies.classes[name]? = none

instance : Std.Refl (Fades env) := ⟨fun _ => ⟨rfl, fun _ => .inl rfl⟩⟩

instance : Trans (Fades env) (Fades env) (Fades env) where
  trans h h' := by
    refine ⟨h'.1.trans h.1, fun name => ?_⟩
    rcases h'.2 name with same | gone
    · rw [same]
      exact h.2 name
    · exact .inr gone

section

variable (catalogued : env.Catalogued)
include catalogued

theorem learns_permitted : Permits env (Learns env) where
  asks offered s := .of_same (catalogued.offers offered s.world) rfl
  tracks object := by
    refine within_noticeFatal (learns_onProxies ?_) fun e s => ?_
    · exact ProxyTable.learns_obtainFor catalogued object
    · rw [disable_eq]
      exact learns_aside rfl rfl
  looks className := learns_onProxies (ProxyTable.learns_classInfo catalogued className)
  binds _ _ _ _ _ bound := .of_same rfl (ProxyTable.bind?_classes bound)
  unbinds s scope name := .of_same rfl (ProxyTable.unbind_classes s.proxies scope name)
  breakpoints _ _ := learns_aside rfl rfl
  listeners _ _ _ := learns_aside rfl rfl

theorem learns_launch : Action.Within (Learns env) (Session.launch env) :=
  (learns_permitted catalogued).launch fun _ => learns_aside rfl rfl

theorem learns_perform {r : Request} (stays : ∀ restart, r ≠ .close restart) :
    Action.Within (Learns env) (perform env r) := by
  have permits := learns_permitted catalogued
  by_cases everyday : r.isEveryday = true
  · exact permits.perform r everyday
  cases r with
  | launch => exact learns_launch catalogued
  | close restart => exact absurd rfl (stays restart)
  | forget p =>
    refine Permits.usable.bind fun _ => learns_onProxies ?_
    exact ProxyTable.learns_forgetProxy catalogued p
  | hideSystemThreads =>
    exact Permits.usable.bind fun _ => .modify fun _ => learns_aside rfl rfl
  | threads => exact permits.listing learns_refresh
  | thread id => exact permits.thread learns_refresh id
  | threadTree => exact (permits.listing learns_refresh).bind fun _ => .pure _
  | _ => exact absurd rfl everyday

/-- A close empties the views, and the classes stay. -/
theorem close_views (restart : Bool) (s : Session σ) :
    env.shownClass ((close env restart).run s).2.world = env.shownClass s.world ∧
      ∀ name : String, ((close env restart).run s).2.proxies.classes[name]? = none := by
  have fades : Action.Within (Fades env) (close env restart) := by
    refine within_close (fun offered s => ⟨catalogued.offers offered s.world, fun _ => .inl rfl⟩)
      (fun _ => ⟨rfl, fun _ => .inr ?_⟩) (fun _ => ⟨rfl, fun _ => .inl rfl⟩)
      (fun _ _ _ => ⟨rfl, fun _ => .inl rfl⟩) restart
    exact TreeMap.getElem?_emptyc
  -- The table is emptied first, and nothing is looked at after that.
  obtain ⟨shown, views⟩ := fades { s with proxies := {} }
  refine ⟨shown, fun name => ?_⟩
  exact (views name).elim (·.trans TreeMap.getElem?_emptyc) id

end

/-! ## 4. Uses of a session -/

namespace Use

/-- What is done behind the back of a session is work on its table, or it happens in the environment
and takes no class away. -/
def Fair (env : Environment σ) : Use σ → Prop
  | execute start => env.Loads fun w => (start.run w).2
  | behind f => (∃ c, f = fun x => ProxyTable.Command.run env x c) ∨
      ∃ g, env.Loads g ∧ f = fun x => (x.1, g x.2)
  | _ => True

/-- The uses that empty the views of a session. -/
def Empties (env : Environment σ) : Use σ → Prop
  | request (.close _) => True
  | behind f => f = fun x => ProxyTable.Command.run env x .clear
  | _ => False

end Use

/-- What becomes of the views at one use: those that are new are of classes as they are. -/
structure Minds (env : Environment σ) (s s' : Session σ) : Prop where
  known : ∀ name, env.Knows s.world name → env.Knows s'.world name
  views : ∀ name : String, s'.proxies.classes[name]? = s.proxies.classes[name]? ∨
    s.proxies.classes[name]? = none ∧
      ∃ c, env.shownClass s.world name = .ok c ∧ s'.proxies.classes[name]? = some c

theorem Learns.minds (h : Learns env s s') : Minds env s s' :=
  ⟨fun name ⟨c, shown⟩ => ⟨c, (congrFun h.shown name).trans shown⟩, h.views⟩

theorem minds_loads {w : σ} (loads : ∀ name, env.Knows s.world name → env.Knows w name) :
    Minds env s { s with world := w } := ⟨loads, fun _ => .inl rfl⟩

theorem minds_execute {start : Action σ RuntimeError PendingCall}
    (loads : env.Loads fun w => (start.run w).2) (s : Session σ) :
    Minds env s ((execute start).run s).2 := by
  unfold execute
  rw [run_usable_bind]
  split
  · exact minds_loads fun _ => id
  · rw [run_ask]
    have kept := loads s.world
    dsimp only at kept
    rcases ran : start.run s.world with ⟨e | v, w⟩ <;> rw [ran] at kept <;> exact minds_loads kept

/-- **What becomes of the views at any use.** -/
theorem Use.minds (catalogued : env.Catalogued) {u : Use σ} (fair : u.Fair env) (s : Session σ) :
    Minds env s (u.run env s) ∧ ¬ u.Empties env ∨
      (∀ name, env.Knows s.world name → env.Knows (u.run env s).world name) ∧
        (∀ name : String, (u.run env s).proxies.classes[name]? = none) ∧ u.Empties env := by
  have permits := learns_permitted catalogued
  cases u with
  | request r =>
    by_cases close : ∃ restart, r = .close restart
    · obtain ⟨restart, rfl⟩ := close
      obtain ⟨shown, views⟩ := close_views catalogued restart s
      exact .inr ⟨fun name ⟨c, there⟩ => ⟨c, (congrFun shown name).trans there⟩, views, trivial⟩
    · have stays : ∀ restart, r ≠ .close restart := fun restart same => close ⟨restart, same⟩
      refine .inl ⟨(learns_perform catalogued stays s).minds, fun empties => ?_⟩
      cases r with
      | close restart => exact stays restart rfl
      | _ => exact empties
  | proxyFor object => exact .inl ⟨(permits.proxyFor object s).minds, id⟩
  | execute start => exact .inl ⟨minds_execute fair s, id⟩
  | finish outcome => exact .inl ⟨(permits.finish outcome s).minds, id⟩
  | resume id kind =>
    exact .inl ⟨(permits.resume id (fun _ => learns_aside rfl rfl) kind s).minds, nofun⟩
  | halt id => exact .inl ⟨(permits.halt id s).minds, nofun⟩
  | terminateThread id => exact .inl ⟨(permits.terminateThread id s).minds, nofun⟩
  | variableObject id frame index =>
    exact .inl ⟨(permits.variableObject id frame index s).minds, nofun⟩
  | receiverOf id frame => exact .inl ⟨(permits.receiverOf id frame s).minds, nofun⟩
  | selectFrame | takeMessage | takeEvent =>
    exact .inl ⟨Learns.minds (learns_aside rfl rfl : Learns env s _), nofun⟩
  | settle =>
    have shown := catalogued.settles s.world
    refine .inl ⟨Learns.minds (.of_same shown rfl), nofun⟩
  | behind f =>
    by_cases clear : f = fun x => ProxyTable.Command.run env x .clear
    · subst clear
      exact .inr ⟨fun _ => id, fun _ => TreeMap.getElem?_emptyc, rfl⟩
    refine .inl ⟨?_, clear⟩
    rcases fair with ⟨c, rfl⟩ | ⟨g, loads, rfl⟩
    · refine Learns.minds (c.learns catalogued ?_ (s.proxies, s.world))
      rintro rfl
      exact clear rfl
    · exact minds_loads (loads s.world)

theorem used_append (us us' : List (Use σ)) (s : Session σ) :
    used env s (us ++ us') = used env (used env s us) us' := List.foldl_append

section

variable {us : List (Use σ)} (catalogued : env.Catalogued) (fair : ∀ u ∈ us, u.Fair env)
include catalogued fair

/-- A class that is known stays known. -/
theorem knows_used (known : env.Knows s.world name) : env.Knows (used env s us).world name := by
  induction us generalizing s with
  | nil => exact known
  | cons u rest ih =>
    refine ih (fun v there => fair v (List.mem_cons_of_mem u there)) ?_
    rcases u.minds catalogued (fair u List.mem_cons_self) s with ⟨minds, -⟩ | ⟨kept, -⟩
    · exact minds.known name known
    · exact kept name known

/-- **A view is of the class as it was at the first look** since the views were last emptied. -/
theorem getElem?_views (unviewed : ∀ name : String, s.proxies.classes[name]? = none)
    {c : ClassInfo} : (used env s us).proxies.classes[name]? = some c ↔
      ∃ past u since, us = past ++ u :: since ∧
        (used env s past).proxies.classes[name]? = none ∧
        env.shownClass (used env s past).world name = .ok c ∧
        name ∈ (u.run env (used env s past)).proxies.classes ∧
        ∀ v ∈ u :: since, ¬ v.Empties env := by
  induction us using List.reverseRecOn generalizing c with
  | nil =>
    have blank : (used env s []).proxies.classes[name]? = none := unviewed name
    simp [blank]
  | append_singleton us u ih =>
    have fair' : ∀ v ∈ us, v.Fair env := fun v there => fair v (List.mem_append_left _ there)
    have step := u.minds catalogued (fair u (List.mem_append_right _ List.mem_cons_self))
      (used env s us)
    have last : used env s (us ++ [u]) = u.run env (used env s us) := used_append us [u] s
    rw [last]
    constructor
    · intro view
      rcases step with ⟨minds, stays⟩ | ⟨-, gone, -⟩
      · rcases minds.views name with same | ⟨unviewed, c', shown, view'⟩
        · obtain ⟨past, v, since, rfl, blank, shown, looked, all⟩ :=
            (ih fair').mp (same.symm.trans view)
          refine ⟨past, v, since ++ [u], by simp, blank, shown, looked, fun w there => ?_⟩
          rw [← List.cons_append, List.mem_append, List.mem_singleton] at there
          rcases there with old | rfl
          · exact all w old
          · exact stays
        · cases view'.symm.trans view
          refine ⟨us, u, [], rfl, unviewed, shown, ?_, by simpa using stays⟩
          exact TreeMap.mem_iff_isSome_getElem?.mpr (by rw [view', Option.isSome_some])
      · cases (gone name).symm.trans view
    · intro ⟨past, v, since, eq, blank, shown, looked, all⟩
      rcases List.eq_nil_or_concat' since with rfl | ⟨since, w, rfl⟩
      · -- The class is looked at just now.
        obtain ⟨rfl, same⟩ := List.append_inj' eq rfl
        cases same
        rcases step with ⟨minds, -⟩ | ⟨-, -, empties⟩
        · rcases minds.views name with same | ⟨-, c', shown', view⟩
          · rw [TreeMap.mem_iff_isSome_getElem?, same, blank] at looked
            cases looked
          · cases shown.symm.trans shown'
            exact view
        · exact absurd empties (all u List.mem_cons_self)
      · have eq : us ++ [u] = (past ++ v :: since) ++ [w] := by simpa using eq
        obtain ⟨rfl, same⟩ := List.append_inj' eq rfl
        cases same
        have view := (ih fair').mpr ⟨past, v, since, rfl, blank, shown, looked,
          fun v' there => all v' (List.mem_append_left _ there)⟩
        rcases step with ⟨minds, -⟩ | ⟨-, -, empties⟩
        · rcases minds.views name with same | ⟨blank', -⟩
          · exact same.trans view
          · cases blank'.symm.trans view
        · exact absurd empties (all u (by simp))

end

/-! ## 5. What a session shows -/

theorem run_classInfo_fst (usable : s.lifecycle ≠ .failed) :
    ((classInfo env name).run s).1 =
      match s.proxies.classes[name]? with
      | some c => .ok c
      | none => (env.shownClass s.world name).mapError DebugError.ofRuntime := by
  unfold classInfo
  rw [run_usable_bind, if_neg usable, run_onProxies]
  unfold ProxyTable.classInfo Environment.shownClass
  rw [Action.run_bind, ProxyTable.run_getTable]
  dsimp only
  cases s.proxies.classes[name]? with
  | some c => rfl
  | none =>
    dsimp only
    rw [Action.run_bind, ProxyTable.run_ask]
    rcases (env.classInfo name).run s.world with ⟨e | c, w⟩ <;> rfl

/-- The first look at a class since the views were last emptied. It is what was done next after
`past`, or, if nothing was done, the look that is taken now. -/
structure FirstLook (env : Environment σ) (s : Session σ) (past since : List (Use σ))
    (name : String) (c : ClassInfo) : Prop where
  unviewed : (used env s past).proxies.classes[name]? = none
  shown : env.shownClass (used env s past).world name = .ok c
  looked : ∀ u ∈ since.head?, name ∈ (u.run env (used env s past)).proxies.classes
  stands : ∀ u ∈ since, ¬ u.Empties env

/-- The uses that look at a class: one that asks for it, one that runs a program of it, and one that
gets an object of it a proxy. -/
inductive LooksAt (env : Environment σ) (s : Session σ) : Use σ → String → Prop
  | classInfo {name : String} {c : ClassInfo}
      (shown : ((perform env (.classInfo name)).run s).1 = .ok c) :
      LooksAt env s (.request (.classInfo name)) name
  | runMain {name : String} {call : PendingCall}
      (started : ((perform env (.runMain name)).run s).1 = .ok call) :
      LooksAt env s (.request (.runMain name)) name
  | proxyFor {object : ObjectRef} {p : Proxy}
      (untracked : s.proxies.byObject[object.id]? = none)
      (made : ((proxyFor env object).run s).1 = .ok (some p)) :
      LooksAt env s (.proxyFor object) p.className

theorem viewed_of_classInfo {c : ClassInfo} (shown : ((classInfo env name).run s).1 = .ok c) :
    name ∈ ((classInfo env name).run s).2.proxies.classes := by
  obtain ⟨r, classes, w, looked, -, -, viewed⟩ :=
    ProxyTable.run_classInfo env name (s.proxies, s.world)
  unfold classInfo at shown ⊢
  rw [run_usable_bind] at shown ⊢
  split at shown
  · cases shown
  · next usable =>
    rw [if_neg usable, run_onProxies, looked]
    rw [run_onProxies, looked] at shown
    exact viewed c shown

theorem viewed_of_runMain {call : PendingCall} (started : ((runMain env name).run s).1 = .ok call) :
    name ∈ ((runMain env name).run s).2.proxies.classes := by
  obtain ⟨r, classes, w, looked, -, -, viewed⟩ :=
    ProxyTable.run_classInfo env name (s.proxies, s.world)
  unfold runMain at started ⊢
  rw [run_usable_bind] at started ⊢
  split at started
  · cases started
  next usable =>
  rw [if_neg usable]
  rw [Action.run_bind, run_onProxies, looked] at started ⊢
  cases r with
  | error e => cases started
  | ok c =>
    replace viewed : name ∈ classes := viewed c rfl
    -- A program that is started, or not found, leaves the table as it is.
    dsimp only
    split
    · rw [run_ask]
      split <;> exact viewed
    split
    · rw [run_ask]
      split <;> exact viewed
    · exact viewed

theorem viewed_of_proxyFor {object : ObjectRef} {p : Proxy}
    (untracked : s.proxies.byObject[object.id]? = none)
    (made : ((proxyFor env object).run s).1 = .ok (some p)) :
    p.className ∈ ((proxyFor env object).run s).2.proxies.classes := by
  have obtained := ProxyTable.obtainFor_obtained env object (s.proxies, s.world)
  unfold proxyFor track at made ⊢
  rw [run_usable_bind] at made ⊢
  split at made
  · cases made
  next usable =>
  rw [if_neg usable]
  rw [run_noticeFatal, run_onProxies] at made ⊢
  generalize (ProxyTable.obtainFor env object).run (s.proxies, s.world) = out at obtained made ⊢
  obtain ⟨e | q, x⟩ := out
  · cases made
  · cases made
    exact obtained.viewed untracked

/-- **A class that was looked at is among the views.** -/
theorem LooksAt.looked {u : Use σ} (looks : LooksAt env s u name) :
    name ∈ (u.run env s).proxies.classes := by
  cases looks with
  | classInfo shown => exact viewed_of_classInfo shown
  | runMain started => exact viewed_of_runMain started
  | proxyFor untracked made => exact viewed_of_proxyFor untracked made

/-- A look at a class that nobody has looked at before is the first. -/
theorem LooksAt.firstLook {past since : List (Use σ)} {u : Use σ} {c : ClassInfo}
    (looks : LooksAt env (used env s past) u name)
    (unviewed : (used env s past).proxies.classes[name]? = none)
    (shown : env.shownClass (used env s past).world name = .ok c)
    (stands : ∀ v ∈ u :: since, ¬ v.Empties env) : FirstLook env s past (u :: since) name c := by
  refine ⟨unviewed, shown, fun v first => ?_, stands⟩
  cases first
  exact looks.looked

section

variable {us : List (Use σ)} (catalogued : env.Catalogued) (fair : ∀ u ∈ us, u.Fair env)
  (unviewed : ∀ name : String, s.proxies.classes[name]? = none)
  (usable : (used env s us).lifecycle ≠ .failed)
include catalogued fair unviewed usable

/-- **A session shows a class as it was at the first look.** -/
theorem ok_classInfo_iff {c : ClassInfo} :
    ((classInfo env name).run (used env s us)).1 = .ok c ↔
      ∃ past since, us = past ++ since ∧ FirstLook env s past since name c := by
  have views {c : ClassInfo} : (used env s us).proxies.classes[name]? = some c ↔ _ :=
    getElem?_views catalogued fair unviewed
  have viewed {past since : List (Use σ)} {u : Use σ} (eq : us = past ++ u :: since)
      (look : FirstLook env s past (u :: since) name c) :
      (used env s us).proxies.classes[name]? = some c :=
    views.mpr ⟨past, u, since, eq, look.unviewed, look.shown, look.looked u rfl, look.stands⟩
  rw [run_classInfo_fst usable]
  cases view : (used env s us).proxies.classes[name]? with
  | some c' =>
    constructor
    · intro same
      cases same
      obtain ⟨past, u, since, eq, blank, shown, looked, stands⟩ := views.mp view
      refine ⟨past, u :: since, eq, blank, shown, fun v first => ?_, stands⟩
      cases first
      exact looked
    · intro ⟨past, since, eq, look⟩
      cases since with
      | nil =>
        rw [List.append_nil] at eq
        rw [eq, look.unviewed] at view
        cases view
      | cons u since =>
        cases view.symm.trans (viewed eq look)
        rfl
  | none =>
    have now : (env.shownClass (used env s us).world name).mapError DebugError.ofRuntime = .ok c ↔
        env.shownClass (used env s us).world name = .ok c := by
      cases env.shownClass (used env s us).world name <;> simp [Except.mapError]
    dsimp only
    rw [now]
    constructor
    · exact fun shown => ⟨us, [], (List.append_nil us).symm, view, shown, nofun, nofun⟩
    · intro ⟨past, since, eq, look⟩
      cases since with
      | nil =>
        rw [List.append_nil] at eq
        exact eq ▸ look.shown
      | cons u since =>
        cases view.symm.trans (viewed eq look)

/-- A session shows the classes that its environment knows. -/
theorem exists_classInfo_iff : (∃ c, ((classInfo env name).run (used env s us)).1 = .ok c) ↔
    env.Knows (used env s us).world name := by
  constructor
  · intro ⟨c, shown⟩
    obtain ⟨past, since, rfl, look⟩ := (ok_classInfo_iff catalogued fair unviewed usable).mp shown
    rw [used_append]
    refine knows_used catalogued (fun u there => fair u ?_) ⟨c, look.shown⟩
    exact List.mem_append_right past there
  · intro ⟨c, shown⟩
    rw [run_classInfo_fst usable, shown]
    cases (used env s us).proxies.classes[name]? with
    | none => exact ⟨c, rfl⟩
    | some c' => exact ⟨c', rfl⟩

/-- A class that has been the same since the views were last emptied is shown as it is. -/
theorem classInfo_of_same (same : ∀ past since, us = past ++ since →
      (∀ u ∈ since, ¬ u.Empties env) →
      env.shownClass (used env s past).world name = env.shownClass (used env s us).world name) :
    ((classInfo env name).run (used env s us)).1 =
      (env.shownClass (used env s us).world name).mapError DebugError.ofRuntime := by
  rw [run_classInfo_fst usable]
  cases view : (used env s us).proxies.classes[name]? with
  | none => rfl
  | some c =>
    obtain ⟨past, u, since, eq, -, shown, -, stands⟩ :=
      (getElem?_views catalogued fair unviewed).mp view
    rw [← same past (u :: since) eq stands, shown]
    rfl

end

end Session

end Debugger
