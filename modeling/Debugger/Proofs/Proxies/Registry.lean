import Debugger.Proofs.Proxies.Bindings
/-!
# Names and what became of them

A binding disappears along four routes: its name is unbound in its scope, it is replaced there, the
object it stands for is forgotten, or everything is cleared. Two of the routes never mention the
name. They go through the handle of the object and reach into every scope. Here the table is held
against a log of what was done: a name is bound in a scope just when the log has a naming of it that
nothing later has undone (`registry_of_log`).

## 1. Look-ups after an update

## 2. The log

What an operation does to names depends on the table it finds, for a proxy that nobody knows cannot
be named and has nothing to forget. So an entry of the log says what happened and not what was asked
for, and a naming carries the object.

## 3. One operation

## 4. Sequences of operations
-/

namespace Debugger.ProxyTable

open Std (TreeMap)

variable {σ : Type} {t t' : ProxyTable} {scope name : String} {p : Proxy} {x : ProxyTable × σ}

/-! ## 1. Look-ups after an update -/

/-- **Removing an object takes away the names of its proxy, in whatever scope, and no others.** -/
theorem binding?_remove {id : ObjectId} (removed : t.remove? id = some (p, t')) (other n : String) :
    t'.binding? other n = (t.binding? other n).filter fun q => !q.same p := by
  obtain ⟨-, rfl⟩ := remove?_some removed
  unfold binding? dropNamesOf
  rw [TreeMap.getElem?_filter', TreeMap.getElem?_map]
  cases t.names[other]? with
  | none => rfl
  | some bindings =>
    have kept : (bindings.filter fun _ q => !q.same p)[n]? =
        bindings[n]?.filter fun q => !q.same p := TreeMap.getElem?_filter'
    rw [Option.map_some, Option.bind_some, ← kept]
    -- A scope that is left without bindings has none to look up.
    cases empty : (bindings.filter fun _ q => !q.same p).isEmpty with
    | false => rw [Option.filter_some_pos (by simp [empty]), Option.bind_some]
    | true =>
      rw [Option.filter_some_neg (by simp [empty]), Option.bind_none,
        TreeMap.getElem?_of_isEmpty empty]

/-- **Unbinding a name changes one look-up.** -/
theorem binding?_unbind (t : ProxyTable) (scope name other n : String) :
    (t.unbind scope name).2.binding? other n =
      if scope = other ∧ name = n then none else t.binding? other n := by
  unfold unbind binding?
  cases found : t.names[scope]? with
  | none =>
    dsimp only
    split
    · next same => rw [← same.1, found, Option.bind_none]
    · rfl
  | some bindings =>
    dsimp only
    by_cases here : scope = other
    · subst here
      have rest : (bindings.erase name)[n]? = if name = n then none else bindings[n]? := by
        rw [TreeMap.getElem?_erase]
        simp only [Std.compare_eq_iff_eq]
      rw [found, Option.bind_some]
      simp only [true_and]
      rw [← rest]
      split
      · next empty =>
        rw [TreeMap.getElem?_erase_self, Option.bind_none, TreeMap.getElem?_of_isEmpty empty]
      · rw [TreeMap.getElem?_insert_self, Option.bind_some]
    · have apart : ¬compare scope other = .eq := by rwa [Std.compare_eq_iff_eq]
      rw [if_neg (mt And.left here)]
      split
      · rw [TreeMap.getElem?_erase, if_neg apart]
      · rw [TreeMap.getElem?_insert, if_neg apart]

theorem run_unbindName (scope name : String) (x : ProxyTable × σ) :
    (unbindName scope name : Op σ (Option Proxy)).run x =
      (.ok (x.1.binding? scope name), ((x.1.unbind scope name).2, x.2)) := by
  have answer : (x.1.unbind scope name).1 = x.1.binding? scope name := by
    unfold unbind binding?
    cases x.1.names[scope]? <;> rfl
  rw [← answer]
  rfl

theorem bind?_isSome (t : ProxyTable) (scope name : String) (p : Proxy) :
    (t.bind? scope name p).isSome = (t.objectFor? p.handle).isSome := by
  unfold bind? objectFor?
  rw [TreeMap.contains_eq_isSome_getElem?]
  cases t.byHandle[p.handle]? <;> rfl

/-! ## 2. The log -/

/-- What an operation does to names. -/
inductive Happening
  | named (scope name : String) (p : Proxy) (object : ObjectId)
  | unnamed (scope name : String)
  | forgot (object : ObjectId)
  | cleared
  | other
  deriving DecidableEq

/-- What an operation does to the names of a table. -/
def Command.happening (t : ProxyTable) : Command → Happening
  | bindName scope name p =>
    match t.objectFor? p.handle with
    | some o => .named scope name p o.id
    | none => .other
  | unbindName scope name => .unnamed scope name
  | forget id => .forgot id
  | forgetProxy p =>
    match t.objectFor? p.handle with
    | some o => .forgot o.id
    | none => .other
  | clear => .cleared
  | obtain _ | classInfo _ => .other

/-- Naming succeeds just when it is a naming of an object. -/
theorem bindName_ok_iff (x : ProxyTable × σ) (scope name : String) (p : Proxy) :
    ((bindName scope name p : Op σ Unit).run x).1 = .ok () ↔
      ∃ object, (Command.bindName scope name p).happening x.1 = .named scope name p object := by
  have decided := x.1.bind?_isSome scope name p
  unfold bindName Command.happening
  rw [Action.run_bind, run_getTable]
  dsimp only
  cases known : x.1.objectFor? p.handle with
  | none =>
    rw [known, Option.isSome_none, Option.isSome_eq_false_iff, Option.isNone_iff_eq_none] at decided
    rw [decided]
    exact ⟨nofun, nofun⟩
  | some o =>
    rw [known, Option.isSome_some, Option.isSome_iff_exists] at decided
    obtain ⟨t', bound⟩ := decided
    rw [bound]
    exact ⟨fun _ => ⟨o.id, rfl⟩, fun _ => rfl⟩

/-- Whether nothing is left of the binding of a name in a scope, if it stood for an object. -/
def Happening.Undoes (scope name : String) (object : ObjectId) : Happening → Prop
  | named s n _ _ => s = scope ∧ n = name
  | unnamed s n => s = scope ∧ n = name
  | forgot id => id = object
  | cleared => True
  | other => False

/-- The log has a naming that nothing later has undone. -/
def Stands (log : List Happening) (scope name : String) (p : Proxy) (object : ObjectId) : Prop :=
  ∃ before after, log = before ++ .named scope name p object :: after ∧
    ∀ e ∈ after, ¬e.Undoes scope name object

/-- A table with the log of what was done to an empty one. The environment does what it likes
between two operations, and need not be the same one twice. -/
inductive Logged : List Happening → ProxyTable × σ → Prop
  | empty (world : σ) : Logged [] ({}, world)
  | command {log : List Happening} {x : ProxyTable × σ} (env : Environment σ) (c : Command) :
      Logged log x → Logged (log ++ [c.happening x.1]) (c.run env x)
  | elsewhere {log : List Happening} {x : ProxyTable × σ} (world : σ) :
      Logged log x → Logged log (x.1, world)

theorem Logged.reached {log : List Happening} (h : Logged log x) : Reached x := by
  induction h with
  | empty world => exact .empty world
  | command env c _ ih => exact .command env c ih
  | elsewhere world _ ih => exact .elsewhere world ih

/-- Nothing that can become of a table is left out. -/
theorem Reached.logged (h : Reached x) : ∃ log, Logged log x := by
  induction h with
  | empty world => exact ⟨[], .empty world⟩
  | command env c _ ih =>
    obtain ⟨log, logged⟩ := ih
    exact ⟨_, .command env c logged⟩
  | elsewhere world _ ih =>
    obtain ⟨log, logged⟩ := ih
    exact ⟨log, .elsewhere world logged⟩

theorem stands_snoc {log : List Happening} {e : Happening} {object : ObjectId} :
    Stands (log ++ [e]) scope name p object ↔
      e = .named scope name p object ∨
        Stands log scope name p object ∧ ¬e.Undoes scope name object := by
  constructor
  · rintro ⟨before, after, split, kept⟩
    rcases List.eq_nil_or_concat after with rfl | ⟨init, last, rfl⟩
    · exact .inl (List.append_inj_right' split rfl |> List.singleton_inj.mp)
    · rw [List.concat_eq_append, ← List.cons_append, ← List.append_assoc] at split
      obtain ⟨rfl, same⟩ := List.append_inj' split rfl
      cases same
      refine .inr ⟨⟨before, init, rfl, fun e there => kept e ?_⟩, kept _ ?_⟩
      · rw [List.concat_eq_append]
        exact List.mem_append_left _ there
      · rw [List.concat_eq_append]
        exact List.mem_append_right _ List.mem_cons_self
  · rintro (rfl | ⟨⟨before, after, rfl, kept⟩, last⟩)
    · exact ⟨log, [], rfl, nofun⟩
    · refine ⟨before, after ++ [e], by rw [List.append_assoc, List.cons_append], ?_⟩
      intro e' there
      rcases List.mem_append.mp there with there | there
      · exact kept e' there
      · cases List.mem_singleton.mp there
        exact last

/-! ## 3. One operation -/

/-- A name is bound in a scope, to a proxy whose handle has the object. -/
def BoundTo (t : ProxyTable) (scope name : String) (p : Proxy) (object : ObjectId) : Prop :=
  t.binding? scope name = some p ∧ ∃ o, t.objectFor? p.handle = some o ∧ o.id = object

variable {object : ObjectId}

theorem Consistent.boundTo (h : t.Consistent) (bound : t.binding? scope name = some p) :
    ∃ object, t.BoundTo scope name p object := by
  obtain ⟨bindings, hs, hn⟩ := Option.bind_eq_some_iff.mp bound
  have known := h.named scope name bindings p hs hn
  rw [TreeMap.mem_iff_isSome_getElem?, Option.isSome_iff_exists] at known
  obtain ⟨o, ho⟩ := known
  exact ⟨o.id, bound, o, ho, rfl⟩

/-- What becomes of the bindings of a table when something happens. -/
def Undergoes (t : ProxyTable) (e : Happening) (t' : ProxyTable) : Prop :=
  ∀ scope name p object, t'.BoundTo scope name p object ↔
    e = .named scope name p object ∨
      t.BoundTo scope name p object ∧ ¬e.Undoes scope name object

/-- A table with the same names, in which no handle has lost its object. -/
theorem undergoes_other (ht : t.Consistent) (names : t'.names = t.names)
    (handles : ∀ h o, t.objectFor? h = some o →
      ∃ o', t'.objectFor? h = some o' ∧ o'.id = o.id) :
    t.Undergoes .other t' := by
  intro scope name p object
  have same : t'.binding? scope name = t.binding? scope name := by rw [binding?, binding?, names]
  constructor
  · rintro ⟨bound, o', ho', rfl⟩
    rw [same] at bound
    obtain ⟨object, -, o, ho, rfl⟩ := ht.boundTo bound
    obtain ⟨o'', ho'', there⟩ := handles _ _ ho
    cases ho''.symm.trans ho'
    exact .inr ⟨⟨bound, o, ho, there.symm⟩, id⟩
  · rintro (none | ⟨⟨bound, o, ho, rfl⟩, -⟩)
    · cases none
    · exact ⟨same.trans bound, handles _ _ ho⟩

theorem Obtained.undergoes {object : ObjectRef} {result : Except DebugError (Option Proxy)}
    (h : Obtained t object result t') (ht : t.Consistent) : t.Undergoes .other t' := by
  cases h with
  | known | hidden | failed => exact undergoes_other ht rfl fun h o ho => ⟨o, ho, rfl⟩
  | made p classes untracked unused =>
    refine undergoes_other ht rfl fun h o ho => ?_
    simp only [objectFor?, enter, TreeMap.getElem?_insert, Std.compare_eq_iff_eq]
    split
    · next same =>
      subst same
      exact ⟨_, rfl, (unused o ho).symm⟩
    · exact ⟨o, ho, rfl⟩

theorem undergoes_bind (bound : t.bind? scope name p = some t') {o : ObjectRef}
    (known : t.objectFor? p.handle = some o) : t.Undergoes (.named scope name p o.id) t' := by
  obtain ⟨-, handles⟩ := bind?_kept bound
  have same : ∀ h, t'.objectFor? h = t.objectFor? h := by simp [objectFor?, handles]
  intro other n q object
  unfold BoundTo
  rw [binding?_bind bound, same]
  by_cases here : scope = other ∧ name = n
  · obtain ⟨rfl, rfl⟩ := here
    rw [if_pos ⟨rfl, rfl⟩]
    constructor
    · rintro ⟨⟨⟩, o', ho', rfl⟩
      cases known.symm.trans ho'
      exact .inl rfl
    · rintro (now | ⟨-, kept⟩)
      · cases now
        exact ⟨rfl, o, known, rfl⟩
      · exact absurd ⟨rfl, rfl⟩ kept
  · rw [if_neg here]
    constructor
    · exact fun bound => .inr ⟨bound, here⟩
    · rintro (now | ⟨bound, -⟩)
      · cases now
        exact absurd ⟨rfl, rfl⟩ here
      · exact bound

theorem undergoes_unbind (t : ProxyTable) (scope name : String) :
    t.Undergoes (.unnamed scope name) (t.unbind scope name).2 := by
  obtain ⟨-, handles⟩ := t.unbind_kept scope name
  intro other n q object
  unfold BoundTo
  rw [binding?_unbind, objectFor?, handles]
  by_cases here : scope = other ∧ name = n
  · rw [if_pos here]
    exact ⟨nofun, by rintro (⟨⟨⟩⟩ | ⟨-, kept⟩); exact absurd here kept⟩
  · rw [if_neg here]
    exact ⟨fun bound => .inr ⟨bound, here⟩, by rintro (⟨⟨⟩⟩ | ⟨bound, -⟩); exact bound⟩

/-- **Forgetting an object drops the bindings that stand for it, and no others.** A binding to
another object is under another handle. -/
theorem undergoes_remove (ht : t.Consistent) {id : ObjectId}
    (removed : t.remove? id = some (p, t')) : t.Undergoes (.forgot id) t' := by
  intro scope name q object
  unfold BoundTo
  rw [binding?_remove removed]
  obtain ⟨tracked, rfl⟩ := remove?_some removed
  obtain ⟨o, ho, rfl⟩ := (ht.inverse id p.handle).mp ⟨p, tracked, rfl⟩
  simp only [objectFor?, TreeMap.getElem?_erase, Std.compare_eq_iff_eq, Option.filter_eq_some_iff]
  constructor
  · rintro ⟨⟨bound, apart⟩, r, hr, rfl⟩
    split at hr
    · cases hr
    · refine .inr ⟨⟨bound, r, hr, rfl⟩, fun same => ?_⟩
      obtain ⟨p', tracked', there⟩ := (ht.inverse r.id q.handle).mpr ⟨r, hr, rfl⟩
      cases (same ▸ tracked).symm.trans tracked'
      simp [Proxy.same, there] at apart
  · rintro (⟨⟨⟩⟩ | ⟨⟨bound, r, hr, rfl⟩, other⟩)
    have apart : p.handle ≠ q.handle := by
      intro same
      rw [← same, ho] at hr
      cases hr
      exact other rfl
    refine ⟨⟨bound, by simpa [Proxy.same] using apart.symm⟩, r, ?_, rfl⟩
    rw [if_neg apart, hr]

/-- Nothing stands for an object without a proxy. -/
theorem undergoes_untracked (ht : t.Consistent) {id : ObjectId} (untracked : t.remove? id = none) :
    t.Undergoes (.forgot id) t := by
  intro scope name q object
  refine ⟨fun bound => .inr ⟨bound, ?_⟩, by rintro (⟨⟨⟩⟩ | ⟨bound, -⟩); exact bound⟩
  rintro rfl
  obtain ⟨-, o, ho, same⟩ := bound
  obtain ⟨p, tracked, -⟩ := (ht.inverse o.id q.handle).mpr ⟨o, ho, rfl⟩
  rw [same] at tracked
  unfold remove? at untracked
  rw [tracked] at untracked
  cases untracked

theorem undergoes_forget (env : Environment σ) (id : ObjectId) (hx : x.1.Consistent) :
    x.1.Undergoes (.forgot id) ((forget env id).run x).2.1 := by
  unfold forget
  rw [Action.run_bind, run_getTable]
  dsimp only
  cases removed : x.1.remove? id with
  | none => exact undergoes_untracked hx removed
  | some r =>
    obtain ⟨p, t⟩ := r
    dsimp only
    rw [Action.run_bind, run_setTable]
    dsimp only
    rw [run_letGo]
    exact undergoes_remove hx removed

/-- **What each operation does to the bindings.** -/
theorem Command.undergoes (env : Environment σ) (c : Command) (hx : x.1.Consistent) :
    x.1.Undergoes (c.happening x.1) (c.run env x).1 := by
  cases c with
  | obtain object => exact (obtainFor_obtained env object x).undergoes hx
  | forget id => exact undergoes_forget env id hx
  | forgetProxy p =>
    show x.1.Undergoes _ ((ProxyTable.forgetProxy env p).run x).2.1
    unfold ProxyTable.forgetProxy happening
    rw [Action.run_bind, run_getTable]
    dsimp only
    cases x.1.objectFor? p.handle with
    | none => exact undergoes_other hx rfl fun h o ho => ⟨o, ho, rfl⟩
    | some o => exact undergoes_forget env o.id hx
  | clear =>
    intro scope name p object
    constructor
    · rintro ⟨bound, -⟩
      rw [show Command.run env x .clear = ({}, x.2) from rfl, binding?, TreeMap.getElem?_emptyc]
        at bound
      cases bound
    · rintro (⟨⟨⟩⟩ | ⟨-, kept⟩)
      exact absurd trivial kept
  | bindName scope name p =>
    show x.1.Undergoes _ ((ProxyTable.bindName scope name p).run x).2.1
    have decided := x.1.bind?_isSome scope name p
    unfold ProxyTable.bindName happening
    rw [Action.run_bind, run_getTable]
    dsimp only
    cases known : x.1.objectFor? p.handle with
    | none =>
      rw [known, Option.isSome_none, Option.isSome_eq_false_iff, Option.isNone_iff_eq_none]
        at decided
      rw [decided]
      exact undergoes_other hx rfl fun h o ho => ⟨o, ho, rfl⟩
    | some o =>
      rw [known, Option.isSome_some, Option.isSome_iff_exists] at decided
      obtain ⟨t', bound⟩ := decided
      rw [bound]
      exact undergoes_bind bound known
  | unbindName scope name =>
    show x.1.Undergoes _ ((ProxyTable.unbindName scope name).run x).2.1
    rw [run_unbindName]
    exact undergoes_unbind x.1 scope name
  | classInfo name =>
    obtain ⟨r, classes, w, h, -, -⟩ := run_classInfo env name x
    show x.1.Undergoes _ ((ProxyTable.classInfo env name).run x).2.1
    rw [h]
    exact undergoes_other hx rfl fun h o ho => ⟨o, ho, rfl⟩

/-! ## 4. Sequences of operations -/

variable {log : List Happening}

/-- **A name is bound in a scope, for an object, just when the log has a naming that still
stands.** -/
theorem Logged.boundTo_iff (h : Logged log x) (scope name : String) (p : Proxy)
    (object : ObjectId) : x.1.BoundTo scope name p object ↔ Stands log scope name p object := by
  induction h generalizing scope name p object with
  | empty world =>
    constructor
    · rintro ⟨bound, -⟩
      rw [binding?, TreeMap.getElem?_emptyc] at bound
      cases bound
    · rintro ⟨before, after, split, -⟩
      simp at split
  | command env c logged ih =>
    rw [c.undergoes env logged.reached.consistent, stands_snoc, ih]
  | elsewhere world _ ih => exact ih scope name p object

theorem Shown.iff_lt : t.Shown scope name p ↔
    t.binding? scope name = some p ∧ ∀ other, scope < other → t.binding? other name = none := by
  have order (a b : String) : compare a b = .lt ↔ a < b := compareOfLessAndEq_eq_lt
  constructor
  · intro shown
    exact ⟨shown.bound, fun other greater => shown.greatest other ((order _ _).mpr greater)⟩
  · intro ⟨bound, free⟩
    exact ⟨bound, fun other greater => free other ((order _ _).mp greater)⟩

/-- **The names are a map from scopes and names, and the log explains it.** Naming succeeds for a
proxy whose handle has an object. A name is bound in a scope just when the last naming of it there
was followed by no unbinding of it, no forgetting of the object and no clearing. Unbinding a name
gives what was bound and changes no other look-up. A name stands for its binding in the greatest
scope that has one, and it is taken just when it stands for something. -/
theorem registry_of_log (h : Logged log x) :
    (∀ scope name p, ((bindName scope name p : Op σ Unit).run x).1 = .ok () ↔
      ∃ object, (Command.bindName scope name p).happening x.1 = .named scope name p object) ∧
    (∀ scope name p, x.1.binding? scope name = some p ↔
      ∃ object before after, log = before ++ .named scope name p object :: after ∧
        ∀ e ∈ after, ¬e.Undoes scope name object) ∧
    (∀ scope name,
      ((unbindName scope name : Op σ (Option Proxy)).run x).1 = .ok (x.1.binding? scope name) ∧
      ∀ other n, ((unbindName scope name : Op σ (Option Proxy)).run x).2.1.binding? other n =
        if scope = other ∧ name = n then none else x.1.binding? other n) ∧
    (∀ name p, x.1.bindings[name]? = some p ↔
      ∃ scope, x.1.binding? scope name = some p ∧
        ∀ other, scope < other → x.1.binding? other name = none) ∧
    ∀ name, x.1.isTaken name = true ↔ name ∈ x.1.bindings := by
  refine ⟨bindName_ok_iff x, fun scope name p => ?_, fun scope name => ?_, fun name p => ?_,
    fun name => mem_bindings_iff.symm⟩
  · constructor
    · intro bound
      obtain ⟨object, bound⟩ := h.reached.consistent.boundTo bound
      exact ⟨object, (h.boundTo_iff scope name p object).mp bound⟩
    · rintro ⟨object, stands⟩
      exact ((h.boundTo_iff scope name p object).mpr stands).1
  · rw [run_unbindName]
    exact ⟨rfl, binding?_unbind x.1 scope name⟩
  · rw [getElem?_bindings_iff]
    exact exists_congr fun _ => Shown.iff_lt

/-- A store with two objects. -/
def twins : ObjectStore :=
  (({} : ObjectStore).insertObject 5 "Widget" .plain).insertObject 6 "Widget" .plain

/-- Two objects have the name "w", the first on the bench and the second among the locals. Then the
second is forgotten. -/
def unshadowed : ProxyTable × ObjectStore :=
  [.obtain ⟨5, "Widget"⟩, .obtain ⟨6, "Widget"⟩, .bindName "bench" "w" ⟨⟨1⟩, "Widget"⟩,
    .bindName "locals" "w" ⟨⟨2⟩, "Widget"⟩, .forget 6].foldl
      (fun x (c : Command) => c.run ObjectStore.environment x) ({}, twins)

theorem unshadowed_logged : Logged [.other, .other, .named "bench" "w" ⟨⟨1⟩, "Widget"⟩ 5,
    .named "locals" "w" ⟨⟨2⟩, "Widget"⟩ 6, .forgot 6] unshadowed := by
  have obtained := ((Logged.empty twins).command ObjectStore.environment
    (.obtain ⟨5, "Widget"⟩)).command ObjectStore.environment (.obtain ⟨6, "Widget"⟩)
  have named := (obtained.command ObjectStore.environment
    (.bindName "bench" "w" ⟨⟨1⟩, "Widget"⟩)).command ObjectStore.environment
      (.bindName "locals" "w" ⟨⟨2⟩, "Widget"⟩)
  have logged : Logged _ unshadowed := named.command ObjectStore.environment (.forget 6)
  refine (congrArg (Logged · unshadowed) ?_).mpr logged
  decide +kernel

/-- The name stands for the first object again, and unbinding it on the bench gives its proxy. -/
theorem unshadowed_stands : unshadowed.1.bindings["w"]? = some ⟨⟨1⟩, "Widget"⟩ ∧
    ((unbindName "bench" "w" : Op ObjectStore (Option Proxy)).run unshadowed).1 =
      .ok (some ⟨⟨1⟩, "Widget"⟩) := by
  obtain ⟨-, bound, unbound, -, -⟩ := registry_of_log unshadowed_logged
  refine ⟨by decide +kernel, (unbound "bench" "w").1.trans (congrArg _ ?_)⟩
  refine (bound "bench" "w" _).mpr ⟨5, [.other, .other], _, rfl, ?_⟩
  simp [Happening.Undoes]

end Debugger.ProxyTable
