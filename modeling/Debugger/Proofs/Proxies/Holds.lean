import Debugger.Proofs.Proxies.Consistency
import Debugger.Proofs.Debuggee.Counters
/-!
# Holds and entries

A proxy has two sides: the debuggee holds the object under a handle, and the table has an entry for
the handle. They are made in several steps, and each step can be refused: the object is put into the
transport slot, the slot is picked up, the entry is made. On the way back the entry goes first.

When one table is the only one to use the transport, the two sides are the same after every
operation. Nothing is held without an entry, no entry is without its hold, and a hold is given back
once (`Lending.every_hold_has_an_entry`).

The environment goes on meanwhile: before each question that the table asks it may do anything that
leaves the holds and the slot alone. It has to keep one promise, not to hand out a handle that is
held. Its handles are consecutive numbers, so this is no promise at all until the numbers wrap
around (`Lending.Reached.commands`).

## 1. Receipts

A debuggee does not keep count of the handles it has handed out and taken back. So that something
can be said of them, they are noted beside it, which changes nothing
(`ProxyTable.Command.run_noted`).

## 2. Accounts

What is on both sides, without the rest of the environment. `Account.Change` says what an operation
can do to it.

## 3. Lenders

What is asked of an environment that holds objects. A debuggee and an object store both do it.

## 4. Operations on a table

## 5. Any operations

## 6. A debuggee lends

## 7. An object store lends

## 8. Every hold has an entry
-/

namespace Debugger

open Std (TreeMap)

/-! ## 1. Receipts -/

/-- The handles that were handed out, and those that were asked back. -/
structure Receipts where
  taken : List Handle := []
  released : List Handle := []

inductive Question
  | category
  | className
  | classInfo
  | install
  | take
  | release

namespace Environment

variable {σ α : Type}

/-- A question, with what happens before it, and with what is noted of the answer. -/
def noting (meanwhile : σ → σ) (a : Action σ RuntimeError α)
    (note : Except RuntimeError α → Receipts → Receipts) : Action (σ × Receipts) RuntimeError α :=
  ExceptT.mk <| modifyGet fun (world, receipts) =>
    let (answer, world) := a.run (meanwhile world)
    (answer, (world, note answer receipts))

/-- An environment that is not idle between two questions and that writes receipts: for every handle
that it hands out, and for every one that it is asked to take back. -/
def noted (env : Environment σ) (meanwhile : Question → σ → σ) : Environment (σ × Receipts) where
  objectCategory id := noting (meanwhile .category) (env.objectCategory id) fun _ r => r
  objectClass id := noting (meanwhile .className) (env.objectClass id) fun _ r => r
  classInfo name := noting (meanwhile .classInfo) (env.classInfo name) fun _ r => r
  installTransport id := noting (meanwhile .install) (env.installTransport id) fun _ r => r
  takeTransport := noting (meanwhile .take) env.takeTransport fun answer r =>
    match answer with
    | .ok handle => { r with taken := r.taken ++ [handle] }
    | .error _ => r
  release handle := noting (meanwhile .release) (env.release handle) fun _ r =>
    { r with released := r.released ++ [handle] }

theorem run_noting (meanwhile : σ → σ) (a : Action σ RuntimeError α)
    (note : Except RuntimeError α → Receipts → Receipts) (x : σ × Receipts) :
    (noting meanwhile a note).run x =
      ((a.run (meanwhile x.1)).1,
        ((a.run (meanwhile x.1)).2, note (a.run (meanwhile x.1)).1 x.2)) :=
  rfl

theorem run_takeTransport (env : Environment σ) (meanwhile : Question → σ → σ) (x : σ × Receipts) :
    (env.noted meanwhile).takeTransport.run x =
      match env.takeTransport.run (meanwhile .take x.1) with
      | (.ok handle, world) => (.ok handle, (world, { x.2 with taken := x.2.taken ++ [handle] }))
      | (.error e, world) => (.error e, (world, x.2)) := by
  unfold noted
  rw [run_noting]
  rcases env.takeTransport.run (meanwhile .take x.1) with ⟨e | handle, world⟩ <;> rfl

theorem run_release (env : Environment σ) (meanwhile : Question → σ → σ) (handle : Handle)
    (x : σ × Receipts) :
    ((env.noted meanwhile).release handle).run x =
      (((env.release handle).run (meanwhile .release x.1)).1,
        (((env.release handle).run (meanwhile .release x.1)).2,
          { x.2 with released := x.2.released ++ [handle] })) :=
  rfl

end Environment

namespace ProxyTable

variable {σ τ α β : Type}

/-- Work on a table that comes to the same when one sees less of the environment. -/
def Sees (f : τ → σ) (a : Op τ α) (b : Op σ α) : Prop :=
  ∀ x : ProxyTable × τ, b.run (x.1, f x.2) = ((a.run x).1, ((a.run x).2.1, f (a.run x).2.2))

namespace Sees

variable {f : τ → σ} {a : Op τ α} {b : Op σ α}

theorem pure (v : α) : Sees f (pure v : Op τ α) (pure v) := fun _ => rfl

theorem throw (e : DebugError) : Sees f (throw e : Op τ α) (throw e) := fun _ => rfl

theorem getTable : Sees f getTable getTable := fun _ => rfl

theorem setTable (t : ProxyTable) : Sees f (setTable t) (setTable t) := fun _ => rfl

theorem bind {k : α → Op τ β} {l : α → Op σ β} (h : Sees f a b) (hk : ∀ v, Sees f (k v) (l v)) :
    Sees f (a >>= k) (b >>= l) := by
  intro x
  rw [Action.run_bind, Action.run_bind, h x]
  rcases a.run x with ⟨e | v, y⟩
  · rfl
  · exact hk v y

variable {q : Action τ RuntimeError α} {p : Action σ RuntimeError α}

theorem attempt (h : ∀ w, p.run (f w) = ((q.run w).1, f (q.run w).2)) :
    Sees f (attempt q) (attempt p) := by
  intro x
  rw [run_attempt, run_attempt, h]

theorem ask (h : ∀ w, p.run (f w) = ((q.run w).1, f (q.run w).2)) : Sees f (ask q) (ask p) := by
  refine (attempt h).bind fun answer => ?_
  cases answer with
  | ok v => exact .pure v
  | error e => exact .throw _

end Sees

/-- Nothing happens between two questions. -/
def idle : Question → σ → σ := fun _ s => s

theorem sees_classInfo (env : Environment σ) (name : String) :
    Sees Prod.fst (classInfo (env.noted idle) name) (classInfo env name) := by
  refine Sees.getTable.bind fun t => ?_
  cases t.classes[name]? with
  | some c => exact .pure c
  | none =>
    refine (Sees.ask fun _ => rfl).bind fun c => Sees.getTable.bind fun t => ?_
    exact (Sees.setTable _).bind fun _ => .pure c

theorem sees_obtainFor (env : Environment σ) (object : ObjectRef) :
    Sees Prod.fst (obtainFor (env.noted idle) object) (obtainFor env object) := by
  refine Sees.getTable.bind fun t => ?_
  split
  · exact .pure _
  refine (Sees.attempt fun _ => rfl).bind fun answer => ?_
  split
  · exact .pure _
  · exact .throw _
  split
  · exact .pure _
  refine (Sees.ask fun _ => rfl).bind fun name => (sees_classInfo env name).bind fun _ => ?_
  refine (Sees.ask fun _ => rfl).bind fun _ => (Sees.ask ?_).bind fun handle => ?_
  · intro w
    rw [Environment.run_takeTransport]
    simp only [idle]
    rcases env.takeTransport.run w.1 with ⟨e | handle, s⟩ <;> rfl
  refine Sees.getTable.bind fun t => ?_
  split
  · split
    · exact (Sees.attempt fun _ => rfl).bind fun _ => .throw _
    · exact (Sees.setTable _).bind fun _ => .pure _
  · exact (Sees.setTable _).bind fun _ => .pure _

theorem sees_forget (env : Environment σ) (id : ObjectId) :
    Sees Prod.fst (forget (env.noted idle) id) (forget env id) := by
  refine Sees.getTable.bind fun t => ?_
  split
  · exact .pure _
  refine (Sees.setTable _).bind fun _ => (Sees.attempt fun _ => rfl).bind fun answer => ?_
  split
  · exact .pure _
  · exact .pure _
  · exact .throw _

/-- **Receipts change nothing.** An operation does the same to a table and to an environment whether
receipts are written or not. -/
theorem Command.run_noted (env : Environment σ) (c : Command) (x : ProxyTable × (σ × Receipts)) :
    c.run env (x.1, x.2.1) =
      ((c.run (env.noted idle) x).1, (c.run (env.noted idle) x).2.1) := by
  have of_sees {α : Type} {a : Op (σ × Receipts) α} {b : Op σ α} (h : Sees Prod.fst a b) :
      (b.run (x.1, x.2.1)).2 = ((a.run x).2.1, (a.run x).2.2.1) := congrArg Prod.snd (h x)
  cases c with
  | obtain object => exact of_sees (sees_obtainFor env object)
  | forget id => exact of_sees (sees_forget env id)
  | forgetProxy p =>
    refine of_sees (Sees.getTable.bind fun t => ?_)
    split
    · exact .pure _
    · exact sees_forget env _
  | clear => rfl
  | bindName scope name p =>
    refine of_sees (Sees.getTable.bind fun t => ?_)
    split
    · exact .setTable _
    · exact .throw _
  | unbindName scope name =>
    exact of_sees (Sees.getTable.bind fun t => (Sees.setTable _).bind fun _ => .pure _)
  | classInfo name => exact of_sees (sees_classInfo env name)

end ProxyTable

/-! ## 2. Accounts -/

namespace Holds

variable {h : Holds} {taken : List Handle}

/-- The handle that is handed out next. -/
def next (h : Holds) : Handle := ⟨h.last + 1⟩

def add (h : Holds) (id : ObjectId) : Holds where
  byHandle := h.byHandle.insert h.next id
  last := h.last + 1

def drop (h : Holds) (handle : Handle) : Holds := { h with byHandle := h.byHandle.erase handle }

/-- Handles were handed out in the order of their numbers, up to the last one. -/
def Numbered (h : Holds) (taken : List Handle) : Prop :=
  ∃ first : Nat, h.last = UInt64.ofNat (first + taken.length) ∧
    taken = (List.range' (first + 1) taken.length).map fun i => ⟨UInt64.ofNat i⟩

theorem numbered_nil (h : Holds) : h.Numbered [] :=
  ⟨h.last.toNat, UInt64.ofNat_toNat.symm, rfl⟩

theorem Numbered.add (n : h.Numbered taken) (id : ObjectId) :
    (h.add id).Numbered (taken ++ [h.next]) := by
  obtain ⟨first, last, handles⟩ := n
  have number : h.last + 1 = UInt64.ofNat (first + 1 + taken.length) := by
    rw [last, Nat.add_right_comm]
    exact (UInt64.ofNat_add _ 1).symm
  refine ⟨first, ?_, ?_⟩
  · rw [List.length_append, List.length_singleton, ← Nat.add_assoc, Nat.add_right_comm]
    exact number
  · rw [List.length_append, List.length_singleton, List.range'_concat, List.map_append, ← handles,
      Nat.one_mul, List.map_singleton, ← number]
    rfl

theorem Numbered.nodup (n : h.Numbered taken) (few : taken.length ≤ 2 ^ 64) : taken.Nodup := by
  obtain ⟨first, -, handles⟩ := n
  rw [handles]
  exact Vm.nodup_handles first few

end Holds

namespace Lending

/-- Both sides of all proxies. -/
structure Account where
  table : ProxyTable
  holds : Holds
  receipts : Receipts

namespace Account

variable {a b : Account}

/-- The two sides are the same, and the receipts say how they came about. -/
structure Balanced (a : Account) : Prop where
  consistent : a.table.Consistent
  /-- A handle is held for an object just when the table has it for the object. -/
  same : ∀ h : Handle, a.table.byHandle[h]?.map (·.id) = a.holds.byHandle[h]?
  entries : a.receipts.taken.length = a.table.size + a.receipts.released.length
  /-- As often as a handle was handed out it came back, or once less and it is held. -/
  once : ∀ h : Handle, a.receipts.taken.count h =
    a.receipts.released.count h + if h ∈ a.holds.byHandle then 1 else 0

/-- The two sides are the same, and the environment counts its handles. -/
structure Settled (a : Account) : Prop extends a.Balanced where
  numbered : a.holds.Numbered a.receipts.taken

/-- What an operation on the table can do to both sides. -/
inductive Change (a : Account) : Account → Prop
  | aside {t : ProxyTable} (objects : t.byObject = a.table.byObject)
      (handles : t.byHandle = a.table.byHandle) (kept : a.table.Consistent → t.Consistent) :
      Change a { a with table := t }
  | lends {id : ObjectId} {p : Proxy} (classes : TreeMap String ClassInfo)
      (untracked : a.table.byObject[id]? = none) (next : p.handle = a.holds.next) :
      Change a {
        table := { a.table with classes }.enter id p
        holds := a.holds.add id
        receipts := { a.receipts with taken := a.receipts.taken ++ [a.holds.next] } }
  /-- The handle that was handed out stands for another object already, and goes straight back. -/
  | clashes {id : ObjectId} {o : ObjectRef} (classes : TreeMap String ClassInfo)
      (known : a.table.byHandle[a.holds.next]? = some o) :
      Change a {
        table := { a.table with classes }
        holds := (a.holds.add id).drop a.holds.next
        receipts := {
          taken := a.receipts.taken ++ [a.holds.next]
          released := a.receipts.released ++ [a.holds.next] } }
  | returns {id : ObjectId} {p : Proxy} {t : ProxyTable}
      (removed : a.table.remove? id = some (p, t)) :
      Change a {
        table := t
        holds := a.holds.drop p.handle
        receipts := { a.receipts with released := a.receipts.released ++ [p.handle] } }

theorem Settled.held_of_known (h : a.Settled) {handle : Handle} {o : ObjectRef}
    (known : a.table.byHandle[handle]? = some o) : handle ∈ a.holds.byHandle := by
  have same := h.same handle
  rw [known, Option.map_some] at same
  exact TreeMap.mem_iff_isSome_getElem?.mpr (by rw [← same]; rfl)

theorem Settled.held_of_tracked (h : a.Settled) {id : ObjectId} {p : Proxy}
    (tracked : a.table.byObject[id]? = some p) : p.handle ∈ a.holds.byHandle := by
  obtain ⟨o, known, -⟩ := (h.consistent.inverse id p.handle).mp ⟨p, tracked, rfl⟩
  exact h.held_of_known known

theorem Settled.aside (h : a.Settled) {t : ProxyTable} (objects : t.byObject = a.table.byObject)
    (handles : t.byHandle = a.table.byHandle) (kept : t.Consistent) :
    Settled { a with table := t } where
  consistent := kept
  same := by
    simp only [handles]
    exact h.same
  entries := by
    simp only [ProxyTable.size, objects]
    exact h.entries
  once := h.once
  numbered := h.numbered

/-- A handle that nothing is held under is entered on both sides. -/
theorem Settled.lends (h : a.Settled) {id : ObjectId} {p : Proxy}
    (classes : TreeMap String ClassInfo) (untracked : a.table.byObject[id]? = none)
    (next : p.handle = a.holds.next) (free : a.holds.next ∉ a.holds.byHandle) :
    Settled {
      table := { a.table with classes }.enter id p
      holds := a.holds.add id
      receipts := { a.receipts with taken := a.receipts.taken ++ [a.holds.next] } } where
  consistent := by
    refine (h.consistent.classes classes).enter untracked ?_
    cases known : a.table.byHandle[p.handle]? with
    | none => rfl
    | some o => exact absurd (next ▸ h.held_of_known known) free
  same handle := by
    have same := h.same handle
    simp only [ProxyTable.enter, Holds.add, next, TreeMap.getElem?_insert]
    split
    · rfl
    · exact same
  entries := by
    have entries := h.entries
    have new : a.table.byObject.contains id = false := by
      rw [TreeMap.contains_eq_isSome_getElem?, untracked]
      rfl
    simp only [ProxyTable.size, ProxyTable.enter, TreeMap.size_insert, new,
      Bool.false_eq_true, if_false, List.length_append, List.length_singleton] at entries ⊢
    omega
  once handle := by
    have once := h.once handle
    simp only [Holds.add, List.count_append, List.count_singleton, TreeMap.mem_insert,
      Std.compare_eq_iff_eq, beq_iff_eq]
    by_cases here : a.holds.next = handle
    · subst here
      simp only [free, if_false] at once
      simp [once]
    · simp [here, once]
  numbered := h.numbered.add id

theorem Settled.returns (h : a.Settled) {id : ObjectId} {p : Proxy} {t : ProxyTable}
    (removed : a.table.remove? id = some (p, t)) :
    Settled {
      table := t
      holds := a.holds.drop p.handle
      receipts := { a.receipts with released := a.receipts.released ++ [p.handle] } } where
  consistent := h.consistent.remove removed
  same handle := by
    obtain ⟨-, rfl⟩ := ProxyTable.remove?_some removed
    have same := h.same handle
    simp only [Holds.drop, TreeMap.getElem?_erase]
    split
    · rfl
    · exact same
  entries := by
    obtain ⟨tracked, rfl⟩ := ProxyTable.remove?_some removed
    have entries := h.entries
    have there : a.table.byObject.contains id = true := by
      rw [TreeMap.contains_eq_isSome_getElem?, tracked]
      rfl
    have full : 0 < a.table.byObject.size := by
      have full := TreeMap.isEmpty_eq_false_of_contains there
      rw [TreeMap.isEmpty_eq_size_eq_zero, beq_eq_false_iff_ne] at full
      exact Nat.pos_of_ne_zero full
    simp only [ProxyTable.size, TreeMap.size_erase, there, if_true, List.length_append,
      List.length_singleton] at entries ⊢
    omega
  once handle := by
    obtain ⟨tracked, -⟩ := ProxyTable.remove?_some removed
    have once := h.once handle
    have held := h.held_of_tracked tracked
    simp only [Holds.drop, List.count_append, List.count_singleton, TreeMap.mem_erase, beq_iff_eq]
    by_cases here : p.handle = handle
    · subst here
      simp only [held, if_true] at once
      simp [once]
    · simp [here, once]
  numbered := h.numbered

/-- No handle comes back twice, as long as a word can count them. -/
theorem Settled.released_nodup (h : a.Settled) (few : a.receipts.taken.length ≤ 2 ^ 64) :
    a.receipts.released.Nodup := by
  have distinct := List.nodup_iff_count.mp (h.numbered.nodup few)
  refine List.nodup_iff_count.mpr fun handle => ?_
  have once := h.once handle
  have atMost := distinct handle
  omega

theorem Settled.next_free (h : a.Settled) (few : a.receipts.taken.length < 2 ^ 64) :
    a.holds.next ∉ a.holds.byHandle := by
  intro held
  -- What is held was taken, and the next handle is not among the first ones taken.
  have distinct := (h.numbered.add 0).nodup (List.length_append ▸ few)
  have taken : a.holds.next ∈ a.receipts.taken := by
    have once := h.once a.holds.next
    rw [if_pos held] at once
    exact List.count_pos_iff.mp (by omega)
  exact (List.nodup_append.mp distinct).2.2 _ taken _ (List.mem_singleton_self _) rfl

/-- **What an operation does to both sides leaves them the same,** if no handle is handed out that
is held. -/
theorem Change.settled (c : Change a b) (h : a.Settled)
    (fresh : b.receipts.taken ≠ a.receipts.taken → a.holds.next ∉ a.holds.byHandle) :
    b.Settled := by
  have longer : a.receipts.taken ++ [a.holds.next] ≠ a.receipts.taken := by simp
  cases c with
  | aside objects handles kept => exact h.aside objects handles (kept h.consistent)
  | lends classes untracked next => exact h.lends classes untracked next (fresh longer)
  -- Whatever the table knows is held, so the handle was not free.
  | clashes classes known => exact absurd (h.held_of_known known) (fresh longer)
  | returns removed => exact h.returns removed

end Account

/-! ## 3. Lenders -/

variable {σ : Type} {env : Environment σ}

/-- What one can read of an environment that holds objects. -/
structure Books (σ : Type) where
  holds : σ → Holds
  slot : σ → Option ObjectId
  /-- Whether the environment's own count is that of the receipts. -/
  Agrees : σ → Receipts → Prop

/-- The books are as they were, except for the slot. -/
def Books.Steady (books : Books σ) (s s' : σ) : Prop :=
  books.holds s' = books.holds s ∧ ∀ r, books.Agrees s r → books.Agrees s' r

/-- An environment that holds objects on behalf of one table. -/
structure Lender (env : Environment σ) extends Books σ where
  /-- What may happen while the table asks nothing. -/
  Meanwhile : σ → σ → Prop
  meanwhile_steady : ∀ {s s' : σ}, Meanwhile s s' → toBooks.Steady s s' ∧ slot s' = slot s
  category_reads : ∀ id, (env.objectCategory id).Reads
  className_reads : ∀ id, (env.objectClass id).Reads
  classInfo_reads : ∀ name, (env.classInfo name).Reads
  install_steady : ∀ (id : ObjectId) (s : σ),
    toBooks.Steady s ((env.installTransport id).run s).2 ∧
      (((env.installTransport id).run s).1 = .ok () →
        slot ((env.installTransport id).run s).2 = some id)
  /-- The slot is refused, or what is in it is held under the next handle. -/
  take_cases : ∀ s : σ, (∃ e, env.takeTransport.run s = (.error e, s)) ∨
    ∃ id s', env.takeTransport.run s = (.ok (holds s).next, s') ∧ slot s = some id ∧
      holds s' = (holds s).add id ∧
      ∀ r, Agrees s r → Agrees s' { r with taken := r.taken ++ [(holds s).next] }
  /-- What is held can be given back. -/
  release_held : ∀ {handle : Handle} {s : σ}, handle ∈ (holds s).byHandle →
    ∃ s', (env.release handle).run s = (.ok (), s') ∧ holds s' = (holds s).drop handle ∧
      ∀ r, Agrees s r → Agrees s' { r with released := r.released ++ [handle] }

namespace Lender

variable {lender : Lender env} {meanwhile : Question → σ → σ}

/-- Nothing is noted and nothing changes on the books. -/
def Still (lender : Lender env) (x y : σ × Receipts) : Prop :=
  lender.Steady x.1 y.1 ∧ y.2 = x.2

instance : Std.Refl lender.Still := ⟨fun _ => ⟨⟨rfl, fun _ h => h⟩, rfl⟩⟩

instance : Trans lender.Still lender.Still lender.Still where
  trans h h' := ⟨⟨h'.1.1.trans h.1.1, fun r a => h'.1.2 r (h.1.2 r a)⟩, h'.2.trans h.2⟩

theorem still_noting {α : Type} (quiet : ∀ q s, lender.Meanwhile s (meanwhile q s)) (q : Question)
    {a : Action σ RuntimeError α} (reads : a.Reads) :
    Action.Within lender.Still (Environment.noting (meanwhile q) a fun _ r => r) := by
  intro x
  rw [Environment.run_noting, reads]
  exact ⟨(lender.meanwhile_steady (quiet q x.1)).1, rfl⟩

def account (lender : Lender env) (x : ProxyTable × (σ × Receipts)) : Account :=
  ⟨x.1, lender.holds x.2.1, x.2.2⟩

/-- Both sides change as one of the operations does it, and the books go along. -/
def Follows (lender : Lender env) (x y : ProxyTable × (σ × Receipts)) : Prop :=
  Account.Change (lender.account x) (lender.account y) ∧
    (lender.Agrees x.2.1 x.2.2 → lender.Agrees y.2.1 y.2.2)

variable {x : ProxyTable × (σ × Receipts)}

theorem Still.follows {w : σ × Receipts} (still : lender.Still x.2 w) {t : ProxyTable}
    (objects : t.byObject = x.1.byObject) (handles : t.byHandle = x.1.byHandle)
    (kept : x.1.Consistent → t.Consistent) : lender.Follows x (t, w) := by
  obtain ⟨t₀, s, r⟩ := x
  obtain ⟨s', r'⟩ := w
  obtain ⟨⟨holds, agrees⟩, rfl⟩ := still
  refine ⟨?_, agrees r'⟩
  unfold account
  rw [holds]
  exact .aside objects handles kept

/-! ## 4. Operations on a table -/

/-- Between putting an object into the slot and picking it up nothing but the slot has changed. -/
theorem still_install (quiet : ∀ q s, lender.Meanwhile s (meanwhile q s)) (id : ObjectId)
    {w w' : σ × Receipts} {r : Except RuntimeError Unit}
    (install : ((env.noted meanwhile).installTransport id).run w = (r, w')) :
    lender.Still w w' ∧ (r = .ok () → lender.slot w'.1 = some id) := by
  have before := (lender.meanwhile_steady (quiet .install w.1)).1
  obtain ⟨after, full⟩ := lender.install_steady id (meanwhile .install w.1)
  cases install
  exact ⟨⟨⟨after.1.trans before.1, fun r a => after.2 r (before.2 r a)⟩, rfl⟩, full⟩

/-- An object is put into the slot and the slot is picked up: refused, or held under the next handle
as the object that was put there. -/
theorem handshake (quiet : ∀ q s, lender.Meanwhile s (meanwhile q s)) {id : ObjectId}
    {w₀ w w' w'' : σ × Receipts} {r : Except RuntimeError Handle} (looked : lender.Still w₀ w)
    (install : ((env.noted meanwhile).installTransport id).run w = (.ok (), w'))
    (take : (env.noted meanwhile).takeTransport.run w' = (r, w'')) :
    ((∃ e, r = .error e) ∧ lender.Still w₀ w'') ∨
      r = .ok (lender.holds w₀.1).next ∧ lender.holds w''.1 = (lender.holds w₀.1).add id ∧
        w''.2 = { w₀.2 with taken := w₀.2.taken ++ [(lender.holds w₀.1).next] } ∧
        (lender.Agrees w₀.1 w₀.2 → lender.Agrees w''.1 w''.2) := by
  obtain ⟨installed, full⟩ := still_install quiet id install
  -- The environment goes on once more before the slot is picked up, and leaves the slot alone.
  obtain ⟨steady, slot⟩ := lender.meanwhile_steady (quiet .take w'.1)
  have waited : lender.Still w' (meanwhile .take w'.1, w'.2) := ⟨steady, rfl⟩
  have still := Trans.trans (Trans.trans looked installed) waited
  have ⟨⟨holds, agrees⟩, noted⟩ := still
  rw [Environment.run_takeTransport] at take
  rcases lender.take_cases (meanwhile .take w'.1) with ⟨e, eq⟩ | ⟨id', s', eq, full', held, agrees'⟩
  · rw [eq] at take
    cases take
    exact .inl ⟨⟨e, rfl⟩, still⟩
  · rw [eq] at take
    cases take
    rw [slot, full rfl] at full'
    cases full'
    replace noted : w'.2 = w₀.2 := noted
    rw [holds] at held agrees' ⊢
    rw [noted]
    exact .inr ⟨rfl, held, rfl, fun a => agrees' w₀.2 (agrees w₀.2 a)⟩

theorem release_noted (quiet : ∀ q s, lender.Meanwhile s (meanwhile q s)) {handle : Handle}
    {w : σ × Receipts} (held : handle ∈ (lender.holds w.1).byHandle) :
    ∃ s', ((env.noted meanwhile).release handle).run w =
        (.ok (), (s', { w.2 with released := w.2.released ++ [handle] })) ∧
      lender.holds s' = (lender.holds w.1).drop handle ∧
      (lender.Agrees w.1 w.2 →
        lender.Agrees s' { w.2 with released := w.2.released ++ [handle] }) := by
  obtain ⟨⟨holds, agrees⟩, -⟩ := lender.meanwhile_steady (quiet .release w.1)
  rw [← holds] at held
  obtain ⟨s', eq, dropped, agrees'⟩ := lender.release_held held
  rw [holds] at dropped
  refine ⟨s', ?_, dropped, fun a => agrees' w.2 (agrees w.2 a)⟩
  rw [Environment.run_release, eq]

theorem follows_obtain (quiet : ∀ q s, lender.Meanwhile s (meanwhile q s)) (object : ObjectRef) :
    lender.Follows x ((ProxyTable.obtainFor (env.noted meanwhile) object).run x).2 := by
  have obtains : ProxyTable.Obtains lender.Still (env.noted meanwhile) object x _ :=
    ProxyTable.obtainFor_obtains (fun id => still_noting quiet .category (lender.category_reads id))
      (fun id => still_noting quiet .className (lender.className_reads id))
      (fun name => still_noting quiet .classInfo (lender.classInfo_reads name)) object x
  generalize (ProxyTable.obtainFor (env.noted meanwhile) object).run x = out at obtains ⊢
  cases obtains with
  | known tracked => exact Still.follows (Std.Refl.refl x.2) rfl rfl id
  | hidden looked => exact looked.follows rfl rfl id
  | refused e classes looked => exact looked.follows rfl rfl (·.classes classes)
  | notInstalled classes looked install =>
    have still := Trans.trans looked (still_install quiet object.id install).1
    exact Still.follows still rfl rfl (·.classes classes)
  | notTaken classes looked install take =>
    rcases handshake quiet looked install take with ⟨-, still⟩ | ⟨⟨⟩, -⟩
    exact Still.follows still rfl rfl (·.classes classes)
  | @clashed _ _ w _ _ classes looked install take bound =>
    rcases handshake quiet looked install take with ⟨⟨e, ⟨⟩⟩, -⟩ | ⟨handed, held, noted, agrees⟩
    cases handed
    have back : (lender.holds x.2.1).next ∈ (lender.holds w.1).byHandle := by
      rw [held]
      exact TreeMap.mem_insert_self
    obtain ⟨s', released, dropped, agrees'⟩ := release_noted quiet back
    rw [released, noted]
    refine ⟨?_, fun a => ?_⟩
    · unfold account
      rw [dropped, held]
      exact .clashes classes bound
    · rw [noted] at agrees agrees'
      exact agrees' (agrees a)
  | made classes untracked looked install take unused =>
    rcases handshake quiet looked install take with ⟨⟨e, ⟨⟩⟩, -⟩ | ⟨handed, held, noted, agrees⟩
    cases handed
    refine ⟨?_, agrees⟩
    unfold account
    rw [held, noted]
    exact .lends classes untracked rfl

theorem follows_forget (quiet : ∀ q s, lender.Meanwhile s (meanwhile q s))
    (settled : (lender.account x).Settled) (id : ObjectId) :
    lender.Follows x ((ProxyTable.forget (env.noted meanwhile) id).run x).2 := by
  unfold ProxyTable.forget
  rw [Action.run_bind, ProxyTable.run_getTable]
  dsimp only
  cases removed : x.1.remove? id with
  | none => exact Still.follows (Std.Refl.refl x.2) rfl rfl fun h => h
  | some r =>
    obtain ⟨p, t⟩ := r
    dsimp only
    rw [Action.run_bind, ProxyTable.run_setTable]
    dsimp only
    -- The entry has gone already, but it is the hold of an entry, so it will be taken back.
    have held := settled.held_of_tracked (ProxyTable.remove?_some removed).1
    obtain ⟨s', released, dropped, agrees⟩ := release_noted quiet held
    unfold ProxyTable.letGo
    rw [Action.run_bind, ProxyTable.run_attempt, released]
    refine ⟨?_, agrees⟩
    show Account.Change _ ⟨t, lender.holds s', _⟩
    rw [dropped]
    exact .returns removed

/-- **What an operation does to the two sides of all proxies.** -/
theorem follows_command (quiet : ∀ q s, lender.Meanwhile s (meanwhile q s))
    (settled : (lender.account x).Settled) {c : ProxyTable.Command} (going : c ≠ .clear) :
    lender.Follows x (c.run (env.noted meanwhile) x) := by
  have same : lender.Still x.2 x.2 := Std.Refl.refl x.2
  cases c with
  | obtain object => exact follows_obtain quiet object
  | forget id => exact follows_forget quiet settled id
  | forgetProxy p =>
    show lender.Follows x ((ProxyTable.forgetProxy (env.noted meanwhile) p).run x).2
    unfold ProxyTable.forgetProxy
    rw [Action.run_bind, ProxyTable.run_getTable]
    dsimp only
    cases x.1.objectFor? p.handle with
    | none => exact same.follows rfl rfl id
    | some o => exact follows_forget quiet settled o.id
  | clear => exact absurd rfl going
  | bindName scope name p =>
    show lender.Follows x ((ProxyTable.bindName scope name p).run x).2
    unfold ProxyTable.bindName
    rw [Action.run_bind, ProxyTable.run_getTable]
    dsimp only
    cases bound : x.1.bind? scope name p with
    | none => exact same.follows rfl rfl id
    | some t =>
      obtain ⟨objects, handles⟩ := ProxyTable.bind?_kept bound
      exact same.follows objects handles (·.bind bound)
  | unbindName scope name =>
    obtain ⟨objects, handles⟩ := x.1.unbind_kept scope name
    exact same.follows objects handles (·.unbind scope name)
  | classInfo name =>
    obtain ⟨r, classes, w, h, kept, -⟩ :=
      ProxyTable.run_classInfo (env.noted meanwhile) name x
    show lender.Follows x ((ProxyTable.classInfo (env.noted meanwhile) name).run x).2
    rw [h]
    have still : lender.Still x.2 w := by
      rcases kept with rfl | rfl
      · exact same
      · exact still_noting quiet .classInfo (lender.classInfo_reads name) x.2
    exact still.follows rfl rfl (·.classes classes)

end Lender

/-! ## 5. Any operations -/

/-- What can become of an empty table and of an environment that holds nothing, when the table is
never emptied at once and no handle is handed out that is held. -/
inductive Reached (lender : Lender env) : ProxyTable × (σ × Receipts) → Prop
  | start (s : σ) (none : (lender.holds s).byHandle.isEmpty = true) (agrees : lender.Agrees s {}) :
      Reached lender ({}, (s, {}))
  | command {x : ProxyTable × (σ × Receipts)} (c : ProxyTable.Command)
      (meanwhile : Question → σ → σ) (quiet : ∀ q s, lender.Meanwhile s (meanwhile q s))
      (going : c ≠ .clear)
      (fresh : (c.run (env.noted meanwhile) x).2.2.taken ≠ x.2.2.taken →
        (lender.holds x.2.1).next ∉ (lender.holds x.2.1).byHandle) :
      Reached lender x → Reached lender (c.run (env.noted meanwhile) x)
  | elsewhere {x : ProxyTable × (σ × Receipts)} {s : σ} (may : lender.Meanwhile x.2.1 s) :
      Reached lender x → Reached lender (x.1, (s, x.2.2))

theorem Reached.settled {lender : Lender env} {x : ProxyTable × (σ × Receipts)}
    (h : Reached lender x) :
    (lender.account x).Settled ∧ lender.Agrees x.2.1 x.2.2 := by
  induction h with
  | start s none agrees =>
    have unheld (handle : Handle) : handle ∉ (lender.holds s).byHandle :=
      TreeMap.not_mem_of_isEmpty none
    refine ⟨⟨⟨ProxyTable.consistent_empty, ?_, rfl, ?_⟩, (lender.holds s).numbered_nil⟩, agrees⟩
    · intro handle
      show (∅ : TreeMap Handle ObjectRef)[handle]?.map _ = (lender.holds s).byHandle[handle]?
      rw [TreeMap.getElem?_emptyc, TreeMap.getElem?_eq_none (unheld handle)]
      rfl
    · intro handle
      show 0 = 0 + if handle ∈ (lender.holds s).byHandle then 1 else 0
      rw [if_neg (unheld handle)]
  | command c meanwhile quiet going fresh _ ih =>
    obtain ⟨settled, agrees⟩ := ih
    obtain ⟨change, agrees'⟩ := Lender.follows_command quiet settled going
    exact ⟨change.settled settled fresh, agrees' agrees⟩
  | elsewhere may _ ih =>
    obtain ⟨settled, agrees⟩ := ih
    obtain ⟨⟨holds, agrees'⟩, -⟩ := lender.meanwhile_steady may
    refine ⟨?_, agrees' _ agrees⟩
    unfold Lender.account
    rw [holds]
    exact settled

theorem Account.Change.taken_le {a b : Account} (c : Account.Change a b) :
    b.receipts.taken.length ≤ a.receipts.taken.length + 1 := by
  cases c <;> simp

/-- As long as a word can count the operations, nothing is asked of the environment. -/
theorem Reached.commands {lender : Lender env} {meanwhile : Question → σ → σ}
    (quiet : ∀ q s, lender.Meanwhile s (meanwhile q s)) {cs : List ProxyTable.Command}
    (going : .clear ∉ cs) {x : ProxyTable × (σ × Receipts)} (h : Reached lender x)
    (few : x.2.2.taken.length + cs.length ≤ 2 ^ 64) :
    Reached lender (cs.foldl (fun x c => c.run (env.noted meanwhile) x) x) := by
  induction cs generalizing x with
  | nil => exact h
  | cons c rest ih =>
    obtain ⟨first, others⟩ := List.ne_and_not_mem_of_not_mem_cons going
    have settled := h.settled.1
    rw [List.length_cons] at few
    have fresh : (lender.holds x.2.1).next ∉ (lender.holds x.2.1).byHandle :=
      settled.next_free (show x.2.2.taken.length < 2 ^ 64 by omega)
    have more : (c.run (env.noted meanwhile) x).2.2.taken.length ≤ x.2.2.taken.length + 1 :=
      (Lender.follows_command quiet settled first.symm).1.taken_le
    refine ih others (h.command c meanwhile quiet first.symm fun _ => fresh) ?_
    show (c.run (env.noted meanwhile) x).2.2.taken.length + rest.length ≤ 2 ^ 64
    omega

end Lending

/-! ## 6. A debuggee lends -/

namespace Vm

variable {v w : Vm}

/-- The object in the transport slot. -/
def slot? (v : Vm) : Option ObjectId :=
  match v.shared.heap.static? transportClass.name transportField with
  | some (.object o) => some o.id
  | _ => none

/-- Whether a deed takes no hold, gives none back and does not end the launch. -/
def Deed.sparesHolds : Deed → Bool
  | shutdown | takeTransport | release _ => false
  | _ => true

theorem Change.spares {d : Deed} (c : Change v d w) (spares : d.sparesHolds = true) :
    w.holds = v.holds := by
  cases c with
  | takes | shutsDown | releases => cases spares
  | launches down =>
    rw [launch_eq down]
    rfl
  | idle | steps | asks | defines | spawns | allocates | installs | setsBreakpoint
  | clearsBreakpoint | breaksOnUncaught => rfl

theorem after_spares {ds : List Deed} (spare : ∀ d ∈ ds, d.sparesHolds = true) (v : Vm) :
    (v.after ds).holds = v.holds := by
  induction ds generalizing v with
  | nil => rfl
  | cons d rest ih =>
    obtain ⟨first, others⟩ := List.forall_mem_cons.mp spare
    exact (ih others (d.run v)).trans ((d.change v).spares first)

/-- What a debuggee may do by itself, and others with it: anything that spares the holds and leaves
in the slot what is there. -/
def Meanwhile (v w : Vm) : Prop :=
  ∃ ds : List Deed, (∀ d ∈ ds, d.sparesHolds = true) ∧ w = v.after ds ∧ w.slot? = v.slot?

theorem installTransport_slot {id : ObjectId} (ok : (installTransport id).run v = (.ok (), w)) :
    w.slot? = some id := by
  unfold installTransport at ok
  rcases (reads_requireObject id).cases _ v with ⟨e, -, eq⟩ | ⟨o, -, eq⟩
  · rw [eq] at ok
    cases ok
  rw [eq, Action.run_get_bind] at ok
  dsimp only at ok
  cases stored : v.shared.heap.setStatic? transportClass.name transportField
      (.object (o.ref id)) with
  | none =>
    rw [stored] at ok
    cases ok
  | some heap =>
    rw [stored] at ok
    cases ok
    have read := Heap.static?_of_setStatic? stored
    unfold slot?
    rw [read]
    rfl

def lender : Lending.Lender environment where
  holds := Vm.holds
  slot := slot?
  Agrees _ _ := True
  Meanwhile := Meanwhile
  meanwhile_steady := by
    rintro v _ ⟨ds, spare, rfl, slot⟩
    exact ⟨⟨after_spares spare v, fun _ h => h⟩, slot⟩
  category_reads := reads_objectCategory
  className_reads := reads_objectClass
  classInfo_reads := reads_classInfo
  install_steady id v := by
    have kept := ((Deed.installTransport id).change v).spares rfl
    exact ⟨⟨kept, fun _ h => h⟩, fun ok => installTransport_slot (Prod.ext ok rfl)⟩
  take_cases v := by
    rcases v.takeTransport_cases with ⟨e, eq⟩ | ⟨o, heap, full, -, eq⟩
    · exact .inl ⟨e, eq⟩
    · refine .inr ⟨o.id, _, eq, ?_, rfl, fun _ h => h⟩
      unfold slot?
      rw [full]
  release_held := by
    intro handle v held
    refine ⟨{ v with holds := v.holds.drop handle }, ?_, rfl, fun _ h => h⟩
    show (if v.holds.byHandle.contains handle then _ else throw (.invalidHandle handle) :
      Op Unit).run v = _
    rw [if_pos (TreeMap.mem_iff_contains.mp held)]
    rfl

end Vm

/-! ## 7. An object store lends -/

namespace ObjectStore

def Meanwhile (s s' : ObjectStore) : Prop :=
  ∃ classes objects, s' = { s with classes, objects }

theorem reads_requireObject (id : ObjectId) : (requireObject id).Reads := by
  refine .get_bind fun s => ?_
  cases s.objects[id]? with
  | none => exact .throw _
  | some o => exact .pure _

theorem reads_classInfo (name : String) : (classInfo name).Reads := by
  refine .get_bind fun s => ?_
  cases s.classes[name]? with
  | none => exact .throw _
  | some c => exact .pure _

/-- An object store lends, and it counts for itself. -/
def lender : Lending.Lender environment where
  holds s := ⟨s.holds, s.lastHandle⟩
  slot := slot
  Agrees s r := s.registrations = r.taken.length ∧ s.released = r.released
  Meanwhile := Meanwhile
  meanwhile_steady := by
    rintro s _ ⟨classes, objects, rfl⟩
    exact ⟨⟨rfl, fun _ h => h⟩, rfl⟩
  category_reads id := (reads_requireObject id).bind fun _ => .pure _
  className_reads id := (reads_requireObject id).bind fun _ => .pure _
  classInfo_reads := reads_classInfo
  install_steady id s := by
    show Lending.Books.Steady _ s ((installTransport id).run s).2 ∧
      (((installTransport id).run s).1 = .ok () → ((installTransport id).run s).2.slot = some id)
    unfold installTransport
    rcases (reads_requireObject id).cases _ s with ⟨e, -, eq⟩ | ⟨o, -, eq⟩
    · rw [eq]
      exact ⟨⟨rfl, fun _ h => h⟩, nofun⟩
    · rw [eq]
      exact ⟨⟨rfl, fun _ h => h⟩, fun _ => rfl⟩
  take_cases s := by
    show (∃ e, takeTransport.run s = (.error e, s)) ∨ ∃ id s', takeTransport.run s = _ ∧ _
    unfold takeTransport
    rw [Action.run_get_bind]
    cases full : s.slot with
    | none => exact .inl ⟨_, rfl⟩
    | some id =>
      refine .inr ⟨id, _, rfl, rfl, rfl, ?_⟩
      rintro r ⟨count, back⟩
      refine ⟨?_, back⟩
      rw [List.length_append, List.length_singleton, ← count]
  release_held := by
    intro handle s held
    refine ⟨{ s with
      holds := s.holds.erase handle
      released := s.released ++ [handle] }, ?_, rfl, ?_⟩
    · show (if s.holds.contains handle then _ else throw (.invalidHandle handle) :
        Action ObjectStore RuntimeError Unit).run s = _
      rw [if_pos (TreeMap.mem_iff_contains.mp held)]
      rfl
    · rintro r ⟨count, back⟩
      exact ⟨count, congrArg (· ++ [handle]) back⟩

end ObjectStore

/-! ## 8. Every hold has an entry -/

namespace Lending

/-- **Every hold has an entry and every entry its hold, and none is given back twice,** whatever the
only table that uses the transport is asked to do. The table may speak to a debuggee or to an object
store, and the store's own count comes out the same. -/
theorem every_hold_has_an_entry :
    (∀ x : ProxyTable × (Vm × Receipts), Reached Vm.lender x →
      Account.Balanced ⟨x.1, x.2.1.holds, x.2.2⟩ ∧
      (x.2.2.taken.length ≤ 2 ^ 64 → x.2.2.released.Nodup)) ∧
    ∀ x : ProxyTable × (ObjectStore × Receipts), Reached ObjectStore.lender x →
      Account.Balanced ⟨x.1, ⟨x.2.1.holds, x.2.1.lastHandle⟩, x.2.2⟩ ∧
      x.2.1.registrations = x.1.size + x.2.1.released.length ∧
      (x.2.1.registrations ≤ 2 ^ 64 → x.2.1.released.Nodup) := by
  refine ⟨fun x h => ?_, fun x h => ?_⟩
  · have settled := h.settled.1
    exact ⟨settled.toBalanced, settled.released_nodup⟩
  · obtain ⟨settled, count, back⟩ := h.settled
    rw [count, back]
    exact ⟨settled.toBalanced, settled.entries, settled.released_nodup⟩

/-- An object is tracked, named, forgotten twice and tracked again. -/
def tracksAgain (id : ObjectId) (className : String) : List ProxyTable.Command :=
  [.obtain ⟨id, className⟩, .bindName "" "kept" ⟨⟨1⟩, className⟩, .forget id, .forget id,
    .obtain ⟨id, className⟩]

def stringVm : Vm := Vm.fresh.after [.launch, .newString "kept"]

/-- Somebody sets break on uncaught before each question. -/
def restless : Question → Vm → Vm := fun _ v => v.after [.setBreakOnUncaught true]

def lentTwice : ProxyTable × (Vm × Receipts) :=
  (tracksAgain 1 "String").foldl (fun x c => c.run (Vm.environment.noted restless) x)
    ({}, (stringVm, {}))

def storedTwice : ProxyTable × (ObjectStore × Receipts) :=
  (tracksAgain 5 "Widget").foldl
    (fun x c => c.run (ObjectStore.environment.noted ProxyTable.idle) x)
    ({}, (ObjectStore.insertObject {} 5 "Widget" .plain, {}))

theorem lentTwice_reached : Reached Vm.lender lentTwice := by
  refine Reached.commands ?_ (by simp [tracksAgain]) (.start stringVm rfl trivial) (by decide)
  intro q v
  exact ⟨_, by simp [Vm.Deed.sparesHolds], rfl, rfl⟩

theorem storedTwice_reached : Reached ObjectStore.lender storedTwice := by
  refine Reached.commands ?_ (by simp [tracksAgain]) (.start _ rfl ⟨rfl, rfl⟩) (by decide)
  intro q s
  exact ⟨s.classes, s.objects, rfl⟩

/-- The object comes back under another handle, and the first one was given back once. -/
theorem forgotten_twice_released_once :
    lentTwice.2.2.released = [⟨1⟩] ∧ lentTwice.2.1.holds.byHandle[(⟨2⟩ : Handle)]? = some 1 ∧
      lentTwice.1.byHandle[(⟨2⟩ : Handle)]?.map (·.id) =
        lentTwice.2.1.holds.byHandle[(⟨2⟩ : Handle)]? ∧
      storedTwice.2.1.registrations = 2 ∧ storedTwice.1.size = 1 ∧
      storedTwice.2.1.registrations = storedTwice.1.size + storedTwice.2.1.released.length := by
  obtain ⟨vm, -⟩ := every_hold_has_an_entry.1 lentTwice lentTwice_reached
  obtain ⟨-, count, -⟩ := every_hold_has_an_entry.2 storedTwice storedTwice_reached
  exact ⟨rfl, rfl, vm.same ⟨2⟩, rfl, rfl, count⟩

end Lending

end Debugger
