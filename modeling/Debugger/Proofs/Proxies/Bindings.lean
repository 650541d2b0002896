import Debugger.Proofs.Proxies.Consistency
/-!
# What a name stands for

The table of proxies keeps the names of each scope apart, and what a name stands for is put together
from all of them when somebody asks. Here that is said by look-ups: a name stands for its binding in
the greatest scope that has one (`getElem?_bindings_iff`), and it is taken just when it stands for
something (`mem_bindings_iff`). Binding a name changes one look-up, so a name that was free is a new
one and every other name stands for what it stood for.

## 1. Look-ups in all scopes

## 2. Binding a name
-/

namespace Debugger.ProxyTable

open Std (TreeMap)

variable {t t' : ProxyTable} {scope name : String} {p q : Proxy}

/-! ## 1. Look-ups in all scopes -/

/-- What a name is bound to in a scope. -/
def binding? (t : ProxyTable) (scope name : String) : Option Proxy :=
  t.names[scope]?.bind (·[name]?)

/-- A name is bound in a scope, and in no greater one. -/
structure Shown (t : ProxyTable) (scope name : String) (p : Proxy) : Prop where
  bound : t.binding? scope name = some p
  greatest : ∀ other, compare scope other = .lt → t.binding? other name = none

/-- There is one greatest scope. -/
theorem Shown.unique {other : String} (h : t.Shown scope name p) (h' : t.Shown other name q) :
    p = q := by
  cases order : compare scope other with
  | lt => cases (h.greatest other order).symm.trans h'.bound
  | eq =>
    cases Std.compare_eq_iff_eq.mp order
    exact Option.some.inj (h.bound.symm.trans h'.bound)
  | gt =>
    cases (h'.greatest scope (Std.OrientedCmp.lt_of_gt order)).symm.trans h.bound

theorem getElem?_foldl_insert (m all : TreeMap String Proxy) :
    (m.foldl (fun all name p => all.insert name p) all)[name]? = m[name]?.or all[name]? := by
  have fold : m.foldl (fun all name p => all.insert name p) all = all.insertMany m.toList := by
    rw [TreeMap.foldl_eq_foldl_toList]
    induction m.toList generalizing all with
    | nil => rfl
    | cons b bs ih => rw [List.foldl_cons, ih, TreeMap.insertMany_cons]
  rw [fold]
  cases bound : m[name]? with
  | none =>
    have absent : (m.toList.map Prod.fst).contains name = false := by
      rw [TreeMap.map_fst_toList_eq_keys, TreeMap.contains_keys]
      rw [TreeMap.contains_eq_isSome_getElem?, bound, Option.isSome_none]
    rw [TreeMap.getElem?_insertMany_list_of_contains_eq_false absent, Option.none_or]
  | some p =>
    have there := TreeMap.mem_toList_iff_getElem?_eq_some.mpr bound
    rw [TreeMap.getElem?_insertMany_list_of_mem Std.ReflCmp.compare_self
      TreeMap.distinct_keys_toList there, Option.some_or]

theorem bindings_eq (t : ProxyTable) :
    t.bindings[name]? = t.names.toList.reverse.findSome? (·.2[name]?) := by
  have fold : ∀ (scopes : List (String × TreeMap String Proxy)) (all : TreeMap String Proxy),
      (scopes.foldl (fun all s => s.2.foldl (fun all name p => all.insert name p) all) all)[name]? =
        (scopes.reverse.findSome? (·.2[name]?)).or all[name]? := by
    intro scopes
    induction scopes with
    | nil => simp
    | cons s rest ih =>
      intro all
      rw [List.foldl_cons, ih, getElem?_foldl_insert, List.reverse_cons, List.findSome?_append,
        Option.or_assoc]
      simp
  unfold bindings
  rw [TreeMap.foldl_eq_foldl_toList, fold, TreeMap.getElem?_emptyc, Option.or_none]

theorem any_eq_any_toList {β : Type} (m : TreeMap String β) (f : String → β → Bool) :
    m.any f = m.toList.any fun x => f x.1 x.2 := by
  have loop : m.any f = Id.run (do
      for x in m do
        if f x.1 x.2 then return true
      return false) := rfl
  rw [loop]
  simp only [TreeMap.forIn_eq_forIn_toList]
  induction m.toList with
  | nil => rfl
  | cons x xs ih =>
    cases h : f x.1 x.2 <;> simp_all

theorem binding?_eq_some {scope name : String} {p : Proxy} : t.binding? scope name = some p ↔
    ∃ bindings, (scope, bindings) ∈ t.names.toList ∧ bindings[name]? = some p := by
  simp [binding?, Option.bind_eq_some_iff]

/-- The binding that a name stands for is in the greatest of the scopes that have one. -/
theorem shown_of_bindings (h : t.bindings[name]? = some p) : ∃ scope, t.Shown scope name p := by
  rw [bindings_eq, List.findSome?_eq_some_iff] at h
  obtain ⟨after, ⟨scope, bindings⟩, before, split, bound, none⟩ := h
  have parts : t.names.toList = before.reverse ++ (scope, bindings) :: after.reverse := by
    simpa using congrArg List.reverse split
  have sorted := TreeMap.ordered_keys_toList (t := t.names)
  rw [parts, List.pairwise_append] at sorted
  refine ⟨scope, binding?_eq_some.mpr ⟨bindings, by simp [parts], bound⟩, fun other greater => ?_⟩
  rw [Option.eq_none_iff_forall_ne_some]
  intro q hq
  obtain ⟨others, there, hq⟩ := binding?_eq_some.mp hq
  rw [parts, List.mem_append, List.mem_cons] at there
  rcases there with smaller | same | there
  · have less := sorted.2.2 _ smaller _ List.mem_cons_self
    exact Std.OrientedCmp.not_lt_of_lt greater less
  · cases same
    exact Std.OrientedCmp.not_lt_of_lt greater greater
  · cases (none _ (List.mem_reverse.mp there)).symm.trans hq

/-- **A name stands for its binding in the greatest scope that has one.** -/
theorem getElem?_bindings_iff : t.bindings[name]? = some p ↔ ∃ scope, t.Shown scope name p := by
  constructor
  · exact shown_of_bindings
  · rintro ⟨scope, shown⟩
    cases h : t.bindings[name]? with
    | some q =>
      obtain ⟨other, shown'⟩ := shown_of_bindings h
      rw [shown.unique shown']
    | none =>
      obtain ⟨bindings, there, bound⟩ := binding?_eq_some.mp shown.bound
      rw [bindings_eq, List.findSome?_eq_none_iff] at h
      cases (h _ (List.mem_reverse.mpr there)).symm.trans bound

theorem isTaken_iff : t.isTaken name = true ↔ ∃ scope p, t.binding? scope name = some p := by
  unfold isTaken
  rw [any_eq_any_toList, List.any_eq_true]
  constructor
  · rintro ⟨⟨scope, bindings⟩, there, bound⟩
    obtain ⟨p, bound⟩ := Option.isSome_iff_exists.mp (TreeMap.contains_eq_isSome_getElem?.symm.trans bound)
    exact ⟨scope, p, binding?_eq_some.mpr ⟨bindings, there, bound⟩⟩
  · rintro ⟨scope, p, bound⟩
    obtain ⟨bindings, there, bound⟩ := binding?_eq_some.mp bound
    refine ⟨(scope, bindings), there, ?_⟩
    rw [TreeMap.contains_eq_isSome_getElem?, bound, Option.isSome_some]

/-- **A name is taken just when it stands for something.** -/
theorem mem_bindings_iff : name ∈ t.bindings ↔ t.isTaken name = true := by
  rw [isTaken_iff]
  constructor
  · intro there
    obtain ⟨p, stands⟩ := Option.isSome_iff_exists.mp
      (TreeMap.contains_eq_isSome_getElem?.symm.trans (TreeMap.mem_iff_contains.mp there))
    obtain ⟨scope, shown⟩ := shown_of_bindings stands
    exact ⟨scope, p, shown.bound⟩
  · rintro ⟨scope, p, bound⟩
    obtain ⟨bindings, there, bound⟩ := binding?_eq_some.mp bound
    rw [TreeMap.mem_iff_isSome_getElem?, bindings_eq, List.findSome?_isSome_iff]
    exact ⟨_, List.mem_reverse.mpr there, by rw [bound, Option.isSome_some]⟩

/-! ## 2. Binding a name -/

/-- **Binding a name changes one look-up.** -/
theorem binding?_bind (bound : t.bind? scope name p = some t') (other n : String) :
    t'.binding? other n = if scope = other ∧ name = n then some p else t.binding? other n := by
  unfold bind? at bound
  split at bound
  · cases bound
    simp only [binding?, TreeMap.getElem?_insert, Std.compare_eq_iff_eq]
    by_cases here : scope = other
    · subst here
      rw [if_pos rfl, Option.bind_some, TreeMap.getElem?_insert]
      by_cases same : name = n
      · subst same
        rw [if_pos (by simp), if_pos ⟨rfl, rfl⟩]
      · rw [if_neg (by simpa using same), if_neg (by simpa using same),
          TreeMap.getD_eq_getD_getElem?]
        cases t.names[scope]? with
        | none => rw [Option.getD_none, TreeMap.getElem?_emptyc, Option.bind_none]
        | some bindings => rw [Option.getD_some, Option.bind_some]
    · rw [if_neg here, if_neg fun both => here both.1]
  · cases bound

section Free

variable (free : t.isTaken name = false) (bound : t.bind? scope name p = some t')
include free bound

/-- What was bound before is bound to the same. -/
theorem bind_free_kept {other n : String} (h : t.binding? other n = some q) :
    t'.binding? other n = some q := by
  rw [binding?_bind bound, if_neg, h]
  rintro ⟨-, rfl⟩
  exact absurd (isTaken_iff.mpr ⟨other, q, h⟩) (by simp [free])

/-- **A name that was free stands for what it is bound to.** -/
theorem bind_free_stands : t'.bindings[name]? = some p := by
  refine getElem?_bindings_iff.mpr ⟨scope, ?_, fun other greater => ?_⟩
  · rw [binding?_bind bound, if_pos ⟨rfl, rfl⟩]
  · rw [binding?_bind bound, if_neg, Option.eq_none_iff_forall_ne_some]
    · intro q hq
      exact absurd (isTaken_iff.mpr ⟨other, q, hq⟩) (by simp [free])
    · rintro ⟨rfl, -⟩
      exact Std.OrientedCmp.not_lt_of_lt greater greater

/-- **Every other name stands for what it stood for.** -/
theorem bind_free_shows {n : String} (h : t.bindings[n]? = some q) : t'.bindings[n]? = some q := by
  obtain ⟨other, shown⟩ := getElem?_bindings_iff.mp h
  have apart : name ≠ n := by
    rintro rfl
    exact absurd (isTaken_iff.mpr ⟨other, q, shown.bound⟩) (by simp [free])
  refine getElem?_bindings_iff.mpr ⟨other, bind_free_kept free bound shown.bound, ?_⟩
  intro greater more
  rw [binding?_bind bound, if_neg fun same => apart same.2]
  exact shown.greatest greater more

end Free

end Debugger.ProxyTable
