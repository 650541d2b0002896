import Debugger.Proofs.Naming
import Debugger.Proofs.Proxies.Bindings
import Debugger.Proofs.Session.Runs
/-!
# Names that are guessed can be used

A controller that names an object asks for a name that fits its class, binds the object to it and
later types the name to get at the object. The name is guessed by one algorithm and read by another,
and they agree on everything but digits: a class whose simple name begins with one, as an anonymous
class does, has guessed names that are read as numbers.

* `Session.least_free_number_is_guessed` - the search for a number ends, at the least one that is
  free, and how soon.
* `Session.guessed_names_are_usable` - every other name is found, and no name that was there before
  stands for anything else.
* `Session.anonymous_class_is_read_as_number` - a name that begins with a digit, bound without an
  error and not found.

## 1. The operations

## 2. Numbers

## 3. Guessed names
-/

namespace Debugger.Session

open Std (TreeMap)

variable {σ : Type} {env : Environment σ} {s s' : Session σ} {t : ProxyTable} {p : Proxy}
  {scope name text : String}

/-! ## 1. The operations -/

theorem run_ensureUsable_bind {α : Type} (usable : s.lifecycle ≠ .failed) (f : Unit → Op σ α) :
    (ensureUsable >>= f).run s = (f ()).run s := by
  apply Action.run_bind_ok
  rw [run_ensureUsable, if_neg usable]

theorem run_freshName (className : String) : (freshName className : Op σ String).run s =
    if s.lifecycle = .failed then (.error .sessionFailed, s)
    else (.ok (Naming.freshName className s.proxies.isTaken), s) := by
  unfold freshName
  split
  · next failed =>
    apply Action.run_bind_error
    rw [run_ensureUsable, if_pos failed]
  · next usable =>
    rw [run_ensureUsable_bind usable]
    rfl

theorem run_addObject (usable : s.lifecycle ≠ .failed) (bound : s.proxies.bind? scope name p = some t) :
    (addObject scope name p : Op σ Unit).run s = (.ok (), { s with proxies := t }) := by
  unfold addObject
  rw [run_ensureUsable_bind usable, run_onProxies]
  unfold ProxyTable.bindName
  rw [Action.run_bind_ok (ProxyTable.run_getTable _)]
  simp only [bound]
  rfl

theorem run_proxyOfText (usable : s.lifecycle ≠ .failed)
    (parsed : Literal.parse text = .ok (.name name)) (stands : s.proxies.bindings[name]? = some p) :
    (proxyOfText env text).run s = (.ok p, s) := by
  unfold proxyOfText
  rw [run_ensureUsable_bind usable, parsed]
  simp only [proxyOfLiteral, Action.run_get_bind, stands]
  rfl

/-- A session that has one proxy and no names. -/
def lending : Session Vm :=
  (create Vm.environment Vm.fresh {}).after
    [.request .launch, .direct (.newString "kept"), .proxyFor ⟨1, "String"⟩]

/-- The proxy that it has. -/
def lent : Proxy := ⟨⟨1⟩, "String"⟩

theorem lending_usable : lending.lifecycle ≠ .failed := by decide +kernel

theorem lent_known : lent.handle ∈ lending.proxies.byHandle := by
  rw [TreeMap.mem_iff_contains]
  decide +kernel

/-! ## 2. Numbers -/

/-- **The number that is guessed is the least that is free.** Take any class name and fewer names
than there are numbers to try. -/
theorem least_free_number_is_guessed (className : String) (taken : Finset String)
    (few : taken.card < 2 ^ 32 - 1) :
    ∃ n, 1 ≤ n ∧
      Naming.freshName className (· ∈ taken) = Naming.nameStem className ++ toString n ∧
      Naming.nameStem className ++ toString n ∉ taken ∧
      (∀ k, 1 ≤ k → k < n → Naming.nameStem className ++ toString k ∈ taken) ∧
      -- The search ends with the candidate of that number, at most one more than there are names.
      (∀ fuel, Naming.firstFree? (Naming.nameStem className) (· ∈ taken) fuel 1 =
        if n ≤ fuel then some (Naming.nameStem className ++ toString n) else none) ∧
      n ≤ taken.card + 1 ∧
      -- A session that has those names gives that name, and stays as it is.
      ∀ {σ : Type} (s : Session σ), s.lifecycle ≠ .failed →
        s.proxies.bindings.keys.toFinset = taken →
        (freshName className : Op σ String).run s =
          (.ok (Naming.nameStem className ++ toString n), s) := by
  have all : ∀ name, decide (name ∈ taken) = true → name ∈ taken.toList := fun name isTaken =>
    Finset.mem_toList.mpr (of_decide_eq_true isTaken)
  rw [← Finset.length_toList] at few
  obtain ⟨n, positive, bound, numbered, free, before⟩ :=
    @Naming.freshName_numbered className _ _ all few
  rw [Finset.length_toList] at bound
  refine ⟨n, positive, numbered, of_decide_eq_false free, ?_, ?_, bound, ?_⟩
  · intro k low high
    exact of_decide_eq_true (before k low high)
  · intro fuel
    rw [Naming.firstFree?_eq positive free before]
    simp only [Nat.one_add, Nat.lt_succ_iff]
  · rintro σ s usable rfl
    have same : s.proxies.isTaken =
        fun name => decide (name ∈ s.proxies.bindings.keys.toFinset) := by
      funext name
      rw [Bool.eq_iff_iff, decide_eq_true_eq, List.mem_toFinset, TreeMap.mem_keys,
        ProxyTable.mem_bindings_iff]
    rw [run_freshName, if_neg usable, same, numbered]

/-- Three names for one object, in two scopes. -/
def lendingByName : Session Vm :=
  (do addObject "bench" "widget21" lent
      addObject "bench" "widget22" lent
      addObject "shelf" "widget211" lent : Op Vm Unit).run lending |>.2

/-- The stem ends in a digit here, so that `widget211` has the number 11 and is no hindrance. -/
theorem third_number_is_guessed :
    lendingByName.proxies.bindings.keys = ["widget21", "widget211", "widget22"] ∧
    (freshName "demo.Widget2").run lendingByName = (.ok "widget23", lendingByName) := by
  have names : lendingByName.proxies.bindings.keys = ["widget21", "widget211", "widget22"] := by
    decide +kernel
  have stem : Naming.nameStem "demo.Widget2" = "widget2" := by decide +kernel
  obtain ⟨n, positive, -, free, before, -, -, sessions⟩ := least_free_number_is_guessed
    "demo.Widget2" {"widget21", "widget211", "widget22"} (by decide +kernel)
  rw [stem] at free before sessions
  have number : n = 3 := by
    rcases Nat.lt_trichotomy n 3 with low | rfl | high
    · obtain rfl | rfl : n = 1 ∨ n = 2 := by omega
      · exact absurd free (by decide +kernel)
      · exact absurd free (by decide +kernel)
    · rfl
    · exact absurd (before 3 (by decide) high) (by decide +kernel)
  rw [number] at sessions
  refine ⟨names, sessions lendingByName (by decide +kernel) ?_⟩
  rw [names]
  rfl

/-! ## 3. Guessed names -/

/-- **Guessed names are usable.** Take any session, an object that it knows, and a class name, and
let fewer names be bound than there are numbers to try. -/
theorem guessed_names_are_usable (env : Environment σ) {c : Naming.ClassName} {n : String}
    (guessed : (freshName c.text).run s = (.ok n, s'))
    (few : s.proxies.bindings.size < Naming.candidates) (live : p.handle ∈ s.proxies.byHandle)
    (scope : String) :
    -- The name is read as a name just when the simple name does not begin with a digit.
    (Literal.parse n = .ok (.name n) ↔ c.simple.first.isDigit = false) ∧
    ∃ s'', (addObject scope n p).run s' = (.ok (), s'') ∧
      -- Then it is found.
      (c.simple.first.isDigit = false → (proxyOfText env n).run s'' = (.ok p, s'')) ∧
      -- What was bound in any scope is bound to the same, and stands for what it stood for.
      (∀ other name q, s.proxies.binding? other name = some q →
        s''.proxies.binding? other name = some q) ∧
      ∀ (name : String) q, s.proxies.bindings[name]? = some q → s''.proxies.bindings[name]? = some q := by
  rw [run_freshName] at guessed
  split at guessed
  · cases guessed
  next usable =>
  cases guessed
  have all : ∀ name, s.proxies.isTaken name = true → name ∈ s.proxies.bindings.keys := fun name taken =>
    TreeMap.mem_keys.mpr (ProxyTable.mem_bindings_iff.mpr taken)
  rw [← TreeMap.length_keys] at few
  obtain ⟨k, -, -, numbered, free, -⟩ := @Naming.freshName_numbered c.text _ _ all few
  rw [numbered]
  obtain ⟨t, bound⟩ : ∃ t, s.proxies.bind? scope (Naming.nameStem c.text ++ toString k) p = some t :=
    ⟨_, if_pos live⟩
  refine ⟨Naming.parse_numbered c k, _, run_addObject usable bound, ?_, ?_, ?_⟩
  · intro letter
    exact run_proxyOfText usable ((Naming.parse_numbered c k).mpr letter)
      (ProxyTable.bind_free_stands free bound)
  · exact fun other name q h => ProxyTable.bind_free_kept free bound h
  · exact fun name q h => ProxyTable.bind_free_shows free bound h

/-- An array of a class with a package and type arguments. -/
def genericArray : Naming.ClassName where
  outer := [(⟨'d', ['e', 'm', 'o'], rfl⟩, ⟨'.', rfl⟩)]
  simple := ⟨'W', ['i', 'd', 'g', 'e', 't'], rfl⟩
  arguments := some ['T']
  dimensions := 1

theorem generic_array_is_found :
    genericArray.text = "demo.Widget<T>[]" ∧
    (freshName genericArray.text).run lending = (.ok "widgetArray1", lending) ∧
    lending.proxies.bindings.size < Naming.candidates ∧ lent.handle ∈ lending.proxies.byHandle ∧
    ∃ s : Session Vm, (addObject "bench" "widgetArray1" lent).run lending = (.ok (), s) ∧
      (proxyOfText Vm.environment "widgetArray1").run s = (.ok lent, s) := by
  have first : Naming.freshName genericArray.text lending.proxies.isTaken = "widgetArray1" := by
    decide +kernel
  have guessed : (freshName genericArray.text).run lending = (.ok "widgetArray1", lending) := by
    rw [run_freshName, if_neg lending_usable, first]
  have few : lending.proxies.bindings.size < Naming.candidates := by decide +kernel
  obtain ⟨-, s, added, found, -⟩ :=
    guessed_names_are_usable Vm.environment guessed few lent_known "bench"
  exact ⟨by decide +kernel, guessed, few, lent_known, s, added, found rfl⟩

/-- The name of the first anonymous class of `Outer`. -/
def anonymousClass : Naming.ClassName where
  outer := [(⟨'O', ['u', 't', 'e', 'r'], rfl⟩, ⟨'$', rfl⟩)]
  simple := ⟨'1', [], rfl⟩
  arguments := none
  dimensions := 0

/-- **An anonymous class has guessed names that are read as numbers.** The object is bound without an
error, and what the name gives when it is typed is a new holder of the number 11. -/
theorem anonymous_class_is_read_as_number :
    anonymousClass.text = "Outer$1" ∧
    (freshName anonymousClass.text).run lending = (.ok "11", lending) ∧
    lent.handle ∈ lending.proxies.byHandle ∧
    Literal.parse "11" = .ok (.primitive (.int 11)) ∧
    ∃ s : Session Vm, (addObject "bench" "11" lent).run lending = (.ok (), s) ∧
      s.proxies.bindings["11"]? = some lent ∧
      ((proxyOfText Vm.environment "11").run s).1.toOption =
        some ⟨⟨2⟩, "tether.runtime.IntResult"⟩ := by
  have named : anonymousClass.text = "Outer$1" := by decide +kernel
  have first : Naming.freshName "Outer$1" lending.proxies.isTaken = "11" := by decide +kernel
  have guessed : (freshName anonymousClass.text).run lending = (.ok "11", lending) := by
    rw [run_freshName, if_neg lending_usable, named, first]
  refine ⟨named, guessed, lent_known, rfl, _,
    run_addObject lending_usable (if_pos lent_known), ?_, ?_⟩
  · decide +kernel
  · decide +kernel

end Debugger.Session
