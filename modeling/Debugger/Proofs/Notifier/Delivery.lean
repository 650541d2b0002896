import Mathlib.Algebra.Group.Nat.Defs
import Debugger.Notifier
/-!
# Delivery

Two streams of news meet in the notifier, and nobody but its own thread decides which of them is
read next. In the meantime anybody may send, emit, come to listen or leave, ask for a flush, or
close the debuggee's stream. Whatever the order, the listeners are told everything once and within a
stream in order, and a flush is answered when all that came before it has been told.

`Notifying` is a notifier together with its thread, and `Notifying.Move` is everything that can
happen to the two. A flush is finer there than `Notifier.takeMessage?`, where the debuggee's stream
is emptied and the request answered in one go: here more can be sent while the stream is being
emptied, and before the answer. `Notifying.takeMessage?_run` says that the indivisible change is one
of the finer orders.

What happens is written down as a list of `Happening`s, and the statements are about this list.

* `VmEvent.Announces` - which news an event of the debuggee is.
* `Notifying.Faithful` - how the list goes with what is still waiting in the two streams.
* `Notifying.Awaited` - how far the thread has got with a flush.
* `Notifying.delivery_is_faithful` - what follows for every order of events.

## 1. What is news

## 2. What happens

## 3. A notifier and its thread

## 4. In one go

## 5. Nothing is lost

## 6. Flushes

## 7. Faithful delivery
-/

namespace Debugger

/-! ## 1. What is news -/

/-- Which news an event of the debuggee is. A stop is told by its reason; one for an exception that
nobody has a description of is a pause like any other. -/
inductive VmEvent.Announces : VmEvent → DebuggerEvent → Prop
  | started : Announces .started .started
  | terminated : Announces .terminated .stopped
  | breakpoint : Announces (.suspended thread .breakpoint location exception)
      (.breakpoint thread location)
  | caught : Announces (.suspended thread .exception location (some description))
      (.exception thread description true)
  | paused (unlike : reason ≠ .breakpoint) (undescribed : reason = .exception → exception = none) :
      Announces (.suspended thread reason location exception) (.paused thread reason location)
  | resumed : Announces (.resumed thread) (.resumed thread)
  | uncaught : Announces (.uncaughtException thread description)
      (.exception thread description false)

theorem DebuggerEvent.ofVm?_eq_some_iff {e : VmEvent} {news : DebuggerEvent} :
    ofVm? e = some news ↔ e.Announces news := by
  constructor
  · intro told
    unfold ofVm? at told
    split at told <;> cases told
    case h_5 unlike described =>
      exact .paused unlike fun hr => Option.eq_none_iff_forall_ne_some.2 (described · hr)
    all_goals constructor
  · intro announces
    cases announces with
    | @paused reason exception thread location unlike undescribed =>
      cases reason with
      | breakpoint => exact absurd rfl unlike
      | exception =>
        obtain rfl := undescribed rfl
        rfl
      | _ => rfl
    | _ => rfl

/-- All that is not news is that a thread comes or goes. -/
theorem DebuggerEvent.ofVm?_eq_none_iff {e : VmEvent} :
    ofVm? e = none ↔ ∃ thread, e = .threadStarted thread ∨ e = .threadDied thread := by
  constructor
  · intro silent
    unfold ofVm? at silent
    split at silent
    case h_8 thread => exact ⟨thread, .inl rfl⟩
    case h_9 thread => exact ⟨thread, .inr rfl⟩
    all_goals contradiction
  · rintro ⟨thread, rfl | rfl⟩ <;> rfl

/-! ## 2. What happens -/

/-- The stream that news comes by. -/
inductive NewsStream
  | debuggee
  | controller
  deriving DecidableEq

/-- What can be said of a notifier from outside. -/
inductive Happening
  | sent (e : VmEvent)
  | emitted (e : DebuggerEvent)
  | added (l : Listener)
  | removed (id : ListenerId)
  | requested (request : Nat)
  | delivered (from_ : NewsStream) (e : DebuggerEvent)
  | acknowledged (request : Nat)

namespace Happening

/-- The events that the debuggee has sent. -/
@[simp] def sent? : Happening → Option VmEvent
  | sent e => some e
  | _ => none

/-- The events that the controller has emitted. -/
@[simp] def emitted? : Happening → Option DebuggerEvent
  | emitted e => some e
  | _ => none

@[simp] def delivered? (from_ : NewsStream) : Happening → Option DebuggerEvent
  | delivered origin e => if origin = from_ then some e else none
  | _ => none

@[simp] def requested? : Happening → Option Nat
  | requested request => some request
  | _ => none

@[simp] def acknowledged? : Happening → Option Nat
  | acknowledged request => some request
  | _ => none

/-- Who listens, and what the listeners have heard so far, after one thing more has happened. -/
@[simp] def hear (x : List Listener × List Delivery) : Happening → List Listener × List Delivery
  | added l => (x.1 ++ [l], x.2)
  | removed id => (x.1.filter (·.id ≠ id), x.2)
  | delivered _ e => (x.1, x.2 ++ x.1.map fun l => ⟨l.id, e, l.react e⟩)
  | _ => x

end Happening

theorem filterMap_cons_toList {α β : Type} (f : α → Option β) (a : α) (l : List α) :
    (a :: l).filterMap f = (f a).toList ++ l.filterMap f := by
  cases h : f a <;> simp [h]

def sentIn (tr : List Happening) : List VmEvent := tr.filterMap Happening.sent?

def emittedIn (tr : List Happening) : List DebuggerEvent := tr.filterMap Happening.emitted?

/-- What was delivered of the news that came by a stream. -/
def deliveredIn (from_ : NewsStream) (tr : List Happening) : List DebuggerEvent :=
  tr.filterMap (Happening.delivered? from_)

def requestedIn (tr : List Happening) : List Nat := tr.filterMap Happening.requested?

def acknowledgedIn (tr : List Happening) : List Nat := tr.filterMap Happening.acknowledged?

/-- Who listens after all that has happened, and what was heard. -/
def heardIn (tr : List Happening) : List Listener × List Delivery :=
  tr.foldl Happening.hear ([], [])

section

variable (h : Happening) (tr hs : List Happening) (o : NewsStream)

@[simp] theorem sentIn_nil : sentIn [] = [] := rfl

@[simp] theorem emittedIn_nil : emittedIn [] = [] := rfl

@[simp] theorem deliveredIn_nil : deliveredIn o [] = [] := rfl

@[simp] theorem requestedIn_nil : requestedIn [] = [] := rfl

@[simp] theorem acknowledgedIn_nil : acknowledgedIn [] = [] := rfl

@[simp] theorem sentIn_cons : sentIn (h :: tr) = h.sent?.toList ++ sentIn tr :=
  filterMap_cons_toList ..

@[simp] theorem emittedIn_cons : emittedIn (h :: tr) = h.emitted?.toList ++ emittedIn tr :=
  filterMap_cons_toList ..

@[simp] theorem deliveredIn_cons :
    deliveredIn o (h :: tr) = (h.delivered? o).toList ++ deliveredIn o tr :=
  filterMap_cons_toList ..

@[simp] theorem requestedIn_cons :
    requestedIn (h :: tr) = h.requested?.toList ++ requestedIn tr := filterMap_cons_toList ..

@[simp] theorem acknowledgedIn_cons :
    acknowledgedIn (h :: tr) = h.acknowledged?.toList ++ acknowledgedIn tr :=
  filterMap_cons_toList ..

@[simp] theorem sentIn_append : sentIn (tr ++ hs) = sentIn tr ++ sentIn hs := by simp [sentIn]

@[simp] theorem emittedIn_append : emittedIn (tr ++ hs) = emittedIn tr ++ emittedIn hs := by
  simp [emittedIn]

@[simp] theorem deliveredIn_append :
    deliveredIn o (tr ++ hs) = deliveredIn o tr ++ deliveredIn o hs := by simp [deliveredIn]

@[simp] theorem requestedIn_append : requestedIn (tr ++ hs) = requestedIn tr ++ requestedIn hs := by
  simp [requestedIn]

@[simp] theorem acknowledgedIn_append :
    acknowledgedIn (tr ++ hs) = acknowledgedIn tr ++ acknowledgedIn hs := by
  simp [acknowledgedIn]

@[simp] theorem heardIn_append : heardIn (tr ++ hs) = hs.foldl Happening.hear (heardIn tr) := by
  simp [heardIn]

end

/-- The event in a message, if it brings one. -/
@[simp] def ControlMessage.event? : ControlMessage → Option DebuggerEvent
  | emit e => some e
  | flush _ => none

/-- The request in a message, if it brings one. -/
@[simp] def ControlMessage.request? : ControlMessage → Option Nat
  | emit _ => none
  | flush request => some request

/-! ## 3. A notifier and its thread -/

/-- What the notifier's thread is at. -/
inductive Errand
  | free
  /-- Empties the debuggee's stream for a flush. -/
  | draining (request : Nat)
  /-- Has yet to answer a flush. -/
  | answering (request : Nat)

@[simp] def Errand.request? : Errand → Option Nat
  | free => none
  | draining request => some request
  | answering request => some request

/-- A notifier and its thread. -/
structure Notifying where
  notifier : Notifier := {}
  errand : Errand := .free
  /-- Whether the thread still reads the debuggee's stream. -/
  attentive : Bool := true

namespace Notifying

variable {x y z : Notifying} {tr hs : List Happening}

/-- What the delivery of an event of the debuggee is: some are kept from the listeners. -/
def told (e : VmEvent) : List Happening :=
  (DebuggerEvent.ofVm? e).toList.map (.delivered .debuggee)

section

variable (e : VmEvent)

@[simp] theorem sentIn_told : sentIn (told e) = [] := by
  unfold told
  cases DebuggerEvent.ofVm? e <;> rfl

@[simp] theorem emittedIn_told : emittedIn (told e) = [] := by
  unfold told
  cases DebuggerEvent.ofVm? e <;> rfl

@[simp] theorem deliveredIn_debuggee_told :
    deliveredIn .debuggee (told e) = (DebuggerEvent.ofVm? e).toList := by
  unfold told
  cases DebuggerEvent.ofVm? e <;> rfl

@[simp] theorem deliveredIn_controller_told : deliveredIn .controller (told e) = [] := by
  unfold told
  cases DebuggerEvent.ofVm? e <;> rfl

@[simp] theorem requestedIn_told : requestedIn (told e) = [] := by
  unfold told
  cases DebuggerEvent.ofVm? e <;> rfl

@[simp] theorem acknowledgedIn_told : acknowledgedIn (told e) = [] := by
  unfold told
  cases DebuggerEvent.ofVm? e <;> rfl

end

inductive Move : Notifying → List Happening → Notifying → Prop
  | send {x : Notifying} (e : VmEvent) (opened : x.notifier.streamOpen = true) :
      Move x [.sent e] { x with notifier := x.notifier.send [e] }
  | close {x : Notifying} : Move x [] { x with notifier := x.notifier.close }
  | emit {x : Notifying} (e : DebuggerEvent) :
      Move x [.emitted e] { x with notifier := x.notifier.emit e }
  | add {x : Notifying} (react : DebuggerEvent → Reaction) :
      Move x [.added ⟨(x.notifier.add react).1, react⟩]
        { x with notifier := (x.notifier.add react).2 }
  | remove {x : Notifying} (id : ListenerId) :
      Move x [.removed id] { x with notifier := (x.notifier.remove id).2 }
  | request {x : Notifying} :
      Move x [.requested x.notifier.requestFlush.1]
        { x with notifier := x.notifier.requestFlush.2 }
  /-- The thread takes an event of the debuggee, of its own choice or for a flush. -/
  | takeEvent {x : Notifying} {e : VmEvent} {rest : List VmEvent} {n : Notifier}
      (reads : x.attentive = true) (busy : ∀ request, x.errand ≠ .answering request)
      (first : x.notifier.stream = e :: rest) (took : x.notifier.takeEvent? = some n) :
      Move x (told e) { x with notifier := n }
  | takeNews {x : Notifying} {e : DebuggerEvent} {rest : List ControlMessage} {n : Notifier}
      (free : x.errand = .free) (first : x.notifier.control = .emit e :: rest)
      (took : x.notifier.takeMessage? = some n) :
      Move x [.delivered .controller e] { x with notifier := n }
  | takeFlush {x : Notifying} {request : Nat} {rest : List ControlMessage}
      (free : x.errand = .free) (first : x.notifier.control = .flush request :: rest) :
      Move x []
        { x with
          notifier := { x.notifier with control := rest }
          errand := if x.attentive then .draining request else .answering request }
  /-- The thread finds nothing more in the debuggee's stream. -/
  | drained {x : Notifying} {request : Nat} (flushing : x.errand = .draining request)
      (empty : x.notifier.stream = []) : Move x [] { x with errand := .answering request }
  | acknowledge {x : Notifying} {request : Nat} (answers : x.errand = .answering request) :
      Move x [.acknowledged request]
        { x with
          notifier := { x.notifier with acknowledged := x.notifier.acknowledged ++ [request] }
          errand := .free }
  /-- The thread finds the debuggee's stream closed, with nothing left in it. -/
  | leave {x : Notifying} (free : x.errand = .free) (closed : x.notifier.streamOpen = false)
      (empty : x.notifier.stream = []) : Move x [] { x with attentive := false }

/-- Any number of moves, with all that happened in order. -/
inductive Run : Notifying → List Happening → Notifying → Prop
  | refl (x : Notifying) : Run x [] x
  | move {x y z : Notifying} {tr hs : List Happening} :
      Run x tr y → Move y hs z → Run x (tr ++ hs) z

theorem Move.run (m : Move x hs y) : Run x hs y := (Run.refl x).move m

theorem Run.trans (h : Run x tr y) (h' : Run y hs z) : Run x (tr ++ hs) z := by
  induction h' with
  | refl => simpa using h
  | move _ m ih => simpa using ih.move m

/-- One thing happens at a time. -/
theorem Move.length_le (m : Move x hs y) : hs.length ≤ 1 := by
  cases m with
  | @takeEvent e => cases h : DebuggerEvent.ofVm? e <;> simp [told, h]
  | _ => simp

/-- A run can be interrupted before anything that happens in it, and after. -/
theorem Run.split {pre post : List Happening} {h : Happening}
    (r : Run x (pre ++ h :: post) z) :
    ∃ y y', Run x pre y ∧ Move y [h] y' ∧ Run y' post z := by
  generalize htr : pre ++ h :: post = tr at r
  induction r generalizing post with
  | refl => simp at htr
  | @move w z tr hs r m ih =>
    match hs, m.length_le with
    | [], _ =>
      rw [List.append_nil] at htr
      obtain ⟨y, y', before, here, later⟩ := ih htr
      exact ⟨y, y', before, here, by simpa using later.move m⟩
    | [h'], _ =>
      rcases List.eq_nil_or_concat post with rfl | ⟨post', last, rfl⟩
      · obtain ⟨rfl, same⟩ := List.append_inj' htr rfl
        cases same
        exact ⟨w, z, r, m, .refl z⟩
      · have htr : (pre ++ h :: post') ++ [last] = tr ++ [h'] := by simpa using htr
        obtain ⟨same, one⟩ := List.append_inj' htr rfl
        obtain rfl := List.singleton_inj.1 one
        obtain ⟨y, y', before, here, later⟩ := ih same
        exact ⟨y, y', before, here, by simpa using later.move m⟩

/-! ## 4. In one go -/

end Notifying

namespace Notifier

variable (n : Notifier) (e : VmEvent) (stream : List VmEvent)

theorem deliverVm_stream :
    ({ n with stream := stream } : Notifier).deliverVm e = { n.deliverVm e with stream } := by
  unfold deliverVm
  cases DebuggerEvent.ofVm? e <;> rfl

@[simp] theorem deliverVm_kept :
    (n.deliverVm e).stream = n.stream ∧ (n.deliverVm e).control = n.control ∧
      (n.deliverVm e).streamOpen = n.streamOpen ∧ (n.deliverVm e).lastFlush = n.lastFlush ∧
      (n.deliverVm e).listeners = n.listeners ∧ (n.deliverVm e).lastListener = n.lastListener ∧
      (n.deliverVm e).acknowledged = n.acknowledged := by
  unfold deliverVm
  cases DebuggerEvent.ofVm? e <;> simp [deliver]

theorem foldl_deliverVm_kept (events : List VmEvent) :
    (events.foldl deliverVm n).stream = n.stream ∧
      (events.foldl deliverVm n).control = n.control := by
  induction events generalizing n with
  | nil => exact ⟨rfl, rfl⟩
  | cons e rest ih => simp [ih]

theorem takeEvent?_cons {e : VmEvent} {rest : List VmEvent} (first : n.stream = e :: rest) :
    n.takeEvent? = some ({ n with stream := rest }.deliverVm e) := by
  simp [takeEvent?, first]

theorem takeMessage?_flush {request : Nat} {rest : List ControlMessage}
    (first : n.control = .flush request :: rest) :
    n.takeMessage? = some
      { n.stream.foldl deliverVm { n with control := rest, stream := [] } with
        acknowledged :=
          (n.stream.foldl deliverVm { n with control := rest, stream := [] }).acknowledged ++
            [request] } := by
  simp [takeMessage?, first]

/-! Getting on puts nothing into the controller's stream. -/

theorem takeEvent?_control {n n' : Notifier} (took : n.takeEvent? = some n') :
    n'.control = n.control := by
  cases hs : n.stream with
  | nil => simp [takeEvent?, hs] at took
  | cons e rest =>
    rw [takeEvent?_cons n hs] at took
    cases took
    simp

theorem takeMessage?_control {n n' : Notifier} (took : n.takeMessage? = some n') :
    n'.control <:+ n.control := by
  match hc : n.control with
  | [] => simp [takeMessage?, hc] at took
  | .emit e :: rest =>
    simp only [takeMessage?, hc, Option.some.injEq] at took
    subst took
    exact List.suffix_cons _ _
  | .flush request :: rest =>
    rw [takeMessage?_flush n hc] at took
    cases took
    simp only [foldl_deliverVm_kept]
    exact List.suffix_cons _ _

theorem runFor_control (fuel : Nat) : (n.runFor fuel).control <:+ n.control := by
  induction fuel generalizing n with
  | zero => exact List.suffix_rfl
  | succ fuel ih =>
    unfold runFor
    cases hm : n.takeMessage? with
    | some n' => exact (ih n').trans (takeMessage?_control hm)
    | none =>
      cases he : n.takeEvent? with
      | some n' => exact takeEvent?_control he ▸ ih n'
      | none => exact List.suffix_rfl

end Notifier

namespace Notifying

variable {x y z : Notifying} {tr hs : List Happening}

/-- All the thread does for a flush before it finds the stream empty. -/
theorem drain_run {request : Nat} {stream : List VmEvent} (reads : x.attentive = true)
    (flushing : x.errand = .draining request) (waiting : x.notifier.stream = stream) :
    Run x (stream.flatMap told)
      { x with notifier := stream.foldl Notifier.deliverVm { x.notifier with stream := [] } } := by
  induction stream generalizing x with
  | nil =>
    have same : ({ x.notifier with stream := [] } : Notifier) = x.notifier := by rw [← waiting]
    simpa [same] using Run.refl x
  | cons e rest ih =>
    have first : Move x (told e)
        { x with notifier := ({ x.notifier with stream := rest } : Notifier).deliverVm e } :=
      .takeEvent reads (by simp [flushing]) waiting (Notifier.takeEvent?_cons _ waiting)
    have others := ih
      (x := { x with notifier := ({ x.notifier with stream := rest } : Notifier).deliverVm e })
      reads flushing (by simp)
    simpa [Notifier.deliverVm_stream] using first.run.trans others

/-- The indivisible change is one of the orders in which the thread can get there. -/
theorem takeMessage?_run {n : Notifier} (free : x.errand = .free)
    (gone : x.attentive = false → x.notifier.stream = [])
    (took : x.notifier.takeMessage? = some n) : ∃ hs, Run x hs { x with notifier := n } := by
  match hc : x.notifier.control with
  | [] => simp [Notifier.takeMessage?, hc] at took
  | .emit e :: rest => exact ⟨_, (Move.takeNews free hc took).run⟩
  | .flush request :: rest =>
    rw [Notifier.takeMessage?_flush _ hc] at took
    cases took
    have taken := (Move.takeFlush free hc).run
    by_cases reads : x.attentive = true
    · rw [if_pos reads] at taken
      have emptied := taken.trans (drain_run reads rfl rfl)
      have found := emptied.move (.drained rfl (Notifier.foldl_deliverVm_kept _ _).1)
      have answered := found.move (.acknowledge rfl)
      rw [← free] at answered
      exact ⟨_, answered⟩
    · have empty := gone (by simpa using reads)
      rw [if_neg reads] at taken
      have answered := taken.move (.acknowledge rfl)
      have same : ({ x.notifier with control := rest, stream := [] } : Notifier) =
          { x.notifier with control := rest } := by rw [← empty]
      rw [← free] at answered
      rw [same, empty]
      exact ⟨_, answered⟩

/-- The schedule that prefers the controller's stream is one of the orders. -/
theorem runFor_run (fuel : Nat) (free : x.errand = .free) (reads : x.attentive = true) :
    ∃ hs, Run x hs { x with notifier := x.notifier.runFor fuel } := by
  induction fuel generalizing x with
  | zero => exact ⟨[], .refl x⟩
  | succ fuel ih =>
    unfold Notifier.runFor
    cases hm : x.notifier.takeMessage? with
    | some n =>
      obtain ⟨tr, first⟩ := takeMessage?_run free (by simp [reads]) hm
      obtain ⟨hs, others⟩ := ih (x := { x with notifier := n }) free reads
      exact ⟨_, first.trans others⟩
    | none =>
      cases hs : x.notifier.stream with
      | nil => exact ⟨[], by simpa [Notifier.takeEvent?, hs] using Run.refl x⟩
      | cons e rest =>
        obtain ⟨n, took⟩ : ∃ n, x.notifier.takeEvent? = some n :=
          ⟨_, Notifier.takeEvent?_cons _ hs⟩
        have first : Move x (told e) { x with notifier := n } :=
          .takeEvent reads (by simp [free]) hs took
        obtain ⟨tr, others⟩ := ih (x := { x with notifier := n }) free reads
        simp only [took]
        exact ⟨_, first.run.trans others⟩

/-! ## 5. Nothing is lost -/

/-- The requests that are not answered yet, in the order in which they will be. -/
def pending (x : Notifying) : List Nat :=
  x.errand.request?.toList ++ x.notifier.control.filterMap ControlMessage.request?

section

attribute [local simp] List.filterMap_cons Notifier.emit Notifier.add Notifier.remove
  Notifier.requestFlush Notifier.close Notifier.deliver

/-- What a move takes off the debuggee's stream it delivers. -/
theorem Move.debuggee (m : Move x hs y) :
    ∃ taken, x.notifier.stream ++ sentIn hs = taken ++ y.notifier.stream ∧
      deliveredIn .debuggee hs = taken.filterMap DebuggerEvent.ofVm? := by
  cases m with
  | send e opened => exact ⟨[], by simp [Notifier.send, opened]⟩
  | @takeEvent e rest n reads busy first took =>
    obtain rfl : _ = n := by simpa [Notifier.takeEvent?_cons _ first] using took
    exact ⟨[e], by simp [first], by cases he : DebuggerEvent.ofVm? e <;> simp [he]⟩
  | @takeNews e rest n free first took =>
    obtain rfl : _ = n := by simpa [Notifier.takeMessage?, first] using took
    exact ⟨[], by simp⟩
  | _ => exact ⟨[], by simp⟩

/-- What a move takes off the controller's stream it delivers. -/
theorem Move.controller (m : Move x hs y) :
    x.notifier.control.filterMap ControlMessage.event? ++ emittedIn hs =
      deliveredIn .controller hs ++ y.notifier.control.filterMap ControlMessage.event? := by
  cases m with
  | send e opened => simp [Notifier.send, opened]
  | @takeEvent e rest n reads busy first took =>
    obtain rfl : _ = n := by simpa [Notifier.takeEvent?_cons _ first] using took
    simp
  | @takeNews e rest n free first took =>
    obtain rfl : _ = n := by simpa [Notifier.takeMessage?, first] using took
    simp [first]
  | takeFlush free first => simp [first]
  | _ => simp

/-- The requests are answered in turn. -/
theorem Move.pending (m : Move x hs y) :
    x.pending ++ requestedIn hs = acknowledgedIn hs ++ y.pending := by
  unfold Notifying.pending
  cases m with
  | send e opened => simp [Notifier.send, opened]
  | @takeEvent e rest n reads busy first took =>
    obtain rfl : _ = n := by simpa [Notifier.takeEvent?_cons _ first] using took
    simp
  | @takeNews e rest n free first took =>
    obtain rfl : _ = n := by simpa [Notifier.takeMessage?, first] using took
    simp [first]
  | takeFlush free first =>
    rw [free, first]
    split <;> simp
  | drained flushing empty => simp [flushing]
  | acknowledge answers => simp [answers]
  | _ => simp

theorem Move.acknowledged (m : Move x hs y) :
    y.notifier.acknowledged = x.notifier.acknowledged ++ acknowledgedIn hs := by
  cases m with
  | send e opened => simp [Notifier.send, opened]
  | @takeEvent e rest n reads busy first took =>
    obtain rfl : _ = n := by simpa [Notifier.takeEvent?_cons _ first] using took
    simp
  | @takeNews e rest n free first took =>
    obtain rfl : _ = n := by simpa [Notifier.takeMessage?, first] using took
    simp
  | _ => simp

/-- The number of a request is the number of requests so far. -/
theorem Move.requested (m : Move x hs y) :
    List.range' 1 x.notifier.lastFlush ++ requestedIn hs =
      List.range' 1 y.notifier.lastFlush := by
  cases m with
  | send e opened => simp [Notifier.send, opened]
  | @takeEvent e rest n reads busy first took =>
    obtain rfl : _ = n := by simpa [Notifier.takeEvent?_cons _ first] using took
    simp
  | @takeNews e rest n free first took =>
    obtain rfl : _ = n := by simpa [Notifier.takeMessage?, first] using took
    simp
  | request => simp [List.range'_concat, Nat.add_comm]
  | _ => simp

/-- Whatever is delivered is heard by all who listen, in their order. -/
theorem Move.heard (m : Move x hs y) :
    hs.foldl Happening.hear (x.notifier.listeners, x.notifier.deliveries.toList) =
      (y.notifier.listeners, y.notifier.deliveries.toList) := by
  cases m with
  | send e opened => simp [Notifier.send, opened]
  | @takeEvent e rest n reads busy first took =>
    obtain rfl : _ = n := by simpa [Notifier.takeEvent?_cons _ first] using took
    cases he : DebuggerEvent.ofVm? e <;> simp [told, Notifier.deliverVm, he]
  | @takeNews e rest n free first took =>
    obtain rfl : _ = n := by simpa [Notifier.takeMessage?, first] using took
    simp
  | _ => simp

/-- Listeners are apart, and numbered in order. -/
structure Numbered (n : Notifier) : Prop where
  apart : (n.listeners.map (·.id)).Nodup
  counted : ∀ l ∈ n.listeners, l.id ≤ n.lastListener

theorem Move.numbered (m : Move x hs y) (i : Numbered x.notifier) : Numbered y.notifier := by
  obtain ⟨apart, counted⟩ := i
  cases m with
  | send e opened => exact ⟨by simpa [Notifier.send, opened], by simpa [Notifier.send, opened]⟩
  | @takeEvent e rest n reads busy first took =>
    obtain rfl : _ = n := by simpa [Notifier.takeEvent?_cons _ first] using took
    exact ⟨by simpa, by simpa⟩
  | @takeNews e rest n free first took =>
    obtain rfl : _ = n := by simpa [Notifier.takeMessage?, first] using took
    exact ⟨apart, counted⟩
  | add react =>
    constructor
    · have new : x.notifier.lastListener + 1 ∉ x.notifier.listeners.map (·.id) := by
        intro hmem
        obtain ⟨l, hl, hid⟩ := List.mem_map.1 hmem
        have small := counted l hl
        rw [hid] at small
        exact Nat.not_succ_le_self _ small
      simpa [List.nodup_append] using ⟨apart, fun l hl hid => new (List.mem_map.2 ⟨l, hl, hid⟩)⟩
    · intro l hl
      rcases List.mem_append.1 hl with old | new
      · exact Nat.le_succ_of_le (counted l old)
      · simp at new
        simp [new]
  | remove id =>
    constructor
    · exact apart.sublist (List.filter_sublist.map _)
    · intro l hl
      exact counted l (List.mem_filter.1 hl).1
  | _ => exact ⟨apart, counted⟩

/-- The thread turns away from the debuggee's stream only when no more can come. -/
theorem Move.finished (m : Move x hs y)
    (finished : x.attentive = false → x.notifier.streamOpen = false ∧ x.notifier.stream = []) :
    y.attentive = false → y.notifier.streamOpen = false ∧ y.notifier.stream = [] := by
  intro hy
  cases m with
  | send e opened => simp [finished hy] at opened
  | @takeEvent e rest n reads busy first took => simp [reads] at hy
  | @takeNews e rest n free first took =>
    obtain rfl : _ = n := by simpa [Notifier.takeMessage?, first] using took
    simpa using finished hy
  | close => exact ⟨rfl, (finished hy).2⟩
  | leave free closed empty => exact ⟨closed, empty⟩
  | _ => exact finished hy

end

structure Faithful (tr : List Happening) (x : Notifying) : Prop where
  debuggee : ∃ taken, sentIn tr = taken ++ x.notifier.stream ∧
    deliveredIn .debuggee tr = taken.filterMap DebuggerEvent.ofVm?
  controller :
    emittedIn tr = deliveredIn .controller tr ++ x.notifier.control.filterMap ControlMessage.event?
  finished : x.attentive = false → x.notifier.streamOpen = false ∧ x.notifier.stream = []
  heard : heardIn tr = (x.notifier.listeners, x.notifier.deliveries.toList)
  numbered : Numbered x.notifier
  requests : requestedIn tr = List.range' 1 x.notifier.lastFlush
  answers : requestedIn tr = acknowledgedIn tr ++ x.pending
  answered : x.notifier.acknowledged = acknowledgedIn tr

theorem Faithful.start : Faithful [] {} where
  debuggee := ⟨[], rfl, rfl⟩
  controller := rfl
  finished := by simp
  heard := rfl
  numbered := ⟨by simp, by simp⟩
  requests := rfl
  answers := rfl
  answered := rfl

theorem Faithful.move (f : Faithful tr x) (m : Move x hs y) : Faithful (tr ++ hs) y := by
  constructor
  · obtain ⟨taken, sent, delivered⟩ := f.debuggee
    obtain ⟨more, moved, told⟩ := m.debuggee
    exact ⟨taken ++ more, by simp [sent, ← moved], by simp [delivered, told]⟩
  · simp [f.controller, List.append_assoc, m.controller]
  · exact m.finished f.finished
  · rw [heardIn_append, f.heard, m.heard]
  · exact m.numbered f.numbered
  · rw [requestedIn_append, f.requests, m.requested]
  · rw [requestedIn_append, acknowledgedIn_append, f.answers]
    simp [m.pending]
  · rw [m.acknowledged, f.answered, acknowledgedIn_append]

theorem Faithful.run (f : Faithful tr x) (r : Run x hs y) : Faithful (tr ++ hs) y := by
  induction r with
  | refl => simpa using f
  | move _ m ih => simpa using ih.move m

/-- Listeners are numbered one by one, and only when they are added. -/
theorem Move.lastListener_le (m : Move x hs y) :
    y.notifier.lastListener ≤ x.notifier.lastListener + hs.length := by
  cases m with
  | send e opened => simp [Notifier.send, opened]
  | @takeEvent e rest n reads busy first took =>
    obtain rfl : _ = n := by simpa [Notifier.takeEvent?_cons _ first] using took
    simp
  | @takeNews e rest n free first took =>
    obtain rfl : _ = n := by simpa [Notifier.takeMessage?, first] using took
    exact Nat.le_add_right _ _
  | add react => exact Nat.le_refl _
  | _ => exact Nat.le_add_right _ _

theorem Run.lastListener_le (r : Run x tr y) :
    y.notifier.lastListener ≤ x.notifier.lastListener + tr.length := by
  induction r with
  | refl => exact Nat.le_refl _
  | @move y z hs hs' r m ih =>
    rw [List.length_append, ← Nat.add_assoc]
    exact Nat.le_trans m.lastListener_le (Nat.add_le_add_right ih _)

/-- **No number of a listener runs over** a word of 64 bits, unless 2^64 things happen. -/
theorem Run.listeners_are_words (r : Run {} tr x) (few : tr.length < 2 ^ 64) :
    ∀ l ∈ x.notifier.listeners, l.id < 2 ^ 64 := by
  intro l member
  have numbered : Numbered x.notifier := (Faithful.start.run r).numbered
  have last : x.notifier.lastListener ≤ 0 + tr.length := r.lastListener_le
  rw [Nat.zero_add] at last
  exact Nat.lt_of_le_of_lt (Nat.le_trans (numbered.counted l member) last) few

/-! ## 6. Flushes -/

/-- How far the thread has got with a request that was made after `pre`. -/
inductive Awaited (pre : List Happening) (request : Nat) (tr : List Happening) (x : Notifying) :
    Prop
  | queued (before after : List ControlMessage)
      (waiting : x.notifier.control = before ++ .flush request :: after)
      (ahead : emittedIn pre =
        deliveredIn .controller tr ++ before.filterMap ControlMessage.event?)
  | draining (flushing : x.errand = .draining request)
      (told : emittedIn pre <+: deliveredIn .controller tr)
  | settled (told : emittedIn pre <+: deliveredIn .controller tr)
      (news : (sentIn pre).filterMap DebuggerEvent.ofVm? <+: deliveredIn .debuggee tr)

variable {pre : List Happening} {request : Nat}

/-- A request is behind all that was emitted before it. -/
theorem Faithful.requested (f : Faithful pre x) :
    Awaited pre x.notifier.requestFlush.1 (pre ++ [.requested x.notifier.requestFlush.1])
      { x with notifier := x.notifier.requestFlush.2 } :=
  .queued x.notifier.control [] rfl (by rw [f.controller]; simp)

/-- With nothing left in its stream, all news of the debuggee has been delivered. -/
theorem Faithful.emptied (f : Faithful tr x) (empty : x.notifier.stream = []) (earlier : pre <+: tr) :
    (sentIn pre).filterMap DebuggerEvent.ofVm? <+: deliveredIn .debuggee tr := by
  obtain ⟨taken, sent, delivered⟩ := f.debuggee
  rw [delivered, ← List.append_nil taken, ← empty, ← sent]
  exact (earlier.filterMap _).filterMap _

theorem Move.request_eq (m : Move x [.requested request] y) :
    request = x.notifier.requestFlush.1 ∧ y = { x with notifier := x.notifier.requestFlush.2 } := by
  generalize hh : [Happening.requested request] = hs at m
  cases m with
  | @takeEvent e => cases he : DebuggerEvent.ofVm? e <;> simp [told, he] at hh
  | request => simpa using hh
  | _ => simp at hh

theorem Move.answering (m : Move x [.acknowledged request] y) : x.errand = .answering request := by
  generalize hh : [Happening.acknowledged request] = hs at m
  cases m with
  | @takeEvent e => cases he : DebuggerEvent.ofVm? e <;> simp [told, he] at hh
  | acknowledge answers => simp_all
  | _ => simp at hh

theorem Awaited.move (a : Awaited pre request tr x) (f : Faithful tr x) (earlier : pre <+: tr)
    (m : Move x hs y) : Awaited pre request (tr ++ hs) y := by
  cases a with
  | settled told news =>
    apply Awaited.settled
    · exact told.trans (by simp)
    · exact news.trans (by simp)
  | draining flushing told =>
    have told' : emittedIn pre <+: deliveredIn .controller (tr ++ hs) := told.trans (by simp)
    cases m with
    | drained flushing' empty => exact .settled told' (by simpa using f.emptied empty earlier)
    | takeNews free => simp [free] at flushing
    | takeFlush free => simp [free] at flushing
    | leave free => simp [free] at flushing
    | acknowledge answers => simp [answers] at flushing
    | _ => exact .draining flushing told'
  | queued before after waiting ahead =>
    cases m with
    | send e opened =>
      exact .queued before after (by simpa [Notifier.send, opened] using waiting)
        (by simpa using ahead)
    | emit e =>
      exact .queued before (after ++ [.emit e]) (by simp [Notifier.emit, waiting])
        (by simpa using ahead)
    | request =>
      exact .queued before (after ++ [.flush (x.notifier.lastFlush + 1)])
        (by simp [Notifier.requestFlush, waiting])
        (by simpa using ahead)
    | @takeEvent e rest n reads busy first took =>
      obtain rfl : _ = n := by simpa [Notifier.takeEvent?_cons _ first] using took
      exact .queued before after (by simpa using waiting) (by simpa using ahead)
    | @takeNews e rest n free first took =>
      obtain rfl : _ = n := by simpa [Notifier.takeMessage?, first] using took
      cases before with
      | nil => simp [first] at waiting
      | cons m before =>
        obtain ⟨rfl, behind⟩ : .emit e = m ∧ rest = before ++ .flush request :: after := by
          simpa [first] using waiting
        exact .queued before after behind (by simpa [List.filterMap_cons] using ahead)
    | @takeFlush request' rest free first =>
      cases before with
      | nil =>
        obtain ⟨rfl, rfl⟩ : request' = request ∧ rest = after := by simpa [first] using waiting
        have told : emittedIn pre <+: deliveredIn .controller (tr ++ []) := by simp [ahead]
        by_cases reads : x.attentive = true
        · exact .draining (if_pos reads) told
        · have empty := (f.finished (by simpa using reads)).2
          exact .settled told (by simpa using f.emptied empty earlier)
      | cons m before =>
        obtain ⟨rfl, behind⟩ : .flush request' = m ∧ rest = before ++ .flush request :: after := by
          simpa [first] using waiting
        exact .queued before after behind (by simpa [List.filterMap_cons] using ahead)
    | _ => exact .queued before after waiting (by simpa using ahead)

theorem Awaited.run (a : Awaited pre request tr x) (f : Faithful tr x) (earlier : pre <+: tr)
    (r : Run x hs y) : Awaited pre request (tr ++ hs) y := by
  induction r with
  | refl => simpa using a
  | @move y z hs hs' r m ih =>
    have kept := ih.move (f.run r) (earlier.trans (List.prefix_append _ _)) m
    simpa using kept

/-- A request that is about to be answered is settled: it can be waiting at one place only. -/
theorem Awaited.answered (a : Awaited pre request tr x) (f : Faithful tr x)
    (answers : x.errand = .answering request) :
    emittedIn pre <+: deliveredIn .controller tr ∧
      (sentIn pre).filterMap DebuggerEvent.ofVm? <+: deliveredIn .debuggee tr := by
  cases a with
  | settled told news => exact ⟨told, news⟩
  | draining flushing => simp [flushing] at answers
  | queued before after waiting =>
    have once : x.pending.Nodup := by
      have all : (acknowledgedIn tr ++ x.pending).Nodup := by
        rw [← f.answers, f.requests]
        exact List.nodup_range'
      exact (List.nodup_append.1 all).2.1
    simp [pending, answers, waiting] at once

/-- Before a request is answered, all that was sent and emitted before it is delivered. -/
theorem Run.answered {mid : List Happening} (r : Run {} (pre ++ .requested request :: mid) x)
    (answers : x.errand = .answering request) :
    emittedIn pre <+: deliveredIn .controller (pre ++ .requested request :: mid) ∧
      (sentIn pre).filterMap DebuggerEvent.ofVm? <+:
        deliveredIn .debuggee (pre ++ .requested request :: mid) := by
  obtain ⟨y, y', before, asked, later⟩ := r.split
  have fy : Faithful pre y := by simpa using Faithful.start.run before
  have behind : Awaited pre request (pre ++ [.requested request]) y' := by
    obtain ⟨rfl, rfl⟩ := asked.request_eq
    exact fy.requested
  have reached := behind.run (fy.move asked) (List.prefix_append _ _) later
  rw [List.append_assoc, List.singleton_append] at reached
  exact reached.answered (by simpa using Faithful.start.run r) answers

/-! ## 7. Faithful delivery -/

/-- Whatever is sent, emitted, added, removed, asked for or closed, and whichever stream the thread
turns to: the news of the debuggee is delivered for a prefix of what it sent, and that of the
controller up to what still waits, each in its order; the listeners have heard exactly what was
delivered while they were registered; requests are answered once and in turn; and when one is
answered, all that was sent and emitted before it has been delivered. The news in an event of the
debuggee is what it announces, and only the coming and going of threads is passed over. -/
theorem delivery_is_faithful (r : Run {} tr x) :
    (∃ taken, sentIn tr = taken ++ x.notifier.stream ∧
      deliveredIn .debuggee tr = taken.filterMap DebuggerEvent.ofVm?) ∧
    emittedIn tr =
      deliveredIn .controller tr ++ x.notifier.control.filterMap ControlMessage.event? ∧
    (x.notifier.listeners = (heardIn tr).1 ∧ (x.notifier.listeners.map (·.id)).Nodup ∧
      x.notifier.deliveries.toList = (heardIn tr).2) ∧
    ((requestedIn tr).Nodup ∧ requestedIn tr = x.notifier.acknowledged ++ x.pending ∧
      x.notifier.acknowledged = acknowledgedIn tr) ∧
    (∀ before request after, tr = before ++ .acknowledged request :: after →
      ∃ pre mid, before = pre ++ .requested request :: mid ∧
        emittedIn pre <+: deliveredIn .controller before ∧
        (sentIn pre).filterMap DebuggerEvent.ofVm? <+: deliveredIn .debuggee before) ∧
    (∀ e news, DebuggerEvent.ofVm? e = some news ↔ e.Announces news) ∧
    ∀ e, DebuggerEvent.ofVm? e = none ↔
      ∃ thread, e = .threadStarted thread ∨ e = .threadDied thread := by
  have f : Faithful tr x := by simpa using Faithful.start.run r
  have apart : (requestedIn tr).Nodup := by
    rw [f.requests]
    exact List.nodup_range'
  refine ⟨f.debuggee, f.controller, ⟨by rw [f.heard], f.numbered.apart, by rw [f.heard]⟩,
    ⟨apart, by rw [f.answered, f.answers], f.answered⟩, ?_,
    fun _ _ => DebuggerEvent.ofVm?_eq_some_iff, fun _ => DebuggerEvent.ofVm?_eq_none_iff⟩
  rintro before request after rfl
  obtain ⟨w, w', r', answered, -⟩ := r.split
  have fw : Faithful before w := by simpa using Faithful.start.run r'
  have asked : request ∈ requestedIn before := by
    rw [fw.answers]
    simp [pending, answered.answering]
  obtain ⟨h, hmem, hh⟩ := List.mem_filterMap.1 asked
  obtain rfl : h = .requested request := by cases h <;> simp_all
  obtain ⟨pre, mid, rfl⟩ := List.append_of_mem hmem
  exact ⟨pre, mid, rfl, r'.answered answered.answering⟩

/-- One listener panics at everything, and the other hears it all the same. What the debuggee sends
during a flush may come through before the answer, and need not. -/
theorem panics_keep_nothing_back :
    ∃ tr x, Run {} tr x ∧
      sentIn tr = [.started, .threadStarted 1, .terminated] ∧
      deliveredIn .debuggee tr = [.started] ∧
      x.notifier.stream = [.terminated] ∧
      x.notifier.deliveries.toList =
        [⟨1, .disabled "lost", .panicked⟩, ⟨2, .disabled "lost", .returned⟩,
         ⟨1, .started, .panicked⟩, ⟨2, .started, .returned⟩] ∧
      x.notifier.acknowledged = [1] := by
  have r := (Run.refl {}).move (.add fun _ => .panicked)
    |>.move (.add fun _ => .returned)
    |>.move (.send .started rfl)
    |>.move (.emit (.disabled "lost"))
    |>.move .request
    |>.move (.takeNews rfl rfl rfl)
    |>.move (.takeFlush rfl rfl)
    |>.move (.takeEvent rfl (by simp) rfl rfl)
    |>.move (.send (.threadStarted 1) rfl)
    |>.move (.takeEvent rfl (by simp) rfl rfl)
    |>.move (.drained rfl rfl)
    |>.move (.send .terminated rfl)
    |>.move (.acknowledge rfl)
    |>.move .close
  obtain ⟨-, -, ⟨-, -, heard⟩, ⟨-, -, answered⟩, -, -⟩ := delivery_is_faithful r
  exact ⟨_, _, r, rfl, rfl, rfl, heard.trans rfl, answered.trans rfl⟩

end Notifying

end Debugger
