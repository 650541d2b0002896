import Mathlib.Data.Set.Basic
import Mathlib.Order.Lattice
import Debugger.Script
import Debugger.Proofs.Thread.Exceptions
import Debugger.Proofs.Debuggee.Stack
/-!
# Exceptions describe where they were raised

By the time an exception is told of, the frames it came through have been left. It carries a picture of
the stack with it, and what is told is that picture. So the picture must have been taken when the
exception was raised, and nobody may exchange it on the way.

A body could return any exception at all, with any picture. Those that are written with the
operations of `Routine` cannot: a `Genuine` routine ends in no exception but the ones that it raised
itself, on the frames that it was given for that, and the ones that its calls brought it. Scripts are
genuine, all of them.

* `Routine.Genuine` - what a routine may know of exceptions, from one request to the next.
* `Script.toBody_genuine` - scripts are genuine.
* `Staged.Raises` - the three ways in which an exception comes to be.
* `Staged.Honest` - an exception that is on its way was raised on the way here.
* `Staged.exceptions_describe_throw_site` - the description of an exception that nobody caught is the
  stack of calls at the moment when it was raised.

## 1. Genuine routines

## 2. Scripts

## 3. Methods and tasks

## 4. Raising

## 5. Exceptions on their way

## 6. What is told
-/

namespace Debugger

/-! ## 1. Genuine routines -/

/-- The exception that an answer brings. -/
def brought {α : Type} (r : Except Thrown α) : Set Thrown := {e | r = .error e}

/-- A value brings none. -/
theorem brought_ok {α : Type} (v : α) (known : Set Thrown) : brought (.ok v) ⊆ known := by
  rintro e ⟨⟩

/-- The exceptions that may be raised with the answer to a query. Only the live frames are a picture
of the stack. -/
def Query.brings : (q : Query) → q.Answer → Set Thrown
  | frames, fs => {e | ∃ typeName message, e = .exception typeName message fs}
  | _, _ => ∅

namespace Routine

variable {α β : Type} {known known' : Set Thrown}

/-- Whatever a routine is answered, it ends as `post` says, which may depend on the exceptions that it
knows by then. Those are the ones it knows to begin with and the ones that the answers bring. -/
def Genuine (post : α → Set Thrown → Prop) : Set Thrown → Routine α → Prop
  | known, done a => post a known
  | _, panic _ => True
  | known, ask q next => ∀ reply, Genuine post (known ∪ q.brings reply) (next reply)
  | known, line _ next => ∀ r, Genuine post (known ∪ brought r) (next r)
  | known, call _ next => ∀ r, Genuine post (known ∪ brought r) (next r)
  | known, park next => Genuine post known (next ())
  | known, note _ next => Genuine post known (next ())

/-- A routine stays genuine when more exceptions are known. -/
theorem Genuine.mono {post : α → Set Thrown → Prop} {r : Routine α} (h : r.Genuine post known)
    (more : known ⊆ known') (mono : ∀ a k k', k ⊆ k' → post a k → post a k') :
    r.Genuine post known' := by
  induction r generalizing known known' with
  | done a => exact mono a _ _ more h
  | panic m => trivial
  | ask q next ih => exact fun reply => ih reply (h reply) (Set.union_subset_union_left _ more)
  | line n next ih => exact fun r => ih r (h r) (Set.union_subset_union_left _ more)
  | call c next ih => exact fun r => ih r (h r) (Set.union_subset_union_left _ more)
  | park next ih => exact ih () h more
  | note n next ih => exact ih () h more

theorem Genuine.bind {post : α → Set Thrown → Prop} {post' : β → Set Thrown → Prop}
    {r : Routine α} {f : α → Routine β} (h : r.Genuine post known)
    (on : ∀ a k, known ⊆ k → post a k → (f a).Genuine post' k) :
    (r.bind f).Genuine post' known := by
  induction r generalizing known with
  | done a => exact on a known (Set.Subset.refl _) h
  | panic m => trivial
  | ask q next ih =>
    intro reply
    exact ih reply (h reply) fun a k more => on a k (Set.subset_union_left.trans more)
  | line n next ih =>
    intro r
    exact ih r (h r) fun a k more => on a k (Set.subset_union_left.trans more)
  | call c next ih =>
    intro r
    exact ih r (h r) fun a k more => on a k (Set.subset_union_left.trans more)
  | park next ih => exact ih () h on
  | note n next ih => exact ih () h on

/-- The exception that is returned is a known one. -/
def Returns (r : Except Thrown α) (known : Set Thrown) : Prop := brought r ⊆ known

end Routine

open Routine (Genuine Returns)

/-- A body that returns no exception but the ones it knows. -/
def Body.Genuine (b : Body) (known : Set Thrown) : Prop := Routine.Genuine Returns known b

/-- The caller of a call, which goes on with whatever comes of it. -/
def Body.Willing (next : Except Thrown Value → Body) (known : Set Thrown) : Prop :=
  ∀ r, Body.Genuine (next r) (known ∪ brought r)

variable {known known' : Set Thrown}

theorem Body.Genuine.more {b : Body} (h : Body.Genuine b known) (more : known ⊆ known') :
    Body.Genuine b known' :=
  h.mono more fun _ _ _ more returned => returned.trans more

theorem Body.Willing.more {next : Except Thrown Value → Body} (h : Body.Willing next known)
    (more : known ⊆ known') : Body.Willing next known' :=
  fun r => (h r).more (Set.union_subset_union_left _ more)

/-- A caller that goes on with a known exception. -/
theorem Body.Willing.goesOn {next : Except Thrown Value → Body} (h : Body.Willing next known)
    {r : Except Thrown Value} (there : brought r ⊆ known) : Body.Genuine (next r) known :=
  (h r).more (Set.union_subset (Set.Subset.refl _) there)

/-- What the caller of a constructor makes of its result brings no other exceptions. -/
theorem Body.Willing.map {next : Except Thrown Value → Body} (h : Body.Willing next known)
    (f : Value → Value) : Body.Willing (fun r => next (r.map f)) known := by
  intro r
  cases r with
  | ok v => exact (h (.ok (f v))).more (Set.union_subset_union_right _ (brought_ok _ _))
  | error e => exact h (.error e)

/-! ## 2. Scripts -/

namespace Routine

/-- The exceptions that the operations of bodies raise are their own. -/
theorem raise_genuine (α : Type) (typeName message : String) :
    Genuine Returns known (raise typeName message : Attempt α).run := by
  intro frames e raised
  cases raised
  exact .inr ⟨typeName, message, rfl⟩

theorem requireObject_genuine (v : Value) : Genuine Returns known (requireObject v).run := by
  cases v with
  | object o => exact brought_ok _ _
  | null | void | primitive => exact raise_genuine _ _ _

theorem getField_genuine (o : ObjectRef) (field : String) :
    Genuine Returns known (getField o field).run := by
  intro reply
  cases reply with
  | some v => exact brought_ok _ _
  | none => exact raise_genuine _ _ _

theorem setField_genuine (o : ObjectRef) (field : String) (v : Value) :
    Genuine Returns known (setField o field v).run := by
  intro reply
  cases reply with
  | true => exact brought_ok _ _
  | false => exact raise_genuine _ _ _

theorem getStatic_genuine (className field : String) :
    Genuine Returns known (getStatic className field).run := by
  intro reply
  cases reply with
  | some v => exact brought_ok _ _
  | none => exact raise_genuine _ _ _

theorem setStatic_genuine (className field : String) (v : Value) :
    Genuine Returns known (setStatic className field v).run := by
  intro reply
  cases reply with
  | true => exact brought_ok _ _
  | false => exact raise_genuine _ _ _

theorem reachLine_genuine (n : Line) : Genuine Returns known (reachLine n).run :=
  fun _ => Set.subset_union_right

theorem invoke_genuine (c : Call) : Genuine Returns known (invoke c).run :=
  fun _ => Set.subset_union_right

/-- Any routine is genuine if nothing is asked of what it ends in. -/
theorem genuine_of_true {α : Type} (r : Routine α) : Genuine (fun _ _ => True) known r := by
  induction r generalizing known with
  | done | panic => trivial
  | ask q next ih => exact fun reply => ih reply
  | line n next ih => exact fun r => ih r
  | call c next ih => exact fun r => ih r
  | park next ih => exact ih ()
  | note n next ih => exact ih ()

end Routine

namespace Script

variable {α β : Type}

/-- A piece of a script that raises no exception but the ones it knows. -/
def Genuine (known : Set Thrown) (r : Run α) : Prop :=
  ∀ known', known ⊆ known' → ∀ registers,
    Routine.Genuine (fun (out : Except Exit α × Registers) k => ∀ e, out.1 = .error (.raised e) → e ∈ k)
      known' (r.run.run registers)

theorem Genuine.pure (v : α) : Genuine known (pure v : Run α) := fun _ _ _ => nofun

theorem Genuine.bind {r : Run α} {f : α → Run β} (h : Genuine known r)
    (on : ∀ v, Genuine known (f v)) : Genuine known (r >>= f) := by
  intro known' more registers
  refine Routine.Genuine.bind (h known' more registers) fun (result, registers') k more' raised => ?_
  cases result with
  | ok v => exact on v k (more.trans more') registers'
  | error exit =>
    rintro e ⟨⟩
    exact raised e rfl

theorem Genuine.raise {exit : Exit} (h : ∀ e, exit = .raised e → e ∈ known) :
    Genuine known (throw exit : Run α) := by
  intro known' more registers e raised
  cases raised
  exact more (h e rfl)

theorem Genuine.tryCatch {r : Run α} {handler : Exit → Run α} (h : Genuine known r)
    (caught : ∀ exit, Genuine (known ∪ {e | exit = .raised e}) (handler exit)) :
    Genuine known (tryCatch r handler) := by
  intro known' more registers
  refine Routine.Genuine.bind (h known' more registers) fun (result, registers') k more' raised => ?_
  cases result with
  | ok v => exact nofun
  | error exit =>
    refine caught exit k (Set.union_subset (more.trans more') ?_) registers'
    rintro e rfl
    exact raised e rfl

theorem Genuine.modify (f : Registers → Registers) : Genuine known (modify f : Run Unit) :=
  fun _ _ _ => nofun

theorem Genuine.get : Genuine known (get : Run Registers) := fun _ _ _ => nofun

/-- What a routine ends in is what the script goes on with. -/
theorem run_ofRoutine {r : Routine α} {post : α → Set Thrown → Prop}
    (h : Routine.Genuine post known r) (registers : Registers) :
    Routine.Genuine (fun (out : Except Exit α × Registers) k => ∃ v, out.1 = .ok v ∧ post v k) known
      ((ofRoutine r).run.run registers) := by
  have lifted : Routine.Genuine (fun (out : α × Registers) k => post out.1 k) known
      (StateT.lift r registers) :=
    h.bind fun v k _ ended => ended
  exact lifted.bind fun (v, registers) k _ ended => ⟨v, rfl, ended⟩

theorem Genuine.ofRoutine (r : Routine α) : Genuine known (ofRoutine r) := by
  intro known' more registers
  refine Routine.Genuine.bind (Routine.genuine_of_true _) fun (v, registers') k _ _ => ?_
  exact nofun

theorem Genuine.ofAttempt {attempt : Routine.Attempt α}
    (h : ∀ known, Routine.Genuine Returns known attempt.run) : Genuine known (ofAttempt attempt) := by
  intro known' more registers
  refine Routine.Genuine.bind (run_ofRoutine (h known') registers) ?_
  rintro ⟨result, registers'⟩ k more' ⟨v, rfl, returned⟩
  cases v with
  | ok v => exact nofun
  | error e =>
    rintro e' ⟨⟩
    exact returned rfl

theorem Genuine.store (target : Option String) (v : Value) : Genuine known (store target v) := by
  cases target with
  | none => exact .pure ()
  | some name => exact .modify _

theorem Genuine.eval (args : List Value) (o : Operand) : Genuine known (o.eval args) := by
  cases o with
  | value v => exact .pure v
  | argument n => exact .pure _
  | register name => exact Genuine.get.bind fun _ => .pure _
  | localVariable name => exact (Genuine.ofRoutine _).bind fun _ => .pure _
  | receiver =>
    refine (Genuine.ofRoutine _).bind fun o => ?_
    cases o with
    | some o => exact .pure _
    | none => exact .pure _

theorem Genuine.evalInt (args : List Value) (o : Operand) : Genuine known (o.evalInt args) :=
  (Genuine.eval args o).bind fun _ => .pure _

/-- Operands are evaluated one after the other. -/
theorem Genuine.mapM {f : α → Run β} (h : ∀ v, Genuine known (f v)) (l : List α) :
    Genuine known (l.mapM f) := by
  have loop : ∀ (l : List α) (done : List β), Genuine known (List.mapM.loop f l done) := by
    intro l
    induction l with
    | nil => exact fun done => .pure _
    | cons v l ih => exact fun done => (h v).bind fun w => ih (w :: done)
  exact loop l []

theorem Genuine.forM {f : α → Run Unit} (h : ∀ v, Genuine known (f v)) (l : List α) :
    Genuine known (l.forM f) := by
  induction l with
  | nil => exact .pure ()
  | cons v l ih => exact (h v).bind fun _ => ih

theorem Genuine.makeString (text : String) (target : Option String) :
    Genuine known (makeString text target) :=
  (Genuine.ofRoutine _).bind fun _ => .store target _

theorem Genuine.call (c : Call) (target : Option String) : Genuine known (call c target) :=
  (Genuine.ofAttempt fun _ => Routine.invoke_genuine c).bind fun v => .store target v

variable (args : List Value)

mutual

theorem Statement.run_genuine (known : Set Thrown) : ∀ s : Statement, Genuine known (s.run args)
  | .line n => by
    unfold Statement.run
    exact .ofAttempt fun _ => Routine.reachLine_genuine n
  | .setLocal name value => by
    unfold Statement.run
    exact (Genuine.eval args value).bind fun _ => .ofRoutine _
  | .depth target => by
    unfold Statement.run
    exact (Genuine.ofRoutine _).bind fun _ => .store target _
  | .move value target => by
    unfold Statement.run
    exact (Genuine.eval args value).bind fun _ => .store target _
  | .add a b target => by
    unfold Statement.run
    exact (Genuine.evalInt args a).bind fun _ => (Genuine.evalInt args b).bind fun _ =>
      .store target _
  | .getField object name target => by
    unfold Statement.run
    exact (Genuine.eval args object).bind fun v =>
      (Genuine.ofAttempt fun _ => Routine.requireObject_genuine v).bind fun o =>
        (Genuine.ofAttempt fun _ => Routine.getField_genuine o name).bind fun _ => .store target _
  | .setField object name value => by
    unfold Statement.run
    exact (Genuine.eval args object).bind fun o => (Genuine.eval args value).bind fun v =>
      (Genuine.ofAttempt fun _ => Routine.requireObject_genuine o).bind fun o =>
        .ofAttempt fun _ => Routine.setField_genuine o name v
  | .getStatic className name target => by
    unfold Statement.run
    exact (Genuine.ofAttempt fun _ => Routine.getStatic_genuine className name).bind fun _ =>
      .store target _
  | .setStatic className name value => by
    unfold Statement.run
    exact (Genuine.eval args value).bind fun v =>
      .ofAttempt fun _ => Routine.setStatic_genuine className name v
  | .newString text target => by
    unfold Statement.run
    exact .makeString text target
  | .concat value text target => by
    unfold Statement.run
    exact (Genuine.eval args value).bind fun _ => (Genuine.ofRoutine _).bind fun _ =>
      .makeString _ target
  | .construct className operands target => by
    unfold Statement.run
    exact (Genuine.mapM (Genuine.eval args) operands).bind fun _ => .call _ target
  | .callStatic className method operands target => by
    unfold Statement.run
    exact (Genuine.mapM (Genuine.eval args) operands).bind fun _ => .call _ target
  | .callVirtual object method operands target => by
    unfold Statement.run
    exact (Genuine.eval args object).bind fun o =>
      (Genuine.mapM (Genuine.eval args) operands).bind fun _ =>
        (Genuine.ofAttempt fun _ => Routine.requireObject_genuine o).bind fun _ => .call _ target
  | .requireObject value => by
    unfold Statement.run
    exact (Genuine.eval args value).bind fun v =>
      (Genuine.ofAttempt fun _ => Routine.requireObject_genuine v).bind fun _ => .pure ()
  | .raise typeName message => by
    unfold Statement.run
    exact .ofAttempt fun _ => Routine.raise_genuine _ typeName message
  | .panic message => by
    unfold Statement.run
    exact .ofRoutine _
  | .result value => by
    unfold Statement.run
    exact (Genuine.eval args value).bind fun _ => .raise nofun
  | .trace value => by
    unfold Statement.run
    exact (Genuine.eval args value).bind fun _ => .ofRoutine _
  | .traceString value => by
    unfold Statement.run
    exact (Genuine.eval args value).bind fun _ => (Genuine.ofRoutine _).bind fun _ => .ofRoutine _
  | .traceLocal name => by
    unfold Statement.run
    exact (Genuine.ofRoutine _).bind fun _ => .ofRoutine _
  | .park => by
    unfold Statement.run
    exact .ofRoutine _
  | .loop count counter body => by
    unfold Statement.run
    exact Genuine.forM (fun _ => (Genuine.modify _).bind fun _ => runAll_genuine known body) _
  | .ifLess a b yes no => by
    unfold Statement.run
    refine (Genuine.evalInt args a).bind fun _ => (Genuine.evalInt args b).bind fun _ => ?_
    split
    · exact runAll_genuine known yes
    · exact runAll_genuine known no
  | .guarded body handler again => by
    unfold Statement.run
    refine (runAll_genuine known body).tryCatch fun exit => ?_
    split
    · refine (Genuine.ofRoutine _).bind fun _ => (runAll_genuine _ handler).bind fun _ => ?_
      split
      · exact .raise fun e raised => .inr raised
      · exact .pure ()
    · exact .raise fun e raised => .inr raised

theorem runAll_genuine (known : Set Thrown) : ∀ script : List Statement, Genuine known (runAll args script)
  | [] => by
    unfold runAll
    exact .pure ()
  | s :: rest => by
    unfold runAll
    exact (s.run_genuine known).bind fun _ => runAll_genuine known rest

end

/-- **Scripts are genuine.** -/
theorem toBody_genuine (script : List Statement) : Body.Genuine (toBody script args) ∅ := by
  refine Routine.Genuine.bind (runAll_genuine args ∅ script ∅ (Set.Subset.refl _) ∅) ?_
  rintro ⟨result, registers⟩ known - raised
  cases result with
  | ok => exact nofun
  | error exit =>
    cases exit with
    | returned v => exact nofun
    | raised e =>
      rintro e' ⟨⟩
      exact raised e rfl

end Script

/-! ## 3. Methods and tasks -/

/-- The lines of a method ascend, as they are declared for a loaded class, and whatever it is called
with, it knows no exceptions to begin with. -/
structure Method.Proper (m : Method) : Prop where
  ascending : m.lines.Pairwise (· < ·)
  genuine : ∀ args, Body.Genuine (m.body args) ∅

/-- A task that is a body of its own knows no exceptions to begin with. -/
def Task.Genuine : Task → Prop
  | body b => Body.Genuine b ∅
  | invoke _ => True

/-- How the task goes on is genuine. -/
def Position.Genuine (known : Set Thrown) : Position → Prop
  | starting _ => True
  | running body | entering body | atEntry body => Body.Genuine body known
  | atLine next => ∀ r : Except Thrown Unit, Body.Genuine (next r) (known ∪ brought r)
  | atException _ => False
  | parked next => Body.Genuine (next ()) known

/-- An exception that the outcome tells of is a known one, or the debugger's own. -/
def Outcome.Honest (known : Set Thrown) (o : Outcome) : Prop :=
  ∀ d, o = .exception d → d = .internal ∨ ∃ e ∈ known, e ≠ .threadDeath ∧ d = e.describe

theorem Outcome.honest_terminated : Outcome.Honest known .terminated := by
  rintro d ⟨⟩

theorem Outcome.Honest.more {o : Outcome} (h : o.Honest known) (more : known ⊆ known') :
    o.Honest known' := by
  intro d told
  rcases h d told with internal | ⟨e, raised, described⟩
  · exact .inl internal
  · exact .inr ⟨e, more raised, described⟩

theorem insertLine_ascending {n : Line} {lines : List Line} (h : lines.Pairwise (· < ·)) :
    (insertLine n lines).Pairwise (· < ·) ∧ ∀ k ∈ insertLine n lines, k = n ∨ k ∈ lines := by
  induction lines with
  | nil => exact ⟨List.pairwise_singleton _ _, fun k hk => .inl (List.mem_singleton.mp hk)⟩
  | cons m ms ih =>
    obtain ⟨first, rest⟩ := List.pairwise_cons.mp h
    obtain ⟨sorted, members⟩ := ih rest
    unfold insertLine
    split
    · next less =>
      refine ⟨List.pairwise_cons.mpr ⟨?_, h⟩, fun k hk => List.mem_cons.mp hk⟩
      intro k hk
      rcases List.mem_cons.mp hk with rfl | later
      · exact less
      · exact UInt32.lt_trans less (first k later)
    · next notLess =>
      split
      · exact ⟨h, fun k hk => .inr hk⟩
      · next other =>
        have greater : m < n := UInt32.lt_of_le_of_ne (UInt32.not_lt.mp notLess) (Ne.symm other)
        refine ⟨List.pairwise_cons.mpr ⟨?_, sorted⟩, ?_⟩
        · intro k hk
          rcases members k hk with rfl | old
          · exact greater
          · exact first k old
        · intro k hk
          rcases List.mem_cons.mp hk with rfl | hk
          · exact .inr List.mem_cons_self
          · exact (members k hk).imp_right (List.mem_cons_of_mem _)

/-- Sorted lines ascend, so a method whose lines were sorted is `Proper` if its body is genuine. -/
theorem sortLines_ascending (lines : List Line) : (sortLines lines).Pairwise (· < ·) := by
  induction lines with
  | nil => exact List.Pairwise.nil
  | cons n lines ih => exact (insertLine_ascending ih).1

/-- The method of a script. -/
def scriptMethod (name : String) (lines : List Line) (script : List Script.Statement) : Method where
  name
  params := []
  returnType := "void"
  kind := .static
  lines := sortLines lines
  body := Script.toBody script

theorem scriptMethod_proper (name : String) (lines : List Line) (script : List Script.Statement) :
    (scriptMethod name lines script).Proper :=
  ⟨sortLines_ascending lines, fun args => Script.toBody_genuine args script⟩

/-- The lowest of the lines that a method declares. -/
def Method.lowestLine (m : Method) : Line := m.lines.min?.getD 0

theorem Method.Proper.firstLine_eq {m : Method} (h : m.Proper) : m.firstLine = m.lowestLine := by
  unfold firstLine lowestLine
  rw [List.min?_eq_head?]
  exact h.ascending.imp fun less => if_pos (UInt32.le_of_lt less)

/-- Where a call is: at the line that was reported last, and at the lowest line of its method as long
as none was. -/
def Activation.location (c : Activation) : SourceLocation :=
  ⟨c.classDef.name, c.classDef.sourceFile, c.method.name, c.reported.getD c.method.lowestLine⟩

theorem Activation.shown_eq {c : Activation} (h : c.method.Proper) : c.shown = c.location := by
  rw [shown, h.firstLine_eq]
  rfl

/-! ## 4. Raising -/

/-- The exception that the thread tells of, while it shows it and when the task has ended with it. -/
def Worker.told? : Worker → Option ExceptionDescription
  | busy ⟨_, .atException d, _⟩ => some d
  | ended _ (.exception d) => some d
  | telling _ (.exception d) => some d
  | _ => none

instance (w : Worker) : Decidable (w = .waiting) :=
  match w with
  | .waiting => isTrue rfl
  | .holding .. | .busy _ | .ended .. | .telling .. | .exited => isFalse nofun

theorem Worker.told?_cases {w : Worker} {d : ExceptionDescription} (h : w.told? = some d) :
    (∃ call callers, w = .busy ⟨call, .atException d, callers⟩) ∨
      ∃ call, w = .ended call (.exception d) ∨ w = .telling call (.exception d) := by
  unfold told? at h
  split at h
  · cases h
    exact .inl ⟨_, _, rfl⟩
  · cases h
    exact .inr ⟨_, .inl rfl⟩
  · cases h
    exact .inr ⟨_, .inr rfl⟩
  · cases h

namespace Staged

variable {x y z : Staged} {a : Activity} {us ys : List Staged} {t t' : Thread} {s s' : Shared}
  {e : Thrown}

/-- The thread is about to raise an exception, on the frames that are live. -/
inductive Raises (x : Staged) : Thrown → Prop
  | throws {call : CallId} {next : List Frame → Body} {callers : List (Except Thrown Value → Body)}
      (busy : x.thread.worker = .busy ⟨call, .running (.ask .frames next), callers⟩)
      (typeName message : String) : Raises x (.exception typeName message x.thread.frames)
  /-- The body that is running comes to an end by itself, without being asked for. -/
  | panics {call : CallId} {message : String} {callers : List (Except Thrown Value → Body)}
      (busy : x.thread.worker = .busy ⟨call, .running (.panic message), callers⟩) :
      Raises x (.exception Thrown.panicType message x.thread.frames)
  /-- There is nothing to call. -/
  | misses {call : CallId} {c : Call} {next : Except Thrown Value → Body}
      {callers : List (Except Thrown Value → Body)} {typeName message : String}
      (busy : x.thread.worker = .busy ⟨call, .running (.call c next), callers⟩)
      (lost : x.shared.resolve c = .error (typeName, message)) :
      Raises x (.exception typeName message x.thread.frames)

theorem Raises.frames_eq (h : Raises x e) : e.frames = x.thread.frames := by
  cases h <;> rfl

theorem Raises.running (h : Raises x e) :
    ∃ call body callers, x.thread.worker = .busy ⟨call, .running body, callers⟩ := by
  cases h with
  | throws busy | panics busy | misses busy => exact ⟨_, _, _, busy⟩

/-- What bodies can know of exceptions after some moments: what was raised, and the end of the
thread. -/
def knownAfter (ys : List Staged) : Set Thrown := {e | e = .threadDeath ∨ ∃ y ∈ ys, Raises y e}

theorem knownAfter_append (ys : List Staged) (y : Staged) :
    knownAfter ys ⊆ knownAfter (ys ++ [y]) := by
  rintro e (death | ⟨w, hw, raised⟩)
  · exact .inl death
  · exact .inr ⟨w, List.mem_append_left _ hw, raised⟩

theorem Raises.mem_knownAfter (h : Raises y e) : e ∈ knownAfter (ys ++ [y]) :=
  .inr ⟨y, List.mem_append_right _ (List.mem_singleton_self y), h⟩

/-! ## 5. Exceptions on their way -/

/-- What the thread goes on with are exceptions that are known, and none was exchanged for another.
While one is shown, the stack is the picture that it carries. -/
inductive Honest (known : Set Thrown) (x : Staged) : Prop
  | free (free : x.thread.worker = .waiting ∨ x.thread.worker = .exited)
  | holding {call : CallId} {task : Task} (held : x.thread.worker = .holding call task)
      (genuine : task.Genuine)
  | atTask {a : Activity} (busy : x.thread.worker = .busy a) (place : a.position.Genuine known)
      (callers : ∀ next ∈ a.callers, Body.Willing next known)
  | showing {call : CallId} {e : Thrown} (busy : x.thread.worker = .busy ⟨call, .atException e.describe, []⟩)
      (raised : e ∈ known) (real : e ≠ .threadDeath)
      (picture : x.thread.status ≠ .terminated → x.thread.frames = e.frames)
  | ended {call : CallId} {outcome : Outcome}
      (done : x.thread.worker = .ended call outcome ∨ x.thread.worker = .telling call outcome)
      (told : outcome.Honest known)

/-- The exceptions that are known after a moment at which `x` was passed. -/
structure Passed (known : Set Thrown) (x : Staged) (known' : Set Thrown) : Prop where
  more : known ⊆ known'
  death : .threadDeath ∈ known'
  raised : ∀ e, Raises x e → e ∈ known'

theorem passed_knownAfter (ys : List Staged) (y : Staged) :
    Passed (knownAfter ys) y (knownAfter (ys ++ [y])) where
  more := knownAfter_append ys y
  death := .inl rfl
  raised _ h := h.mem_knownAfter

variable {calls : List Activation}

theorem Honest.goesTo {p : Position} (place : p.Genuine known)
    (callers : ∀ next ∈ a.callers, Body.Willing next known) :
    Honest known ⟨t.goTo a p, s, calls⟩ :=
  .atTask rfl place callers

theorem invoke_honest {i : Invocation} {next : Except Thrown Value → Body}
    (willing : Body.Willing next known) (callers : ∀ next ∈ a.callers, Body.Willing next known)
    (proper : ∀ c ∈ i.activations, c.method.Proper) :
    Honest known ⟨(t.invoke a i next s).1, (t.invoke a i next s).2, calls⟩ := by
  have pushed : ∀ (c : ClassDef) (m : Method) (receiver : Option ObjectRef) (args : List Value)
      (next : Except Thrown Value → Body) (s : Shared), m.Proper → Body.Willing next known →
      Honest known ⟨t.pushFrame a c m receiver args next, s, calls⟩ := by
    intro c m receiver args next s proper willing
    refine .atTask rfl ((proper.genuine args).more (Set.empty_subset _)) ?_
    intro k hk
    rcases List.mem_cons.mp hk with rfl | hk
    · exact willing
    · exact callers k hk
  cases i with
  | method c m receiver args => exact pushed c m receiver args next s (proper _ (.head _)) willing
  | construct c constructor args =>
    cases constructor with
    | none => exact .goesTo (willing.goesOn (brought_ok _ _)) callers
    | some m => exact pushed c m _ args _ _ (proper _ (.head _)) (willing.map _)

theorem reachLine_honest (passed : Passed known x known') {n : Line}
    {next : Except Thrown Unit → Body}
    (willing : ∀ r : Except Thrown Unit, Body.Genuine (next r) (known ∪ brought r))
    (callers : ∀ next ∈ a.callers, Body.Willing next known') :
    Honest known' ⟨(x.thread.reachLine a n next x.shared).1,
      (x.thread.reachLine a n next x.shared).2, calls⟩ := by
  have goesOn : ∀ r : Except Thrown Unit, brought r ⊆ known' → Body.Genuine (next r) known' :=
    fun r there => (willing r).more (Set.union_subset passed.more there)
  unfold Thread.reachLine
  split
  · refine .goesTo (goesOn _ ?_) callers
    rintro e ⟨⟩
    exact passed.death
  · cases x.thread.frames with
    | nil => exact .goesTo (goesOn _ (brought_ok _ _)) callers
    | cons f fs =>
      dsimp only
      split
      · exact .atTask rfl (fun r => (willing r).more (Set.union_subset_union_left _ passed.more))
          callers
      · exact .goesTo (goesOn _ (brought_ok _ _)) callers

theorem enter_honest (passed : Passed known x known') {body : Body}
    (genuine : Body.Genuine body known) (callers : ∀ next ∈ a.callers, Body.Willing next known') :
    Honest known' ⟨(x.thread.enter a body x.shared).1, (x.thread.enter a body x.shared).2, calls⟩ := by
  have genuine := genuine.more passed.more
  unfold Thread.enter
  split
  · refine .goesTo (p := .running _) ?_ callers
    rintro e ⟨⟩
    exact passed.death
  · cases x.thread.frames with
    | nil => exact .goesTo (p := .running _) genuine callers
    | cons f fs =>
      dsimp only
      split
      · exact .atTask rfl genuine callers
      · exact .goesTo (p := .running _) genuine callers

theorem adapt_honest (v : Value) (s : Shared) : (Thread.adapt v s).1.Honest known := by
  intro d told
  cases v with
  | null | void | object => cases told
  | primitive p =>
    simp only [Thread.adapt] at told
    split at told
    · cases told
    · cases told
      exact .inl rfl

theorem conclude_honest {result : Except Thrown Value} (returned : Returns result known)
    (last : a.callers = []) :
    Honest known ⟨(x.thread.conclude a result x.shared).1,
      (x.thread.conclude a result x.shared).2, calls⟩ := by
  obtain ⟨call, position, callers⟩ := a
  cases last
  cases result with
  | ok v => exact .ended (.inl rfl) (adapt_honest v x.shared)
  | error thrown =>
    cases thrown with
    | threadDeath => exact .ended (.inl rfl) Outcome.honest_terminated
    | exception typeName message frames =>
      have raised : .exception typeName message frames ∈ known := returned rfl
      have real : Thrown.exception typeName message frames ≠ .threadDeath := by rintro ⟨⟩
      simp only [Thread.conclude]
      split
      · split
        · exact .ended (.inl rfl) Outcome.honest_terminated
        · exact .showing (e := .exception typeName message frames) rfl raised real fun _ => rfl
      · refine .ended (.inl rfl) ?_
        intro d told
        cases told
        exact .inr ⟨_, raised, real, rfl⟩

theorem Honest.of_eq {r : Thread × Shared} (h : Honest known ⟨r.1, r.2, calls⟩)
    (made : some r = some (t, s)) : Honest known ⟨t, s, calls⟩ := by
  cases made
  exact h

theorem answer_honest (passed : Passed known x known') {q : Query} {next : q.Answer → Body}
    (busy : x.thread.worker = .busy ⟨a.call, .running (.ask q next), a.callers⟩) {reply : q.Answer}
    (answer : x.thread.answer x.shared q = (reply, t, s))
    (genuine : Body.Genuine (.ask q next) known) : Body.Genuine (next reply) known' := by
  refine Body.Genuine.more (genuine reply) (Set.union_subset passed.more ?_)
  cases q with
  | frames =>
    cases answer
    rintro e ⟨typeName, message, rfl⟩
    exact passed.raised _ (.throws busy typeName message)
  | receiver | depth | setLocal | readLocal | field | setField | staticField | setStaticField
  | newString | stringOf => exact Set.empty_subset _

/-- **One request of a body**, honestly met. -/
theorem run_honest {body : Body} (passed : Passed known x known')
    (busy : x.thread.worker = .busy ⟨a.call, .running body, a.callers⟩)
    (genuine : Body.Genuine body known) (callers : ∀ next ∈ a.callers, Body.Willing next known)
    (proper : ∀ c ∈ x.nextCalls, c.method.Proper) :
    Honest known' ⟨(x.thread.run a body x.shared).1, (x.thread.run a body x.shared).2, calls⟩ := by
  have callers' : ∀ next ∈ a.callers, Body.Willing next known' :=
    fun next hn => (callers next hn).more passed.more
  cases body with
  | done result =>
    have returned : brought result ⊆ known' := Set.Subset.trans genuine passed.more
    simp only [Thread.run]
    cases hc : a.callers with
    | nil => exact conclude_honest returned hc
    | cons next rest =>
      rw [hc] at callers'
      exact .atTask rfl ((callers' next List.mem_cons_self).goesOn returned)
        fun k hk => callers' k (List.mem_cons_of_mem _ hk)
  | panic message =>
    refine .goesTo (p := .running _) ?_ callers'
    rintro e ⟨⟩
    exact passed.raised _ (.panics busy)
  | ask q next =>
    rcases answer : x.thread.answer x.shared q with ⟨reply, t', s'⟩
    simp only [Thread.run, answer]
    exact .goesTo (p := .running _) (answer_honest passed busy answer genuine) callers'
  | line n next => exact reachLine_honest passed genuine callers'
  | call c next =>
    have willing : Body.Willing next known' := fun r =>
      Body.Genuine.more (genuine r) (Set.union_subset_union_left _ passed.more)
    simp only [Thread.run]
    cases resolved : x.shared.resolve c with
    | ok i =>
      refine invoke_honest willing callers' fun c' hc => proper c' ?_
      simp only [nextCalls, busy, resolved]
      exact List.mem_append_left _ hc
    | error lost =>
      refine .goesTo (p := .running _) (willing.goesOn ?_) callers'
      rintro e ⟨⟩
      exact passed.raised _ (.misses busy resolved)
  | park next => exact .goesTo (p := .parked _) (Body.Genuine.more genuine passed.more) callers'
  | note n next => exact .goesTo (p := .running _) (Body.Genuine.more genuine passed.more) callers'

theorem atTask_honest (passed : Passed known x known') (busy : x.thread.worker = .busy a)
    (place : a.position.Genuine known) (callers : ∀ next ∈ a.callers, Body.Willing next known)
    (proper : ∀ c ∈ x.nextCalls, c.method.Proper) (step : x.thread.step x.shared = some (t, s)) :
    Honest known' ⟨t, s, calls⟩ := by
  have callers' : ∀ next ∈ a.callers, Body.Willing next known' :=
    fun next hn => (callers next hn).more passed.more
  have refused : Body.Genuine (.done (.error .threadDeath)) known' := by
    rintro e ⟨⟩
    exact passed.death
  obtain ⟨call, position, callers⟩ := a
  simp only [Thread.step, busy] at step
  cases position with
  | starting i =>
    have willing : Body.Willing .done known' := fun r => Set.subset_union_right
    refine (invoke_honest willing callers' fun c hc => proper c ?_).of_eq step
    simp only [nextCalls, busy]
    exact List.mem_append_left _ hc
  | running body => exact (run_honest passed busy place callers proper).of_eq step
  | entering body => exact (enter_honest passed place callers').of_eq step
  | atLine next =>
    have goesOn : ∀ r : Except Thrown Unit, brought r ⊆ known' → Body.Genuine (next r) known' :=
      fun r there => (place r).more (Set.union_subset passed.more there)
    simp only [Thread.proceed] at step
    split at step
    · cases step
    · cases step
      refine .goesTo (p := .running _) (goesOn _ ?_) callers'
      rintro e ⟨⟩
      exact passed.death
    · cases step
      exact .goesTo (p := .running _) (goesOn _ (brought_ok _ _)) callers'
  | atEntry body =>
    simp only [Thread.proceed] at step
    split at step
    · cases step
    · cases step
      exact .goesTo (p := .running _) refused callers'
    · cases step
      exact .goesTo (p := .running _) (Body.Genuine.more place passed.more) callers'
  | atException d => exact place.elim
  | parked next => cases step

/-- **One step of the thread's own.** -/
theorem Honest.own (h : Honest known x) (passed : Passed known x known')
    (atTask : x.thread.worker ≠ .waiting) (proper : ∀ c ∈ x.nextCalls, c.method.Proper)
    (step : x.thread.step x.shared = some (t, s)) : Honest known' ⟨t, s, calls⟩ := by
  cases h with
  | free free =>
    rcases free with waiting | exited
    · exact absurd waiting atTask
    · simp only [Thread.step, exited] at step
      cases step
  | holding held genuine =>
    simp only [Thread.step, held] at step
    unfold Thread.begin at step
    split at step
    · cases step
      exact .free (.inl rfl)
    · cases step
      refine .atTask rfl ?_ fun next hn => absurd hn List.not_mem_nil
      rename_i task _
      cases task with
      | body b => exact Body.Genuine.more genuine (Set.empty_subset _)
      | invoke i => trivial
  | atTask busy place callers => exact atTask_honest passed busy place callers proper step
  | showing busy raised real picture =>
    simp only [Thread.step, busy, Thread.proceed] at step
    split at step
    · cases step
    · cases step
      exact .ended (.inl rfl) Outcome.honest_terminated
    · cases step
      refine .ended (.inl rfl) ?_
      rintro d ⟨⟩
      exact .inr ⟨_, passed.more raised, real, rfl⟩
  | ended done told =>
    rcases done with ended | telling
    · simp only [Thread.step, ended] at step
      cases step
      exact .ended (.inr rfl) (Outcome.Honest.more told passed.more)
    · simp only [Thread.step, telling] at step
      cases step
      exact .free (.inl rfl)

theorem Honest.more (h : Honest known x) (more : known ⊆ known') : Honest known' x := by
  cases h with
  | free free => exact .free free
  | holding held genuine => exact .holding held genuine
  | atTask busy place callers =>
    refine .atTask busy ?_ fun next hn => (callers next hn).more more
    generalize Activity.position _ = p at place ⊢
    cases p with
    | starting => trivial
    | running | entering | atEntry | parked => exact Body.Genuine.more place more
    | atLine => exact fun r => (place r).more (Set.union_subset_union_left _ more)
    | atException => exact place
  | showing busy raised real picture => exact .showing busy (more raised) real picture
  | ended done told => exact .ended done (Outcome.Honest.more told more)

theorem Honest.asked (h : Honest known x) (asked : Vm.Asked x.thread x.shared t s) :
    Honest known { x with thread := t, shared := s } := by
  obtain ⟨stack, way⟩ := asked.stack
  have later := asked.later
  rcases way with same | ⟨call, next, callers, parked, freed⟩
  · cases h with
    | free free => exact .free (by rw [same]; exact free)
    | holding held genuine => exact .holding (same.trans held) genuine
    | atTask busy place callers => exact .atTask (same.trans busy) place callers
    | showing busy raised real picture =>
      refine .showing (same.trans busy) raised real fun living => ?_
      rcases stack with kept | ⟨dead, -⟩
      · exact kept.trans (picture fun dead => living (later.dead dead))
      · exact absurd dead living
    | ended done told => exact .ended (by rw [same]; exact done) told
  · cases h with
    | atTask busy place callers =>
      cases busy.symm.trans parked
      exact .atTask freed place callers
    | free free => exact absurd parked (by rcases free with w | w <;> rw [w] <;> exact nofun)
    | ended done => exact absurd parked (by rcases done with w | w <;> rw [w] <;> exact nofun)
    | holding held => cases held.symm.trans parked
    | showing busy => cases busy.symm.trans parked

/-- **Whatever happens while a task is under way**, an exception on its way was raised on the way. -/
theorem Course.honest (r : Course x ys z) (h : Honest (knownAfter []) x)
    (one : ∀ w ∈ ys, w.thread.worker ≠ .waiting)
    (proper : ∀ w ∈ ys ++ [z], ∀ c ∈ w.calls, c.method.Proper) : Honest (knownAfter ys) z := by
  induction r with
  | start => exact h
  | @move ys y z r m ih =>
    have before : Honest (knownAfter ys) y :=
      ih (fun w hw => one w (List.mem_append_left _ hw))
        fun w hw => proper w (List.mem_append_left _ hw)
    have passed := passed_knownAfter ys y
    cases m with
    | own step =>
      refine before.own passed (one y (List.mem_append_right _ (List.mem_singleton_self y))) ?_ step
      exact proper _ (List.mem_append_right _ (List.mem_singleton_self _))
    | asked asked => exact (before.more passed.more).asked asked
    | elsewhere s =>
      cases before.more passed.more with
      | free free => exact .free free
      | holding held genuine => exact .holding held genuine
      | atTask busy place callers => exact .atTask busy place callers
      | showing busy raised real picture => exact .showing busy raised real picture
      | ended done told => exact .ended done told

/-! ## 6. What is told -/

/-- A course is split at any moment that it passes. -/
theorem Course.through (r : Course x ys z) (passed : y ∈ ys) :
    ∃ before after, Course x before y ∧ Course y after z := by
  induction r with
  | start => exact absurd passed List.not_mem_nil
  | @move ys w z r m ih =>
    rcases List.mem_append.mp passed with earlier | last
    · obtain ⟨before, after, there, on⟩ := ih earlier
      exact ⟨before, _, there, on.move m⟩
    · rw [List.mem_singleton.mp last]
      exact ⟨ys, _, r, Course.start.move m⟩

theorem Course.alive (r : Course x ys z) (alive : z.thread.status ≠ .terminated) :
    x.thread.status ≠ .terminated := by
  induction r with
  | start => exact alive
  | move _ m ih => exact ih (m.alive alive)

/-- An exception carries the calls that were being made when it was raised. -/
theorem Raises.stack_eq (h : Raises y e) (faithful : Faithful y)
    (alive : y.thread.status ≠ .terminated) (proper : ∀ c ∈ y.calls, c.method.Proper) :
    e.describe.stack = y.calls.map Activation.location := by
  have shown : y.thread.frames.map Frame.location = y.calls.map Activation.shown := by
    obtain ⟨call, body, callers, running⟩ := h.running
    cases faithful with
    | atTask _ _ _ shown => exact shown alive
    | showing busy | ended busy => cases busy.symm.trans running
    | free free =>
      rw [running] at free
      cases free
  have described : e.describe.stack = e.frames.map Frame.location := by
    cases h <;> rfl
  rw [described, h.frames_eq, shown]
  exact List.map_congr_left fun c hc => Activation.shown_eq (proper c hc)

/-- An exception that is told of is a known one, and the stack is its picture as long as it is
shown. -/
theorem Honest.of_told (h : Honest known z) {d : ExceptionDescription}
    (told : z.thread.worker.told? = some d) (real : d ≠ .internal) :
    ∃ e ∈ known, e ≠ .threadDeath ∧ d = e.describe ∧
      ∀ a, z.thread.worker = .busy a → z.thread.status ≠ .terminated →
        z.thread.frames = e.frames := by
  cases h with
  | free free => rcases free with w | w <;> rw [w] at told <;> cases told
  | holding held =>
    rw [held] at told
    cases told
  | atTask busy place =>
    rcases Worker.told?_cases told with ⟨call, callers, showing⟩ | ⟨call, ended | telling⟩
    · cases busy.symm.trans showing
      exact place.elim
    · cases busy.symm.trans ended
    · cases busy.symm.trans telling
  | showing busy raised notDeath picture =>
    rw [busy] at told
    cases told
    exact ⟨_, raised, notDeath, rfl, fun _ _ => picture⟩
  | ended done honest =>
    have outcome : ∀ {call : CallId} {o : Outcome},
        (Worker.ended call o).told? = some d ∨ (Worker.telling call o).told? = some d →
          o = .exception d := by
      intro call o told
      cases o with
      | exception d' => rcases told with told | told <;> cases told <;> rfl
      | success | terminated => rcases told with told | told <;> cases told
    have told := outcome (by rcases done with w | w <;> rw [w] at told; exacts [.inl told, .inr told])
    obtain ⟨e, raised, notDeath, described⟩ := (honest d told).resolve_left real
    refine ⟨e, raised, notDeath, described, fun a busy => ?_⟩
    rcases done with w | w <;> cases w.symm.trans busy

/-- An exception that gets out of a task is a known one. -/
theorem Honest.of_escaping (h : Honest known z) {call : CallId}
    (escaping : z.thread.Escaping call e) : e ∈ known := by
  cases h with
  | atTask busy place =>
    cases busy.symm.trans escaping
    exact place rfl
  | free free => rcases free with w | w <;> cases w.symm.trans escaping
  | holding w | showing w => cases w.symm.trans escaping
  | ended done => rcases done with w | w <;> cases w.symm.trans escaping

/-- A thread that is told to stop on an exception stops and takes up the frames that it carries. -/
theorem shows_of_escaping {call : CallId} {typeName message : String} {frames : List Frame}
    (escaping : t.Escaping call (.exception typeName message frames))
    (alive : t.status ≠ .terminated) (on : s.breakOnUncaught = true) :
    ∃ t' s', t.step s = some (t', s') ∧ t'.status = .suspended .exception ∧
      t'.worker = .busy ⟨call,
        .atException (Thrown.exception typeName message frames).describe, []⟩ ∧
      t'.frames = frames := by
  have busy : t.worker = _ := escaping
  simp only [Thread.step, busy, Thread.proceed, Thread.run, Thread.conclude, on, if_true, if_neg alive]
  exact ⟨_, _, rfl, rfl, rfl, rfl⟩

/-- **Exceptions describe where they were raised.** A task that the thread has been given is run, by
genuine bodies, while anything may happen to the thread but its termination. If it tells of an
exception in the end, that exception was raised at some moment `y` of the run, when it was thrown, or
when a body panicked, or when there was nothing to call. What is told is the stack of the calls that
were being made then, the innermost first, each at the line it reported last; there are as many as
there were frames. A panic is thus told of with the call whose body panicked as its innermost one.

If the thread is told to stop on such exceptions it does stop, and then shows the frames of that
moment. -/
theorem exceptions_describe_throw_site {id : ThreadId} {name group : String} {s₀ : Shared}
    {call : CallId} {task : Task} (before : Course (fresh id name group s₀) us x)
    (held : x.thread.worker = .holding call task) (genuine : task.Genuine) (course : Course x ys z)
    (one : ∀ w ∈ ys, w.thread.worker ≠ .waiting)
    (proper : ∀ w ∈ ys ++ [z], ∀ c ∈ w.calls, c.method.Proper)
    (alive : z.thread.status ≠ .terminated) :
    (∀ d, z.thread.worker.told? = some d → d ≠ .internal →
      ∃ y ∈ ys, ∃ e, Raises y e ∧ d = e.describe ∧
        d.stack = y.calls.map Activation.location ∧ d.stack.length = y.thread.frames.length ∧
        ∀ a reason, z.thread.worker = .busy a → z.thread.status = .suspended reason →
          z.thread.frames? = .ok y.thread.frames) ∧
    ∀ call e, z.thread.Escaping call e → e ≠ .threadDeath → z.shared.breakOnUncaught = true →
      ∃ t s, z.thread.step z.shared = some (t, s) ∧ t.status = .suspended .exception ∧
        t.worker.told? = some e.describe ∧
        ∃ y ∈ ys, Raises y e ∧ t.frames? = .ok y.thread.frames := by
  have start : Honest (knownAfter []) x := .holding held genuine
  have honest := course.honest start one proper
  have raised : ∀ e ∈ knownAfter ys, e ≠ .threadDeath → ∃ y ∈ ys, Raises y e := by
    rintro e (death | found) real
    · exact absurd death real
    · exact found
  have described : ∀ y ∈ ys, ∀ e, Raises y e →
      e.describe.stack = y.calls.map Activation.location ∧
        e.describe.stack.length = y.thread.frames.length := by
    intro y hy e raises
    obtain ⟨_, _, there, on⟩ := course.through hy
    have faithful := there.faithful (before.faithful (.fresh id name group s₀))
    have living := on.alive alive
    have stack := raises.stack_eq faithful living fun c hc =>
      proper y (List.mem_append_left _ hy) c hc
    refine ⟨stack, ?_⟩
    rw [← raises.frames_eq]
    cases raises <;> exact List.length_map ..
  refine ⟨fun d told real => ?_, fun call e escaping real on => ?_⟩
  · obtain ⟨e, known, notDeath, rfl, picture⟩ := honest.of_told told real
    obtain ⟨y, hy, raises⟩ := raised e known notDeath
    obtain ⟨stack, length⟩ := described y hy e raises
    refine ⟨y, hy, e, raises, rfl, stack, length, fun a reason busy suspended => ?_⟩
    rw [← raises.frames_eq, ← picture a busy alive]
    simp only [Thread.frames?, suspended]
  · obtain ⟨y, hy, raises⟩ := raised e (honest.of_escaping escaping) real
    cases e with
    | threadDeath => exact absurd rfl real
    | exception typeName message frames =>
      obtain ⟨t, s, step, stopped, shown, picture⟩ := shows_of_escaping escaping alive on
      refine ⟨t, s, step, stopped, by rw [shown]; rfl, y, hy, raises, ?_⟩
      rw [Thread.frames?, stopped, picture]
      exact congrArg Except.ok raises.frames_eq

/-- Raises an exception at a line. -/
def culprit : Method :=
  scriptMethod "g" [12, 10] [.line 12, .setLocal "v" (.value .null), .raise "E" "boom"]

/-- Catches the exception, and raises it again. -/
def handler : Method :=
  scriptMethod "main" [3] [.guarded [.callStatic "A" "g" [] none] [.line 4] true]

/-- A thread that has been given the main method, and is to stop on exceptions. -/
def rethrower : Staged :=
  { fresh 1 "main" "main"
      { classes := .ofList [("A", { ClassDef.empty "A" .plain with methods := [handler, culprit] })]
        breakOnUncaught := true } with
    thread := {
      id := 1
      name := "main"
      group := "main"
      inbox := [.run 1 (.body (.call (.static "A" "main" []) .done))] } }

def rethrowing : Staged := (advance 1 rethrower).2

/-- The exception has left the main method as well. -/
def rethrown : Staged := (advance 12 rethrowing).2

def showing : Staged := (advance 13 rethrowing).2

theorem rethrower_calls : ((advance 13 rethrowing).1 ++ [showing]).flatMap (·.calls.map (·.method)) =
    [handler, handler, culprit, handler, culprit, handler, culprit, handler, culprit, handler,
      culprit, handler, handler, handler, handler] := rfl

theorem rethrower_proper : ∀ w ∈ (advance 13 rethrowing).1 ++ [showing], ∀ c ∈ w.calls,
    c.method.Proper := by
  intro w hw c hc
  have called : c.method ∈ ((advance 13 rethrowing).1 ++ [showing]).flatMap
      (·.calls.map (·.method)) :=
    List.mem_flatMap.mpr ⟨w, hw, List.mem_map_of_mem hc⟩
  have handler_proper : handler.Proper := scriptMethod_proper ..
  have culprit_proper : culprit.Proper := scriptMethod_proper ..
  rw [rethrower_calls] at called
  revert called
  generalize c.method = m
  revert m
  simp [handler_proper, culprit_proper]

/-- The exception is shown with the frame that raised it, its variable and the line it had got to, and
with that of its caller, although both have been left. -/
theorem rethrown_exception_shows_throw_site :
    (∃ y ∈ (advance 13 rethrowing).1, ∃ e, Raises y e ∧
      e.describe.stack = [⟨"A", none, "g", 12⟩, ⟨"A", none, "main", 3⟩] ∧
      showing.thread.frames? = .ok y.thread.frames) ∧
    ∃ t s, rethrown.thread.step rethrown.shared = some (t, s) ∧ t.status = .suspended .exception := by
  have submits : Course (fresh 1 "main" "main" rethrower.shared) _ rethrower :=
    Course.start.move (.asked (.submits 1 (.body (.call (.static "A" "main" []) .done))))
  have before := submits.trans (course_advance 1 rethrower)
  have genuine : (Task.body (.call (.static "A" "main" []) .done)).Genuine :=
    fun r => Set.subset_union_right
  obtain ⟨told, -⟩ := exceptions_describe_throw_site before rfl genuine
    (course_advance 13 rethrowing) (by decide +kernel) rethrower_proper (by decide +kernel)
  obtain ⟨-, stops⟩ := exceptions_describe_throw_site before rfl genuine
    (course_advance 12 rethrowing) (by decide +kernel)
    (fun w hw => rethrower_proper w (List.mem_append_left _ hw)) (by decide +kernel)
  refine ⟨?_, ?_⟩
  · obtain ⟨y, hy, e, raises, described, stack, -, frames⟩ := told _ rfl (by decide +kernel)
    refine ⟨y, hy, e, raises, ?_, frames _ _ rfl rfl⟩
    rw [← described]
    rfl
  · obtain ⟨t, s, step, stopped, -⟩ := stops 1 _ rfl nofun rfl
    exact ⟨t, s, step, stopped⟩

end Staged

end Debugger
