import Debugger.Proofs.Debuggee.Overloads
import Debugger.Proofs.Debuggee.Tasks
/-!
# Parameters and arguments

The first variables of a frame are the parameters of its method. They are paired with the arguments one
by one, and where there are more of one kind than of the other the rest is dropped without a word. So
it is up to those who look for the method that there is an argument for each parameter.

A body that makes a call sees to that, because it goes by its arguments. A controller names the types
and passes the arguments beside them, and nobody holds the two against each other.

* `Frame.Binds` - a frame whose parameters hold arguments that suit them.
* `Vm.parameters_fit_unless_misnamed` - every frame that is pushed is such a frame if a body made the
  call, and if a controller made it, just if its arguments fit the types it named.
* `Vm.misnamed_arguments_are_dropped` - a call without an argument for the parameter it names.

## 1. What a frame binds

## 2. Calls of bodies

## 3. Calls of controllers

## 4. Every frame
-/

namespace Debugger

/-! ## 1. What a frame binds -/

/-- The first variables of a frame are the parameters of a method, in order, each with its argument, and
the arguments suit the method. -/
structure Frame.Binds (f : Frame) (m : Method) (args : List Value) : Prop where
  suits : m.Suits args
  params : f.locals.map (fun x => (⟨x.name, x.typeName⟩ : Parameter)) = m.params
  values : f.locals.map (·.value) = args

/-- The method that an invocation pushes a frame for, with its arguments. There is none where an object
needs no constructor. -/
def Invocation.target? : Invocation → Option (ClassDef × Method × List Value)
  | method c m _ args => some (c, m, args)
  | construct c (some m) args => some (c, m, args)
  | construct _ none _ => none

/-- The receiver that a method is invoked on. A constructor has another one each time. -/
def Invocation.receiver? : Invocation → Option (Option ObjectRef)
  | method _ _ receiver _ => some receiver
  | construct .. => none

/-- A frame of a method, whose variables are its parameters as far as there are arguments. -/
structure Frame.IsOf (f : Frame) (c : ClassDef) (m : Method) (args : List Value) : Prop where
  className : f.className = c.name
  methodName : f.methodName = m.name
  locals : f.locals = (m.params.zip args).map fun (p, v) => ⟨p.name, p.typeName, v⟩

/-- Nothing is dropped just if the arguments suit the method. -/
theorem Frame.IsOf.binds_iff {f : Frame} {c : ClassDef} {m : Method} {args : List Value}
    (h : f.IsOf c m args) : f.Binds m args ↔ m.Suits args := by
  constructor
  · exact Binds.suits
  · intro suits
    have count : m.params.length = args.length := suits.length_eq
    refine ⟨suits, ?_, ?_⟩
    · rw [h.locals, List.map_map]
      exact List.map_fst_zip (Nat.le_of_eq count)
    · rw [h.locals, List.map_map]
      exact List.map_snd_zip (Nat.le_of_eq count.symm)

namespace Thread

variable {t t' : Thread} {a : Activity} {s s' : Shared} {i : Invocation}
  {next : Except Thrown Value → Body}

/-- Making a call leads into a body only by way of a frame for it. -/
theorem invoke_enters {call : CallId} {body : Body} {callers : List (Except Thrown Value → Body)}
    (entered : (t.invoke a i next s).1.worker = .busy ⟨call, .entering body, callers⟩) :
    call = a.call ∧ callers.tail = a.callers ∧ ∃ f c m args, i.target? = some (c, m, args) ∧
      f.IsOf c m args ∧ (∀ r ∈ i.receiver?, f.receiver = r) ∧
      (t.invoke a i next s).1.frames = f :: t.frames ∧ body = m.body args := by
  cases i with
  | method c m receiver args =>
    cases entered
    refine ⟨rfl, rfl, _, c, m, args, rfl, ⟨rfl, rfl, rfl⟩, ?_, rfl, rfl⟩
    rintro _ ⟨⟩
    rfl
  | construct c constructor args =>
    cases constructor with
    | none => cases entered
    | some m =>
      cases entered
      exact ⟨rfl, rfl, _, c, m, args, rfl, ⟨rfl, rfl, rfl⟩, nofun, rfl, rfl⟩

/-- A body is entered by making a call and in no other way. -/
theorem step_enters {call : CallId} {body : Body} {callers : List (Except Thrown Value → Body)}
    (step : t.step s = some (t', s')) (entered : t'.worker = .busy ⟨call, .entering body, callers⟩) :
    ∃ a i next f c m args, t.worker = .busy a ∧ a.call = call ∧ callers.tail = a.callers ∧
      a.Calls s i next ∧ i.target? = some (c, m, args) ∧ f.IsOf c m args ∧
      (∀ r ∈ i.receiver?, f.receiver = r) ∧ t'.frames = f :: t.frames ∧ body = m.body args := by
  cases step_stepped step with
  | @proceeds a t' s' busy progress =>
    simp only [Thread.step, busy] at step
    rcases proceed_calls step with ⟨i, next, calls, made⟩ | past
    · obtain rfl : (t.invoke a i next s).1 = t' := congrArg Prod.fst made
      obtain ⟨rfl, outer, f, c, m, args, target, frame, receiver, frames, rfl⟩ := invoke_enters entered
      exact ⟨a, i, next, f, c, m, args, busy, rfl, outer, calls, target, frame, receiver, frames, rfl⟩
    · cases past _ entered
  | @begins call task p held alive quiet =>
    -- A task begins with its call or with its body, and has entered nothing yet.
    cases entered
    simp only [Thread.step, held, «begin», if_neg alive] at step
    cases task <;> cases step
  | takes | exits | refuses | finishes | tells => cases entered

end Thread

/-! ## 2. Calls of bodies -/

/-- The arguments of a call that a body makes. -/
def Call.args : Call → List Value
  | construct _ args => args
  | static _ _ args => args
  | virtual _ _ args => args

namespace ClassDef

variable {c : ClassDef} {overload : Overload} {m : Method}

theorem findConstructor?_admits {nothing : Bool}
    (found : c.findConstructor? overload nothing = some (some m)) : overload.admits m = true := by
  unfold findConstructor? at found
  split at found
  · obtain ⟨w, first, same⟩ := Option.map_eq_some_iff.mp found
    obtain rfl := Option.some.inj same
    exact (findMethod?_some.mp first).1.2
  · split at found <;> cases found

theorem findMethod?_admits {name : String} {kind : MethodKind}
    (found : c.findMethod? name kind overload = some m) : overload.admits m = true :=
  (findMethod?_some.mp found).1.2

end ClassDef

/-- A call that a body makes leads to a method that its arguments suit. -/
theorem Shared.resolve_suits {s : Shared} {call : Call} {i : Invocation} {c : ClassDef} {m : Method}
    {args : List Value} (resolved : s.resolve call = .ok i) (target : i.target? = some (c, m, args)) :
    args = call.args ∧ m.Suits args := by
  cases call with
  | construct className values =>
    simp only [resolve] at resolved
    split at resolved
    · cases resolved
    · next d _ =>
      split at resolved
      · next constructor found =>
        cases resolved
        cases constructor with
        | none => cases target
        | some m' =>
          cases target
          exact ⟨rfl, Method.acceptsArgs_iff.mp (ClassDef.findConstructor?_admits found)⟩
      · cases resolved
  | static className method values =>
    simp only [resolve] at resolved
    split at resolved
    · cases resolved
    · split at resolved
      · next found =>
        cases resolved
        cases target
        exact ⟨rfl, Method.acceptsArgs_iff.mp (ClassDef.findMethod?_admits found)⟩
      · cases resolved
  | virtual receiver method values =>
    simp only [resolve] at resolved
    split at resolved
    · cases resolved
    · split at resolved
      · next found =>
        cases resolved
        cases target
        exact ⟨rfl, Method.acceptsArgs_iff.mp (ClassDef.findMethod?_admits found)⟩
      · cases resolved

/-! ## 3. Calls of controllers -/

namespace Vm

/-- A thread is given a body of its own to run, and not a call that nobody looked up. -/
def Deed.SubmitsBodies : Deed → Prop
  | submit _ task => ∃ b, task = .body b
  | _ => True

/-- A controller makes a call, for which it names parameter types and passes arguments. -/
inductive Deed.Passes (types : List String) (args : List Value) : Deed → Prop
  | newInstance (className : String) : Passes types args (.newInstance className types args)
  | invokeStatic (className method : String) :
      Passes types args (.invokeStatic className method types args)
  | invokeMethod (receiver : ObjectRef) (method : String) :
      Passes types args (.invokeMethod receiver method types args)

variable {v : Vm} {d : Deed} {i : Invocation} {c : ClassDef} {m : Method} {args : List Value}

theorem declared_of_acceptsTypes {types : List String} (accepts : m.acceptsTypes types = true) :
    m.params.map (·.typeName) = types := beq_iff_eq.mp accepts

/-- How a controller comes to start a call: what it names is looked up. -/
inductive Deed.Starts (v : Vm) : Deed → Invocation → Prop
  | construct {className : String} {types : List String} {args : List Value} {c : ClassDef}
      {constructor : Option Method} (loaded : v.shared.class? className = some c)
      (found : c.findConstructor? (.types types) types.isEmpty = some constructor) :
      Starts v (.newInstance className types args) (.construct c constructor args)
  | static {className method : String} {types : List String} {args : List Value} {c : ClassDef}
      {m : Method} (loaded : v.shared.class? className = some c)
      (found : c.findMethod? method .static (.types types) = some m) :
      Starts v (.invokeStatic className method types args) (.method c m none args)
  | virtual {receiver : ObjectRef} {method : String} {types : List String} {args : List Value}
      {o : HeapObject} {m : Method} (there : v.shared.heap.object? receiver.id = some o)
      (found : o.classDef.findMethod? method .virtual (.types types) = some m) :
      Starts v (.invokeMethod receiver method types args)
        (.method o.classDef m (some receiver) args)

theorem Deed.task?_starts (bodies : d.SubmitsBodies) (named : d.task? v = some (.invoke i)) :
    d.Starts v i := by
  cases d with
  | submit thread task =>
    obtain ⟨b, rfl⟩ := bodies
    cases named
  | newInstance className types values =>
    simp only [task?, Option.bind_eq_bind, Option.bind_eq_some_iff] at named
    obtain ⟨c, loaded, constructor, found, made⟩ := named
    cases made
    exact .construct loaded found
  | invokeStatic className method types values =>
    simp only [task?, Option.bind_eq_bind, Option.bind_eq_some_iff] at named
    obtain ⟨c, loaded, m, found, made⟩ := named
    cases made
    exact .static loaded found
  | invokeMethod receiver method types values =>
    simp only [task?, Option.bind_eq_bind, Option.bind_eq_some_iff] at named
    obtain ⟨o, there, m, found, made⟩ := named
    cases made
    exact .virtual there found
  | _ => cases named

/-- The call of a task was made by a controller, which named the types that its target declares. -/
theorem Deed.task?_passes (bodies : d.SubmitsBodies) (named : d.task? v = some (.invoke i))
    (target : i.target? = some (c, m, args)) :
    ∃ types, d.Passes types args ∧ m.params.map (·.typeName) = types := by
  cases task?_starts bodies named with
  | @construct className types _ _ constructor loaded found =>
    cases constructor with
    | none => cases target
    | some m' =>
      cases target
      have accepts := ClassDef.findConstructor?_admits found
      exact ⟨types, .newInstance className, declared_of_acceptsTypes accepts⟩
  | @static className method types _ _ _ loaded found =>
    cases target
    have accepts := ClassDef.findMethod?_admits found
    exact ⟨types, .invokeStatic className method, declared_of_acceptsTypes accepts⟩
  | @virtual receiver method types _ _ _ there found =>
    cases target
    have accepts := ClassDef.findMethod?_admits found
    exact ⟨types, .invokeMethod receiver method, declared_of_acceptsTypes accepts⟩

/-! ## 4. Every frame -/

/-- Arguments fit the types that are named for them: there is one for each, and it may be passed
there. -/
def FitTypes (types : List String) (args : List Value) : Prop :=
  List.Forall₂ (fun type v => v.fits type = true) types args

theorem suits_iff_fitTypes : m.Suits args ↔ FitTypes (m.params.map (·.typeName)) args := by
  unfold Method.Suits FitTypes
  rw [List.forall₂_map_left_iff]

/-- **The parameters of every frame fit, unless a controller passed other arguments than it named.**
Take a debuggee after any deeds, and any step of any of its threads by which a body comes to be
entered. -/
theorem parameters_fit_unless_misnamed (ds : List Deed) (bodies : ∀ d ∈ ds, d.SubmitsBodies)
    (id : ThreadId) (t t' : Thread) (s' : Shared) (call : CallId) (body : Body)
    (callers : List (Except Thrown Value → Body))
    (there : (fresh.after ds).threads[id]? = some t)
    (step : t.step (fresh.after ds).shared = some (t', s'))
    (entered : t'.worker = .busy ⟨call, .entering body, callers⟩) :
    -- The body is that of a method with its arguments, and a frame of this method has been pushed.
    ∃ (f : Frame) (c : ClassDef) (m : Method) (args : List Value) (position : Position)
      (outer : List (Except Thrown Value → Body)), t.worker = .busy ⟨call, position, outer⟩ ∧
      t'.frames = f :: t.frames ∧ f.className = c.name ∧ f.methodName = m.name ∧ body = m.body args ∧
      -- If a body made the call, the frame binds the parameters to arguments that suit them.
      ((∃ k next, position = .running (.call k next) ∧ k.args = args ∧ f.Binds m args) ∨
      -- If a controller made it, this is so just if its arguments fit the types it named.
        ∃ i, position = .starting i ∧ ∃ before d later types, ds = before ++ d :: later ∧
          call = (fresh.after before).lastCall + 1 ∧ d.Passes types args ∧
          m.params.map (·.typeName) = types ∧ (f.Binds m args ↔ FitTypes types args)) := by
  obtain ⟨⟨call', position, outer⟩, i, next, f, c, m, args, busy, rfl, -, calls, target, frame, -,
    frames, rfl⟩ := Thread.step_enters step entered
  refine ⟨f, c, m, args, position, outer, busy, frames, frame.className, frame.methodName, rfl, ?_⟩
  cases calls with
  | byBody asked resolved =>
    obtain ⟨same, suits⟩ := Shared.resolve_suits resolved target
    exact .inl ⟨_, next, asked, same.symm, frame.binds_iff.mpr suits⟩
  | byTask given =>
    obtain rfl : position = .starting i := given
    obtain ⟨before, d, later, rfl, named, number, -⟩ :=
      tasks_after ds id t there call' _ (.starting busy)
    have inside : d ∈ before ++ d :: later := List.mem_append_right _ List.mem_cons_self
    obtain ⟨types, passes, declared⟩ := Deed.task?_passes (bodies d inside) named target
    refine .inr ⟨i, rfl, before, d, later, types, rfl, number, passes, declared, ?_⟩
    rw [frame.binds_iff, suits_iff_fitTypes, declared]

/-- A static method `f` that takes an int is called by a controller, and the thread is about to make
the call. -/
def callingF (args : List Value) : List Deed :=
  [.define (.overloaded ["int"]), .launch, .invokeStatic "A" "f" ["int"] args, .step 1, .step 1]

/-- An int is passed where an int was named. -/
theorem named_argument_is_bound :
    ∃ t t' s' f m, (fresh.after (callingF [.ofInt 5])).threads[1]? = some t ∧
      t.step (fresh.after (callingF [.ofInt 5])).shared = some (t', s') ∧ t'.frames = [f] ∧
      f.Binds m [.ofInt 5] := by
  have bodies : ∀ d ∈ callingF [.ofInt 5], d.SubmitsBodies := by simp [callingF, Deed.SubmitsBodies]
  obtain ⟨f, c, m, args, position, outer, busy, frames, -, -, -, fits⟩ :=
    parameters_fit_unless_misnamed (callingF [.ofInt 5]) bodies 1 _ _ _ 1 _ _ rfl rfl rfl
  refine ⟨_, _, _, f, m, rfl, rfl, frames, ?_⟩
  rcases fits with ⟨k, next, running, -⟩ | ⟨i, -, before, d, later, types, split, -, passes, -, binds⟩
  · obtain ⟨-, here, -⟩ := Activity.mk.inj (Worker.busy.inj busy)
    rw [running] at here
    cases here
  · have member : d ∈ callingF [.ofInt 5] := by
      rw [split]
      exact List.mem_append_right _ List.mem_cons_self
    simp only [callingF, List.mem_cons, List.not_mem_nil, or_false] at member
    rcases member with rfl | rfl | rfl | rfl | rfl <;> cases passes
    exact binds.mpr (.cons rfl .nil)

/-- **Nobody looks at what a controller passes:** without an argument the method runs with no
variables, and with a boolean its int is one. -/
theorem misnamed_arguments_are_dropped :
    (∃ t t' s' f, (fresh.after (callingF [])).threads[1]? = some t ∧
      t.step (fresh.after (callingF [])).shared = some (t', s') ∧ t'.frames = [f] ∧
      t'.worker = .busy ⟨1, .entering ((ClassDef.taking "int").body []), [.done]⟩ ∧
      (ClassDef.taking "int").params = [⟨"x", "int"⟩] ∧ f.locals = [] ∧
      ¬ f.Binds (ClassDef.taking "int") []) ∧
    ∃ t t' s' f, (fresh.after (callingF [.primitive (.boolean true)])).threads[1]? = some t ∧
      t.step (fresh.after (callingF [.primitive (.boolean true)])).shared = some (t', s') ∧
      t'.frames = [f] ∧ f.locals = [⟨"x", "int", .primitive (.boolean true)⟩] ∧
      ¬ f.Binds (ClassDef.taking "int") [.primitive (.boolean true)] := by
  refine ⟨⟨_, _, _, _, rfl, rfl, rfl, rfl, rfl, rfl, ?_⟩, _, _, _, _, rfl, rfl, rfl, rfl, ?_⟩
  · intro binds
    cases binds.suits
  · intro binds
    rcases binds.suits with _ | ⟨fit, -⟩
    exact absurd fit (by decide)

end Vm

end Debugger
