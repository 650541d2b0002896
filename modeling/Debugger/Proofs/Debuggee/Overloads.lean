import Mathlib.Data.List.Forall2
import Debugger.Debuggee.Class
/-!
# Which overload is meant

A controller names the parameter types of the method it means, and a body goes by the arguments it has
at hand. Both searches take the first overload that will do. What will do is not the same: the types
have to be the declared ones, while an object may also be passed where `Object` is declared. So the two
find the same method unless a more general one is declared in front of it.

* `ClassDef.exact_overload_unless_widened` - the exact overload is what a controller gets, and a body
  gets it too just if no wider one stands in front of it; else it gets the first of those.
* `ClassDef.wider_overload_goes_first` - two overloads for which the two searches differ.

## 1. Declared types and arguments

## 2. Wider overloads

## 3. The two searches
-/

namespace Debugger

/-! ## 1. Declared types and arguments -/

namespace Value

/-- An argument that has a type: null and void have none. -/
def IsTyped (v : Value) : Prop := v ≠ .null ∧ v ≠ .void

/-- A declared type may be wider than that of a value: objects of every class are `Object`s. -/
def HasWider (v : Value) (declared : String) : Prop :=
  declared = "Object" ∧ ∃ o : ObjectRef, v = .object o ∧ o.runtimeType ≠ "Object"

/-- What may be passed for a typed value: its type, or a wider one. -/
theorem fits_iff {v : Value} {declared : String} (typed : v.IsTyped) :
    v.fits declared = true ↔ declared = v.typeName ∨ v.HasWider declared := by
  obtain ⟨notNull, notVoid⟩ := typed
  cases v with
  | null => exact absurd rfl notNull
  | void => exact absurd rfl notVoid
  | primitive p =>
    have narrow : ¬ (primitive p).HasWider declared := by
      rintro ⟨-, o, same, -⟩
      cases same
    simp only [fits, typeName, beq_iff_eq, narrow, or_false]
    exact eq_comm
  | object o =>
    simp only [fits, typeName, HasWider, Bool.or_eq_true, beq_iff_eq]
    constructor
    · rintro (rfl | same)
      · by_cases own : o.runtimeType = "Object"
        · exact .inl own.symm
        · exact .inr ⟨rfl, o, rfl, own⟩
      · exact .inl same.symm
    · rintro (same | ⟨rfl, -⟩)
      · exact .inr same.symm
      · exact .inl rfl

end Value

namespace Method

variable {m : Method} {args : List Value}

/-- Each argument has just the type that is declared for it. -/
def Declares (m : Method) (args : List Value) : Prop :=
  List.Forall₂ (fun p v => p.typeName = v.typeName) m.params args

/-- There is one argument for each parameter, and each fits its declared type. -/
def Suits (m : Method) (args : List Value) : Prop :=
  List.Forall₂ (fun p v => v.fits p.typeName = true) m.params args

theorem acceptsTypes_iff : m.acceptsTypes (args.map Value.typeName) = true ↔ m.Declares args := by
  unfold acceptsTypes Declares
  rw [beq_iff_eq, ← List.forall₂_eq_eq_eq, List.forall₂_map_left_iff, List.forall₂_map_right_iff]

theorem acceptsArgs_iff : m.acceptsArgs args = true ↔ m.Suits args := by
  unfold acceptsArgs Suits
  rw [Bool.and_eq_true, beq_iff_eq, List.all_eq_true, List.forall₂_iff_zip]
  constructor
  · rintro ⟨same, fit⟩
    exact ⟨same, fun member => fit _ member⟩
  · rintro ⟨same, fit⟩
    exact ⟨same, fun pair member => fit member⟩

/-! ## 2. Wider overloads -/

/-- A method declares the types of the arguments, but for some objects of which it says no more than
that they are objects. -/
def Widens (m : Method) (args : List Value) : Prop :=
  List.Forall₂ (fun p v => p.typeName = v.typeName ∨ v.HasWider p.typeName) m.params args ∧
    ¬ m.Declares args

/-- A method takes typed arguments just if it declares their types or widens them. -/
theorem suits_iff (typed : ∀ v ∈ args, v.IsTyped) :
    m.Suits args ↔ m.Declares args ∨ m.Widens args := by
  have same : m.Suits args ↔
      List.Forall₂ (fun p v => p.typeName = v.typeName ∨ v.HasWider p.typeName) m.params args := by
    unfold Suits
    rw [List.forall₂_iff_zip, List.forall₂_iff_zip]
    refine and_congr_right fun _ => forall_congr' fun p => forall_congr' fun v => ?_
    exact imp_congr_right fun member => Value.fits_iff (typed v (List.of_mem_zip member).2)
  rw [same]
  constructor
  · intro suits
    by_cases exactly : m.Declares args
    · exact .inl exactly
    · exact .inr ⟨suits, exactly⟩
  · rintro (exactly | widens)
    · exact exactly.imp fun _ _ same => .inl same
    · exact widens.1

/-! ## 3. The two searches -/

/-- A method answers to a name. Constructors have one name in common. -/
def AnswersTo (m : Method) (name : String) (kind : MethodKind) : Prop :=
  m.kind = kind ∧ (kind = .constructor ∨ m.name = name)

theorem answersTo_iff {name : String} {kind : MethodKind} :
    (m.kind == kind && (kind == .constructor || m.name == name)) = true ↔ m.AnswersTo name kind := by
  simp only [AnswersTo, Bool.and_eq_true, Bool.or_eq_true, beq_iff_eq]

end Method

namespace ClassDef

variable {c : ClassDef} {name : String} {kind : MethodKind} {overload : Overload} {m : Method}
  {args : List Value}

/-- What a search finds answers to the name, is admitted, and is the first that is both. -/
theorem findMethod?_some : c.findMethod? name kind overload = some m ↔
    (m.AnswersTo name kind ∧ overload.admits m = true) ∧ ∃ before after,
      c.methods = before ++ m :: after ∧
        ∀ w ∈ before, ¬ (w.AnswersTo name kind ∧ overload.admits w = true) := by
  have test (w : Method) : (w.kind == kind && (kind == .constructor || w.name == name) &&
      overload.admits w) = true ↔ w.AnswersTo name kind ∧ overload.admits w = true := by
    rw [Bool.and_eq_true, Method.answersTo_iff]
  unfold findMethod?
  rw [List.find?_eq_some_iff_append, test]
  simp only [Bool.not_eq_true', ← Bool.not_eq_true, test]

/-- A search finds a method if there is one to find. -/
theorem exists_findMethod? (member : m ∈ c.methods) (answers : m.AnswersTo name kind)
    (admitted : overload.admits m = true) : ∃ w, c.findMethod? name kind overload = some w := by
  apply Option.isSome_iff_exists.mp
  unfold findMethod?
  rw [List.find?_isSome]
  refine ⟨m, member, ?_⟩
  rw [Bool.and_eq_true, Method.answersTo_iff]
  exact ⟨answers, admitted⟩

/-- A method in the front part of a class that could be found hides what stands behind that part: the
first of its kind is found. -/
theorem findMethod?_in_front {front rest : List Method} (split : c.methods = front ++ rest)
    (member : m ∈ front) (answers : m.AnswersTo name kind) (admitted : overload.admits m = true) :
    ∃ w outer inner, front = outer ++ w :: inner ∧ w.AnswersTo name kind ∧
      overload.admits w = true ∧ (∀ u ∈ outer, ¬ (u.AnswersTo name kind ∧ overload.admits u = true)) ∧
      c.findMethod? name kind overload = some w := by
  obtain ⟨w, found⟩ := exists_findMethod? (c := { c with methods := front }) member answers admitted
  obtain ⟨⟨answers, admitted⟩, outer, inner, parts, earlier⟩ := findMethod?_some.mp found
  have parts : front = outer ++ w :: inner := parts
  refine ⟨w, outer, inner, parts, answers, admitted, earlier, ?_⟩
  refine findMethod?_some.mpr ⟨⟨answers, admitted⟩, outer, inner ++ rest, ?_, earlier⟩
  rw [split, parts, List.append_assoc, List.cons_append]

/-- **The two searches find the exact overload, unless a wider one is in front of it.** Take any class,
any name and kind, and arguments that have types, for which there is an exact overload. -/
theorem exact_overload_unless_widened (c : ClassDef) (name : String) (kind : MethodKind)
    (args : List Value) (typed : ∀ v ∈ args, v.IsTyped)
    (declared : ∃ m ∈ c.methods, m.AnswersTo name kind ∧ m.Declares args) :
    -- There is a first one, and it is what the types are answered with.
    ∃ m before after, c.methods = before ++ m :: after ∧ m.AnswersTo name kind ∧ m.Declares args ∧
      (∀ w ∈ before, w.AnswersTo name kind → ¬ w.Declares args) ∧
      c.findMethod? name kind (.types (args.map Value.typeName)) = some m ∧
      -- The arguments are answered with it just if none in front of it widens them,
      (c.findMethod? name kind (.args args) = some m ↔
        ∀ w ∈ before, w.AnswersTo name kind → ¬ w.Widens args) ∧
      -- and otherwise with the first of those that do.
      ((∃ w ∈ before, w.AnswersTo name kind ∧ w.Widens args) →
        ∃ w outer inner, before = outer ++ w :: inner ∧ w.AnswersTo name kind ∧ w.Widens args ∧
          (∀ u ∈ outer, u.AnswersTo name kind → ¬ u.Widens args) ∧
          c.findMethod? name kind (.args args) = some w) := by
  obtain ⟨one, member, answers, exactly⟩ := declared
  have typesFit : Overload.admits (.types (args.map Value.typeName)) one = true :=
    Method.acceptsTypes_iff.mpr exactly
  obtain ⟨m, found⟩ := exists_findMethod? member answers typesFit
  obtain ⟨⟨answers, exactly⟩, before, after, split, first⟩ := findMethod?_some.mp found
  have exactly : m.Declares args := Method.acceptsTypes_iff.mp exactly
  have inexact (w : Method) (front : w ∈ before) (answers : w.AnswersTo name kind) :
      ¬ w.Declares args := fun exact => first w front ⟨answers, Method.acceptsTypes_iff.mpr exact⟩
  -- In front of the first exact one, what takes the arguments widens them.
  have admits (w : Method) (front : w ∈ before) (answers : w.AnswersTo name kind) :
      Overload.admits (.args args) w = true ↔ w.Widens args := by
    show w.acceptsArgs args = true ↔ _
    rw [Method.acceptsArgs_iff, Method.suits_iff typed]
    exact or_iff_right (inexact w front answers)
  have widened : (∃ w ∈ before, w.AnswersTo name kind ∧ w.Widens args) →
      ∃ w outer inner, before = outer ++ w :: inner ∧ w.AnswersTo name kind ∧ w.Widens args ∧
        (∀ u ∈ outer, u.AnswersTo name kind → ¬ u.Widens args) ∧
        c.findMethod? name kind (.args args) = some w := by
    rintro ⟨w, front, answers, widens⟩
    obtain ⟨u, outer, inner, parts, answers, admitted, earlier, found⟩ :=
      findMethod?_in_front split front answers ((admits w front answers).mpr widens)
    have inFront : u ∈ before := parts ▸ List.mem_append_right _ List.mem_cons_self
    refine ⟨u, outer, inner, parts, answers, (admits u inFront answers).mp admitted, ?_, found⟩
    intro v member answers widens
    have inFront : v ∈ before := parts ▸ List.mem_append_left _ member
    exact earlier v member ⟨answers, (admits v inFront answers).mpr widens⟩
  refine ⟨m, before, after, split, answers, exactly, inexact, found, ⟨?_, ?_⟩, widened⟩
  · -- A wider one in front would have been found, and it is not the exact one.
    intro same w front answers widens
    obtain ⟨u, outer, inner, -, -, other, -, instead⟩ := widened ⟨w, front, answers, widens⟩
    obtain rfl : u = m := Option.some.inj (instead.symm.trans same)
    exact other.2 exactly
  · intro narrow
    have suits : Overload.admits (.args args) m = true :=
      Method.acceptsArgs_iff.mpr ((Method.suits_iff typed).mpr (.inl exactly))
    refine findMethod?_some.mpr ⟨⟨answers, suits⟩, before, after, split, ?_⟩
    rintro w front ⟨answers, admitted⟩
    exact narrow w front answers ((admits w front answers).mp admitted)

/-- A static method `f` with one parameter. -/
def taking (typeName : String) : Method :=
  ⟨"f", [⟨"x", typeName⟩], "void", .static, [], fun _ => .done (.ok .void)⟩

/-- A class with a static method `f` for each of some types. -/
def overloaded (types : List String) : ClassDef := ⟨"A", none, [], types.map taking, .plain⟩

/-- A string is passed to `f`, and the overload for objects comes last. -/
theorem narrow_overload_in_front :
    (overloaded ["int", "String", "Object"]).findMethod? "f" .static (.types ["String"]) =
        some (taking "String") ∧
      (overloaded ["int", "String", "Object"]).findMethod? "f" .static
        (.args [.object ⟨1, "String"⟩]) = some (taking "String") := by
  have typed : ∀ v ∈ [Value.object ⟨1, "String"⟩], v.IsTyped := by simp [Value.IsTyped]
  have declared : (taking "String").Declares [.object ⟨1, "String"⟩] := .cons rfl .nil
  obtain ⟨m, before, after, split, -, -, inexact, byTypes, byArgs, -⟩ :=
    exact_overload_unless_widened (overloaded ["int", "String", "Object"]) "f" .static
      [.object ⟨1, "String"⟩] typed
      ⟨taking "String", List.mem_cons_of_mem _ List.mem_cons_self, ⟨rfl, .inr rfl⟩, declared⟩
  obtain rfl : m = taking "String" := (Option.some.inj byTypes).symm
  refine ⟨byTypes, byArgs.mpr ?_⟩
  -- All there can be in front of the exact overload is the one for `int`.
  intro w front _ widens
  rcases before with _ | ⟨a, _ | ⟨b, rest⟩⟩
  · cases front
  · obtain rfl : w = taking "int" := (List.mem_singleton.mp front).trans (List.cons.inj split).1.symm
    rcases widens.1 with _ | ⟨same | ⟨wide, -⟩, -⟩
    · exact absurd same (by decide)
    · exact absurd wide (by decide)
  · obtain rfl : b = taking "String" := (List.cons.inj (List.cons.inj split).2).1.symm
    exact inexact _ (List.mem_cons_of_mem _ List.mem_cons_self) ⟨rfl, .inr rfl⟩ declared

/-- The overload for objects comes first: a controller that passes a string and names its type gets the
other one, and a body that passes it gets this one. -/
theorem wider_overload_goes_first :
    (∃ m ∈ (overloaded ["Object", "String"]).methods,
      m.AnswersTo "f" .static ∧ m.Declares [.object ⟨1, "String"⟩]) ∧
    (overloaded ["Object", "String"]).findMethod? "f" .static
      (.types ([Value.object ⟨1, "String"⟩].map Value.typeName)) = some (taking "String") ∧
    (overloaded ["Object", "String"]).findMethod? "f" .static
      (.args [.object ⟨1, "String"⟩]) = some (taking "Object") ∧
    taking "Object" ≠ taking "String" := by
  refine ⟨⟨taking "String", List.mem_cons_of_mem _ List.mem_cons_self, ⟨rfl, .inr rfl⟩,
    .cons rfl .nil⟩, rfl, rfl, ?_⟩
  intro same
  have params := congrArg Method.params same
  exact absurd params (by decide)

end ClassDef

end Debugger
