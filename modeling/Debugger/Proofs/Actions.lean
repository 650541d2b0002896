import Debugger.Environment
/-!
# Pieces of work

What is done to a debuggee or in a session is an `Action`: work on a state that ends with a value or
an error. Most of it begins with questions that change nothing and may end it there. The lemmas here
take such work apart, one question at a time, so that a proof about an operation follows it from
refusal to refusal and never looks at how actions are built.

## 1. Running

## 2. Questions

## 3. Work within a relation

What a state is after a piece of work, and what it was before, may be related in a way that one can
follow step by step. Then one looks at the steps only.
-/

namespace Debugger.Action

variable {σ ε α β : Type} {a : Action σ ε α} {f : α → Action σ ε β} {x : σ}

/-! ## 1. Running -/

theorem run_bind (a : Action σ ε α) (f : α → Action σ ε β) (x : σ) :
    (a >>= f).run x =
      match a.run x with
      | (.ok v, y) => (f v).run y
      | (.error e, y) => (.error e, y) := by
  show (match a.run x with | (r, y) => (ExceptT.bindCont f r) y) = _
  rcases a.run x with ⟨r, y⟩
  cases r <;> rfl

theorem run_bind_ok {v : α} {y : σ} (h : a.run x = (.ok v, y)) : (a >>= f).run x = (f v).run y := by
  rw [run_bind, h]

theorem run_bind_error {e : ε} {y : σ} (h : a.run x = (.error e, y)) :
    (a >>= f).run x = (.error e, y) := by
  rw [run_bind, h]

theorem run_get_bind (f : σ → Action σ ε β) (x : σ) : (get >>= f).run x = (f x).run x := rfl

theorem run_modify_bind (g : σ → σ) (f : PUnit → Action σ ε β) (x : σ) :
    (modify g >>= f).run x = (f ⟨⟩).run (g x) := rfl

theorem run_modifyGet_bind (g : σ → α × σ) (f : α → Action σ ε β) (x : σ) :
    (modifyGet g >>= f).run x = (f (g x).1).run (g x).2 := rfl

theorem run_tryCatch (a : Action σ ε α) (f : ε → Action σ ε α) (x : σ) :
    (tryCatch a f).run x =
      match a.run x with
      | (.ok v, y) => (.ok v, y)
      | (.error e, y) => (f e).run y := by
  have split : (tryCatch a f).run x = (match (a.run x).1 with
      | .ok v => (pure (.ok v) : StateM σ (Except ε α))
      | .error e => (f e).run) (a.run x).2 := rfl
  rw [split]
  rcases a.run x with ⟨e | v, y⟩ <;> rfl

/-! ## 2. Questions -/

/-- Work that leaves the state as it is. -/
def Reads (a : Action σ ε α) : Prop := ∀ x, (a.run x).2 = x

theorem Reads.pure (v : α) : Reads (pure v : Action σ ε α) := fun _ => rfl

theorem Reads.throw (e : ε) : Reads (throw e : Action σ ε α) := fun _ => rfl

theorem Reads.get_bind {f : σ → Action σ ε β} (h : ∀ x, Reads (f x)) : Reads (get >>= f) :=
  fun x => h x x

theorem Reads.run_cases (h : Reads a) (x : σ) :
    (∃ e, a.run x = (.error e, x)) ∨ ∃ v, a.run x = (.ok v, x) := by
  have same := h x
  rcases hr : a.run x with ⟨e | v, y⟩
  · rw [hr] at same
    exact .inl ⟨e, congrArg (Prod.mk _) same⟩
  · rw [hr] at same
    exact .inr ⟨v, congrArg (Prod.mk _) same⟩

/-- A question is refused, or its answer is worked on with the state it found. -/
theorem Reads.cases (h : Reads a) (f : α → Action σ ε β) (x : σ) :
    (∃ e, a.run x = (.error e, x) ∧ (a >>= f).run x = (.error e, x)) ∨
      ∃ v, a.run x = (.ok v, x) ∧ (a >>= f).run x = (f v).run x := by
  rcases h.run_cases x with ⟨e, hr⟩ | ⟨v, hr⟩
  · exact .inl ⟨e, hr, run_bind_error hr⟩
  · exact .inr ⟨v, hr, run_bind_ok hr⟩

theorem Reads.bind (h : Reads a) (hf : ∀ v, Reads (f v)) : Reads (a >>= f) := by
  intro x
  rcases h.cases f x with ⟨e, -, eq⟩ | ⟨v, -, eq⟩
  · rw [eq]
  · rw [eq]
    exact hf v x

/-- What is asked after a piece of work changes nothing any more. -/
theorem run_bind_reads (hf : ∀ v, Reads (f v)) (x : σ) : ((a >>= f).run x).2 = (a.run x).2 := by
  rw [run_bind]
  rcases a.run x with ⟨e | v, y⟩
  · rfl
  · exact hf v y

/-! ## 3. Work within a relation -/

/-- Work that changes the state within a relation, however it ends. -/
def Within (R : σ → σ → Prop) (a : Action σ ε α) : Prop := ∀ x, R x (a.run x).2

namespace Within

variable {R : σ → σ → Prop} [Std.Refl R] [Trans R R R]

omit [Trans R R R] in
theorem of_reads (h : Reads a) : Within R a := by
  intro x
  rw [h x]
  exact Std.Refl.refl x

omit [Trans R R R] in
theorem pure (v : α) : Within R (pure v : Action σ ε α) := of_reads (.pure v)

omit [Trans R R R] in
theorem throw (e : ε) : Within R (throw e : Action σ ε α) := of_reads (.throw e)

omit [Std.Refl R] [Trans R R R] in
theorem get_bind {f : σ → Action σ ε β} (h : ∀ x, Within R (f x)) : Within R (get >>= f) :=
  fun x => h x x

omit [Std.Refl R] [Trans R R R] in
theorem modify {g : σ → σ} (h : ∀ x, R x (g x)) : Within R (modify g : Action σ ε PUnit) := h

omit [Std.Refl R] in
theorem bind (h : Within R a) (hf : ∀ v, Within R (f v)) : Within R (a >>= f) := by
  intro x
  have first := h x
  rcases hr : a.run x with ⟨e | v, y⟩
  · rw [run_bind_error hr]
    rwa [hr] at first
  · rw [run_bind_ok hr]
    rw [hr] at first
    exact Trans.trans first (hf v y)

theorem mapM {g : α → Action σ ε β} (h : ∀ v, Within R (g v)) (vs : List α) :
    Within R (vs.mapM g) := by
  induction vs with
  | nil =>
    rw [List.mapM_nil]
    exact .pure []
  | cons v rest ih =>
    rw [List.mapM_cons]
    exact (h v).bind fun w => ih.bind fun ws => .pure (w :: ws)

theorem forIn {g : α → β → Action σ ε (ForInStep β)} (h : ∀ v b, Within R (g v b))
    (vs : List α) (b : β) : Within R (forIn vs b g) := by
  induction vs generalizing b with
  | nil =>
    rw [List.forIn_nil]
    exact .pure b
  | cons v rest ih =>
    rw [List.forIn_cons]
    refine (h v b).bind fun r => ?_
    cases r with
    | done b => exact .pure b
    | yield b => exact ih b

end Within

end Debugger.Action
