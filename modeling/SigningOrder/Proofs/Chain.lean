/-
Chains of steps that may fail. Whatever resolves, decodes or reads goes step
by step and stops at the first failure. Each way of putting steps together
succeeds under one condition, stated here as an `↔` with the result beside
it; a proof about a chain opens it with these and goes on with its steps.

Two chains are compared step by step as well. They are in step (`InStep`) if
they stop at the same failure, or both succeed with results that are related;
there is one law for each way of putting steps together.
-/

namespace SigningOrder

variable {ε ε' α β : Type}

/-- A chain succeeds when its first step does, and then the rest. -/
theorem bind_eq_ok {x : Except ε α} {f : α → Except ε β} {b : β} :
    (x >>= f) = .ok b ↔ ∃ a, x = .ok a ∧ f a = .ok b := by
  cases x with
  | error e => simp [bind, Except.bind]
  | ok a => simp [bind, Except.bind]

/-- A chain does not fail in a way in which no step of it fails. -/
theorem bind_ne_error {x : Except ε α} {f : α → Except ε β} {e : ε}
    (hx : x ≠ .error e) (hf : ∀ a, f a ≠ .error e) : (x >>= f) ≠ .error e := by
  cases x with
  | error e' => exact fun h => hx (congrArg _ (Except.error.inj h))
  | ok a => exact hf a

/-- What is returned is the result. -/
theorem pure_eq_ok {a b : α} :
    (pure a : Except ε α) = .ok b ↔ a = b := by
  simp [pure, Except.pure]

/-- A mapped outcome succeeds when the outcome does. -/
theorem map_eq_ok {x : Except ε α} {f : α → β} {b : β} :
    x.map f = .ok b ↔ ∃ a, x = .ok a ∧ f a = b := by
  cases x with
  | error e => simp [Except.map]
  | ok a => simp [Except.map]

/-- Rewording failures changes no success. -/
theorem mapError_eq_ok {x : Except ε α} {f : ε → ε'} {a : α} :
    x.mapError f = .ok a ↔ x = .ok a := by
  cases x with
  | error e =>
      constructor
      · intro h
        cases h
      · intro h
        cases h
  | ok a' =>
      show Except.ok a' = Except.ok a ↔ _
      rw [Except.ok.injEq, Except.ok.injEq]

-- ================================================================ two chains

/-- Two outcomes are in step if they are the same failure, or results that are
related. -/
inductive InStep (R : α → β → Prop) : Except ε α → Except ε β → Prop where
  | ok {a : α} {b : β} (h : R a b) : InStep R (.ok a) (.ok b)
  | error (e : ε) : InStep R (.error e) (.error e)

namespace InStep

variable {α' β' : Type} {R : α → β → Prop} {S : α' → β' → Prop}
  {x : Except ε α} {y : Except ε β}

/-- Related results are in step where they are returned. -/
theorem pure {a : α} {b : β} (h : R a b) :
    InStep R (Pure.pure a : Except ε α) (Pure.pure b) :=
  .ok h

/-- Two chains are in step when their first steps are, and the rests of them
for related results of these. -/
theorem bind {f : α → Except ε α'} {g : β → Except ε β'} (h : InStep R x y)
    (hrest : ∀ a b, x = .ok a → y = .ok b → R a b → InStep S (f a) (g b)) :
    InStep S (x >>= f) (y >>= g) := by
  cases h with
  | ok hab => exact hrest _ _ rfl rfl hab
  | error e => exact .error e

/-- An outcome is in step with itself if every result is related to itself. -/
theorem refl {R : α → α → Prop} (hR : ∀ a, R a a) (x : Except ε α) :
    InStep R x x := by
  cases x with
  | error e => exact .error e
  | ok a => exact .ok (hR a)

/-- Two chains with the same first step are in step when the rests are. -/
theorem bind_same {x : Except ε α} {f : α → Except ε α'} {g : α → Except ε β'}
    (hrest : ∀ a, x = .ok a → InStep S (f a) (g a)) :
    InStep S (x >>= f) (x >>= g) := by
  cases x with
  | error e => exact .error e
  | ok a => exact hrest a rfl

/-- What is made of related results is in step if it is related. -/
theorem map {f : α → α'} {g : β → β'} (h : InStep R x y)
    (hfg : ∀ a b, R a b → S (f a) (g b)) :
    InStep S (x.map f) (y.map g) := by
  cases h with
  | ok hab => exact .ok (hfg _ _ hab)
  | error e => exact .error e

/-- Rewording failures alike keeps outcomes in step. -/
theorem mapError (f : ε → ε') (h : InStep R x y) :
    InStep R (x.mapError f) (y.mapError f) := by
  cases h with
  | ok hab => exact .ok hab
  | error e => exact .error (f e)

/-- Outcomes that are in step with equal results are equal. -/
theorem eq {x y : Except ε α} (h : InStep Eq x y) : x = y := by
  cases h with
  | ok hab => rw [hab]
  | error e => rfl

/-- Of two outcomes in step, one fails exactly as the other. -/
theorem eq_error_iff (h : InStep R x y) {e : ε} :
    x = .error e ↔ y = .error e := by
  cases h <;> simp

/-- Of two outcomes in step that succeed, the results are related. -/
theorem related (h : InStep R x y) {a : α} {b : β} (hx : x = .ok a)
    (hy : y = .ok b) : R a b := by
  subst hx hy
  cases h with
  | ok hab => exact hab

end InStep

end SigningOrder
