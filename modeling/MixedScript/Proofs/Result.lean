import MixedScript.Journal

/-! Computations that may fail: when a computation that goes on from another succeeds. -/

namespace MixedScript

/-- A computation that goes on from another succeeds exactly when both do. -/
theorem bind_eq_ok {ε α β : Type} {x : Except ε α} {f : α → Except ε β} {b : β}
    : x >>= f = .ok b ↔ ∃ a, x = .ok a ∧ f a = .ok b := by
  cases x <;> simp [bind, Except.bind]

/-- A computation that goes on from another fails exactly when either does. -/
theorem bind_eq_error {ε α β : Type} {x : Except ε α} {f : α → Except ε β} {e : ε}
    : x >>= f = .error e ↔ x = .error e ∨ ∃ a, x = .ok a ∧ f a = .error e := by
  cases x <;> simp [bind, Except.bind]

/-- A computation whose value is taken further fails exactly when it does. -/
theorem map_eq_error {ε α β : Type} {f : α → β} {x : Except ε α} {e : ε}
    : f <$> x = .error e ↔ x = .error e := by
  cases x <;> simp [Functor.map, Except.map]

/-- A result that has a value is that value. -/
theorem ok_of_toOption {ε α : Type} {x : Except ε α} {a : α} (h : x.toOption = some a)
    : x = .ok a := by
  cases x with
  | error => cases h
  | ok b => exact congrArg _ (Option.some.inj h)

/-- Why a computation fails. -/
def failure? {ε α : Type} : Except ε α → Option ε
  | .ok _ => none
  | .error e => some e

theorem error_of_failure? {ε α : Type} {x : Except ε α} {e : ε} (h : failure? x = some e)
    : x = .error e := by
  cases x with
  | ok => cases h
  | error e' => exact congrArg _ (Option.some.inj h)

theorem ok_of_mapError {ε ε' α : Type} {f : ε → ε'} {x : Except ε α} {a : α}
    (h : x.mapError f = .ok a)
    : x = .ok a := by
  cases x with
  | error => exact nomatch h
  | ok b => exact congrArg _ (Except.ok.inj h)

/-- Work that goes on from other work succeeds exactly when both do. -/
theorem Work.bind_eq_ok {α β : Type} {w : Work α} {next : α → Work β} {b : β}
    : (w >>= next).result = .ok b ↔ ∃ a, w.result = .ok a ∧ (next a).result = .ok b := by
  change (Work.bind w next).result = .ok b ↔ _
  unfold Work.bind
  cases w.result <;> simp

/-- Work goes on from the result of other work. -/
theorem Work.bind_of_ok {α β : Type} {w : Work α} {a : α} (h : w.result = .ok a) (next : α → Work β)
    : (w >>= next).result = (next a).result := by
  change (Work.bind w next).result = _
  simp only [Work.bind, h]

theorem Work.bind_of_error {α β : Type} {w : Work α} {p : Problem} (h : w.result = .error p)
    (next : α → Work β)
    : (w >>= next).result = .error p := by
  change (Work.bind w next).result = _
  simp only [Work.bind, h]

theorem Work.bind_pure_result {α β : Type} (w : Work α) (f : α → β)
    : (w >>= fun a => pure (f a)).result = w.result.map f := by
  cases h : w.result with
  | error p => exact Work.bind_of_error h _
  | ok a => exact Work.bind_of_ok h _

end MixedScript
