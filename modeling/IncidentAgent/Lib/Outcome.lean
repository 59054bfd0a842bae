import Mathlib.Tactic.Common

/-!
# Transactions that fail

A transaction is a function from a database to `Except ε (database × answer)`: it either
commits the database it computes, or raises and changes nothing. This file gives the
one guard such a function is written with, `raiseIf`, and the lemmas that take a
successful execution apart: each of them says what must have held for a step to have
gone through, so that an inversion of a whole transaction is a call to `simp` with them.
-/

namespace IncidentAgent

universe u

variable {ε α β : Type u}

/-- `if condition: raise error`. -/
def raiseIf {ε : Type u} (condition : Prop) [Decidable condition] (error : ε) :
    Except ε PUnit.{u + 1} :=
  if condition then .error error else .ok ⟨⟩

/-- The value of an optional row, or the error raised when there is none. -/
def rowOr (row : Option α) (error : ε) : Except ε α :=
  match row with
  | some a => .ok a
  | none => .error error

/-- **A sequence commits** when its first step does, with a value on which the rest
does. -/
@[simp] theorem bind_eq_ok {x : Except ε α} {f : α → Except ε β} {b : β} :
    (x >>= f) = .ok b ↔ ∃ a, x = .ok a ∧ f a = .ok b := by
  cases x with
  | error e => simp [bind, Except.bind]
  | ok a => simp [bind, Except.bind]

@[simp] theorem map_eq_ok {x : Except ε α} {f : α → β} {b : β} :
    x.map f = .ok b ↔ ∃ a, x = .ok a ∧ f a = b := by
  cases x with
  | error e => simp [Except.map]
  | ok a => simp [Except.map]

@[simp] theorem pure_eq_ok {a b : α} : (pure a : Except ε α) = .ok b ↔ a = b := by
  simp [pure, Except.pure]

@[simp] theorem throw_eq_ok {e : ε} {b : α} : (throw e : Except ε α) = .ok b ↔ False := by
  simp [throw, throwThe, MonadExceptOf.throw]

@[simp] theorem raiseIf_eq_ok {c : Prop} [Decidable c] {e : ε} {u : PUnit.{u + 1}} :
    raiseIf c e = .ok u ↔ ¬c := by
  unfold raiseIf
  split <;> simp_all

@[simp] theorem rowOr_eq_ok {row : Option α} {e : ε} {a : α} :
    rowOr row e = .ok a ↔ row = some a := by
  cases row <;> simp [rowOr]

theorem raiseIf_of {c : Prop} [Decidable c] {e : ε} (h : c) : raiseIf c e = .error e := if_pos h

theorem raiseIf_of_not {c : Prop} [Decidable c] {e : ε} (h : ¬ c) : raiseIf c e = .ok ⟨⟩ :=
  if_neg h

/-- A sequence whose first step commits continues with its value. -/
theorem ok_bind {a : α} {f : α → Except ε β} : ((.ok a : Except ε α) >>= f) = f a := rfl

/-- A sequence whose first step raises raises. -/
theorem error_bind {e : ε} {f : α → Except ε β} :
    ((.error e : Except ε α) >>= f) = .error e := rfl

end IncidentAgent
