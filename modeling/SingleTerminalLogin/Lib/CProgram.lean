import Mathlib

/-!
# Calls that may not return

A call of a C function either runs to its return value or the process dies in
it: a null pointer is used as an object, an assertion fails, memory is touched
that the call does not own, or a signal ends the process.  `C α` is the outcome
of such a call.

* `C.Returns` — the call runs to a return value;
* `bind_eq_ok`, `returns_bind_iff` — a sequence of calls returns exactly when the
  first does and the second does on the value of the first;
* `deref`, `assert` — the two ways a call of this kind dies on purpose or by
  accident.
-/

namespace CProgram

/-- Why a process died. -/
inductive Fault where
  /-- A null pointer was used as an object. -/
  | nullDeref
  /-- An `assert` did not hold. -/
  | assertFailed
  /-- An indeterminate value was read, or a buffer was overrun. -/
  | memory
  /-- A signal that nobody handles arrived. -/
  | killed
  deriving DecidableEq, Repr

/-- The outcome of a call. -/
abbrev C (α : Type) := Except Fault α

/-- The call runs to a return value. -/
def Returns {α : Type} (x : C α) : Prop := ∃ a, x = .ok a

/-- Use a pointer as an object. -/
def deref {α : Type} : Option α → C α
  | some a => .ok a
  | none => .error .nullDeref

/-- `assert(p)`. -/
def assert (p : Prop) [Decidable p] : C Unit :=
  if p then .ok () else .error .assertFailed

section

variable {α β : Type}

@[simp] theorem ok_bind (a : α) (f : α → C β) : ((.ok a : C α) >>= f) = f a := rfl

@[simp] theorem error_bind (e : Fault) (f : α → C β) :
    ((.error e : C α) >>= f) = .error e := rfl

@[simp] theorem pure_eq_ok (a : α) : (pure a : C α) = .ok a := rfl

@[simp] theorem returns_ok (a : α) : Returns (.ok a : C α) := ⟨a, rfl⟩

@[simp] theorem not_returns_error (e : Fault) : ¬ Returns (.error e : C α) := by
  rintro ⟨a, h⟩
  cases h

/-- A sequence of two calls ends with a value exactly when both do. -/
theorem bind_eq_ok {x : C α} {f : α → C β} {b : β} :
    (x >>= f) = .ok b ↔ ∃ a, x = .ok a ∧ f a = .ok b := by
  cases x <;> simp

theorem outcome_map_map {γ : Type} (x : C α) (f : α → β) (g : β → γ) :
    (x.map f).map g = x.map (g ∘ f) := by
  cases x <;> rfl

theorem returns_bind_iff {x : C α} {f : α → C β} :
    Returns (x >>= f) ↔ ∃ a, x = .ok a ∧ Returns (f a) := by
  cases x <;> simp

@[simp] theorem deref_some (a : α) : deref (some a) = .ok a := rfl

@[simp] theorem deref_none : deref (none : Option α) = .error .nullDeref := rfl

theorem deref_eq_ok {p : Option α} {a : α} : deref p = .ok a ↔ p = some a := by
  cases p <;> simp

theorem assert_of {p : Prop} [Decidable p] (h : p) : assert p = .ok () := by
  simp [assert, h]

theorem assert_eq_ok {p : Prop} [Decidable p] {u : Unit} : assert p = .ok u ↔ p := by
  unfold assert
  split <;> simp_all

end

end CProgram
