import SingleTerminalLogin.Lib.CProgram

/-!
# Calls on a state that outlives the process

A process works on something that stays when it dies: a database, a socket.
`Proc σ α` is a call of such a process: it ends with a value or with the fault
that killed it, and in both cases with a state.

* `Ends x s Q` — however the call `x` ends from `s`, it ends in `Q`;
* `ends_bind`, `ends_pure`, `ends_lift`, `Ends.imp` — the rules that take such a
  statement apart along the program;
* `Ends.ok` — a call that is known to return.
-/

namespace CProgram

/-- A call on a state that outlives the process. -/
def Proc (σ α : Type) := σ → C α × σ

instance {σ : Type} : Monad (Proc σ) where
  pure a := fun s => (.ok a, s)
  bind x f := fun s =>
    match x s with
    | (.ok a, s') => f a s'
    | (.error e, s') => (.error e, s')

namespace Proc

/-- A call that does not look at the state. -/
def lift {σ α : Type} (x : C α) : Proc σ α := fun s => (x, s)

/-- However the call ends from `s`, it ends in `Q`. -/
def Ends {σ α : Type} (x : Proc σ α) (s : σ) (Q : C α → σ → Prop) : Prop := Q (x s).1 (x s).2

section

variable {σ α β : Type}

theorem pure_run (a : α) (s : σ) : (pure a : Proc σ α) s = (.ok a, s) := rfl

theorem lift_run (x : C α) (s : σ) : (lift x : Proc σ α) s = (x, s) := rfl

/-- A call that returned is followed by the next one. -/
theorem bind_run_ok {x : Proc σ α} {f : α → Proc σ β} {s s' : σ} {a : α}
    (h : x s = (.ok a, s')) : (x >>= f) s = f a s' := by
  change (match x s with
    | (.ok a, s') => f a s'
    | (.error e, s') => (.error e, s')) = _
  rw [h]

/-- A call that died is followed by nothing. -/
theorem bind_run_error {x : Proc σ α} {f : α → Proc σ β} {s s' : σ} {e : Fault}
    (h : x s = (.error e, s')) : (x >>= f) s = (.error e, s') := by
  change (match x s with
    | (.ok a, s') => f a s'
    | (.error e, s') => (.error e, s')) = _
  rw [h]

/-- Three calls in a row. -/
theorem bind_bind {γ : Type} (x : Proc σ α) (f : α → Proc σ β) (g : β → Proc σ γ) :
    x >>= f >>= g = x >>= fun a => f a >>= g := by
  funext s
  cases hr : x s with
  | mk r s' =>
    cases r with
    | ok a =>
      cases hf : f a s' with
      | mk r' s'' =>
        cases r' with
        | ok b => rw [bind_run_ok hr, bind_run_ok hf, bind_run_ok ((bind_run_ok hr).trans hf)]
        | error e => rw [bind_run_ok hr, bind_run_error hf, bind_run_error ((bind_run_ok hr).trans hf)]
    | error e => rw [bind_run_error hr, bind_run_error (bind_run_error hr)]

theorem pure_bind_eq (a : α) (f : α → Proc σ β) : (pure a : Proc σ α) >>= f = f a := rfl

theorem ite_bind {p : Prop} [Decidable p] (x y : Proc σ α) (f : α → Proc σ β) :
    (if p then x else y) >>= f = if p then x >>= f else y >>= f := apply_ite (· >>= f) p x y

/-- A call whose value is only looked at. -/
theorem bind_pure_run (x : Proc σ α) (f : α → β) (s : σ) :
    (x >>= fun a => pure (f a)) s = ((x s).1.map f, (x s).2) := by
  cases hr : x s with
  | mk r s' =>
    cases r with
    | ok a => rw [bind_run_ok hr]; rfl
    | error e => rw [bind_run_error hr]; rfl

/-- A sequence that starts with a value. -/
theorem lift_bind_run_ok {x : C α} {f : α → Proc σ β} {s : σ} {a : α} (h : x = .ok a) :
    (lift x >>= f) s = f a s := by
  rw [h]
  exact bind_run_ok (lift_run _ s)

/-- A sequence of two calls returns exactly when both do. -/
theorem returns_bind_run_iff {x : Proc σ α} {f : α → Proc σ β} {s : σ} :
    Returns ((x >>= f) s).1 ↔ ∃ a s', x s = (.ok a, s') ∧ Returns (f a s').1 := by
  cases hr : x s with
  | mk r s' =>
    cases r with
    | ok a =>
      rw [bind_run_ok hr]
      simp
    | error e =>
      rw [bind_run_error hr]
      simp

/-- A sequence of two calls ends with a value exactly when both do. -/
theorem bind_run_eq_ok {x : Proc σ α} {f : α → Proc σ β} {s : σ} {b : β} :
    ((x >>= f) s).1 = .ok b ↔ ∃ a s', x s = (.ok a, s') ∧ (f a s').1 = .ok b := by
  cases hr : x s with
  | mk r s' =>
    cases r with
    | ok a =>
      rw [bind_run_ok hr]
      simp
    | error e =>
      rw [bind_run_error hr]
      simp

theorem bind_run_split {x : Proc σ α} {f : α → Proc σ β} {s s'' : σ} {b : β}
    (h : (x >>= f) s = (.ok b, s'')) : ∃ a s', x s = (.ok a, s') ∧ f a s' = (.ok b, s'') := by
  obtain ⟨a, s', hx, -⟩ := bind_run_eq_ok.1 (congrArg Prod.fst h)
  exact ⟨a, s', hx, (bind_run_ok hx).symm.trans h⟩

theorem returns_of_lift_bind {x : C α} {f : α → Proc σ β} {s : σ}
    (h : Returns ((lift x >>= f) s).1) : Returns x := by
  obtain ⟨a, s', hx, -⟩ := returns_bind_run_iff.1 h
  exact ⟨a, congrArg Prod.fst hx⟩

theorem ends_pure {a : α} {s : σ} {Q : C α → σ → Prop} (h : Q (.ok a) s) :
    Ends (pure a : Proc σ α) s Q := h

theorem ends_lift {x : C α} {s : σ} {Q : C α → σ → Prop} (h : Q x s) : Ends (lift x) s Q := h

/-- Weaken what is known of the end. -/
theorem Ends.imp {x : Proc σ α} {s : σ} {Q R : C α → σ → Prop} (h : Ends x s Q)
    (hQR : ∀ a s', Q a s' → R a s') : Ends x s R := hQR _ _ h

theorem Ends.and {x : Proc σ α} {s : σ} {Q R : C α → σ → Prop} (h : Ends x s Q)
    (h' : Ends x s R) : Ends x s fun a s' => Q a s' ∧ R a s' := ⟨h, h'⟩

/-- A sequence of two calls: what the first ends in is where the second starts. -/
theorem ends_bind {x : Proc σ α} {f : α → Proc σ β} {s : σ} {R : C α → σ → Prop}
    {Q : C β → σ → Prop} (hx : Ends x s R) (hok : ∀ a s', R (.ok a) s' → Ends (f a) s' Q)
    (herror : ∀ e s', R (.error e) s' → Q (.error e) s') : Ends (x >>= f) s Q := by
  unfold Ends at hx ⊢
  cases hr : x s with
  | mk r s' =>
    rw [hr] at hx
    cases r with
    | ok a => rw [bind_run_ok hr]; exact hok a s' hx
    | error e => rw [bind_run_error hr]; exact herror e s' hx

/-- A sequence whose first call returns. -/
theorem ends_bind_ok {x : Proc σ α} {f : α → Proc σ β} {s : σ} {R : α → σ → Prop}
    {Q : C β → σ → Prop} (hx : Ends x s fun r s' => ∃ a, r = .ok a ∧ R a s')
    (hok : ∀ a s', R a s' → Ends (f a) s' Q) : Ends (x >>= f) s Q := by
  refine ends_bind hx ?_ ?_
  · rintro a s' ⟨b, hb, h⟩
    cases hb
    exact hok a s' h
  · rintro e s' ⟨b, hb, -⟩
    cases hb

/-- `assert(p)` in front of a call. -/
theorem ends_assert {p : Prop} [Decidable p] {f : Unit → Proc σ β} {s : σ} {Q : C β → σ → Prop}
    (h : p → Ends (f ()) s Q) (hn : ¬ p → Q (.error .assertFailed) s) :
    Ends (lift (assert p) >>= f) s Q := by
  refine ends_bind (ends_lift (Q := fun r s' => r = assert p ∧ s' = s) ⟨rfl, rfl⟩) ?_ ?_
  · rintro a s' ⟨ha, rfl⟩
    exact h (assert_eq_ok.1 ha.symm)
  · rintro e s' ⟨he, rfl⟩
    by_cases hp : p
    · rw [assert_of hp] at he
      cases he
    · have := hn hp
      unfold assert at he
      rw [if_neg hp] at he
      cases he
      exact this

end

end Proc

end CProgram
