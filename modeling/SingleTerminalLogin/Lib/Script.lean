import SingleTerminalLogin.Lib.Process

/-!
# Programs over an interface

A program that works on something only through the operations of an interface: a script calls one
operation after the other, each chosen from the answers to the ones before.

* `Script`, `perform` — scripts, and the script of a single operation;
* `Device` — what answers the operations, and what an observer sees of each;
* `run`, `trace` — a script on a device as a call of a process, and what the observer has seen;
* `Tells`, `tells_bind`, `tells_perform` — statements about both, taken apart along the script;
* `Preceded`, `Keeps` — everything that is seen stands in a relation to what was seen before it, and
  the device keeps an invariant.
-/

namespace CProgram

open Proc

/-- A program over the operations `Op` with answers `Ans`. -/
inductive Script (Op : Type) (Ans : Op → Type) (α : Type) : Type where
  | ret (r : C α)
  | call (op : Op) (k : Ans op → Script Op Ans α)

/-- The other side of the interface: how it answers, what becomes of it, and what is seen. -/
structure Device (Op : Type) (Ans : Op → Type) (σ E : Type) where
  answer : (op : Op) → σ → Ans op × σ
  seen : Op → σ → E

namespace Script

variable {Op : Type} {Ans : Op → Type} {σ E α β : Type}

/-- One script after the other. -/
def bind : Script Op Ans α → (α → Script Op Ans β) → Script Op Ans β
  | ret (.ok a), f => f a
  | ret (.error e), _ => ret (.error e)
  | call op k, f => call op fun a => bind (k a) f

instance : Monad (Script Op Ans) where
  pure a := ret (.ok a)
  bind := bind

/-- A part of the program that uses no operation. -/
def lift (r : C α) : Script Op Ans α := ret r

/-- Two such parts are one. -/
theorem lift_bind_lift (r : C α) (g : α → C β) :
    (lift r >>= fun a => lift (g a) : Script Op Ans β) = lift (r >>= g) := by
  cases r with
  | ok a => rfl
  | error e => rfl

/-- One operation. -/
def perform (op : Op) : Script Op Ans (Ans op) := call op fun a => ret (.ok a)

/-- The script as a call of a process that works on the device. -/
def run (d : Device Op Ans σ E) : Script Op Ans α → Proc σ α
  | ret r => Proc.lift r
  | call op k => fun s => run d (k (d.answer op s).1) (d.answer op s).2

/-- What is seen of that call. -/
def trace (d : Device Op Ans σ E) : Script Op Ans α → σ → List E
  | ret _, _ => []
  | call op k, s => d.seen op s :: trace d (k (d.answer op s).1) (d.answer op s).2

section

variable (d : Device Op Ans σ E)

@[simp] theorem run_pure (a : α) : run d (pure a : Script Op Ans α) = pure a := rfl

@[simp] theorem run_lift (r : C α) : run d (lift r : Script Op Ans α) = Proc.lift r := rfl

/-- A script of two parts runs as the two calls. -/
@[simp] theorem run_bind (x : Script Op Ans α) (f : α → Script Op Ans β) :
    run d (x >>= f) = run d x >>= fun a => run d (f a) := by
  funext s
  induction x generalizing s with
  | ret r =>
    cases r with
    | ok a => rfl
    | error e => rfl
  | call op k ih => exact ih (d.answer op s).1 (d.answer op s).2

/-- A branch is run as a branch. -/
theorem run_ite {p : Prop} [Decidable p] (x y : Script Op Ans α) :
    run d (if p then x else y) = if p then run d x else run d y := apply_ite (run d) p x y

section

variable {x : Script Op Ans α} {f : α → Script Op Ans β} {s s' : σ}

theorem trace_bind_ok {a : α} (h : run d x s = (.ok a, s')) :
    trace d (x >>= f) s = trace d x s ++ trace d (f a) s' := by
  induction x generalizing s with
  | ret r =>
    cases h
    rfl
  | call op k ih => exact congrArg (d.seen op s :: ·) (ih (d.answer op s).1 h)

theorem trace_bind_error {e : Fault} (h : run d x s = (.error e, s')) :
    trace d (x >>= f) s = trace d x s := by
  induction x generalizing s with
  | ret r =>
    cases h
    rfl
  | call op k ih => exact congrArg (d.seen op s :: ·) (ih (d.answer op s).1 h)

end

end

/-! ## Rules -/

/-- What is seen of the script from `s`, its result and the state it leaves, are in `Q`. -/
def Tells (d : Device Op Ans σ E) (x : Script Op Ans α) (s : σ) (Q : List E → C α → σ → Prop) : Prop :=
  Q (trace d x s) (run d x s).1 (run d x s).2

section

variable {d : Device Op Ans σ E} {x : Script Op Ans α} {f : α → Script Op Ans β} {s : σ}

theorem tells_pure {a : α} {Q : List E → C α → σ → Prop} (h : Q [] (.ok a) s) :
    Tells d (pure a : Script Op Ans α) s Q := h

theorem tells_lift {r : C α} {Q : List E → C α → σ → Prop} (h : Q [] r s) :
    Tells d (lift r : Script Op Ans α) s Q := h

theorem tells_perform {op : Op} {Q : List E → C (Ans op) → σ → Prop}
    (h : Q [d.seen op s] (.ok (d.answer op s).1) (d.answer op s).2) : Tells d (perform op) s Q := h

/-- Weaken what is known. -/
theorem Tells.imp {Q R : List E → C α → σ → Prop} (h : Tells d x s Q) (hQR : ∀ t r s', Q t r s' → R t r s') :
    Tells d x s R := hQR _ _ _ h

/-- A script of two parts: what the first leaves is where the second starts, and what is seen of
the second comes behind. -/
theorem tells_bind {R : List E → C α → σ → Prop} {Q : List E → C β → σ → Prop} (hx : Tells d x s R)
    (hok : ∀ t a s', R t (.ok a) s' → Tells d (f a) s' fun t' => Q (t ++ t'))
    (herror : ∀ t e s', R t (.error e) s' → Q t (.error e) s') : Tells d (x >>= f) s Q := by
  unfold Tells at hx ⊢
  rw [run_bind]
  cases hr : run d x s with
  | mk r s' =>
    rw [hr] at hx
    cases r with
    | ok a =>
      rw [trace_bind_ok d hr, bind_run_ok hr]
      exact hok _ a s' hx
    | error e =>
      rw [trace_bind_error d hr, bind_run_error hr]
      exact herror _ e s' hx

/-- One operation and then the rest. -/
theorem tells_perform_bind {op : Op} {f : Ans op → Script Op Ans β} {Q : List E → C β → σ → Prop}
    (h : Tells d (f (d.answer op s).1) (d.answer op s).2 fun t => Q (d.seen op s :: t)) :
    Tells d (perform op >>= f) s Q := h

/-- A part without operations and then the rest. -/
theorem tells_lift_bind {r : C α} {Q : List E → C β → σ → Prop} (hok : ∀ a, r = .ok a → Tells d (f a) s Q)
    (herror : ∀ e, r = .error e → Q [] (.error e) s) : Tells d (lift r >>= f) s Q := by
  cases r with
  | ok a => exact hok a rfl
  | error e => exact herror e rfl

end

/-! ## What is seen before -/

/-- Behind `pre`, everything in the sequence stands in `K` to what comes in front of it. -/
def Preceded (K : E → List E → Prop) : List E → List E → Prop
  | _, [] => True
  | pre, e :: t => K e pre ∧ Preceded K (pre ++ [e]) t

section

variable {K : E → List E → Prop} {pre t t' post : List E} {e : E}

theorem preceded_append : Preceded K pre (t ++ t') ↔ Preceded K pre t ∧ Preceded K (pre ++ t) t' := by
  induction t generalizing pre with
  | nil => simp [Preceded]
  | cons e t ih => rw [List.cons_append, Preceded, ih, Preceded, and_assoc, List.append_assoc, List.singleton_append]

/-- Where it occurs, it stands in `K` to what is in front. -/
theorem Preceded.at (h : Preceded K [] t) (ht : t = pre ++ e :: post) : K e pre := by
  rw [ht, preceded_append] at h
  exact h.2.1

/-- More in front does not hurt a relation that looks at the end only. -/
theorem Preceded.behind (hK : ∀ l e pre, K e pre → K e (l ++ pre)) (l : List E) (h : Preceded K pre t) :
    Preceded K (l ++ pre) t := by
  induction t generalizing pre with
  | nil => trivial
  | cons e t ih =>
    refine ⟨hK l e pre h.1, ?_⟩
    rw [List.append_assoc]
    exact ih h.2

end

/-- From a state of the invariant, what is seen of the script stands in `K` to what was seen before,
and the invariant holds again. -/
def Keeps (d : Device Op Ans σ E) (K : E → List E → Prop) (Inv : σ → Prop) (x : Script Op Ans α) : Prop :=
  ∀ s, Inv s → Tells d x s fun t _ s' => Preceded K [] t ∧ Inv s'

section

variable {d : Device Op Ans σ E} {K : E → List E → Prop} {Inv : σ → Prop} {x y : Script Op Ans α}
  {f : α → Script Op Ans β}

theorem keeps_pure (a : α) : Keeps d K Inv (pure a) := fun _ hs => tells_pure ⟨trivial, hs⟩

theorem keeps_lift (r : C α) : Keeps d K Inv (lift r) := fun _ hs => tells_lift ⟨trivial, hs⟩

theorem keeps_ite {p : Prop} [Decidable p] (hx : Keeps d K Inv x) (hy : Keeps d K Inv y) :
    Keeps d K Inv (if p then x else y) := by
  split
  · exact hx
  · exact hy

theorem keeps_perform {op : Op} (hseen : ∀ s, K (d.seen op s) []) (hinv : ∀ s, Inv s → Inv (d.answer op s).2) :
    Keeps d K Inv (perform op) := fun s hs => tells_perform ⟨⟨hseen s, trivial⟩, hinv s hs⟩

/-- What a script did, behind what was done before. -/
theorem Keeps.behind (hK : ∀ l e pre, K e pre → K e (l ++ pre)) (hx : Keeps d K Inv x) {t : List E} {s : σ}
    (ht : Preceded K [] t) (hs : Inv s) :
    Tells d x s fun t' _ s' => Preceded K [] (t ++ t') ∧ Inv s' := by
  refine (hx s hs).imp fun t' _ s' h => ⟨preceded_append.2 ⟨ht, ?_⟩, h.2⟩
  rw [List.nil_append, ← List.append_nil t]
  exact h.1.behind hK t

theorem keeps_bind (hK : ∀ l e pre, K e pre → K e (l ++ pre)) (hx : Keeps d K Inv x)
    (hf : ∀ a, Keeps d K Inv (f a)) : Keeps d K Inv (x >>= f) := by
  intro s hs
  refine tells_bind (hx s hs) ?_ ?_
  · exact fun t a s' h => (hf a).behind hK h.1 h.2
  · exact fun _ _ _ h => h

end

end Script

end CProgram
