import Mathlib

/-!
# Loops

A loop passes through its body until a pass leaves it, with a value or with an exception.

* `Loop.run` — what comes of a loop in so many passes, if it is left by then;
* `Loop.run_mono` — further passes change nothing;
* `Loop.returns_of_variant` — the rule of invariant and variant: the loop is left with a value;
* `Loop.run_eq_none` — the rule of a loop that is never left.
-/

/-- One pass through the body: on to the next one, or out with a value. -/
def Loop (ε σ ρ : Type) := σ → Except ε (σ ⊕ ρ)

namespace Loop

section

variable {ε σ ρ : Type}

/-- The outcome of the loop, if that many passes lead to it. -/
def run (body : Loop ε σ ρ) : Nat → σ → Option (Except ε ρ)
  | 0, _ => none
  | passes + 1, s =>
    match body s with
    | .error e => some (.error e)
    | .ok (.inl s') => run body passes s'
    | .ok (.inr r) => some (.ok r)

variable {body : Loop ε σ ρ} {s s' : σ} {passes : Nat}

@[simp] theorem run_zero : body.run 0 s = none := rfl

/-- A pass that goes on to the next one. -/
theorem run_again (h : body s = .ok (.inl s')) : body.run (passes + 1) s = body.run passes s' := by
  rw [run, h]

/-- A pass that leaves the loop. -/
theorem run_left {r : ρ} (h : body s = .ok (.inr r)) : body.run (passes + 1) s = some (.ok r) := by
  rw [run, h]

/-- A pass that throws. -/
theorem run_thrown {e : ε} (h : body s = .error e) : body.run (passes + 1) s = some (.error e) := by
  rw [run, h]

/-- A loop that has been left stays left. -/
theorem run_mono {o : Except ε ρ} {more : Nat} (h : body.run passes s = some o) (hle : passes ≤ more) :
    body.run more s = some o := by
  induction passes generalizing s more with
  | zero => cases h
  | succ passes ih =>
    obtain ⟨more, rfl⟩ := Nat.exists_eq_add_one_of_ne_zero (Nat.ne_of_gt (Nat.lt_of_lt_of_le (Nat.succ_pos _) hle))
    have hle' : passes ≤ more := Nat.le_of_succ_le_succ hle
    cases hb : body s with
    | error e =>
      rw [run_thrown hb] at h ⊢
      exact h
    | ok next =>
      cases next with
      | inl s' =>
        rw [run_again hb] at h ⊢
        exact ih h hle'
      | inr r =>
        rw [run_left hb] at h ⊢
        exact h

/-- Each pass keeps the invariant and lowers the variant, or leaves the loop with a value that is as
it should be: then the loop is left with such a value. -/
theorem returns_of_variant {Inv : σ → Prop} {Post : ρ → Prop} (variant : σ → Nat)
    (pass : ∀ s, Inv s → (∃ s', body s = .ok (.inl s') ∧ Inv s' ∧ variant s' < variant s) ∨
      ∃ r, body s = .ok (.inr r) ∧ Post r)
    (hs : Inv s) : ∃ r, body.run (variant s + 1) s = some (.ok r) ∧ Post r := by
  induction hv : variant s using Nat.strong_induction_on generalizing s with
  | _ v ih =>
    rcases pass s hs with ⟨s', hb, hs', hlt⟩ | ⟨r, hb, hr⟩
    · obtain ⟨r, hrun, hr⟩ := ih (variant s') (hv ▸ hlt) hs' rfl
      refine ⟨r, ?_, hr⟩
      rw [run_again hb]
      exact run_mono hrun (hv ▸ hlt)
    · exact ⟨r, run_left hb, hr⟩

/-- Each pass goes on to another one: then no number of passes leads out of the loop. -/
theorem run_eq_none {Inv : σ → Prop} (pass : ∀ s, Inv s → ∃ s', body s = .ok (.inl s') ∧ Inv s') (hs : Inv s) :
    body.run passes s = none := by
  induction passes generalizing s with
  | zero => rfl
  | succ passes ih =>
    obtain ⟨s', hb, hs'⟩ := pass s hs
    rw [run_again hb]
    exact ih hs'

end

end Loop
