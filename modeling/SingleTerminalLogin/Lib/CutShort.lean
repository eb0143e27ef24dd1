import SingleTerminalLogin.Lib.Process

/-!
# Calls that are cut short

A program with checks put in between its steps, or lines that are written to a log, does what the
program does without them, as far as it gets.

* `CutShort` — where `x` returns, `y` returns the same;
* `Proc.CutShort` — the same for calls on a state;
* `CutShort.bind`, `CutShort.step`, `Proc.CutShort.bind`, `Proc.CutShort.step` — the rules that take
  the two programs apart together.
-/

namespace CProgram

/-- `x` is `y` with steps in between that may end the process. -/
def CutShort {α : Type} (x y : C α) : Prop := ∀ a, x = .ok a → y = .ok a

section

variable {α β : Type} {x y : C α}

theorem CutShort.refl (x : C α) : CutShort x x := fun _ h => h

theorem CutShort.returns (h : CutShort x y) (hx : Returns x) : Returns y := hx.imp h

theorem CutShort.bind {f g : α → C β} (h : CutShort x y) (hf : ∀ a, CutShort (f a) (g a)) :
    CutShort (x >>= f) (y >>= g) := by
  intro b hb
  obtain ⟨a, ha, hb⟩ := bind_eq_ok.1 hb
  exact bind_eq_ok.2 ⟨a, h a ha, hf a b hb⟩

/-- A step in front. -/
theorem CutShort.step {step : C Unit} (h : CutShort x y) : CutShort (step >>= fun _ => x) y := by
  intro a ha
  obtain ⟨-, -, ha⟩ := bind_eq_ok.1 ha
  exact h a ha

end

namespace Proc

/-- `x` is `y` with steps in between that may end the process. -/
def CutShort {σ α : Type} (x y : Proc σ α) : Prop := ∀ s, Returns (x s).1 → y s = x s

section

variable {σ α β : Type} {x y : Proc σ α}

theorem CutShort.refl (x : Proc σ α) : CutShort x x := fun _ _ => rfl

theorem CutShort.returns (h : CutShort x y) {s : σ} (hx : Returns (x s).1) : Returns (y s).1 := by
  rw [h s hx]
  exact hx

theorem CutShort.lift {x y : C α} (h : CProgram.CutShort x y) :
    CutShort (Proc.lift x : Proc σ α) (Proc.lift y) := by
  rintro s ⟨a, ha⟩
  exact Prod.ext ((h a ha).trans ha.symm) rfl

theorem CutShort.bind {f g : α → Proc σ β} (h : CutShort x y) (hf : ∀ a, CutShort (f a) (g a)) :
    CutShort (x >>= f) (y >>= g) := by
  intro s hreturns
  obtain ⟨a, s', hx, hreturns⟩ := returns_bind_run_iff.1 hreturns
  have hy : y s = (.ok a, s') := (h s ⟨a, congrArg Prod.fst hx⟩).trans hx
  rw [bind_run_ok hx, bind_run_ok hy]
  exact hf a s' hreturns

/-- A step in front. -/
theorem CutShort.step {step : C Unit} (h : CutShort x y) :
    CutShort (Proc.lift step >>= fun _ => x) y := by
  intro s hreturns
  obtain ⟨u, s', hstep, hreturns⟩ := returns_bind_run_iff.1 hreturns
  obtain ⟨-, rfl⟩ := Prod.ext_iff.1 hstep
  rw [bind_run_ok hstep]
  exact h _ hreturns

theorem CutShort.ite {p : Prop} [Decidable p] {x' y' : Proc σ α} (h : CutShort x y) (h' : CutShort x' y') :
    CutShort (if p then x else x') (if p then y else y') := by
  split
  · exact h
  · exact h'

end

end Proc

end CProgram
