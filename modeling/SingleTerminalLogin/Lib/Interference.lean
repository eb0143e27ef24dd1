import SingleTerminalLogin.Lib.Machine

/-!
# Inputs that do not interfere

A machine serves several parties, and one of them sees no more than a part of its
state.

* `Machine.answersTo` — the outputs that answer the inputs of the party;
* `Machine.run_filter` — if the other inputs leave the visible part alone, the
  party gets the answers of the run over its own inputs;
* `Machine.noninterference` — two runs with the same inputs of the party answer it
  the same, whatever else they are given.
-/

namespace Machine

section

variable {ι ο ο' : Type} (mine : ι → Prop) [DecidablePred mine]

/-- Out of the outputs to a list of inputs, those to the inputs of the party. -/
def answersTo : List ι → List ο → List ο
  | i :: is, o :: os => if mine i then o :: answersTo is os else answersTo is os
  | _, _ => []

theorem answersTo_own {i : ι} (hi : mine i) (is : List ι) (o : ο) (os : List ο) :
    answersTo mine (i :: is) (o :: os) = o :: answersTo mine is os := if_pos hi

theorem answersTo_other {i : ι} (hi : ¬ mine i) (is : List ι) (o : ο) (os : List ο) :
    answersTo mine (i :: is) (o :: os) = answersTo mine is os := if_neg hi

/-- Which outputs are picked does not depend on what they are. -/
theorem answersTo_map (g : ο → ο') (is : List ι) (os : List ο) :
    answersTo mine is (os.map g) = (answersTo mine is os).map g := by
  induction is generalizing os with
  | nil => rfl
  | cons i is ih =>
    cases os with
    | nil => rfl
    | cons o os =>
      rw [List.map_cons]
      by_cases hi : mine i
      · rw [answersTo_own mine hi, answersTo_own mine hi, ih, List.map_cons]
      · rw [answersTo_other mine hi, answersTo_other mine hi, ih]

end

section

variable {ι ο σ κ : Type} {f : Machine ι ο σ} {mine : ι → Prop} [DecidablePred mine]
  {view : σ → κ}

/-- The other inputs can be left out of a run, as far as the party sees. -/
theorem run_filter
    (own : ∀ i s t, mine i → view s = view t →
      (f i s).1 = (f i t).1 ∧ view (f i s).2 = view (f i t).2)
    (other : ∀ i s, ¬ mine i → view (f i s).2 = view s) {is : List ι} {s t : σ}
    (h : view s = view t) :
    answersTo mine is (f.run is s).1 = (f.run (is.filter mine) t).1 ∧
      view (f.run is s).2 = view (f.run (is.filter mine) t).2 := by
  induction is generalizing s t with
  | nil => exact ⟨rfl, h⟩
  | cons i is ih =>
    rw [run_cons]
    by_cases hi : mine i
    · obtain ⟨hout, hview⟩ := own i s t hi h
      obtain ⟨houts, hviews⟩ := ih hview
      rw [List.filter_cons_of_pos (by simpa using hi), run_cons, answersTo_own mine hi, hout, houts]
      exact ⟨rfl, hviews⟩
    · rw [List.filter_cons_of_neg (by simpa using hi), answersTo_other mine hi]
      exact ih ((other i s hi).trans h)

/-- Runs with the same inputs of the party look the same to it. -/
theorem noninterference
    (own : ∀ i s t, mine i → view s = view t →
      (f i s).1 = (f i t).1 ∧ view (f i s).2 = view (f i t).2)
    (other : ∀ i s, ¬ mine i → view (f i s).2 = view s) {is js : List ι}
    (hsame : is.filter mine = js.filter mine) (s : σ) :
    answersTo mine is (f.run is s).1 = answersTo mine js (f.run js s).1 ∧
      view (f.run is s).2 = view (f.run js s).2 := by
  have purged : ∀ ks : List ι, answersTo mine ks (f.run ks s).1 = (f.run (ks.filter mine) s).1 ∧
      view (f.run ks s).2 = view (f.run (ks.filter mine) s).2 :=
    fun ks => run_filter own other rfl
  rw [(purged is).1, (purged is).2, (purged js).1, (purged js).2, hsame]
  exact ⟨rfl, rfl⟩

end

end Machine
