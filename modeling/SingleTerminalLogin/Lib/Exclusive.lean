import Mathlib

/-!
# Objects with exactly one holder

Holders hold at most one object each, by its address; an object says who its holder
is.  Objects come and go with their holders.

* `Exclusive` — every holder holds an object that is there and is its own, and every
  object is held by its holder;
* `exclusive_iff` — which is to say that every object is held exactly once;
* `Exclusive.give`, `Exclusive.take` — an object comes to a holder without one, and
  goes.
-/

section

variable {κ π β : Type} {slot : κ → Option π} {heap : π → Option β} {owner : β → κ}

/-- Every holder holds an object of its own, and every object is held. -/
structure Exclusive (slot : κ → Option π) (heap : π → Option β) (owner : β → κ) : Prop where
  held : ∀ k p, slot k = some p → ∃ b, heap p = some b ∧ owner b = k
  holder : ∀ p b, heap p = some b → slot (owner b) = some p

namespace Exclusive

/-- Only its own holder holds an object. -/
theorem eq_owner (h : Exclusive slot heap owner) {k : κ} {p : π} {b : β} (hk : slot k = some p)
    (hp : heap p = some b) : owner b = k := by
  obtain ⟨b', hb', hk'⟩ := h.held k p hk
  rw [hp] at hb'
  cases hb'
  exact hk'

theorem existsUnique (h : Exclusive slot heap owner) {p : π} {b : β} (hp : heap p = some b) :
    ∃! k, slot k = some p :=
  ⟨owner b, h.holder p b hp, fun _ hk => (h.eq_owner hk hp).symm⟩

theorem empty (hs : ∀ k, slot k = none) (hh : ∀ p, heap p = none) : Exclusive slot heap owner := by
  refine ⟨fun k p hk => ?_, fun p b hp => ?_⟩
  · rw [hs k] at hk
    cases hk
  · rw [hh p] at hp
    cases hp

section

variable [DecidableEq κ] [DecidableEq π]

/-- A new object for a holder without one. -/
theorem give (h : Exclusive slot heap owner) {p : π} {b : β} (hk : slot (owner b) = none)
    (hp : heap p = none) :
    Exclusive (Function.update slot (owner b) (some p)) (Function.update heap p (some b)) owner := by
  constructor
  · intro k q hq
    by_cases hkb : k = owner b
    · subst hkb
      rw [Function.update_self, Option.some.injEq] at hq
      subst hq
      exact ⟨b, Function.update_self .., rfl⟩
    · rw [Function.update_of_ne hkb] at hq
      obtain ⟨b', hb', hk'⟩ := h.held k q hq
      have hqp : q ≠ p := by
        rintro rfl
        rw [hp] at hb'
        cases hb'
      exact ⟨b', by rw [Function.update_of_ne hqp]; exact hb', hk'⟩
  · intro q b' hb'
    by_cases hqp : q = p
    · subst hqp
      rw [Function.update_self, Option.some.injEq] at hb'
      subst hb'
      exact Function.update_self ..
    · rw [Function.update_of_ne hqp] at hb'
      have hheld := h.holder q b' hb'
      have hne : owner b' ≠ owner b := by
        intro heq
        rw [heq, hk] at hheld
        cases hheld
      rw [Function.update_of_ne hne]
      exact hheld

/-- The object of a holder goes. -/
theorem take (h : Exclusive slot heap owner) {k : κ} {p : π} (hk : slot k = some p) :
    Exclusive (Function.update slot k none) (Function.update heap p none) owner := by
  obtain ⟨b, hb, rfl⟩ := h.held k p hk
  constructor
  · intro k' q hq
    by_cases hkb : k' = owner b
    · subst hkb
      rw [Function.update_self] at hq
      cases hq
    · rw [Function.update_of_ne hkb] at hq
      obtain ⟨b', hb', hk'⟩ := h.held k' q hq
      have hqp : q ≠ p := by
        rintro rfl
        rw [hb] at hb'
        cases hb'
        exact hkb hk'.symm
      exact ⟨b', by rw [Function.update_of_ne hqp]; exact hb', hk'⟩
  · intro q b' hb'
    by_cases hqp : q = p
    · subst hqp
      rw [Function.update_self] at hb'
      cases hb'
    · rw [Function.update_of_ne hqp] at hb'
      have hheld := h.holder q b' hb'
      have hne : owner b' ≠ owner b := by
        intro heq
        rw [heq, hk, Option.some.injEq] at hheld
        exact hqp hheld.symm
      rw [Function.update_of_ne hne]
      exact hheld

end

/-- An object that nobody holds. -/
theorem not_of_lost {p : π} {b : β} (hp : heap p = some b) (hlost : ∀ k, slot k ≠ some p) :
    ¬ Exclusive slot heap owner := fun h => hlost _ (h.holder p b hp)

/-- A holder of an object that is gone. -/
theorem not_of_dangling {k : κ} {p : π} (hk : slot k = some p) (hp : heap p = none) :
    ¬ Exclusive slot heap owner := by
  intro h
  obtain ⟨b, hb, -⟩ := h.held k p hk
  rw [hp] at hb
  cases hb

end Exclusive

/-- Every object is held exactly once, by its own holder. -/
theorem exclusive_iff : Exclusive slot heap owner ↔
    (∀ k p, slot k = some p → ∃ b, heap p = some b ∧ owner b = k) ∧
      ∀ p b, heap p = some b → ∃! k, slot k = some p := by
  constructor
  · exact fun h => ⟨h.held, fun p b hp => h.existsUnique hp⟩
  · rintro ⟨hheld, hunique⟩
    refine ⟨hheld, fun p b hp => ?_⟩
    obtain ⟨k, hk, -⟩ := hunique p b hp
    obtain ⟨b', hb', hk'⟩ := hheld k p hk
    rw [hp] at hb'
    cases hb'
    rw [hk']
    exact hk

end
