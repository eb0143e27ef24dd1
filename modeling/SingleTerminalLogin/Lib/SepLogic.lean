import Mathlib

/-!
# Assertions about parts of a heap

A heap is a partial map from addresses to blocks, and an assertion (`HProp`) is a predicate on
heaps.  `P * Q` holds of a heap that splits into two parts without a common address, one for `P`
and one for `Q`; `1` holds of the empty heap only.  So nothing is said twice about one block, and
nothing is left out: what an assertion holds of is exactly the heap it talks about.

* `instCommMonoid`, `instIsQuantale` — the laws, as instances: an assertion is rearranged by
  `ac_rfl`, weakened by `mul_le_mul'`, and existentials (`⨆`) move out of products;
* `HProp.fact` — a proposition as an assertion about the empty heap;
* `HProp.holds_pointsTo_mul` — taking one block out of a heap;
* `HProp.Occupies`, `HProp.Counts` — an assertion that needs so many blocks, at least or exactly.
-/

namespace SepLogic

/-- The address of a block. -/
abbrev Addr := ℕ

/-- What a pointer variable holds; `none` is the null pointer. -/
abbrev Ptr := Option Addr

/-- The blocks that are allocated. -/
abbrev Heap (V : Type) := Addr → Option V

namespace Heap

variable {V : Type}

/-- No address is in both. -/
def Apart (h k : Heap V) : Prop := ∀ a, h a = none ∨ k a = none

/-- The blocks of both. -/
def union (h k : Heap V) : Heap V := fun a => (h a).or (k a)

/-- No block at all. -/
def empty : Heap V := fun _ => none

/-- One block. -/
def single (a : Addr) (v : V) : Heap V := fun b => if b = a then some v else none

/-- All blocks but one. -/
def erase (h : Heap V) (a : Addr) : Heap V := fun b => if b = a then none else h b

/-- A block written or added. -/
def update (h : Heap V) (a : Addr) (v : V) : Heap V := fun b => if b = a then some v else h b

theorem Apart.symm {h k : Heap V} (hk : Apart h k) : Apart k h := fun a => (hk a).symm

theorem union_comm {h k : Heap V} (hk : Apart h k) : union h k = union k h := by
  funext a
  rcases hk a with ha | ha <;> simp [union, ha]

theorem union_assoc (h k l : Heap V) : union (union h k) l = union h (union k l) := by
  funext a
  simp [union, Option.or_assoc]

@[simp] theorem empty_union (h : Heap V) : union empty h = h := rfl

@[simp] theorem union_empty (h : Heap V) : union h empty = h := by
  funext a
  simp [union, empty]

theorem empty_apart (h : Heap V) : Apart empty h := fun _ => Or.inl rfl

theorem union_apart {h k l : Heap V} : Apart (union h k) l ↔ Apart h l ∧ Apart k l := by
  constructor
  · intro hl
    refine ⟨fun a => ?_, fun a => ?_⟩ <;> rcases hl a with ha | ha
    · exact Or.inl (Option.or_eq_none_iff.1 ha).1
    · exact Or.inr ha
    · exact Or.inl (Option.or_eq_none_iff.1 ha).2
    · exact Or.inr ha
  · rintro ⟨hl, kl⟩ a
    rcases hl a with ha | ha
    · rcases kl a with hb | hb
      · exact Or.inl (Option.or_eq_none_iff.2 ⟨ha, hb⟩)
      · exact Or.inr hb
    · exact Or.inr ha

theorem apart_union {h k l : Heap V} : Apart h (union k l) ↔ Apart h k ∧ Apart h l := by
  constructor
  · intro hl
    have := union_apart.1 hl.symm
    exact ⟨this.1.symm, this.2.symm⟩
  · rintro ⟨hk, hl⟩
    exact (union_apart.2 ⟨hk.symm, hl.symm⟩).symm

/-- A block and the rest of the heap around it. -/
theorem single_union_erase {h : Heap V} {a : Addr} {v : V} (ha : h a = some v) :
    union (single a v) (erase h a) = h := by
  funext b
  by_cases hb : b = a
  · subst hb
    simp [union, single, ha]
  · simp [union, single, erase, hb]

theorem single_apart_erase (h : Heap V) (a : Addr) (v : V) : Apart (single a v) (erase h a) := by
  intro b
  by_cases hb : b = a
  · exact Or.inr (by simp [erase, hb])
  · exact Or.inl (by simp [single, hb])

/-- Taking the block out of the heap it was put in. -/
theorem erase_single_union {k : Heap V} {a : Addr} {v : V} (hk : Apart (single a v) k) :
    erase (union (single a v) k) a = k := by
  have hak : k a = none := (hk a).resolve_left (by simp [single])
  funext b
  by_cases hb : b = a
  · subst hb
    simp [erase, hak]
  · simp [erase, union, single, hb]

@[simp] theorem update_self (h : Heap V) (a : Addr) (v : V) : update h a v a = some v := by
  simp [update]

@[simp] theorem erase_update (h : Heap V) (a : Addr) (v : V) : erase (update h a v) a = erase h a := by
  funext b
  by_cases hb : b = a <;> simp [erase, update, hb]

/-- The addresses in use. -/
def dom (h : Heap V) : Set Addr := {a | h a ≠ none}

theorem dom_union {h k : Heap V} : dom (union h k) = dom h ∪ dom k := by
  ext a
  simp only [dom, union, Set.mem_ofPred_eq, Set.mem_union, ne_eq, Option.or_eq_none_iff]
  tauto

theorem disjoint_dom {h k : Heap V} (hk : Apart h k) : Disjoint (dom h) (dom k) := by
  rw [Set.disjoint_left]
  intro a ha hb
  rcases hk a with h0 | h0
  · exact ha h0
  · exact hb h0

end Heap

open Heap

/-- An assertion about a part of the heap. -/
def HProp (V : Type) : Type := Heap V → Prop

namespace HProp

variable {V : Type}

/-- The assertion holds of exactly this heap. -/
def Holds (P : HProp V) (h : Heap V) : Prop := P h

instance : CompleteLattice (HProp V) := inferInstanceAs (CompleteLattice (Heap V → Prop))

/-- The separating conjunction. -/
instance : Mul (HProp V) :=
  ⟨fun P Q h => ∃ h₁ h₂, Apart h₁ h₂ ∧ h = union h₁ h₂ ∧ P.Holds h₁ ∧ Q.Holds h₂⟩

/-- Nothing is allocated. -/
instance : One (HProp V) := ⟨fun h => h = Heap.empty⟩

theorem holds_mul {P Q : HProp V} {h : Heap V} :
    (P * Q).Holds h ↔ ∃ h₁ h₂, Apart h₁ h₂ ∧ h = union h₁ h₂ ∧ P.Holds h₁ ∧ Q.Holds h₂ := Iff.rfl

theorem Holds.mono {P Q : HProp V} {h : Heap V} (hP : P.Holds h) (hle : P ≤ Q) : Q.Holds h := hle h hP

theorem eq_iff {P Q : HProp V} : P = Q ↔ ∀ h, P.Holds h ↔ Q.Holds h := by
  constructor
  · rintro rfl h
    rfl
  · intro h
    exact le_antisymm (fun k hk => (h k).1 hk) (fun k hk => (h k).2 hk)

theorem holds_iSup {ι : Sort*} {P : ι → HProp V} {h : Heap V} :
    (⨆ i, P i).Holds h ↔ ∃ i, (P i).Holds h := by
  constructor
  · intro hP
    have hle : ⨆ i, P i ≤ (fun h => ∃ i, (P i).Holds h : HProp V) := iSup_le fun i h hi => ⟨i, hi⟩
    exact hle h hP
  · rintro ⟨i, hi⟩
    exact hi.mono (le_iSup P i)

theorem holds_sSup {s : Set (HProp V)} {h : Heap V} : (sSup s).Holds h ↔ ∃ P ∈ s, P.Holds h := by
  rw [sSup_eq_iSup']
  simp [holds_iSup]

protected theorem one_mul (P : HProp V) : 1 * P = P := by
  refine eq_iff.2 fun h => ⟨?_, fun hP => ⟨Heap.empty, h, empty_apart h, rfl, rfl, hP⟩⟩
  rintro ⟨_, k, -, rfl, rfl, hP⟩
  exact hP

protected theorem mul_comm (P Q : HProp V) : P * Q = Q * P := by
  have hle : ∀ P Q : HProp V, P * Q ≤ Q * P := by
    rintro P Q h ⟨k, l, hkl, rfl, hP, hQ⟩
    exact ⟨l, k, hkl.symm, union_comm hkl, hQ, hP⟩
  exact le_antisymm (hle P Q) (hle Q P)

protected theorem mul_assoc (P Q R : HProp V) : P * Q * R = P * (Q * R) := by
  refine eq_iff.2 fun h => ⟨?_, ?_⟩
  · rintro ⟨_, h₃, hd, rfl, ⟨h₁, h₂, hd₁₂, rfl, hP, hQ⟩, hR⟩
    obtain ⟨hd₁₃, hd₂₃⟩ := union_apart.1 hd
    exact ⟨h₁, union h₂ h₃, apart_union.2 ⟨hd₁₂, hd₁₃⟩, union_assoc h₁ h₂ h₃, hP, h₂, h₃, hd₂₃, rfl,
      hQ, hR⟩
  · rintro ⟨h₁, _, hd, rfl, hP, h₂, h₃, hd₂₃, rfl, hQ, hR⟩
    obtain ⟨hd₁₂, hd₁₃⟩ := apart_union.1 hd
    exact ⟨union h₁ h₂, h₃, union_apart.2 ⟨hd₁₃, hd₂₃⟩, (union_assoc h₁ h₂ h₃).symm,
      ⟨h₁, h₂, hd₁₂, rfl, hP, hQ⟩, hR⟩

instance instCommMonoid : CommMonoid (HProp V) where
  mul_assoc := HProp.mul_assoc
  one_mul := HProp.one_mul
  mul_one P := by rw [HProp.mul_comm, HProp.one_mul]
  mul_comm := HProp.mul_comm

instance instIsQuantale : IsQuantale (HProp V) where
  mul_sSup_distrib P s := by
    refine eq_iff.2 fun h => ?_
    simp only [holds_mul, holds_sSup, holds_iSup, exists_prop]
    constructor
    · rintro ⟨h₁, h₂, hd, rfl, hP, Q, hQ, hQh⟩
      exact ⟨Q, hQ, h₁, h₂, hd, rfl, hP, hQh⟩
    · rintro ⟨Q, hQ, h₁, h₂, hd, rfl, hP, hQh⟩
      exact ⟨h₁, h₂, hd, rfl, hP, Q, hQ, hQh⟩
  sSup_mul_distrib s P := by
    refine eq_iff.2 fun h => ?_
    simp only [holds_mul, holds_sSup, holds_iSup, exists_prop]
    constructor
    · rintro ⟨h₁, h₂, hd, rfl, ⟨Q, hQ, hQh⟩, hP⟩
      exact ⟨Q, hQ, h₁, h₂, hd, rfl, hQh, hP⟩
    · rintro ⟨Q, hQ, h₁, h₂, hd, rfl, hQh, hP⟩
      exact ⟨h₁, h₂, hd, rfl, ⟨Q, hQ, hQh⟩, hP⟩

/-- This heap and no other. -/
def exactly (h : Heap V) : HProp V := fun k => k = h

/-! ## Propositions -/

/-- A proposition, of the empty heap. -/
def fact (φ : Prop) : HProp V := fun h => φ ∧ h = Heap.empty

theorem holds_fact_mul {φ : Prop} {P : HProp V} {h : Heap V} :
    (fact φ * P).Holds h ↔ φ ∧ P.Holds h := by
  constructor
  · rintro ⟨_, k, -, rfl, ⟨hφ, rfl⟩, hP⟩
    exact ⟨hφ, hP⟩
  · rintro ⟨hφ, hP⟩
    exact ⟨Heap.empty, h, empty_apart h, rfl, ⟨hφ, rfl⟩, hP⟩

theorem fact_of {φ : Prop} (h : φ) : (fact φ : HProp V) = 1 :=
  eq_iff.2 fun _ => ⟨fun hk => hk.2, fun hk => ⟨h, hk⟩⟩

@[simp] theorem fact_false : (fact False : HProp V) = ⊥ :=
  eq_iff.2 fun _ => ⟨fun hk => hk.1.elim, fun hk => hk.elim⟩

theorem fact_mul_le {φ : Prop} {P Q : HProp V} : fact φ * P ≤ Q ↔ (φ → P ≤ Q) := by
  constructor
  · intro h hφ k hP
    exact h k (holds_fact_mul.2 ⟨hφ, hP⟩)
  · intro h k hk
    obtain ⟨hφ, hP⟩ := holds_fact_mul.1 hk
    exact h hφ k hP

theorem le_fact_mul {φ : Prop} {P Q : HProp V} (hφ : φ) (h : P ≤ Q) : P ≤ fact φ * Q := by
  rwa [fact_of hφ, one_mul]

theorem fact_mono {φ ψ : Prop} (h : φ → ψ) : (fact φ : HProp V) ≤ fact ψ := fun _ hk => ⟨h hk.1, hk.2⟩

/-! ## Blocks -/

/-- One block, and what is in it. -/
def pointsTo (a : Addr) (v : V) : HProp V := fun h => h = single a v

/-- A heap with a block in it is the block and the rest of the heap. -/
theorem holds_pointsTo_mul {a : Addr} {v : V} {P : HProp V} {h : Heap V} :
    (pointsTo a v * P).Holds h ↔ h a = some v ∧ P.Holds (erase h a) := by
  constructor
  · rintro ⟨_, k, hk, rfl, rfl, hP⟩
    refine ⟨by simp [union, single], ?_⟩
    rwa [erase_single_union hk]
  · rintro ⟨ha, hP⟩
    exact ⟨single a v, erase h a, single_apart_erase h a v, (single_union_erase ha).symm, rfl, hP⟩

/-- There is one block at an address. -/
theorem pointsTo_mul_self (a : Addr) (v w : V) : pointsTo a v * pointsTo a w = ⊥ := by
  rw [eq_bot_iff]
  intro h hh
  obtain ⟨-, hw⟩ := holds_pointsTo_mul.1 hh
  have hself : erase h a a = single a w a := congrFun hw a
  simp [erase, single] at hself

/-- Writing a block changes this block only. -/
theorem Holds.update {a : Addr} {v w : V} {P : HProp V} {h : Heap V}
    (hh : (pointsTo a v * P).Holds h) : (pointsTo a w * P).Holds (Heap.update h a w) := by
  rw [holds_pointsTo_mul] at hh ⊢
  rw [update_self, erase_update]
  exact ⟨rfl, hh.2⟩

/-! ## How many blocks an assertion needs -/

/-- Every heap the assertion holds of has at least so many blocks. -/
def Occupies (n : ℕ) (P : HProp V) : Prop := ∀ h, P.Holds h → (n : ℕ∞) ≤ (dom h).encard

theorem occupies_zero (P : HProp V) : Occupies 0 P := fun _ _ => by simp

theorem occupies_pointsTo (a : Addr) (v : V) : Occupies 1 (pointsTo a v) := by
  rintro _ rfl
  have ha : a ∈ dom (single a v) := by simp [dom, single]
  exact_mod_cast Set.one_le_encard_iff_nonempty.2 ⟨a, ha⟩

theorem Occupies.mul {m n : ℕ} {P Q : HProp V} (hP : Occupies m P) (hQ : Occupies n Q) :
    Occupies (m + n) (P * Q) := by
  rintro _ ⟨h, k, hk, rfl, hh, hkk⟩
  rw [dom_union, Set.encard_union_eq (disjoint_dom hk), Nat.cast_add]
  exact add_le_add (hP h hh) (hQ k hkk)

theorem Occupies.iSup {ι : Sort*} {n : ℕ} {P : ι → HProp V} (h : ∀ i, Occupies n (P i)) :
    Occupies n (⨆ i, P i) := by
  intro k hk
  obtain ⟨i, hi⟩ := holds_iSup.1 hk
  exact h i k hi

theorem Occupies.fact_mul {n : ℕ} {φ : Prop} {P : HProp V} (h : φ → Occupies n P) :
    Occupies n (fact φ * P) := by
  intro k hk
  obtain ⟨hφ, hP⟩ := holds_fact_mul.1 hk
  exact h hφ k hP

/-- Every heap the assertion holds of has exactly so many blocks. -/
def Counts (n : ℕ) (P : HProp V) : Prop := ∀ h, P.Holds h → (dom h).encard = n

theorem counts_one : Counts 0 (1 : HProp V) := by
  rintro _ rfl
  simp [dom, Heap.empty]

theorem counts_pointsTo (a : Addr) (v : V) : Counts 1 (pointsTo a v) := by
  rintro _ rfl
  have hdom : dom (single a v) = {a} := by
    ext b
    simp [dom, single]
  rw [hdom, Set.encard_singleton, Nat.cast_one]

theorem Counts.mul {m n : ℕ} {P Q : HProp V} (hP : Counts m P) (hQ : Counts n Q) :
    Counts (m + n) (P * Q) := by
  rintro _ ⟨h, k, hk, rfl, hh, hkk⟩
  rw [dom_union, Set.encard_union_eq (disjoint_dom hk), hP h hh, hQ k hkk, Nat.cast_add]

theorem Counts.iSup {ι : Sort*} {n : ℕ} {P : ι → HProp V} (h : ∀ i, Counts n (P i)) :
    Counts n (⨆ i, P i) := by
  intro k hk
  obtain ⟨i, hi⟩ := holds_iSup.1 hk
  exact h i k hi

theorem Counts.fact_mul {n : ℕ} {φ : Prop} {P : HProp V} (h : φ → Counts n P) :
    Counts n (fact φ * P) := by
  intro k hk
  obtain ⟨hφ, hP⟩ := holds_fact_mul.1 hk
  exact h hφ k hP

theorem counts_prod {ι : Type} {n : ι → ℕ} {L : ι → HProp V} {xs : List ι}
    (h : ∀ x ∈ xs, Counts (n x) (L x)) : Counts (xs.map n).sum (xs.map L).prod := by
  induction xs with
  | nil => exact counts_one
  | cons x xs ih =>
    rw [List.map_cons, List.map_cons, List.prod_cons, List.sum_cons]
    exact (h x (by simp)).mul (ih fun y hy => h y (by simp [hy]))

end HProp

end SepLogic
