import SingleTerminalLogin.Lib.CProgram
import SingleTerminalLogin.Lib.SepLogic

/-!
# Programs with a heap

A program of type `HeapM V α` allocates, reads, writes and frees blocks of type `V`.  An address is
handed out once: after `free` it stays dead, so that every later use of the pointer is a fault, and
so is a second `free`.  `malloc` may say no; which calls it denies is a parameter of the run.

`Triple g P m Q` is total correctness.  In every memory with a part of which `P` holds, `m` runs to
a result without a fault, leaves the rest of the memory alone, and `Q` holds of what its part has
become.  Nothing of the part is lost: a block that `Q` does not mention has been freed.

* `Triple.step` — the rule a body of a function is executed with, call by call;
* `Triple.malloc`, `Triple.load`, `Triple.store`, `Triple.free` — what the primitives do;
* `Triple.bound` — more blocks were handed out than an assertion needs;
* `Reads` — a run that only looks.
-/

namespace SepLogic

open CProgram

/-- The memory of a program. -/
structure Memory (V : Type) where
  heap : Heap V
  /-- How many addresses have been handed out. -/
  brk : Addr
  fresh : ∀ a, brk ≤ a → heap a = none

namespace Memory

variable {V : Type}

/-- The memory of a process that has just started. -/
def empty : Memory V where
  heap := Heap.empty
  brk := 0
  fresh _ _ := rfl

/-- A new block at the next address. -/
def add (s : Memory V) (v : V) : Memory V where
  heap := s.heap.update s.brk v
  brk := s.brk + 1
  fresh a ha := by
    rw [Heap.update, if_neg (Nat.ne_of_gt ha)]
    exact s.fresh a (Nat.le_of_succ_le ha)

/-- The next address is passed over. -/
def pass (s : Memory V) : Memory V where
  heap := s.heap
  brk := s.brk + 1
  fresh a ha := s.fresh a (Nat.le_of_succ_le ha)

/-- An allocated block gets new contents. -/
def write (s : Memory V) (a : Addr) (v : V) (h : s.heap a ≠ none) : Memory V where
  heap := s.heap.update a v
  brk := s.brk
  fresh b hb := by
    have hne : b ≠ a := by
      rintro rfl
      exact h (s.fresh b hb)
    rw [Heap.update, if_neg hne]
    exact s.fresh b hb

/-- A block is gone. -/
def drop (s : Memory V) (a : Addr) : Memory V where
  heap := s.heap.erase a
  brk := s.brk
  fresh b hb := by
    rw [Heap.erase]
    split
    · rfl
    · exact s.fresh b hb

/-- The blocks there were are as they were, and `n` blocks are new. -/
def GrownBy (s : Memory V) (n : ℕ) (s' : Memory V) : Prop :=
  ∃ k : Heap V, Heap.Apart k s.heap ∧ s'.heap = Heap.union k s.heap ∧ (Heap.dom k).encard = n

end Memory

/-- Which calls of `malloc` find memory. -/
abbrev Grants := Addr → Bool

/-- Does `malloc` ever say no? -/
def Denied (g : Grants) : Prop := ∃ a, g a = false

/-- A program over a heap. -/
abbrev HeapM (V : Type) := ReaderT Grants (StateT (Memory V) (Except Fault))

namespace HeapM

variable {V : Type}

/-- `malloc`, together with what is put into the new block. -/
def malloc (v : V) : HeapM V Ptr := fun g s =>
  if g s.brk then .ok (some s.brk, s.add v) else .ok (none, s.pass)

/-- Read a block. -/
def load (a : Addr) : HeapM V V := fun _ s =>
  match s.heap a with
  | some v => .ok (v, s)
  | none => .error .memory

/-- Write a block. -/
def store (a : Addr) (v : V) : HeapM V Unit := fun _ s =>
  if h : s.heap a = none then .error .memory else .ok ((), s.write a v h)

/-- `free` of a block. -/
def free (a : Addr) : HeapM V Unit := fun _ s =>
  if s.heap a = none then .error .memory else .ok ((), s.drop a)

/-- How many blocks there can be at most: no walk along pointers is longer. -/
def bound : HeapM V ℕ := fun _ s => .ok (s.brk, s)

/-- The process dies. -/
def fault {α : Type} (e : Fault) : HeapM V α := fun _ _ => .error e

/-- A pointer that is used as an object. -/
def nonNull : Ptr → HeapM V Addr
  | some a => pure a
  | none => fault .nullDeref

/-- `if (!p) return 0;` in front of the rest of a function. -/
def unlessNull {α β : Type} : Option α → (α → HeapM V (Option β)) → HeapM V (Option β)
  | none, _ => pure none
  | some a, k => k a

/-- A call that does not use the heap. -/
def lift {α : Type} (x : C α) : HeapM V α := fun _ s => x.map fun a => (a, s)

@[simp] theorem nonNull_some_bind {α : Type} (a : Addr) (f : Addr → HeapM V α) :
    (nonNull (some a) >>= f) = f a := rfl

end HeapM

open HeapM HProp

section

variable {V α β : Type}

/-- What a function hands out that allocates: an address with this at it, or the null pointer if
`malloc` may say no. -/
def orNull (g : Grants) (P : Addr → HProp V) : Ptr → HProp V
  | none => fact (Denied g)
  | some a => P a

/-- Total correctness of a program that owns a part of the memory. -/
def Triple (g : Grants) (P : HProp V) (m : HeapM V α) (Q : α → HProp V) : Prop :=
  ∀ F s, (P * F).Holds s.heap → ∃ a s', m g s = .ok (a, s') ∧ (Q a * F).Holds s'.heap

variable {g : Grants} {P P' F : HProp V} {Q Q' : α → HProp V} {R : β → HProp V} {m : HeapM V α}
  {f : α → HeapM V β}

/-- An assertion that needs `n` blocks holds in memories with at least `n` addresses handed
out. -/
theorem HProp.Occupies.le_brk {n : ℕ} (hP : Occupies n P) {s : Memory V}
    (hs : (P * F).Holds s.heap) : n ≤ s.brk := by
  have hdom : Heap.dom s.heap ⊆ Set.Iio s.brk := by
    intro a ha
    by_contra hlt
    exact ha (s.fresh a (by simpa using hlt))
  have hn : (n : ℕ∞) ≤ s.brk := by
    refine (Occupies.mul hP (occupies_zero F) s.heap hs).trans ?_
    refine (Set.encard_le_encard hdom).trans ?_
    rw [Set.encard_eq_coe_toFinset_card, Set.toFinset_Iio, Nat.card_Iio]
  exact_mod_cast hn

namespace Triple

/-- No memory is like this. -/
theorem of_bot : Triple g ⊥ m Q := by
  intro F s hs
  rw [Quantale.bot_mul] at hs
  exact hs.elim

/-- What a triple says of a run on its own. -/
theorem run (h : Triple g P m Q) {s : Memory V} (hs : P.Holds s.heap) :
    ∃ a s', m g s = .ok (a, s') ∧ (Q a).Holds s'.heap := by
  obtain ⟨a, s', hm, hQ⟩ := h 1 s (by rwa [mul_one])
  rw [mul_one] at hQ
  exact ⟨a, s', hm, hQ⟩

/-- A run in any memory: what was there before is untouched, and next to it is what the program
leaves behind. -/
theorem grows {a : α} {L : HProp V} {n : ℕ} (h : Triple g 1 m fun b => fact (b = a) * L)
    (hn : Counts n L) (s : Memory V) : ∃ s', m g s = .ok (a, s') ∧ s.GrownBy n s' := by
  have hs : (1 * exactly s.heap).Holds s.heap := by
    rw [one_mul]
    rfl
  obtain ⟨b, s', hm, hQ⟩ := h (exactly s.heap) s hs
  rw [mul_assoc] at hQ
  obtain ⟨rfl, k, l, hkl, hs', hk, rfl⟩ := holds_fact_mul.1 hQ
  exact ⟨s', hm, k, hkl, hs', hn k hk⟩

/-- A run that leaves nothing behind. -/
theorem restores {φ : α → Prop} (h : Triple g 1 m fun a => fact (φ a)) (s : Memory V) :
    ∃ a s', m g s = .ok (a, s') ∧ φ a ∧ s'.heap = s.heap := by
  have hs : (1 * exactly s.heap).Holds s.heap := by
    rw [one_mul]
    rfl
  obtain ⟨a, s', hm, hQ⟩ := h (exactly s.heap) s hs
  obtain ⟨hφ, hheap⟩ := holds_fact_mul.1 hQ
  exact ⟨a, s', hm, hφ, hheap⟩

/-- It is enough to know what the program does in each memory. -/
theorem of_run (h : ∀ F s, (P * F).Holds s.heap → ∃ m', m g s = m' g s ∧ Triple g P m' Q) :
    Triple g P m Q := by
  intro F s hs
  obtain ⟨m', hm, ht⟩ := h F s hs
  obtain ⟨a, s', hm', hQ⟩ := ht F s hs
  exact ⟨a, s', hm.trans hm', hQ⟩

theorem pure {a : α} (h : P ≤ Q a) : Triple g P (pure a) Q :=
  fun _ s hs => ⟨a, s, rfl, hs.mono (mul_le_mul' h le_rfl)⟩

/-- The rest of the memory may be told about. -/
theorem frame (h : Triple g P m Q) (F : HProp V) : Triple g (P * F) m (fun a => Q a * F) := by
  intro G s hs
  rw [mul_assoc] at hs
  obtain ⟨a, s', hm, hQ⟩ := h (F * G) s hs
  exact ⟨a, s', hm, by rwa [mul_assoc]⟩

theorem weaken (h : Triple g P m Q) (hP : P' ≤ P) (hQ : ∀ a, Q a ≤ Q' a) : Triple g P' m Q' := by
  intro F s hs
  obtain ⟨a, s', hm, hQa⟩ := h F s (hs.mono (mul_le_mul' hP le_rfl))
  exact ⟨a, s', hm, hQa.mono (mul_le_mul' (hQ a) le_rfl)⟩

theorem bind (h : Triple g P m Q) (hf : ∀ a, Triple g (Q a) (f a) R) : Triple g P (m >>= f) R := by
  intro F s hs
  obtain ⟨a, s', hm, hQ⟩ := h F s hs
  obtain ⟨b, s'', hb, hR⟩ := hf a F s' hQ
  refine ⟨b, s'', ?_, hR⟩
  change (m g s >>= fun p => f p.1 g p.2) = _
  rw [hm]
  exact hb

/-- One call of a longer body: the call needs `P`, and `F` is what it does not touch. -/
theorem step (h : Triple g P m Q) (hP : P' = P * F) (hf : ∀ a, Triple g (Q a * F) (f a) R) :
    Triple g P' (m >>= f) R := by
  rw [hP]
  exact (h.frame F).bind hf

/-- The last call of a body. -/
theorem last (h : Triple g P m Q) (hP : P' = P * F) (hQ : ∀ a, Q a * F ≤ Q' a) : Triple g P' m Q' :=
  (h.frame F).weaken hP.le hQ

theorem exists_pre {ι : Type} {P : ι → HProp V} (h : ∀ i, Triple g (P i) m Q) :
    Triple g (⨆ i, P i) m Q := by
  intro F s hs
  rw [Quantale.iSup_mul_distrib] at hs
  obtain ⟨i, hi⟩ := holds_iSup.1 hs
  exact h i F s hi

theorem fact_pre {φ : Prop} (h : φ → Triple g P m Q) : Triple g (fact φ * P) m Q := by
  intro F s hs
  rw [mul_assoc] at hs
  obtain ⟨hφ, hs⟩ := holds_fact_mul.1 hs
  exact h hφ F s hs

/-- A call that does not use the heap, and returns. -/
theorem lift {x : C α} {a : α} (h : x = .ok a) : Triple g P (lift x) fun b => fact (b = a) * P := by
  intro F s hs
  refine ⟨a, s, by rw [HeapM.lift, h]; rfl, ?_⟩
  beta_reduce
  rwa [fact_of rfl, one_mul]

/-! ## The primitives -/

theorem malloc (v : V) : Triple g 1 (malloc v) (orNull g fun a => pointsTo a v) := by
  intro F s hs
  rw [one_mul] at hs
  by_cases hg : g s.brk = true
  · refine ⟨some s.brk, s.add v, by rw [HeapM.malloc, if_pos hg], holds_pointsTo_mul.2 ⟨?_, ?_⟩⟩
    · exact Heap.update_self _ _ _
    · have hnone : s.heap s.brk = none := s.fresh _ le_rfl
      have herase : s.heap.erase s.brk = s.heap := by
        funext b
        rw [Heap.erase]
        split
        · rename_i hb
          rw [hb, hnone]
        · rfl
      rwa [Memory.add, Heap.erase_update, herase]
  · refine ⟨none, s.pass, by rw [HeapM.malloc, if_neg hg], ?_⟩
    exact holds_fact_mul.2 ⟨⟨s.brk, by simpa using hg⟩, hs⟩

theorem load (a : Addr) (v : V) :
    Triple g (pointsTo a v) (load a) fun w => fact (w = v) * pointsTo a v := by
  intro F s hs
  have ha := (holds_pointsTo_mul.1 hs).1
  refine ⟨v, s, by rw [HeapM.load, ha], ?_⟩
  beta_reduce
  rwa [fact_of rfl, one_mul]

theorem store (a : Addr) (v w : V) :
    Triple g (pointsTo a v) (store a w) fun _ => pointsTo a w := by
  intro F s hs
  have ha : s.heap a ≠ none := by
    rw [(holds_pointsTo_mul.1 hs).1]
    exact Option.some_ne_none v
  exact ⟨(), s.write a w ha, by rw [HeapM.store, dif_neg ha], hs.update⟩

theorem free (a : Addr) (v : V) : Triple g (pointsTo a v) (free a) fun _ => 1 := by
  intro F s hs
  obtain ⟨ha, hF⟩ := holds_pointsTo_mul.1 hs
  have hne : s.heap a ≠ none := by
    rw [ha]
    exact Option.some_ne_none v
  refine ⟨(), s.drop a, by rw [HeapM.free, if_neg hne], ?_⟩
  rwa [one_mul]

theorem bound {n : ℕ} (hP : Occupies n P) : Triple g P bound fun b => fact (n ≤ b) * P := by
  intro F s hs
  refine ⟨s.brk, s, rfl, ?_⟩
  beta_reduce
  rwa [fact_of (hP.le_brk hs), one_mul]

/-! ## Lists -/

/-- One call after the other.  What each of them leaves behind, the next ones do not touch. -/
theorem mapM {ι : Type} {m : ι → HeapM V α} {r : ι → α} {L : ι → HProp V} {xs : List ι}
    (h : ∀ x ∈ xs, Triple g 1 (m x) fun a => fact (a = r x) * L x) :
    Triple g 1 (xs.mapM m) fun as => fact (as = xs.map r) * (xs.map L).prod := by
  induction xs with
  | nil => exact Triple.pure (le_fact_mul rfl le_rfl)
  | cons x xs ih =>
    rw [List.mapM_cons]
    refine (h x (by simp)).bind fun a => Triple.fact_pre ?_
    rintro rfl
    refine (ih fun y hy => h y (by simp [hy])).step (one_mul _).symm fun as => ?_
    rw [mul_assoc]
    refine Triple.fact_pre ?_
    rintro rfl
    refine Triple.pure (le_fact_mul rfl ?_)
    rw [List.map_cons, List.prod_cons, mul_comm]

end Triple

/-! ## Reading -/

/-- The program returns `a` and leaves the memory as it is.  What has been read before stays true. -/
def Reads (g : Grants) (s : Memory V) (m : HeapM V α) (a : α) : Prop := m g s = .ok (a, s)

namespace Reads

variable {s : Memory V} {a : α} {b : β}

theorem pure (a : α) : Reads g s (pure a) a := rfl

theorem load {p : Addr} {v : V} (h : s.heap p = some v) : Reads g s (load p) v := by
  rw [Reads, HeapM.load, h]

theorem lift {x : C α} (h : x = .ok a) : Reads g s (lift x) a := by
  rw [Reads, HeapM.lift, h]
  rfl

/-- The rest of a body after a call that has only read. -/
theorem bind_run (h : Reads g s m a) (f : α → HeapM V β) : (m >>= f) g s = f a g s := by
  change (m g s >>= fun p => f p.1 g p.2) = _
  rw [h]
  rfl

theorem bind (h : Reads g s m a) (hf : Reads g s (f a) b) : Reads g s (m >>= f) b :=
  (h.bind_run f).trans hf

end Reads

end

end SepLogic
