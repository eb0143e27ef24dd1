import SingleTerminalLogin.Lib.HeapProgram

/-!
# Doubly linked chains

`chain node xs first prev last next` says that the nodes of a chain hold the items `xs`, one after
the other: `first` points to the first of them, whose back link is `prev`, and `last` to the last
one, whose forward link is `next`.  What a node is, with its two links, is the parameter `node`.

* `chain_append`, `chain_snoc` — a chain is cut where one likes;
* `seek` and `Triple.seek` — a walk that stops at the node it looks for;
* `lastOf` and `Triple.lastOf` — a walk to the end.
-/

namespace SepLogic

open CProgram HeapM HProp

section

variable {V α σ : Type}

/-- The nodes that hold the items `xs`, and how they are linked. -/
noncomputable def chain (node : α → Addr → Ptr → Ptr → HProp V) :
    List α → Ptr → Ptr → Ptr → Ptr → HProp V
  | [], first, prev, last, next => fact (first = next ∧ last = prev)
  | x :: xs, first, prev, last, next =>
    ⨆ a : Addr, ⨆ q : Ptr,
      fact (first = some a) * (node x a prev q * chain node xs q (some a) last next)

variable {node : α → Addr → Ptr → Ptr → HProp V}

@[simp] theorem chain_nil (first prev last next : Ptr) :
    chain node [] first prev last next = fact (first = next ∧ last = prev) := rfl

theorem chain_cons (x : α) (xs : List α) (first prev last next : Ptr) :
    chain node (x :: xs) first prev last next =
      ⨆ a : Addr, ⨆ q : Ptr,
        fact (first = some a) * (node x a prev q * chain node xs q (some a) last next) := rfl

/-- The first node of a chain that has one. -/
theorem chain_cons_some (x : α) (xs : List α) (a : Addr) (prev last next : Ptr) :
    chain node (x :: xs) (some a) prev last next =
      ⨆ q : Ptr, node x a prev q * chain node xs q (some a) last next := by
  rw [chain_cons]
  apply le_antisymm
  · refine iSup_le fun b => iSup_le fun q => fact_mul_le.2 fun hab => ?_
    cases hab
    exact le_iSup (fun q => node x a prev q * chain node xs q (some a) last next) q
  · exact iSup_le fun q => le_iSup_of_le a (le_iSup_of_le q (le_fact_mul rfl le_rfl))

/-- A chain that has a node does not start with the null pointer. -/
theorem chain_cons_none (x : α) (xs : List α) (prev last next : Ptr) :
    chain node (x :: xs) none prev last next = ⊥ := by
  rw [chain_cons, eq_bot_iff]
  exact iSup_le fun a => iSup_le fun q => fact_mul_le.2 fun h => by cases h

/-- Cutting a chain in two. -/
theorem chain_append (xs ys : List α) (first prev last next : Ptr) :
    chain node (xs ++ ys) first prev last next =
      ⨆ m : Ptr, ⨆ r : Ptr, chain node xs first prev m r * chain node ys r m last next := by
  induction xs generalizing first prev with
  | nil =>
    rw [List.nil_append]
    apply le_antisymm
    · refine le_iSup_of_le prev (le_iSup_of_le first ?_)
      rw [chain_nil, fact_of ⟨rfl, rfl⟩, one_mul]
    · refine iSup_le fun m => iSup_le fun r => fact_mul_le.2 ?_
      rintro ⟨rfl, rfl⟩
      exact le_rfl
  | cons x xs ih =>
    rw [List.cons_append, chain_cons]
    simp only [ih, chain_cons, Quantale.mul_iSup_distrib, Quantale.iSup_mul_distrib]
    apply le_antisymm
    · refine iSup_le fun a => iSup_le fun q => iSup_le fun m => iSup_le fun r => ?_
      refine le_iSup_of_le m (le_iSup_of_le r (le_iSup_of_le a (le_iSup_of_le q (le_of_eq ?_))))
      ac_rfl
    · refine iSup_le fun m => iSup_le fun r => iSup_le fun a => iSup_le fun q => ?_
      refine le_iSup_of_le a (le_iSup_of_le q (le_iSup_of_le m (le_iSup_of_le r (le_of_eq ?_))))
      ac_rfl

/-- A chain of one node. -/
theorem chain_singleton (x : α) (first prev last next : Ptr) :
    chain node [x] first prev last next =
      ⨆ a : Addr, fact (first = some a ∧ last = some a) * node x a prev next := by
  rw [chain_cons]
  apply le_antisymm
  · refine iSup_le fun a => iSup_le fun q => fact_mul_le.2 fun hf => ?_
    rw [chain_nil, mul_comm]
    refine fact_mul_le.2 ?_
    rintro ⟨rfl, rfl⟩
    exact le_iSup_of_le a (le_fact_mul ⟨hf, rfl⟩ le_rfl)
  · refine iSup_le fun a => fact_mul_le.2 ?_
    rintro ⟨rfl, rfl⟩
    refine le_iSup_of_le a (le_iSup_of_le next (le_fact_mul rfl ?_))
    rw [chain_nil, fact_of ⟨rfl, rfl⟩, mul_one]

/-- The last node of a chain. -/
theorem chain_snoc (xs : List α) (x : α) (first prev last next : Ptr) :
    chain node (xs ++ [x]) first prev last next =
      ⨆ m : Ptr, ⨆ a : Addr,
        fact (last = some a) * (chain node xs first prev m (some a) * node x a m next) := by
  rw [chain_append]
  simp only [chain_singleton, Quantale.mul_iSup_distrib]
  apply le_antisymm
  · refine iSup_le fun m => iSup_le fun r => iSup_le fun a => ?_
    rw [mul_left_comm]
    refine fact_mul_le.2 ?_
    rintro ⟨rfl, rfl⟩
    exact le_iSup_of_le m (le_iSup_of_le a (le_fact_mul rfl le_rfl))
  · refine iSup_le fun m => iSup_le fun a => fact_mul_le.2 ?_
    rintro rfl
    refine le_iSup_of_le m (le_iSup_of_le (some a) (le_iSup_of_le a ?_))
    rw [fact_of ⟨rfl, rfl⟩, one_mul]

/-- A chain that has a node has a last one. -/
theorem chain_last_none {xs : List α} (h : xs ≠ []) (first prev next : Ptr) :
    chain node xs first prev none next = ⊥ := by
  rw [← List.dropLast_append_getLast h, chain_snoc, eq_bot_iff]
  exact iSup_le fun m => iSup_le fun a => fact_mul_le.2 fun ha => by cases ha

/-! ## Walks -/

/-- A walk along a chain.  `visit` looks at a node and stops there, or goes on with what it
remembers and the next pointer. -/
def seek (visit : σ → Addr → HeapM V (Option (σ × Ptr))) : ℕ → σ → Ptr → HeapM V Ptr
  | _, _, none => pure none
  | 0, _, some _ => fault .memory
  | fuel + 1, s, some a => do
    match ← visit s a with
    | none => pure (some a)
    | some (s', next) => seek visit fuel s' next

/-- The items in front of the one a walk stops at, and the rest. -/
def split (test : σ → α → Option σ) : σ → List α → List α × List α
  | _, [] => ([], [])
  | s, x :: xs =>
    match test s x with
    | none => ([], x :: xs)
    | some s' => (x :: (split test s' xs).1, (split test s' xs).2)

/-- A chain with a pointer into it: `r` points to the first node behind `front`. -/
noncomputable def located (node : α → Addr → Ptr → Ptr → HProp V) (front back : List α)
    (first prev last next : Ptr) (r : Ptr) : HProp V :=
  ⨆ m : Ptr, chain node front first prev m r * chain node back r m last next

/-- A walk stops at the node it looks for, or at the end of the chain. -/
theorem Triple.seek {g : Grants} {visit : σ → Addr → HeapM V (Option (σ × Ptr))}
    {test : σ → α → Option σ}
    (hvisit : ∀ s x a prev next, Triple g (node x a prev next) (visit s a) fun r =>
      fact (r = (test s x).map (·, next)) * node x a prev next)
    {xs : List α} {fuel : ℕ} (hfuel : xs.length ≤ fuel) (s : σ) (first prev last : Ptr) :
    Triple g (chain node xs first prev last none) (seek visit fuel s first)
      (located node (split test s xs).1 (split test s xs).2 first prev last none) := by
  induction xs generalizing s first prev fuel with
  | nil =>
    rw [← mul_one (chain node [] _ _ _ _)]
    refine Triple.fact_pre ?_
    rintro ⟨rfl, rfl⟩
    cases fuel <;>
      exact Triple.pure (le_iSup_of_le last (by simp [split, fact_of]))
  | cons x xs ih =>
    obtain ⟨fuel, rfl⟩ : ∃ k, fuel = k + 1 :=
      Nat.exists_eq_add_one_of_ne_zero (by rintro rfl; simp at hfuel)
    cases first with
    | none =>
      rw [chain_cons_none]
      exact Triple.of_bot
    | some a =>
      rw [chain_cons_some]
      refine Triple.exists_pre fun q => (hvisit s x a prev q).step rfl fun r => ?_
      rw [mul_assoc]
      refine Triple.fact_pre ?_
      rintro rfl
      cases htest : test s x with
      | none =>
        refine Triple.pure (le_iSup_of_le prev ?_)
        simp only [split, htest, chain_nil, fact_of, and_self, one_mul, chain_cons_some]
        exact le_iSup_of_le q le_rfl
      | some s' =>
        refine (ih (by simpa using hfuel) s' q (some a)).last (mul_comm _ _) fun r => ?_
        simp only [split, htest, located, chain_cons_some, Quantale.iSup_mul_distrib]
        refine iSup_le fun m => le_iSup_of_le m (le_iSup_of_le q (le_of_eq ?_))
        ac_rfl

/-- The last node of a chain, from one of its nodes on. -/
def lastOf (nextOf : Addr → HeapM V Ptr) : ℕ → Addr → HeapM V Addr
  | 0, _ => fault .memory
  | fuel + 1, a => do
    match ← nextOf a with
    | none => pure a
    | some b => lastOf nextOf fuel b

theorem Triple.lastOf {g : Grants} {nextOf : Addr → HeapM V Ptr}
    (hnext : ∀ x a prev next, Triple g (node x a prev next) (nextOf a) fun r =>
      fact (r = next) * node x a prev next)
    {x : α} {xs : List α} {fuel : ℕ} (hfuel : xs.length < fuel) (a : Addr) (prev last : Ptr) :
    Triple g (chain node (x :: xs) (some a) prev last none) (lastOf nextOf fuel a) fun b =>
      fact (last = some b) * chain node (x :: xs) (some a) prev last none := by
  induction xs generalizing x a prev fuel with
  | nil =>
    obtain ⟨fuel, rfl⟩ : ∃ k, fuel = k + 1 := Nat.exists_eq_add_one_of_ne_zero (by omega)
    rw [chain_cons_some]
    refine Triple.exists_pre fun q => (hnext x a prev q).step rfl fun r => ?_
    rw [mul_assoc]
    refine Triple.fact_pre ?_
    rintro rfl
    rw [mul_comm, chain_nil]
    refine Triple.fact_pre ?_
    rintro ⟨rfl, rfl⟩
    refine Triple.pure (le_fact_mul rfl (le_iSup_of_le none ?_))
    rw [chain_nil, fact_of ⟨rfl, rfl⟩, mul_one]
  | cons y ys ih =>
    obtain ⟨fuel, rfl⟩ : ∃ k, fuel = k + 1 := Nat.exists_eq_add_one_of_ne_zero (by omega)
    rw [chain_cons_some x]
    refine Triple.exists_pre fun q => (hnext x a prev q).step rfl fun r => ?_
    rw [mul_assoc]
    refine Triple.fact_pre ?_
    rintro rfl
    cases r with
    | none =>
      rw [chain_cons_none, Quantale.mul_bot]
      exact Triple.of_bot
    | some b =>
      refine (ih (by simpa using hfuel) b (some a)).last (mul_comm _ _) fun c => ?_
      rw [mul_assoc]
      refine fact_mul_le.2 fun hc => le_fact_mul hc (le_iSup_of_le (some b) (le_of_eq ?_))
      ac_rfl

end

end SepLogic
