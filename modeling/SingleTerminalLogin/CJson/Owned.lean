import SingleTerminalLogin.CJson.Heap

/-!
# A tree in memory

`itemAt c a prev next` says that the item at `a` is the root of the tree `c`: its fields, the blocks
of its two texts, and the whole chain of its children, every link in both directions included.  The
links of the item itself, which belong to the chain it stands in, are `prev` and `next`.

Nothing is shared: the blocks of a tree are pairwise different and belong to nothing else.  So the
triples below say of every function not only what it returns, but what it writes and what it frees.
-/

namespace SingleTerminalLogin

open ByteText Binary64 CProgram SepLogic HProp HeapM

namespace CJsonHeap

/-- The C string at a pointer that may be null. -/
noncomputable def textAt : Ptr → Option Text → HProp Block
  | none, none => 1
  | some a, some t => ⨆ b : CharBlock, fact (b.text = some t) * pointsTo a (.chars b)
  | _, _ => ⊥

theorem textAt_none (p : Ptr) : textAt p none = fact (p = none) := by
  cases p with
  | none => exact (fact_of rfl).symm
  | some a => exact le_antisymm bot_le fun h hh => absurd hh.1 (by simp)

/-- The fields of an item, given the pointers among them. -/
def cell (c : CJson) (prev next child valuestring string : Ptr) : Item where
  next := next
  prev := prev
  child := child
  type := c.type
  valuestring := valuestring
  valueint := c.valueint
  valuedouble := c.valuedouble
  string := string

mutual

/-- The item at `a` is the root of a tree. -/
noncomputable def itemAt : CJson → Addr → Ptr → Ptr → HProp Block
  | ⟨ty, vs, vi, vd, s, child⟩, a, prev, next =>
    ⨆ pc : Ptr, ⨆ pv : Ptr, ⨆ ps : Ptr,
      pointsTo a (.item (cell ⟨ty, vs, vi, vd, s, child⟩ prev next pc pv ps)) *
        (textAt pv vs * (textAt ps s * childrenAt child pc none))

/-- `first` points to a chain of items behind `prev` that ends with the null pointer. -/
noncomputable def childrenAt : List CJson → Ptr → Ptr → HProp Block
  | [], first, _ => fact (first = none)
  | c :: cs, first, prev =>
    ⨆ a : Addr, ⨆ q : Ptr, fact (first = some a) * (itemAt c a prev q * childrenAt cs q (some a))

end

theorem itemAt_eq (c : CJson) (a : Addr) (prev next : Ptr) :
    itemAt c a prev next =
      ⨆ pc : Ptr, ⨆ pv : Ptr, ⨆ ps : Ptr,
        pointsTo a (.item (cell c prev next pc pv ps)) *
          (textAt pv c.valuestring * (textAt ps c.string * childrenAt c.child pc none)) := by
  rcases c with ⟨ty, vs, vi, vd, s, child⟩
  rw [itemAt]

/-- Putting an item together. -/
theorem le_itemAt {P : HProp Block} (c : CJson) (a : Addr) (prev next pc pv ps : Ptr)
    (h : P ≤ pointsTo a (.item (cell c prev next pc pv ps)) *
      (textAt pv c.valuestring * (textAt ps c.string * childrenAt c.child pc none))) :
    P ≤ itemAt c a prev next := by
  rw [itemAt_eq]
  exact le_iSup_of_le pc (le_iSup_of_le pv (le_iSup_of_le ps h))

/-- The children are a chain. -/
theorem childrenAt_eq (cs : List CJson) (first prev : Ptr) :
    childrenAt cs first prev = ⨆ last : Ptr, chain itemAt cs first prev last none := by
  induction cs generalizing first prev with
  | nil =>
    rw [childrenAt]
    apply le_antisymm
    · exact le_iSup_of_le prev (fact_mono fun h => ⟨h, rfl⟩)
    · exact iSup_le fun last => fact_mono fun h => h.1
  | cons c cs ih =>
    rw [childrenAt]
    simp only [ih, chain_cons, Quantale.mul_iSup_distrib]
    apply le_antisymm
    · refine iSup_le fun a => iSup_le fun q => iSup_le fun last => ?_
      exact le_iSup_of_le last (le_iSup_of_le a (le_iSup_of_le q le_rfl))
    · refine iSup_le fun last => iSup_le fun a => iSup_le fun q => ?_
      exact le_iSup_of_le a (le_iSup_of_le q (le_iSup_of_le last le_rfl))

theorem childrenAt_nil : childrenAt [] none none = 1 := by
  rw [childrenAt, fact_of rfl]

/-! ## How many items a tree has -/

mutual

/-- The items of a tree. -/
def nodes : CJson → ℕ
  | ⟨_, _, _, _, _, child⟩ => nodesList child + 1

def nodesList : List CJson → ℕ
  | [] => 0
  | c :: cs => nodes c + nodesList cs

end

theorem nodes_eq (c : CJson) : nodes c = nodesList c.child + 1 := by
  rcases c with ⟨ty, vs, vi, vd, s, child⟩
  rw [nodes]

theorem length_le_nodesList (cs : List CJson) : cs.length ≤ nodesList cs := by
  induction cs with
  | nil => exact le_rfl
  | cons c cs ih =>
    rw [nodesList, nodes_eq, List.length_cons]
    omega

mutual

theorem occupies_itemAt : (c : CJson) → ∀ a prev next, Occupies (nodes c) (itemAt c a prev next)
  | ⟨ty, vs, vi, vd, s, child⟩ => by
    intro a prev next
    rw [itemAt, nodes, Nat.add_comm]
    refine Occupies.iSup fun pc => Occupies.iSup fun pv => Occupies.iSup fun ps => ?_
    refine (occupies_pointsTo _ _).mul ?_
    have h := ((occupies_zero (textAt ps s)).mul (occupies_childrenAt child pc none))
    simpa using (occupies_zero (textAt pv vs)).mul h

theorem occupies_childrenAt : (cs : List CJson) → ∀ first prev,
    Occupies (nodesList cs) (childrenAt cs first prev)
  | [] => fun _ _ => occupies_zero _
  | c :: cs => by
    intro first prev
    rw [childrenAt, nodesList]
    refine Occupies.iSup fun a => Occupies.iSup fun q => Occupies.fact_mul fun _ => ?_
    exact (occupies_itemAt c a prev q).mul (occupies_childrenAt cs q (some a))

end

/-- The block of a text, if there is a text. -/
def textBlocks (t : Option Text) : ℕ := if t.isSome then 1 else 0

mutual

/-- The blocks of a tree: its items and their texts. -/
def blocks : CJson → ℕ
  | ⟨_, vs, _, _, s, child⟩ => 1 + (textBlocks vs + (textBlocks s + blocksList child))

def blocksList : List CJson → ℕ
  | [] => 0
  | c :: cs => blocks c + blocksList cs

end

theorem counts_textAt (p : Ptr) (t : Option Text) : Counts (textBlocks t) (textAt p t) := by
  cases p with
  | none =>
    cases t with
    | none => exact counts_one
    | some t => exact fun _ h => h.elim
  | some a =>
    cases t with
    | none => exact fun _ h => h.elim
    | some t =>
      rw [textAt]
      exact Counts.iSup fun b => Counts.fact_mul fun _ => counts_pointsTo a _

mutual

theorem counts_itemAt : (c : CJson) → ∀ a prev next, Counts (blocks c) (itemAt c a prev next)
  | ⟨ty, vs, vi, vd, s, child⟩ => by
    intro a prev next
    rw [itemAt, blocks]
    refine Counts.iSup fun pc => Counts.iSup fun pv => Counts.iSup fun ps => ?_
    refine (counts_pointsTo _ _).mul ((counts_textAt pv vs).mul ((counts_textAt ps s).mul ?_))
    exact counts_childrenAt child pc none

theorem counts_childrenAt : (cs : List CJson) → ∀ first prev,
    Counts (blocksList cs) (childrenAt cs first prev)
  | [] => by
    intro first prev
    rw [childrenAt, blocksList, ← mul_one (fact _)]
    exact Counts.fact_mul fun _ => counts_one
  | c :: cs => by
    intro first prev
    rw [childrenAt, blocksList]
    refine Counts.iSup fun a => Counts.iSup fun q => Counts.fact_mul fun _ => ?_
    exact (counts_itemAt c a prev q).mul (counts_childrenAt cs q (some a))

end

theorem counts_chain (cs : List CJson) (first prev last next : Ptr) :
    Counts (blocksList cs) (chain itemAt cs first prev last next) := by
  induction cs generalizing first prev with
  | nil =>
    rw [blocksList, chain, ← mul_one (fact _)]
    exact Counts.fact_mul fun _ => counts_one
  | cons c cs ih =>
    rw [chain_cons, blocksList]
    refine Counts.iSup fun a => Counts.iSup fun q => Counts.fact_mul fun _ => ?_
    exact (counts_itemAt c a prev q).mul (ih q (some a))

/-! ## Fields and texts -/

section

variable {g : Grants}

theorem getItem_spec (a : Addr) (c : Item) :
    Triple g (pointsTo a (.item c)) (getItem a) fun r => fact (r = c) * pointsTo a (.item c) := by
  refine (Triple.load a _).bind fun v => Triple.fact_pre ?_
  rintro rfl
  exact Triple.pure (le_fact_mul rfl le_rfl)

theorem setItem_spec (a : Addr) (c : Item) (f : Item → Item) :
    Triple g (pointsTo a (.item c)) (setItem a f) fun _ => pointsTo a (.item (f c)) := by
  refine (getItem_spec a c).bind fun v => Triple.fact_pre ?_
  rintro rfl
  exact Triple.store a _ _

theorem getText_spec (a : Addr) (t : Text) :
    Triple g (textAt (some a) (some t)) (getText a) fun r => fact (r = t) * textAt (some a) (some t) := by
  rw [textAt]
  refine Triple.exists_pre fun b => Triple.fact_pre fun hb => ?_
  refine (Triple.load a _).bind fun v => Triple.fact_pre ?_
  rintro rfl
  rcases b with ⟨n, text, fits⟩
  cases hb
  refine Triple.pure (le_fact_mul rfl (le_iSup_of_le ⟨n, some t, fits⟩ ?_))
  exact le_fact_mul rfl le_rfl

theorem textOf_spec (p : Ptr) (t : Option Text) :
    Triple g (textAt p t) (textOf p) fun r => fact (r = t) * textAt p t := by
  cases p with
  | none =>
    cases t with
    | none => exact Triple.pure (le_fact_mul rfl le_rfl)
    | some t => exact Triple.of_bot
  | some a =>
    cases t with
    | none => exact Triple.of_bot
    | some t =>
      refine (getText_spec a t).bind fun r => Triple.fact_pre ?_
      rintro rfl
      exact Triple.pure (le_fact_mul rfl le_rfl)

theorem freePtr_spec (p : Ptr) (t : Option Text) :
    Triple g (textAt p t) (freePtr p) fun _ => 1 := by
  cases p with
  | none =>
    cases t with
    | none => exact Triple.pure le_rfl
    | some t => exact Triple.of_bot
  | some a =>
    cases t with
    | none => exact Triple.of_bot
    | some t =>
      rw [textAt]
      exact Triple.exists_pre fun b => Triple.fact_pre fun _ => Triple.free a _

theorem writeText_spec (a : Addr) (b : CharBlock) (bytes : Text) (h : bytes.length < b.size) :
    Triple g (pointsTo a (.chars b)) (writeText a bytes) fun _ =>
      textAt (some a) (some (cstr bytes)) := by
  refine (Triple.load a _).bind fun v => Triple.fact_pre ?_
  rintro rfl
  simp only [h, ↓reduceDIte]
  refine (Triple.store a _ _).weaken le_rfl fun _ => ?_
  rw [textAt]
  exact le_iSup_of_le (b.write bytes h) (le_fact_mul rfl le_rfl)

/-- The text a function wants to copy, or none when `malloc` said no. -/
def Copied (g : Grants) (s : Text) (t : Option Text) : Prop := t = some s ∨ t = none ∧ Denied g

theorem Copied.eq_some {s : Text} {t : Option Text} (h : Copied g s t) (hg : ¬ Denied g) :
    t = some s := h.resolve_right fun hn => hg hn.2

theorem strdup_spec (s : Text) :
    Triple g 1 (strdup s) fun p => ⨆ t : Option Text, fact (Copied g s t) * textAt p t := by
  refine (Triple.malloc _).weaken le_rfl fun p => ?_
  cases p with
  | none =>
    refine le_iSup_of_le none ?_
    rw [textAt, mul_one]
    exact fact_mono fun h => Or.inr ⟨rfl, h⟩
  | some a =>
    refine le_iSup_of_le (some s) (le_fact_mul (Or.inl rfl) ?_)
    rw [textAt]
    exact le_iSup_of_le _ (le_fact_mul rfl le_rfl)

theorem nextOf_spec (c : CJson) (a : Addr) (prev next : Ptr) :
    Triple g (itemAt c a prev next) (nextOf a) fun r => fact (r = next) * itemAt c a prev next := by
  rw [itemAt_eq]
  refine Triple.exists_pre fun pc => Triple.exists_pre fun pv => Triple.exists_pre fun ps => ?_
  refine (getItem_spec a _).step rfl fun r => ?_
  rw [mul_assoc]
  refine Triple.fact_pre ?_
  rintro rfl
  exact Triple.pure (le_fact_mul rfl (le_iSup_of_le pc (le_iSup_of_le pv (le_iSup_of_le ps le_rfl))))

/-! ## Freeing -/

/-- Freeing an item frees its texts, its children and what is chained behind it. -/
theorem deleteLoop_step (c : CJson) {fuel : ℕ}
    (hchild : ∀ pc, Triple g (childrenAt c.child pc none) (deleteLoop fuel pc) fun _ => 1)
    {R : Ptr → HProp Block} (hnext : ∀ q, Triple g (R q) (deleteLoop fuel q) fun _ => 1)
    (a : Addr) (prev q : Ptr) :
    Triple g (itemAt c a prev q * R q) (deleteLoop (fuel + 1) (some a)) fun _ => 1 := by
  rw [itemAt_eq]
  simp only [Quantale.iSup_mul_distrib]
  refine Triple.exists_pre fun pc => Triple.exists_pre fun pv => Triple.exists_pre fun ps => ?_
  refine (getItem_spec a _).step (mul_assoc _ _ _) fun r => ?_
  rw [mul_assoc]
  refine Triple.fact_pre ?_
  rintro rfl
  refine (hchild pc).step
    (F := pointsTo a (.item (cell c prev q pc pv ps)) *
      (textAt pv c.valuestring * (textAt ps c.string * R q))) (by ac_rfl) fun _ => ?_
  rw [one_mul]
  refine (freePtr_spec pv c.valuestring).step (mul_left_comm _ _ _) fun _ => ?_
  rw [one_mul]
  refine (freePtr_spec ps c.string).step (mul_left_comm _ _ _) fun _ => ?_
  rw [one_mul]
  refine (Triple.free a _).step rfl fun _ => ?_
  rw [one_mul]
  exact hnext q

mutual

theorem deleteLoop_children : (cs : List CJson) → ∀ fuel, nodesList cs ≤ fuel → ∀ first prev,
    Triple g (childrenAt cs first prev) (deleteLoop fuel first) fun _ => 1
  | [] => by
    intro fuel _ first prev
    rw [childrenAt, ← mul_one (fact _)]
    refine Triple.fact_pre ?_
    rintro rfl
    cases fuel <;> exact Triple.pure le_rfl
  | c :: cs => by
    intro fuel hfuel first prev
    rw [nodesList] at hfuel
    rw [childrenAt]
    refine Triple.exists_pre fun a => Triple.exists_pre fun q => Triple.fact_pre ?_
    rintro rfl
    obtain ⟨fuel, rfl⟩ : ∃ k, fuel = k + 1 :=
      Nat.exists_eq_add_one_of_ne_zero (by have := nodes_eq c; omega)
    have hnodes := nodes_eq c
    exact deleteLoop_step c (deleteLoop_child c fuel (by omega))
      (fun q => deleteLoop_children cs fuel (by omega) q (some a)) a prev q

theorem deleteLoop_child : (c : CJson) → ∀ fuel, nodesList c.child ≤ fuel → ∀ pc,
    Triple g (childrenAt c.child pc none) (deleteLoop fuel pc) fun _ => 1
  | ⟨_, _, _, _, _, child⟩ => fun fuel hfuel pc => deleteLoop_children child fuel hfuel pc none

end

end

end CJsonHeap

end SingleTerminalLogin
