import SingleTerminalLogin.CJson.Linking

/-!
# Reading a tree

A function that only looks members up holds pointers to several items of one tree at a time, and an
item in a tree and the tree share blocks.  `InMemory s c a` does not claim the blocks for itself: it
says that the tree `c` can be read from the item at `a` on, and it can be said of a tree and of its
members together.

* `InMemory.of_holds` — what is owned can be read;
* `getObjectItem_reads` — looking a member up;
* `InMemory.getItem_reads`, `getText_reads` — the fields of an item and its text.
-/

namespace SingleTerminalLogin

open ByteText Binary64 CProgram SepLogic HProp HeapM

namespace CJsonHeap

/-- The C string at a pointer that may be null. -/
def TextIn (h : Heap Block) : Ptr → Option Text → Prop
  | none, none => True
  | some a, some t => ∃ b : CharBlock, h a = some (.chars b) ∧ b.text = some t
  | _, _ => False

mutual

/-- The item at `a` is the root of a tree. -/
def ItemIn (h : Heap Block) : CJson → Addr → Ptr → Prop
  | ⟨ty, vs, vi, vd, s, child⟩, a, next =>
    ∃ prev pc pv ps, h a = some (.item (cell ⟨ty, vs, vi, vd, s, child⟩ prev next pc pv ps)) ∧
      TextIn h pv vs ∧ TextIn h ps s ∧ ChildrenIn h child pc

/-- `first` points to a chain of items. -/
def ChildrenIn (h : Heap Block) : List CJson → Ptr → Prop
  | [], first => first = none
  | c :: cs, first => ∃ a q, first = some a ∧ ItemIn h c a q ∧ ChildrenIn h cs q

end

theorem itemIn_iff (h : Heap Block) (c : CJson) (a : Addr) (next : Ptr) :
    ItemIn h c a next ↔
      ∃ prev pc pv ps, h a = some (.item (cell c prev next pc pv ps)) ∧
        TextIn h pv c.valuestring ∧ TextIn h ps c.string ∧ ChildrenIn h c.child pc := by
  rcases c with ⟨ty, vs, vi, vd, s, child⟩
  rw [ItemIn]

/-! ## What is owned can be read -/

theorem TextIn.of_holds {p : Ptr} {t : Option Text} {F : HProp Block} {h : Heap Block}
    (hh : (textAt p t * F).Holds h) : TextIn h p t := by
  cases p with
  | none =>
    cases t with
    | none => trivial
    | some t =>
      obtain ⟨_, _, -, -, hbot, -⟩ := hh
      exact hbot.elim
  | some a =>
    cases t with
    | none =>
      obtain ⟨_, _, -, -, hbot, -⟩ := hh
      exact hbot.elim
    | some t =>
      rw [textAt, Quantale.iSup_mul_distrib] at hh
      obtain ⟨b, hb⟩ := holds_iSup.1 hh
      rw [mul_assoc] at hb
      obtain ⟨htext, hb⟩ := holds_fact_mul.1 hb
      exact ⟨b, (holds_pointsTo_mul.1 hb).1, htext⟩

mutual

theorem ItemIn.of_holds : (c : CJson) → ∀ (a : Addr) (prev next : Ptr) (F : HProp Block)
    (h : Heap Block), (itemAt c a prev next * F).Holds h → ItemIn h c a next
  | ⟨ty, vs, vi, vd, s, child⟩ => by
    intro a prev next F h hh
    simp only [itemAt, Quantale.iSup_mul_distrib] at hh
    obtain ⟨pc, hh⟩ := holds_iSup.1 hh
    obtain ⟨pv, hh⟩ := holds_iSup.1 hh
    obtain ⟨ps, hh⟩ := holds_iSup.1 hh
    rw [mul_assoc] at hh
    refine ⟨prev, pc, pv, ps, (holds_pointsTo_mul.1 hh).1, ?_, ?_, ?_⟩
    · rw [mul_left_comm, mul_assoc] at hh
      exact TextIn.of_holds hh
    · rw [mul_left_comm, mul_assoc, mul_left_comm, mul_assoc] at hh
      exact TextIn.of_holds hh
    · rw [mul_left_comm, mul_assoc, mul_left_comm, mul_assoc, mul_left_comm] at hh
      exact ChildrenIn.of_holds child pc none _ h hh

theorem ChildrenIn.of_holds : (cs : List CJson) → ∀ (first prev : Ptr) (F : HProp Block)
    (h : Heap Block), (childrenAt cs first prev * F).Holds h → ChildrenIn h cs first
  | [] => by
    intro first prev F h hh
    rw [childrenAt] at hh
    exact (holds_fact_mul.1 hh).1
  | c :: cs => by
    intro first prev F h hh
    simp only [childrenAt, Quantale.iSup_mul_distrib] at hh
    obtain ⟨a, hh⟩ := holds_iSup.1 hh
    obtain ⟨q, hh⟩ := holds_iSup.1 hh
    rw [mul_assoc] at hh
    obtain ⟨hfirst, hh⟩ := holds_fact_mul.1 hh
    rw [mul_assoc] at hh
    refine ⟨a, q, hfirst, ItemIn.of_holds c a prev q _ h hh, ?_⟩
    rw [mul_left_comm] at hh
    exact ChildrenIn.of_holds cs q (some a) _ h hh

end

/-- A tree that can be read, and walked through. -/
structure InMemory (s : Memory Block) (c : CJson) (a : Addr) : Prop where
  item : ∃ next, ItemIn s.heap c a next
  bounded : nodes c ≤ s.brk

theorem InMemory.of_holds {s : Memory Block} {c : CJson} {a : Addr} {prev next : Ptr}
    {F : HProp Block} (hs : (itemAt c a prev next * F).Holds s.heap) : InMemory s c a where
  item := ⟨next, ItemIn.of_holds c a prev next F s.heap hs⟩
  bounded := (occupies_itemAt c a prev next).le_brk hs

/-- A pointer to an item, where there is one. -/
inductive Found (s : Memory Block) : Ptr → Option CJson → Prop
  | nothing : Found s none none
  | item {i : Addr} {c : CJson} (h : InMemory s c i) : Found s (some i) (some c)

/-! ## Looking things up -/

section

variable {g : Grants} {s : Memory Block} {c : CJson} {a : Addr}

theorem getItem_reads {v : Item} (h : s.heap a = some (.item v)) : Reads g s (getItem a) v :=
  (Reads.load h).bind (Reads.pure v)

theorem getText_reads {t : Text} (h : TextIn s.heap (some a) (some t)) : Reads g s (getText a) t := by
  obtain ⟨⟨size, text, fits⟩, hb, ht⟩ := h
  cases ht
  exact (Reads.load hb).bind (Reads.pure t)

theorem textOf_reads {p : Ptr} {t : Option Text} (h : TextIn s.heap p t) : Reads g s (textOf p) t := by
  cases p with
  | none =>
    cases t with
    | none => exact Reads.pure none
    | some t => exact h.elim
  | some a =>
    cases t with
    | none => exact h.elim
    | some t => exact (getText_reads h).bind (Reads.pure _)

/-- The fields of an item that are not links. -/
theorem InMemory.getItem_reads (h : InMemory s c a) :
    ∃ v : Item, Reads g s (getItem a) v ∧ v.type = c.type ∧ v.valueint = c.valueint ∧
      TextIn s.heap v.valuestring c.valuestring := by
  obtain ⟨⟨next, hitem⟩, -⟩ := h
  obtain ⟨prev, pc, pv, ps, ha, hvalue, -, -⟩ := (itemIn_iff _ _ _ _).1 hitem
  exact ⟨_, CJsonHeap.getItem_reads ha, rfl, rfl, hvalue⟩

theorem visitName_reads {next : Ptr} (h : ItemIn s.heap c a next) (string : Text) (i : Int) :
    Reads g s (visitName string i a) (if CJson.named string c then none else some (i + 1, next)) := by
  obtain ⟨prev, pc, pv, ps, ha, -, hname, -⟩ := (itemIn_iff _ _ _ _).1 h
  refine (CJsonHeap.getItem_reads ha).bind ((textOf_reads hname).bind ?_)
  simp only [CJson.named, decide_eq_true_eq]
  exact Reads.pure _

/-- The walk of `cJSON_GetObjectItem`. -/
theorem seekName_reads {cs : List CJson} {first : Ptr} (hcs : ChildrenIn s.heap cs first) {fuel : ℕ}
    (hfuel : cs.length ≤ fuel) (hbound : nodesList cs ≤ s.brk) (string : Text) (i : Int) :
    ∃ q, Reads g s (seek (visitName string) fuel i first) q ∧
      Found s q (cs.dropWhile fun c => !CJson.named string c).head? := by
  induction cs generalizing first i fuel with
  | nil =>
    cases hcs
    refine ⟨none, ?_, .nothing⟩
    cases fuel <;> exact Reads.pure none
  | cons c cs ih =>
    obtain ⟨a, q, rfl, hc, hcs⟩ := hcs
    obtain ⟨fuel, rfl⟩ : ∃ k, fuel = k + 1 :=
      Nat.exists_eq_add_one_of_ne_zero (by rintro rfl; simp at hfuel)
    rw [nodesList] at hbound
    by_cases hname : CJson.named string c = true
    · refine ⟨some a, ?_, ?_⟩
      · refine (visitName_reads hc string i).bind ?_
        rw [if_pos hname]
        exact Reads.pure _
      · rw [List.dropWhile_cons_of_neg (by simpa using hname)]
        exact .item ⟨⟨q, hc⟩, by omega⟩
    · obtain ⟨r, hr, hfound⟩ := ih hcs (by simpa using hfuel) (by omega) (i + 1)
      refine ⟨r, ?_, ?_⟩
      · refine (visitName_reads hc string i).bind ?_
        rw [if_neg hname]
        exact hr
      · rwa [List.dropWhile_cons_of_pos (by simpa using hname)]

/-- `cJSON_GetObjectItem`. -/
theorem getObjectItem_reads (h : InMemory s c a) (string : Text) :
    ∃ q, Reads g s (getObjectItem (some a) string) q ∧ Found s q (CJson.getObjectItem c string) := by
  obtain ⟨⟨next, hitem⟩, hbound⟩ := h
  obtain ⟨prev, pc, pv, ps, ha, -, -, hchild⟩ := (itemIn_iff _ _ _ _).1 hitem
  rw [nodes_eq] at hbound
  have hlength := length_le_nodesList c.child
  have hseek : ∃ q, Reads g s (seek (visitName string) s.brk 0 pc) q ∧
      Found s q (CJson.getObjectItem c string) :=
    seekName_reads hchild (by omega) (by omega) string 0
  obtain ⟨q, hq, hfound⟩ := hseek
  have hwalk : Reads g s (seekItem (visitName string) 0 pc) q := Reads.bind (a := s.brk) rfl hq
  refine ⟨q, ?_, hfound⟩
  rw [getObjectItem, nonNull_some_bind]
  exact (CJsonHeap.getItem_reads ha).bind hwalk

end

end CJsonHeap

end SingleTerminalLogin
