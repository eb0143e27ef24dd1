import SingleTerminalLogin.CJson.Linking

/-!
# Unlinking items

* `detachItemFromArray_spec`, `detachItemFromObject_spec` — one child is taken out of the chain, both
  links mended;
* `deleteItemFromArray_spec`, `deleteItemFromObject_spec` — it is freed as well;
* `replaceItemInArray_spec`, `replaceItemInObject_spec` — another item takes its place.
-/

namespace SingleTerminalLogin

open ByteText Binary64 CProgram SepLogic HProp HeapM

namespace CJsonHeap

variable {g : Grants}

/-- Two items are at two addresses. -/
theorem itemAt_mul_self (c d : CJson) (a : Addr) (prev next prev' next' : Ptr) :
    itemAt c a prev next * itemAt d a prev' next' = ⊥ := by
  rw [itemAt_eq, itemAt_eq, eq_bot_iff]
  simp only [Quantale.mul_iSup_distrib, Quantale.iSup_mul_distrib]
  refine iSup_le fun pc => iSup_le fun pv => iSup_le fun ps => iSup_le fun pc' => iSup_le fun pv' =>
    iSup_le fun ps' => ?_
  rw [mul_assoc, mul_left_comm _ (pointsTo a _), ← mul_assoc, pointsTo_mul_self, Quantale.bot_mul]

/-- What follows the first part of a chain is what its last node, or the head of the chain, points
to. -/
theorem relinkNext_spec (front : List CJson) (pc m next q : Ptr) :
    Triple g (chain itemAt front pc none m next) (setItemPtr m ({ · with next := q })) fun _ =>
      chain itemAt front (if front = [] then q else pc) none m q := by
  cases front with
  | nil =>
    rw [← mul_one (chain itemAt [] pc _ _ _), chain_nil, if_pos rfl, chain_nil]
    refine Triple.fact_pre ?_
    rintro ⟨-, rfl⟩
    exact Triple.pure (le_of_eq (fact_of ⟨rfl, rfl⟩).symm)
  | cons x xs =>
    rw [if_neg (List.cons_ne_nil x xs)]
    cases m with
    | none =>
      rw [chain_last_none (List.cons_ne_nil x xs)]
      exact Triple.of_bot
    | some b => exact setLast_spec (x :: xs) pc b next q

/-- The back link of what follows. -/
theorem relinkPrev_spec (back : List CJson) (q m m' : Ptr) :
    Triple g (childrenAt back q m) (setItemPtr q ({ · with prev := m' })) fun _ =>
      childrenAt back q m' := by
  cases back with
  | nil =>
    cases q with
    | none => exact Triple.pure (by rw [childrenAt_nil_none, childrenAt_nil_none])
    | some b =>
      rw [childrenAt_nil_some]
      exact Triple.of_bot
  | cons c cs =>
    cases q with
    | none =>
      rw [childrenAt_cons_none]
      exact Triple.of_bot
    | some b =>
      rw [childrenAt_cons_some, childrenAt_cons_some]
      refine Triple.exists_pre fun q => (setPrev_spec c b m q m').last rfl fun _ => ?_
      exact le_iSup (fun q => itemAt c b m' q * childrenAt cs q (some b)) q

/-- `c == array->child` tells whether there is a child in front of `c`. -/
theorem head_iff (front : List CJson) (x : CJson) (c : Addr) (pc m prev next : Ptr) :
    chain itemAt front pc none m (some c) * itemAt x c prev next ≤
      fact (some c = pc ↔ front = []) *
        (chain itemAt front pc none m (some c) * itemAt x c prev next) := by
  cases front with
  | nil =>
    rw [chain_nil]
    refine fact_mul_le.2 fun h => ?_
    rw [fact_of h, one_mul]
    exact le_fact_mul (by simp [h.1]) le_rfl
  | cons y ys =>
    rw [chain_cons]
    simp only [Quantale.iSup_mul_distrib, Quantale.mul_iSup_distrib]
    refine iSup_le fun b => iSup_le fun q => le_iSup_of_le b (le_iSup_of_le q ?_)
    by_cases hb : b = c
    · subst hb
      have hbot : fact (pc = some b) * (itemAt y b none q * chain itemAt ys q (some b) m (some b)) *
          itemAt x b prev next = ⊥ := by
        rw [show fact (pc = some b) * (itemAt y b none q * chain itemAt ys q (some b) m (some b)) *
            itemAt x b prev next = fact (pc = some b) * chain itemAt ys q (some b) m (some b) *
            (itemAt y b none q * itemAt x b prev next) by ac_rfl, itemAt_mul_self, Quantale.mul_bot]
      rw [hbot]
      exact bot_le
    · rw [mul_assoc]
      refine fact_mul_le.2 fun hpc => ?_
      rw [fact_of hpc, one_mul]
      refine le_fact_mul ?_ le_rfl
      rw [hpc]
      simp [Ne.symm hb]

/-- A tree with one of its children taken out: `back` is what is left behind it. -/
noncomputable def without (array : CJson) (front back : List CJson) (x : CJson) (a : Addr)
    (prev next : Ptr) (c : Addr) : HProp Block :=
  itemAt { array with child := front ++ back } a prev next * itemAt x c none none

/-- `cJSON_DetachItemFromArray`, once the item is found. -/
theorem unlink_spec (array : CJson) (front : List CJson) (x : CJson) (back : List CJson)
    (a c : Addr) (prev next pc pv ps m q : Ptr) :
    Triple g
      (pointsTo a (.item (cell array prev next pc pv ps)) *
        (textAt pv array.valuestring * (textAt ps array.string *
          (chain itemAt front pc none m (some c) *
            (itemAt x c m q * childrenAt back q (some c))))))
      (do
        setItemPtr m ({ · with next := q })
        setItemPtr q ({ · with prev := m })
        (if some c = pc then setItem a ({ · with child := q }) else pure ())
        setItem c ({ · with prev := none, next := none })
        pure (some c))
      fun r => fact (r = some c) * without array front back x a prev next c := by
  have hpre : pointsTo a (.item (cell array prev next pc pv ps)) *
        (textAt pv array.valuestring * (textAt ps array.string *
          (chain itemAt front pc none m (some c) * (itemAt x c m q * childrenAt back q (some c))))) ≤
      fact (some c = pc ↔ front = []) *
        (chain itemAt front pc none m (some c) * (childrenAt back q (some c) *
          (pointsTo a (.item (cell array prev next pc pv ps)) * (itemAt x c m q *
            (textAt pv array.valuestring * textAt ps array.string))))) := by
    calc _ = chain itemAt front pc none m (some c) * itemAt x c m q *
          (childrenAt back q (some c) * (pointsTo a (.item (cell array prev next pc pv ps)) *
            (textAt pv array.valuestring * textAt ps array.string))) := by ac_rfl
      _ ≤ fact (some c = pc ↔ front = []) *
            (chain itemAt front pc none m (some c) * itemAt x c m q) *
          (childrenAt back q (some c) * (pointsTo a (.item (cell array prev next pc pv ps)) *
            (textAt pv array.valuestring * textAt ps array.string))) :=
        mul_le_mul' (head_iff front x c pc m m q) le_rfl
      _ = _ := by ac_rfl
  refine Triple.weaken ?_ hpre fun r => le_rfl
  refine Triple.fact_pre fun hhead => ?_
  refine (relinkNext_spec front pc m (some c) q).step rfl fun _ => ?_
  refine (relinkPrev_spec back q (some c) m).step (mul_left_comm _ _ _) fun _ => ?_
  refine Triple.step (P := pointsTo a (.item (cell array prev next pc pv ps)))
    (Q := fun _ => pointsTo a (.item (cell array prev next (if front = [] then q else pc) pv ps)))
    (F := childrenAt back q m * (chain itemAt front (if front = [] then q else pc) none m q *
      (itemAt x c m q * (textAt pv array.valuestring * textAt ps array.string)))) ?_ (by ac_rfl)
      fun _ => ?_
  · split
    · rename_i h
      rw [if_pos (hhead.1 h)]
      exact setItem_spec a _ _
    · rename_i h
      rw [if_neg fun hf => h (hhead.2 hf)]
      exact Triple.pure le_rfl
  refine (setLinks_spec x c m q none none).step
    (F := pointsTo a (.item (cell array prev next (if front = [] then q else pc) pv ps)) *
      (textAt pv array.valuestring * (textAt ps array.string *
        (chain itemAt front (if front = [] then q else pc) none m q * childrenAt back q m))))
    (by ac_rfl) fun _ => ?_
  refine Triple.pure (le_fact_mul rfl ?_)
  rw [without, mul_comm]
  refine mul_le_mul' (le_itemAt { array with child := front ++ back } a prev next
    (if front = [] then q else pc) pv ps ?_) le_rfl
  refine mul_le_mul' le_rfl (mul_le_mul' le_rfl (mul_le_mul' le_rfl ?_))
  rw [childrenAt_append]
  exact le_iSup_of_le m (le_iSup_of_le q le_rfl)

/-- What `cJSON_DetachItemFromArray` leaves, when `back` starts with the item it is asked for. -/
noncomputable def detached (array : CJson) (front : List CJson) (a : Addr) (prev next : Ptr) :
    List CJson → Ptr → HProp Block
  | [], r => fact (r = none) * itemAt { array with child := front } a prev next
  | x :: back, r => ⨆ c : Addr, fact (r = some c) * without array front back x a prev next c

/-- **Detaching an item.**  The children around it are linked to each other, and the item is a tree
of its own. -/
theorem detachItemFromArray_spec (array : CJson) (k : Int) (a : Addr) (prev next : Ptr) :
    Triple g (itemAt array a prev next) (detachItemFromArray (some a) k)
      (detached array (array.child.take k.toNat) a prev next (array.child.drop k.toNat)) := by
  rw [itemAt_eq, detachItemFromArray, nonNull_some_bind]
  refine Triple.exists_pre fun pc => Triple.exists_pre fun pv => Triple.exists_pre fun ps => ?_
  refine (getItem_spec a _).step rfl fun r => ?_
  rw [mul_assoc]
  refine Triple.fact_pre ?_
  rintro rfl
  refine (seekIndex_spec array.child k pc).step
    (F := pointsTo a (.item (cell array prev next pc pv ps)) *
      (textAt pv array.valuestring * textAt ps array.string)) (by ac_rfl) fun r => ?_
  simp only [childAt, Quantale.iSup_mul_distrib]
  refine Triple.exists_pre fun m => ?_
  cases hb : array.child.drop k.toNat with
  | nil =>
    cases r with
    | some c =>
      rw [childrenAt_nil_some, Quantale.mul_bot, Quantale.bot_mul]
      exact Triple.of_bot
    | none =>
      refine Triple.pure (le_fact_mul rfl (le_itemAt _ a prev next pc pv ps ?_))
      rw [childrenAt_nil_none, mul_one, childrenAt_eq]
      simp only [Quantale.mul_iSup_distrib]
      refine le_iSup_of_le m (le_of_eq ?_)
      rw [show cell { array with child := array.child.take k.toNat } prev next pc pv ps =
        cell array prev next pc pv ps from rfl]
      ac_rfl
  | cons x back =>
    cases r with
    | none =>
      rw [childrenAt_cons_none, Quantale.mul_bot, Quantale.bot_mul]
      exact Triple.of_bot
    | some c =>
      rw [childrenAt_cons_some]
      simp only [Quantale.mul_iSup_distrib, Quantale.iSup_mul_distrib]
      refine Triple.exists_pre fun q => ?_
      rw [itemAt_eq x]
      simp only [Quantale.mul_iSup_distrib, Quantale.iSup_mul_distrib]
      refine Triple.exists_pre fun xc => Triple.exists_pre fun xv => Triple.exists_pre fun xs => ?_
      refine (getItem_spec c _).step
        (F := textAt xv x.valuestring * (textAt xs x.string * childrenAt x.child xc none) *
          (chain itemAt (array.child.take k.toNat) pc none m (some c) * childrenAt back q (some c) *
            (pointsTo a (.item (cell array prev next pc pv ps)) *
              (textAt pv array.valuestring * textAt ps array.string)))) (by ac_rfl) fun r => ?_
      rw [mul_assoc]
      refine Triple.fact_pre ?_
      rintro rfl
      refine (unlink_spec array (array.child.take k.toNat) x back a c prev next pc pv ps m q).weaken ?_
        fun r => le_iSup_of_le c le_rfl
      refine le_trans (le_of_eq ?_) (mul_le_mul' le_rfl (mul_le_mul' le_rfl (mul_le_mul' le_rfl
        (mul_le_mul' le_rfl (mul_le_mul' (le_itemAt x c m q xc xv xs le_rfl) le_rfl)))))
      ac_rfl

/-- What `cJSON_DeleteItemFromArray` leaves. -/
theorem deleteItemFromArray_spec (array : CJson) (k : Int) (a : Addr) (prev next : Ptr) :
    Triple g (itemAt array a prev next) (deleteItemFromArray (some a) k) fun _ =>
      itemAt { array with child := array.child.eraseIdx k.toNat } a prev next := by
  refine (detachItemFromArray_spec array k a prev next).bind fun r => ?_
  rw [List.eraseIdx_eq_take_drop_succ]
  cases hb : array.child.drop k.toNat with
  | nil =>
    refine Triple.fact_pre ?_
    rintro rfl
    refine (delete_spec [] none none).last (F := itemAt { array with
      child := array.child.take k.toNat } a prev next) ?_ fun _ => ?_
    · rw [childrenAt_nil_none, one_mul]
    · rw [one_mul, ← List.tail_drop, hb, List.tail_nil, List.append_nil]
  | cons x back =>
    refine Triple.exists_pre fun c => Triple.fact_pre ?_
    rintro rfl
    refine (delete_item_spec x c none).last (mul_comm _ _) fun _ => ?_
    rw [one_mul, ← List.tail_drop, hb, List.tail_cons]

theorem indexLoop_spec (string : Text) (cs : List CJson) {fuel : ℕ} (hfuel : cs.length ≤ fuel)
    (i : Int) (first prev : Ptr) :
    Triple g (childrenAt cs first prev) (indexLoop string fuel i first) fun r =>
      fact (r = (cs.findIdx? (CJson.named string)).map fun k : ℕ => i + (k : Int)) *
        childrenAt cs first prev := by
  induction cs generalizing i first prev fuel with
  | nil =>
    cases first with
    | none => cases fuel <;> exact Triple.pure (le_fact_mul (by simp) le_rfl)
    | some a =>
      rw [childrenAt_nil_some]
      exact Triple.of_bot
  | cons c cs ih =>
    obtain ⟨fuel, rfl⟩ : ∃ k, fuel = k + 1 :=
      Nat.exists_eq_add_one_of_ne_zero (by rintro rfl; simp at hfuel)
    cases first with
    | none =>
      rw [childrenAt_cons_none]
      exact Triple.of_bot
    | some a =>
      rw [childrenAt_cons_some]
      refine Triple.exists_pre fun q => (visitName_spec string i c a prev q).step rfl fun r => ?_
      rw [mul_assoc]
      refine Triple.fact_pre ?_
      rintro rfl
      rw [List.findIdx?_cons]
      cases hn : CJson.named string c with
      | true => exact Triple.pure (le_fact_mul (by simp) (le_iSup_of_le q le_rfl))
      | false =>
        refine (ih (by simpa using hfuel) (i + 1) q (some a)).last (mul_comm _ _) fun n => ?_
        rw [mul_assoc]
        refine fact_mul_le.2 fun hr => le_fact_mul ?_ (le_iSup_of_le q (le_of_eq (mul_comm _ _)))
        rw [hr]
        cases cs.findIdx? (CJson.named string) with
        | none => rfl
        | some k => simp; omega

theorem indexOf_spec (string : Text) (cs : List CJson) (first : Ptr) :
    Triple g (childrenAt cs first none) (indexOf string first) fun r =>
      fact (r = (cs.findIdx? (CJson.named string)).map fun k : ℕ => (k : Int)) *
        childrenAt cs first none := by
  refine (Triple.bound (occupies_childrenAt cs first none)).bind fun b => Triple.fact_pre fun hb => ?_
  have h := indexLoop_spec (g := g) string cs ((length_le_nodesList cs).trans hb) 0 first none
  simpa using h

/-- Where the first item of a name stands. -/
theorem findIdx_named (string : Text) (cs : List CJson) :
    (cs.findIdx? (CJson.named string) = none ∧ cs.dropWhile (fun c => !CJson.named string c) = [] ∧
      cs.takeWhile (fun c => !CJson.named string c) = cs) ∨
    ∃ k : ℕ, cs.findIdx? (CJson.named string) = some k ∧
      cs.take k = cs.takeWhile (fun c => !CJson.named string c) ∧
      cs.drop k = cs.dropWhile (fun c => !CJson.named string c) := by
  induction cs with
  | nil => exact Or.inl ⟨rfl, rfl, rfl⟩
  | cons c cs ih =>
    rw [List.findIdx?_cons]
    cases hn : CJson.named string c with
    | true => exact Or.inr ⟨0, rfl, by simp [hn], by simp [hn]⟩
    | false =>
      rcases ih with ⟨h1, h2, h3⟩ | ⟨k, h1, h2, h3⟩
      · exact Or.inl ⟨by simp [h1], by simp [hn, h2], by simp [hn, h3]⟩
      · exact Or.inr ⟨k + 1, by simp [h1], by simp [hn, h2], by simp [hn, h3]⟩

/-- `cJSON_DetachItemFromObject` detaches what `cJSON_GetObjectItem` finds. -/
theorem detachItemFromObject_spec (object : CJson) (string : Text) (a : Addr) (prev next : Ptr) :
    Triple g (itemAt object a prev next) (detachItemFromObject (some a) string)
      (detached object (object.child.takeWhile fun c => !CJson.named string c) a prev next
        (CJson.itemFrom object string)) := by
  have hopen := itemAt_eq object a prev next
  rw [hopen, detachItemFromObject, nonNull_some_bind]
  refine Triple.exists_pre fun pc => Triple.exists_pre fun pv => Triple.exists_pre fun ps => ?_
  refine (getItem_spec a _).step rfl fun r => ?_
  rw [mul_assoc]
  refine Triple.fact_pre ?_
  rintro rfl
  refine (indexOf_spec string object.child pc).step
    (F := pointsTo a (.item (cell object prev next pc pv ps)) *
      (textAt pv object.valuestring * textAt ps object.string)) (by ac_rfl) fun r => ?_
  rw [mul_assoc]
  refine Triple.fact_pre ?_
  rintro rfl
  have hclose : childrenAt object.child pc none *
      (pointsTo a (.item (cell object prev next pc pv ps)) *
        (textAt pv object.valuestring * textAt ps object.string)) ≤ itemAt object a prev next :=
    le_itemAt object a prev next pc pv ps (le_of_eq (by ac_rfl))
  rw [CJson.itemFrom]
  rcases findIdx_named string object.child with ⟨h1, h2, h3⟩ | ⟨k, h1, h2, h3⟩
  · rw [h1, h2, h3]
    refine Triple.pure (le_fact_mul rfl (le_itemAt _ a prev next pc pv ps (le_of_eq ?_)))
    rw [show cell { object with child := object.child } prev next pc pv ps =
      cell object prev next pc pv ps from rfl]
    ac_rfl
  · rw [h1, ← h2, ← h3]
    exact (detachItemFromArray_spec object k a prev next).weaken hclose fun r => le_rfl

/-- The object without the first item of a name. -/
theorem deleteItemFromObject_spec (object : CJson) (string : Text) (a : Addr) (prev next : Ptr) :
    Triple g (itemAt object a prev next) (deleteItemFromObject (some a) string) fun _ =>
      itemAt { object with child := object.child.takeWhile (fun c => !CJson.named string c) ++
        (CJson.itemFrom object string).tail } a prev next := by
  refine (detachItemFromObject_spec object string a prev next).bind fun r => ?_
  cases hb : CJson.itemFrom object string with
  | nil =>
    refine Triple.fact_pre ?_
    rintro rfl
    refine (delete_spec [] none none).last (F := itemAt { object with
      child := object.child.takeWhile fun c => !CJson.named string c } a prev next) ?_ fun _ => ?_
    · rw [childrenAt_nil_none, one_mul]
    · rw [one_mul, List.tail_nil, List.append_nil]
  | cons x back =>
    refine Triple.exists_pre fun c => Triple.fact_pre ?_
    rintro rfl
    refine (delete_item_spec x c none).last (mul_comm _ _) fun _ => ?_
    rw [one_mul, List.tail_cons]

/-! ## Replacing -/

/-- The pointer to the item that is replaced: `array->child`, or the `next` of the one in front. -/
theorem repoint_spec (array : CJson) (front : List CJson) (a c i : Addr) (prev next pc pv ps m : Ptr)
    (hhead : some c = pc ↔ front = []) :
    Triple g
      (pointsTo a (.item (cell array prev next pc pv ps)) * chain itemAt front pc none m (some c))
      (if some c = pc then setItem a ({ · with child := some i })
      else do
        let p ← nonNull m
        setItem p ({ · with next := some i }))
      fun _ => pointsTo a (.item (cell array prev next (if front = [] then some i else pc) pv ps)) *
        chain itemAt front (if front = [] then some i else pc) none m (some i) := by
  cases front with
  | nil =>
    rw [if_pos (hhead.2 rfl), if_pos rfl, mul_comm, chain_nil]
    refine Triple.fact_pre ?_
    rintro ⟨-, rfl⟩
    rw [chain_nil, fact_of ⟨rfl, rfl⟩, mul_one]
    exact setItem_spec a _ _
  | cons x xs =>
    rw [if_neg fun h => List.cons_ne_nil x xs (hhead.1 h), if_neg (List.cons_ne_nil x xs)]
    cases m with
    | none =>
      rw [chain_last_none (List.cons_ne_nil x xs), Quantale.mul_bot]
      exact Triple.of_bot
    | some b =>
      rw [nonNull_some_bind]
      exact (setLast_spec (x :: xs) pc b (some c) (some i)).last (mul_comm _ _) fun _ =>
        le_of_eq (mul_comm _ _)

/-- `cJSON_ReplaceItemInArray`, once the item is found. -/
theorem substitute_spec (array : CJson) (front : List CJson) (x : CJson) (back : List CJson)
    (new : CJson) (a c i : Addr) (prev next pc pv ps m q pi ni : Ptr) :
    Triple g
      (pointsTo a (.item (cell array prev next pc pv ps)) *
        (textAt pv array.valuestring * (textAt ps array.string *
          (chain itemAt front pc none m (some c) *
            (itemAt x c m q * (childrenAt back q (some c) * itemAt new i pi ni))))))
      (do
        setItem i ({ · with next := q, prev := m })
        setItemPtr q ({ · with prev := some i })
        (if some c = pc then setItem a ({ · with child := some i })
        else do
          let p ← nonNull m
          setItem p ({ · with next := some i }))
        setItem c ({ · with next := none, prev := none })
        delete (some c))
      fun _ => itemAt { array with child := front ++ new :: back } a prev next := by
  have hpre : pointsTo a (.item (cell array prev next pc pv ps)) *
        (textAt pv array.valuestring * (textAt ps array.string *
          (chain itemAt front pc none m (some c) *
            (itemAt x c m q * (childrenAt back q (some c) * itemAt new i pi ni))))) ≤
      fact (some c = pc ↔ front = []) *
        (itemAt new i pi ni * (childrenAt back q (some c) *
          (pointsTo a (.item (cell array prev next pc pv ps)) *
            chain itemAt front pc none m (some c) * (itemAt x c m q *
              (textAt pv array.valuestring * textAt ps array.string))))) := by
    calc _ = chain itemAt front pc none m (some c) * itemAt x c m q *
          (itemAt new i pi ni * (childrenAt back q (some c) *
            (pointsTo a (.item (cell array prev next pc pv ps)) *
              (textAt pv array.valuestring * textAt ps array.string)))) := by ac_rfl
      _ ≤ fact (some c = pc ↔ front = []) *
            (chain itemAt front pc none m (some c) * itemAt x c m q) *
          (itemAt new i pi ni * (childrenAt back q (some c) *
            (pointsTo a (.item (cell array prev next pc pv ps)) *
              (textAt pv array.valuestring * textAt ps array.string)))) :=
        mul_le_mul' (head_iff front x c pc m m q) le_rfl
      _ = _ := by ac_rfl
  refine Triple.weaken ?_ hpre fun r => le_rfl
  refine Triple.fact_pre fun hhead => ?_
  refine (setLinks_spec new i pi ni m q).step rfl fun _ => ?_
  refine (relinkPrev_spec back q (some c) (some i)).step (mul_left_comm _ _ _) fun _ => ?_
  refine (repoint_spec array front a c i prev next pc pv ps m hhead).step
    (F := childrenAt back q (some i) * (itemAt new i m q * (itemAt x c m q *
      (textAt pv array.valuestring * textAt ps array.string)))) (by ac_rfl) fun _ => ?_
  refine (setLinks_spec x c m q none none).step
    (F := pointsTo a (.item (cell array prev next (if front = [] then some i else pc) pv ps)) *
      (textAt pv array.valuestring * (textAt ps array.string *
        (chain itemAt front (if front = [] then some i else pc) none m (some i) *
          (itemAt new i m q * childrenAt back q (some i))))))
    (by ac_rfl) fun _ => ?_
  refine (delete_item_spec x c none).last rfl fun _ => ?_
  rw [one_mul]
  refine le_itemAt { array with child := front ++ new :: back } a prev next
    (if front = [] then some i else pc) pv ps ?_
  refine mul_le_mul' le_rfl (mul_le_mul' le_rfl (mul_le_mul' le_rfl ?_))
  rw [childrenAt_append]
  refine le_iSup_of_le m (le_iSup_of_le (some i) (mul_le_mul' le_rfl ?_))
  rw [childrenAt_cons_some]
  exact le_iSup (fun q => itemAt new i m q * childrenAt back q (some i)) q

/-- What `cJSON_ReplaceItemInArray` leaves, when `back` starts with the item to be replaced. -/
noncomputable def replaced (array : CJson) (front : List CJson) (new : CJson) (a : Addr)
    (prev next : Ptr) (i : Addr) (pi ni : Ptr) : List CJson → HProp Block
  | [] => itemAt { array with child := front } a prev next * itemAt new i pi ni
  | _ :: back => itemAt { array with child := front ++ new :: back } a prev next

/-- **Replacing an item.**  The old item is freed, and the new one stands in its place; where there
is nothing to replace, the new item stays a tree of its own. -/
theorem replaceItemInArray_spec (array new : CJson) (k : Int) (a i : Addr) (prev next pi ni : Ptr) :
    Triple g (itemAt array a prev next * itemAt new i pi ni)
      (replaceItemInArray (some a) k (some i)) fun _ =>
        replaced array (array.child.take k.toNat) new a prev next i pi ni
          (array.child.drop k.toNat) := by
  rw [itemAt_eq array, replaceItemInArray, nonNull_some_bind]
  simp only [Quantale.iSup_mul_distrib]
  refine Triple.exists_pre fun pc => Triple.exists_pre fun pv => Triple.exists_pre fun ps => ?_
  refine (getItem_spec a _).step (mul_assoc _ _ _) fun r => ?_
  rw [mul_assoc]
  refine Triple.fact_pre ?_
  rintro rfl
  refine (seekIndex_spec array.child k pc).step
    (F := pointsTo a (.item (cell array prev next pc pv ps)) *
      (textAt pv array.valuestring * (textAt ps array.string * itemAt new i pi ni))) (by ac_rfl)
      fun r => ?_
  simp only [childAt, Quantale.iSup_mul_distrib]
  refine Triple.exists_pre fun m => ?_
  cases hb : array.child.drop k.toNat with
  | nil =>
    cases r with
    | some c =>
      rw [childrenAt_nil_some, Quantale.mul_bot, Quantale.bot_mul]
      exact Triple.of_bot
    | none =>
      refine Triple.pure ?_
      rw [childrenAt_nil_none, mul_one, replaced]
      have hchain : chain itemAt (array.child.take k.toNat) pc none m none ≤
          childrenAt (array.child.take k.toNat) pc none := by
        rw [childrenAt_eq]
        exact le_iSup (fun l => chain itemAt (array.child.take k.toNat) pc none l none) m
      have hclose := le_itemAt { array with child := array.child.take k.toNat } a prev next pc pv ps
        (mul_le_mul' le_rfl (mul_le_mul' le_rfl (mul_le_mul' le_rfl hchain)))
      refine le_trans (le_of_eq ?_) (mul_le_mul' hclose (le_refl (itemAt new i pi ni)))
      rw [show cell { array with child := array.child.take k.toNat } prev next pc pv ps =
        cell array prev next pc pv ps from rfl]
      ac_rfl
  | cons x back =>
    cases r with
    | none =>
      rw [childrenAt_cons_none, Quantale.mul_bot, Quantale.bot_mul]
      exact Triple.of_bot
    | some c =>
      rw [childrenAt_cons_some]
      simp only [Quantale.mul_iSup_distrib, Quantale.iSup_mul_distrib]
      refine Triple.exists_pre fun q => ?_
      rw [itemAt_eq x]
      simp only [Quantale.mul_iSup_distrib, Quantale.iSup_mul_distrib]
      refine Triple.exists_pre fun xc => Triple.exists_pre fun xv => Triple.exists_pre fun xs => ?_
      refine (getItem_spec c _).step
        (F := textAt xv x.valuestring * (textAt xs x.string * childrenAt x.child xc none) *
          (chain itemAt (array.child.take k.toNat) pc none m (some c) * childrenAt back q (some c) *
            (pointsTo a (.item (cell array prev next pc pv ps)) *
              (textAt pv array.valuestring * (textAt ps array.string * itemAt new i pi ni)))))
        (by ac_rfl) fun r => ?_
      rw [mul_assoc]
      refine Triple.fact_pre ?_
      rintro rfl
      rw [nonNull_some_bind]
      refine (substitute_spec array (array.child.take k.toNat) x back new a c i prev next pc pv ps m q
        pi ni).weaken ?_ fun r => le_rfl
      refine le_trans (le_of_eq ?_) (mul_le_mul' le_rfl (mul_le_mul' le_rfl (mul_le_mul' le_rfl
        (mul_le_mul' le_rfl (mul_le_mul' (le_itemAt x c m q xc xv xs le_rfl) le_rfl)))))
      ac_rfl

/-- `cJSON_ReplaceItemInObject`.  The new item gets a copy of the name; the name it had before is
not freed and belongs to nothing from then on. -/
theorem replaceItemInObject_spec (object new : CJson) (string : Text) (a i : Addr)
    (prev next pi ni : Ptr) (hfound : CJson.itemFrom object string ≠ []) :
    Triple g (itemAt object a prev next * itemAt new i pi ni)
      (replaceItemInObject (some a) string (some i)) fun _ =>
        ⨆ t : Option Text, ⨆ lost : Ptr, fact (Copied g string t) * (textAt lost new.string *
          itemAt { object with child := object.child.takeWhile (fun c => !CJson.named string c) ++
            { new with string := t } :: (CJson.itemFrom object string).tail } a prev next) := by
  have hopen := itemAt_eq object a prev next
  rw [hopen, replaceItemInObject, nonNull_some_bind]
  simp only [Quantale.iSup_mul_distrib]
  refine Triple.exists_pre fun pc => Triple.exists_pre fun pv => Triple.exists_pre fun ps => ?_
  refine (getItem_spec a _).step (mul_assoc _ _ _) fun r => ?_
  rw [mul_assoc]
  refine Triple.fact_pre ?_
  rintro rfl
  refine (indexOf_spec string object.child pc).step
    (F := pointsTo a (.item (cell object prev next pc pv ps)) *
      (textAt pv object.valuestring * textAt ps object.string) * itemAt new i pi ni) (by ac_rfl)
      fun r => ?_
  rw [mul_assoc]
  refine Triple.fact_pre ?_
  rintro rfl
  have hclose : childrenAt object.child pc none *
      (pointsTo a (.item (cell object prev next pc pv ps)) *
        (textAt pv object.valuestring * textAt ps object.string)) ≤ itemAt object a prev next :=
    le_itemAt object a prev next pc pv ps (le_of_eq (by ac_rfl))
  rw [CJson.itemFrom] at hfound ⊢
  rcases findIdx_named string object.child with ⟨-, h2, -⟩ | ⟨k, h1, h2, h3⟩
  · exact absurd h2 hfound
  rw [h1, ← h2, ← h3]
  refine Triple.weaken (P := itemAt object a prev next * itemAt new i pi ni) ?_ ?_ fun _ => le_rfl
  swap
  · rw [← mul_assoc]
    exact mul_le_mul' hclose le_rfl
  rw [itemAt_eq new]
  simp only [Quantale.mul_iSup_distrib, Option.map_some]
  refine Triple.exists_pre fun xc => Triple.exists_pre fun xv => Triple.exists_pre fun xs => ?_
  rw [nonNull_some_bind]
  refine (strdup_spec string).step (one_mul _).symm fun p => ?_
  simp only [Quantale.iSup_mul_distrib]
  refine Triple.exists_pre fun t => ?_
  rw [mul_assoc]
  refine Triple.fact_pre fun ht => ?_
  refine (setItem_spec i _ _).step
    (F := textAt p t * itemAt object a prev next * (textAt xv new.valuestring *
      (textAt xs new.string * childrenAt new.child xc none))) (by ac_rfl) fun _ => ?_
  have hnew : pointsTo i (.item (cell { new with string := t } pi ni xc xv p)) *
      (textAt xv new.valuestring * (textAt p t * childrenAt new.child xc none)) ≤
      itemAt { new with string := t } i pi ni := le_itemAt _ i pi ni xc xv p le_rfl
  refine Triple.last (F := textAt xs new.string)
    ((replaceItemInArray_spec object { new with string := t } k a i prev next pi ni).weaken
      (mul_le_mul' (le_refl (itemAt object a prev next)) hnew) fun _ => le_rfl) ?_ fun _ => ?_
  · rw [show cell { new with string := t } pi ni xc xv p =
      { cell new pi ni xc xv xs with string := p } from rfl]
    ac_rfl
  · refine le_iSup_of_le t (le_iSup_of_le xs (le_fact_mul ht ?_))
    rw [mul_comm (textAt xs new.string), Int.toNat_natCast]
    cases hd : object.child.drop k with
    | nil => exact absurd (h3.symm.trans hd) hfound
    | cons x back => exact le_rfl

end CJsonHeap

end SingleTerminalLogin
