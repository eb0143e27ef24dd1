import SingleTerminalLogin.CJson.Owned

/-!
# Linking items

What the functions of `CJson/Heap.lean` that build trees and look into them do in memory.

* `delete_spec` — a deleted tree is freed to its last block;
* `createNumber_spec`, `createString_spec` — a new item is a tree of its own;
* `addItemToArray_spec`, `addItemToObject_spec` — the item goes behind the last child, together with
  whatever is chained behind it;
* `getArrayItem_spec`, `getObjectItem_spec` — the pointer returned is the one to that child.
-/

namespace SingleTerminalLogin

open ByteText Binary64 CProgram SepLogic HProp HeapM

namespace CJsonHeap

variable {g : Grants}

/-! ## Chains of items -/

theorem childrenAt_cons_some (c : CJson) (cs : List CJson) (a : Addr) (prev : Ptr) :
    childrenAt (c :: cs) (some a) prev = ⨆ q : Ptr, itemAt c a prev q * childrenAt cs q (some a) := by
  rw [childrenAt]
  apply le_antisymm
  · refine iSup_le fun b => iSup_le fun q => fact_mul_le.2 fun hab => ?_
    cases hab
    exact le_iSup (fun q => itemAt c a prev q * childrenAt cs q (some a)) q
  · exact iSup_le fun q => le_iSup_of_le a (le_iSup_of_le q (le_fact_mul rfl le_rfl))

theorem childrenAt_cons_none (c : CJson) (cs : List CJson) (prev : Ptr) :
    childrenAt (c :: cs) none prev = ⊥ := by
  rw [childrenAt, eq_bot_iff]
  exact iSup_le fun a => iSup_le fun q => fact_mul_le.2 fun h => by cases h

theorem childrenAt_nil_some (a : Addr) (prev : Ptr) : childrenAt [] (some a) prev = ⊥ := by
  rw [childrenAt, ← fact_false]
  exact le_antisymm (fact_mono fun h => by cases h) (fact_mono fun h => h.elim)

theorem childrenAt_nil_none (prev : Ptr) : childrenAt [] none prev = 1 := by
  rw [childrenAt, fact_of rfl]

/-- An item on its own is a chain of one. -/
theorem childrenAt_singleton (c : CJson) (a : Addr) (prev : Ptr) :
    childrenAt [c] (some a) prev = itemAt c a prev none := by
  rw [childrenAt_cons_some]
  apply le_antisymm
  · refine iSup_le fun q => ?_
    rw [mul_comm, childrenAt]
    refine fact_mul_le.2 ?_
    rintro rfl
    exact le_rfl
  · refine le_iSup_of_le none ?_
    rw [childrenAt_nil_none, mul_one]

/-- The children behind a given one. -/
theorem childrenAt_append (xs ys : List CJson) (first prev : Ptr) :
    childrenAt (xs ++ ys) first prev =
      ⨆ m : Ptr, ⨆ r : Ptr, chain itemAt xs first prev m r * childrenAt ys r m := by
  simp only [childrenAt_eq, chain_append, Quantale.mul_iSup_distrib]
  apply le_antisymm
  · refine iSup_le fun l => iSup_le fun m => iSup_le fun r => ?_
    exact le_iSup_of_le m (le_iSup_of_le r (le_iSup_of_le l le_rfl))
  · refine iSup_le fun m => iSup_le fun r => iSup_le fun l => ?_
    exact le_iSup_of_le l (le_iSup_of_le m (le_iSup_of_le r le_rfl))

/-! ## The links of an item -/

/-- An assignment to fields that are no pointers to texts or children. -/
theorem setFields_spec {c c' : CJson} (a : Addr) {prev next prev' next' : Ptr} {f : Item → Item}
    (hv : c'.valuestring = c.valuestring) (hs : c'.string = c.string) (hc : c'.child = c.child)
    (hf : ∀ pc pv ps, f (cell c prev next pc pv ps) = cell c' prev' next' pc pv ps) :
    Triple g (itemAt c a prev next) (setItem a f) fun _ => itemAt c' a prev' next' := by
  rw [itemAt_eq]
  refine Triple.exists_pre fun pc => Triple.exists_pre fun pv => Triple.exists_pre fun ps => ?_
  refine (setItem_spec a _ f).last rfl fun _ => ?_
  rw [hf]
  refine le_itemAt c' a prev' next' pc pv ps ?_
  rw [hv, hs, hc]

theorem setType_spec (c : CJson) (a : Addr) (prev next : Ptr) (ty : CJsonType) :
    Triple g (itemAt c a prev next) (setItem a ({ · with type := ty })) fun _ =>
      itemAt { c with type := ty } a prev next :=
  setFields_spec a rfl rfl rfl fun _ _ _ => rfl

theorem setNext_spec (c : CJson) (a : Addr) (prev next q : Ptr) :
    Triple g (itemAt c a prev next) (setItem a ({ · with next := q })) fun _ => itemAt c a prev q :=
  setFields_spec a rfl rfl rfl fun _ _ _ => rfl

theorem setPrev_spec (c : CJson) (a : Addr) (prev next q : Ptr) :
    Triple g (itemAt c a prev next) (setItem a ({ · with prev := q })) fun _ => itemAt c a q next :=
  setFields_spec a rfl rfl rfl fun _ _ _ => rfl

theorem setLinks_spec (c : CJson) (a : Addr) (prev next m q : Ptr) :
    Triple g (itemAt c a prev next) (setItem a ({ · with next := q, prev := m })) fun _ =>
      itemAt c a m q :=
  setFields_spec a rfl rfl rfl fun _ _ _ => rfl

/-! ## Freeing -/

/-- A deleted chain of items is freed to its last block. -/
theorem delete_spec (cs : List CJson) (first prev : Ptr) :
    Triple g (childrenAt cs first prev) (delete first) fun _ => 1 := by
  refine (Triple.bound (occupies_childrenAt cs first prev)).bind fun b => Triple.fact_pre fun hb => ?_
  exact deleteLoop_children cs b hb first prev

/-- Deleting an item on its own. -/
theorem delete_item_spec (c : CJson) (a : Addr) (prev : Ptr) :
    Triple g (itemAt c a prev none) (delete (some a)) fun _ => 1 := by
  rw [← childrenAt_singleton]
  exact delete_spec [c] (some a) prev

/-! ## Creating -/

theorem createItem_spec (f : Item → Item) :
    Triple g 1 (createItem f) (orNull g fun a => pointsTo a (.item (f {}))) := by
  refine (Triple.malloc _).bind fun p => ?_
  cases p with
  | none => exact Triple.pure le_rfl
  | some a => exact (setItem_spec a {} f).bind fun _ => Triple.pure le_rfl

/-- An item without texts and children is its fields. -/
theorem cell_le_itemAt (c : CJson) (a : Addr) (prev next : Ptr) (hv : c.valuestring = none)
    (hs : c.string = none) (hc : c.child = []) :
    pointsTo a (.item (cell c prev next none none none)) ≤ itemAt c a prev next := by
  refine le_itemAt c a prev next none none none ?_
  rw [hv, hs, hc, textAt, childrenAt_nil_none, one_mul, mul_one, mul_one]

/-- A created item without a text. -/
theorem createLeaf_spec (c : CJson) {f : Item → Item} (hf : f {} = cell c none none none none none)
    (hv : c.valuestring = none) (hs : c.string = none) (hc : c.child = []) :
    Triple g 1 (createItem f) (orNull g fun a => itemAt c a none none) := by
  refine (createItem_spec f).weaken le_rfl fun p => ?_
  cases p with
  | none => exact le_rfl
  | some a =>
    rw [orNull, orNull, hf]
    exact cell_le_itemAt c a none none hv hs hc

theorem createNumber_spec (num : Double) :
    Triple g 1 (createNumber num) (orNull g fun a => itemAt (CJson.createNumber num) a none none) :=
  createLeaf_spec _ rfl rfl rfl rfl

theorem createObject_spec :
    Triple g 1 createObject (orNull g fun a => itemAt CJson.createObject a none none) :=
  createLeaf_spec _ rfl rfl rfl rfl

theorem createString_spec (s : Text) :
    Triple g 1 (createString s) (orNull g fun a => ⨆ t : Option Text, fact (Copied g s t) *
      itemAt { CJson.createString s with valuestring := t } a none none) := by
  refine (Triple.malloc _).bind fun p => ?_
  cases p with
  | none => exact Triple.pure le_rfl
  | some a =>
    refine (setItem_spec a {} _).bind fun _ => ?_
    refine (strdup_spec s).step (one_mul _).symm fun p => ?_
    rw [Quantale.iSup_mul_distrib]
    refine Triple.exists_pre fun t => ?_
    rw [mul_assoc]
    refine Triple.fact_pre fun ht => ?_
    refine (setItem_spec a _ _).step (mul_comm _ _) fun _ => ?_
    refine Triple.pure (le_iSup_of_le t (le_fact_mul ht ?_))
    refine le_itemAt _ a none none none p none ?_
    refine mul_le_mul' le_rfl ?_
    rw [show ({ CJson.createString s with valuestring := t } : CJson).string = none from rfl,
      show ({ CJson.createString s with valuestring := t } : CJson).child = [] from rfl, textAt,
      childrenAt_nil_none, mul_one, mul_one]

/-! ## Adding -/

/-- The last node of a chain gets another successor. -/
theorem setLast_spec (xs : List CJson) (first : Ptr) (b : Addr) (next q : Ptr) :
    Triple g (chain itemAt xs first none (some b) next) (setItem b ({ · with next := q }))
      fun _ => chain itemAt xs first none (some b) q := by
  induction xs using List.reverseRecOn with
  | nil =>
    rw [← mul_one (chain itemAt [] _ _ _ _), chain_nil]
    refine Triple.fact_pre ?_
    rintro ⟨-, h⟩
    cases h
  | append_singleton init y =>
    rw [chain_snoc]
    refine Triple.exists_pre fun m => Triple.exists_pre fun b' => Triple.fact_pre fun hb => ?_
    cases hb
    refine (setNext_spec y b m next q).last (mul_comm _ _) fun _ => ?_
    rw [chain_snoc]
    refine le_iSup_of_le m (le_iSup_of_le b (le_fact_mul rfl (le_of_eq (mul_comm _ _))))

/-- `suffix_object`: the chain ends with `b`, and the item `i` comes behind it. -/
theorem suffixObject_spec (xs : List CJson) (item : CJson) (next : List CJson) (first : Ptr)
    (b i : Addr) (pi : Ptr) :
    Triple g (chain itemAt xs first none (some b) none * childrenAt (item :: next) (some i) pi)
      (suffixObject (some b) (some i)) fun _ =>
        chain itemAt xs first none (some b) (some i) *
          childrenAt (item :: next) (some i) (some b) := by
  simp only [suffixObject, nonNull_some_bind]
  refine (setLast_spec xs first b none (some i)).step rfl fun _ => ?_
  rw [childrenAt_cons_some]
  simp only [Quantale.mul_iSup_distrib]
  refine Triple.exists_pre fun q => ?_
  refine (setPrev_spec item i pi q (some b)).last (mul_left_comm _ _ _) fun _ => ?_
  rw [childrenAt_cons_some]
  simp only [Quantale.mul_iSup_distrib]
  exact le_iSup_of_le q (le_of_eq (mul_left_comm _ _ _))

/-- **Adding an item.**  It goes behind the last child, and whatever is chained behind the item
comes with it.  The back link of the item is set only where there is a child in front of it. -/
theorem addItemToArray_spec (array item : CJson) (next : List CJson) (a i : Addr)
    (prev' next' pi : Ptr) (hpi : array.child = [] → pi = none) :
    Triple g (itemAt array a prev' next' * childrenAt (item :: next) (some i) pi)
      (addItemToArray (some a) (some i)) fun _ =>
        itemAt (CJson.addItemToArray array item next) a prev' next' := by
  rw [itemAt_eq array]
  simp only [Quantale.iSup_mul_distrib]
  refine Triple.exists_pre fun pc => Triple.exists_pre fun pv => Triple.exists_pre fun ps => ?_
  rw [addItemToArray, nonNull_some_bind]
  refine (getItem_spec a _).step (mul_assoc _ _ _) fun r => ?_
  rw [mul_assoc]
  refine Triple.fact_pre ?_
  rintro rfl
  cases pc with
  | none =>
    cases hc : array.child with
    | cons x xs =>
      simp only [childrenAt_cons_none, Quantale.mul_bot, Quantale.bot_mul]
      exact Triple.of_bot
    | nil =>
      obtain rfl := hpi hc
      refine (setItem_spec a _ _).last rfl fun _ => ?_
      refine le_itemAt _ a prev' next' (some i) pv ps ?_
      rw [CJson.addItemToArray, hc, childrenAt_nil_none, List.nil_append, mul_one]
      exact le_of_eq (by simp only [mul_assoc]; rfl)
  | some c =>
    cases hc : array.child with
    | nil =>
      simp only [childrenAt_nil_some, Quantale.mul_bot, Quantale.bot_mul]
      exact Triple.of_bot
    | cons x xs =>
      refine (Triple.bound (occupies_childrenAt (x :: xs) (some c) none)).step
        (F := pointsTo a (.item (cell array prev' next' (some c) pv ps)) *
          (textAt pv array.valuestring * (textAt ps array.string *
            childrenAt (item :: next) (some i) pi))) (by ac_rfl) fun b => ?_
      rw [mul_assoc]
      refine Triple.fact_pre fun hb => ?_
      have hlen := length_le_nodesList (x :: xs)
      rw [List.length_cons] at hlen
      rw [childrenAt_eq (x :: xs)]
      simp only [Quantale.iSup_mul_distrib]
      refine Triple.exists_pre fun last => ?_
      refine (Triple.lastOf nextOf_spec (by omega : xs.length < b) c none last).step rfl fun d => ?_
      rw [mul_assoc]
      refine Triple.fact_pre ?_
      rintro rfl
      refine (suffixObject_spec (x :: xs) item next (some c) d i pi).last
        (F := pointsTo a (.item (cell array prev' next' (some c) pv ps)) *
          (textAt pv array.valuestring * textAt ps array.string)) (by ac_rfl) fun _ => ?_
      refine le_itemAt _ a prev' next' (some c) pv ps ?_
      rw [CJson.addItemToArray, hc, childrenAt_append]
      simp only [Quantale.mul_iSup_distrib]
      refine le_iSup_of_le (some d) (le_iSup_of_le (some i) (le_of_eq ?_))
      rw [show cell { array with child := x :: xs ++ item :: next } prev' next' (some c) pv ps =
        cell array prev' next' (some c) pv ps from rfl]
      ac_rfl

/-- `cJSON_AddItemToObject`: the old name is freed, and the item gets a copy of the new one. -/
theorem addItemToObject_spec (object item : CJson) (string : Text) (next : List CJson) (a i : Addr)
    (prev' next' pi : Ptr) (hpi : object.child = [] → pi = none) :
    Triple g (itemAt object a prev' next' * childrenAt (item :: next) (some i) pi)
      (addItemToObject (some a) string (some i)) fun _ =>
        ⨆ t : Option Text, fact (Copied g string t) *
          itemAt (CJson.addItemToArray object { item with string := t } next) a prev' next' := by
  rw [childrenAt_cons_some]
  simp only [Quantale.mul_iSup_distrib]
  refine Triple.exists_pre fun q => ?_
  rw [itemAt_eq item]
  simp only [Quantale.mul_iSup_distrib, Quantale.iSup_mul_distrib]
  refine Triple.exists_pre fun pc => Triple.exists_pre fun pv => Triple.exists_pre fun ps => ?_
  refine (getItem_spec i _).step
    (F := textAt pv item.valuestring * (textAt ps item.string * childrenAt item.child pc none) *
      (itemAt object a prev' next' * childrenAt next q (some i))) (by ac_rfl) fun r => ?_
  rw [mul_assoc]
  refine Triple.fact_pre ?_
  rintro rfl
  refine (freePtr_spec ps item.string).step
    (F := pointsTo i (.item (cell item pi q pc pv ps)) *
      (textAt pv item.valuestring * childrenAt item.child pc none *
        (itemAt object a prev' next' * childrenAt next q (some i)))) (by ac_rfl) fun _ => ?_
  refine (strdup_spec string).step rfl fun p => ?_
  simp only [Quantale.iSup_mul_distrib]
  refine Triple.exists_pre fun t => ?_
  rw [mul_assoc]
  refine Triple.fact_pre fun ht => ?_
  refine (setItem_spec i _ _).step (mul_left_comm _ _ _) fun _ => ?_
  refine (addItemToArray_spec object { item with string := t } next a i prev' next' pi hpi).weaken ?_
    fun _ => le_iSup_of_le t (le_fact_mul ht le_rfl)
  rw [childrenAt_cons_some]
  simp only [Quantale.mul_iSup_distrib]
  refine le_iSup_of_le q ?_
  refine le_trans (le_of_eq ?_) (mul_le_mul' le_rfl (mul_le_mul'
    (le_itemAt { item with string := t } i pi q pc pv p le_rfl) le_rfl))
  rw [show cell { item with string := t } pi q pc pv p =
    { cell item pi q pc pv ps with string := p } from rfl]
  ac_rfl

/-! ## Looking up -/

theorem visitIndex_spec (k : Int) (c : CJson) (a : Addr) (prev next : Ptr) :
    Triple g (itemAt c a prev next) (visitIndex k a) fun r =>
      fact (r = (if 0 < k then some (k - 1) else none : Option Int).map (·, next)) *
        itemAt c a prev next := by
  refine (nextOf_spec c a prev next).bind fun r => Triple.fact_pre ?_
  rintro rfl
  refine Triple.pure (le_fact_mul ?_ le_rfl)
  split <;> rfl

theorem visitName_spec (string : Text) (i : Int) (c : CJson) (a : Addr) (prev next : Ptr) :
    Triple g (itemAt c a prev next) (visitName string i a) fun r =>
      fact (r = (if CJson.named string c then none else some (i + 1) : Option Int).map (·, next)) *
        itemAt c a prev next := by
  rw [itemAt_eq]
  refine Triple.exists_pre fun pc => Triple.exists_pre fun pv => Triple.exists_pre fun ps => ?_
  refine (getItem_spec a _).step rfl fun r => ?_
  rw [mul_assoc]
  refine Triple.fact_pre ?_
  rintro rfl
  refine (textOf_spec ps c.string).step
    (F := pointsTo a (.item (cell c prev next pc pv ps)) *
      (textAt pv c.valuestring * childrenAt c.child pc none)) (by ac_rfl) fun r => ?_
  rw [mul_assoc]
  refine Triple.fact_pre ?_
  rintro rfl
  refine Triple.pure (le_fact_mul ?_
    (le_iSup_of_le pc (le_iSup_of_le pv (le_iSup_of_le ps (le_of_eq (by ac_rfl))))))
  simp only [CJson.named, decide_eq_true_eq]
  split <;> rfl

theorem split_index (k : Int) (cs : List CJson) :
    split (fun (k : Int) (_ : CJson) => if 0 < k then some (k - 1) else none) k cs =
      (cs.take k.toNat, cs.drop k.toNat) := by
  induction cs generalizing k with
  | nil => simp [split]
  | cons c cs ih =>
    rw [split]
    by_cases hk : 0 < k
    · obtain ⟨n, hn⟩ : ∃ n, k.toNat = n + 1 := ⟨k.toNat - 1, by omega⟩
      have hn' : (k - 1).toNat = n := by omega
      simp [hk, ih, hn, hn']
    · have h0 : k.toNat = 0 := by omega
      simp [hk, h0]

theorem split_name (string : Text) (i : Int) (cs : List CJson) :
    split (fun (i : Int) (c : CJson) => if CJson.named string c then none else some (i + 1)) i cs =
      (cs.takeWhile fun c => !CJson.named string c, cs.dropWhile fun c => !CJson.named string c) := by
  induction cs generalizing i with
  | nil => rfl
  | cons c cs ih =>
    rw [split]
    cases h : CJson.named string c <;> simp [h, ih]

/-- A chain of children with a pointer into it: `r` is the first of `back`. -/
noncomputable def childAt (front back : List CJson) (first r : Ptr) : HProp Block :=
  ⨆ m : Ptr, chain itemAt front first none m r * childrenAt back r m

theorem childAt_le (front back : List CJson) (first r : Ptr) :
    childAt front back first r ≤ childrenAt (front ++ back) first none := by
  rw [childrenAt_append]
  exact iSup_mono fun m => le_iSup (fun r => chain itemAt front first none m r * childrenAt back r m) r

/-- The walk the lookups share. -/
theorem seekItem_spec {visit : Int → Addr → HeapM Block (Option (Int × Ptr))}
    {test : Int → CJson → Option Int}
    (hvisit : ∀ s x a prev next, Triple g (itemAt x a prev next) (visit s a) fun r =>
      fact (r = (test s x).map (·, next)) * itemAt x a prev next)
    (cs : List CJson) (s : Int) (first : Ptr) :
    Triple g (childrenAt cs first none) (seekItem visit s first)
      (childAt (split test s cs).1 (split test s cs).2 first) := by
  refine (Triple.bound (occupies_childrenAt cs first none)).bind fun b => Triple.fact_pre fun hb => ?_
  rw [childrenAt_eq]
  refine Triple.exists_pre fun last => ?_
  refine (Triple.seek hvisit ((length_le_nodesList cs).trans hb) s first none last).weaken le_rfl
    fun r => ?_
  refine iSup_mono fun m => mul_le_mul' le_rfl ?_
  rw [childrenAt_eq]
  exact le_iSup (fun l => chain itemAt (split test s cs).2 r m l none) last

theorem seekIndex_spec (cs : List CJson) (k : Int) (first : Ptr) :
    Triple g (childrenAt cs first none) (seekItem visitIndex k first)
      (childAt (cs.take k.toNat) (cs.drop k.toNat) first) := by
  have h := seekItem_spec (g := g) visitIndex_spec cs k first
  rwa [split_index] at h

theorem seekName_spec (cs : List CJson) (string : Text) (first : Ptr) :
    Triple g (childrenAt cs first none) (seekItem (visitName string) 0 first)
      (childAt (cs.takeWhile fun c => !CJson.named string c)
        (cs.dropWhile fun c => !CJson.named string c) first) := by
  have h := seekItem_spec (g := g) (visitName_spec string) cs 0 first
  rwa [split_name] at h

/-- A tree together with a pointer to one of its children: `r` is the first of `back`. -/
noncomputable def pointing (array : CJson) (front back : List CJson) (a : Addr) (prev next r : Ptr) :
    HProp Block :=
  ⨆ pc : Ptr, ⨆ pv : Ptr, ⨆ ps : Ptr,
    pointsTo a (.item (cell array prev next pc pv ps)) *
      (textAt pv array.valuestring * (textAt ps array.string * childAt front back pc r))

/-- The pointer may be forgotten. -/
theorem pointing_le (array : CJson) (front back : List CJson) (a : Addr) (prev next r : Ptr) :
    pointing array front back a prev next r ≤
      itemAt { array with child := front ++ back } a prev next := by
  refine iSup_le fun pc => iSup_le fun pv => iSup_le fun ps => ?_
  refine le_itemAt _ a prev next pc pv ps ?_
  exact mul_le_mul' le_rfl (mul_le_mul' le_rfl (mul_le_mul' le_rfl (childAt_le front back pc r)))

/-- Reading `child` and walking from there. -/
theorem lookup_spec {array : CJson} {front back : List CJson} {walk : Ptr → HeapM Block Ptr}
    (hwalk : ∀ pc, Triple g (childrenAt array.child pc none) (walk pc) (childAt front back pc))
    (a : Addr) (prev next : Ptr) :
    Triple g (itemAt array a prev next)
      (do
        let c ← getItem (← nonNull (some a))
        walk c.child)
      (pointing array front back a prev next) := by
  rw [nonNull_some_bind, itemAt_eq]
  refine Triple.exists_pre fun pc => Triple.exists_pre fun pv => Triple.exists_pre fun ps => ?_
  refine (getItem_spec a _).step rfl fun r => ?_
  rw [mul_assoc]
  refine Triple.fact_pre ?_
  rintro rfl
  refine (hwalk pc).last (F := pointsTo a (.item (cell array prev next pc pv ps)) *
    (textAt pv array.valuestring * textAt ps array.string)) (by ac_rfl) fun r => ?_
  refine le_iSup_of_le pc (le_iSup_of_le pv (le_iSup_of_le ps (le_of_eq ?_)))
  ac_rfl

/-- `cJSON_GetArrayItem`: a negative position is the first one. -/
theorem getArrayItem_spec (array : CJson) (k : Int) (a : Addr) (prev next : Ptr) :
    Triple g (itemAt array a prev next) (getArrayItem (some a) k)
      (pointing array (array.child.take k.toNat) (array.child.drop k.toNat) a prev next) :=
  lookup_spec (seekIndex_spec array.child k) a prev next

/-- `cJSON_GetObjectItem` finds the chain `CJson.itemFrom` names. -/
theorem getObjectItem_spec (object : CJson) (string : Text) (a : Addr) (prev next : Ptr) :
    Triple g (itemAt object a prev next) (getObjectItem (some a) string)
      (pointing object (object.child.takeWhile fun c => !CJson.named string c)
        (CJson.itemFrom object string) a prev next) :=
  lookup_spec (seekName_spec object.child string) a prev next

theorem sizeLoop_spec (cs : List CJson) {fuel : ℕ} (hfuel : cs.length ≤ fuel) (i : Int)
    (first prev : Ptr) :
    Triple g (childrenAt cs first prev) (sizeLoop fuel i first) fun r =>
      fact (r = i + cs.length) * childrenAt cs first prev := by
  induction cs generalizing i first prev fuel with
  | nil =>
    cases first with
    | none => cases fuel <;> exact Triple.pure (le_fact_mul (by simp) le_rfl)
    | some a =>
      rw [childrenAt_nil_some]
      exact Triple.of_bot
  | cons c cs ih =>
    obtain ⟨fuel, rfl⟩ : ∃ k, fuel = k + 1 :=
      Nat.exists_eq_add_one_of_ne_zero (by rintro rfl; simp at hfuel)
    cases first with
    | none =>
      rw [childrenAt_cons_none]
      exact Triple.of_bot
    | some a =>
      rw [childrenAt_cons_some]
      refine Triple.exists_pre fun q => (nextOf_spec c a prev q).step rfl fun r => ?_
      rw [mul_assoc]
      refine Triple.fact_pre ?_
      rintro rfl
      refine (ih (by simpa using hfuel) (i + 1) r (some a)).last (mul_comm _ _) fun n => ?_
      rw [mul_assoc]
      refine fact_mul_le.2 fun hn => le_fact_mul (by rw [hn, List.length_cons]; push_cast; ring) ?_
      exact le_iSup_of_le r (le_of_eq (mul_comm _ _))

/-- `cJSON_GetArraySize` counts the children. -/
theorem getArraySize_spec (array : CJson) (a : Addr) (prev next : Ptr) :
    Triple g (itemAt array a prev next) (getArraySize (some a)) fun r =>
      fact (r = array.child.length) * itemAt array a prev next := by
  rw [itemAt_eq, getArraySize, nonNull_some_bind]
  refine Triple.exists_pre fun pc => Triple.exists_pre fun pv => Triple.exists_pre fun ps => ?_
  refine (getItem_spec a _).step rfl fun r => ?_
  rw [mul_assoc]
  refine Triple.fact_pre ?_
  rintro rfl
  refine (Triple.bound (occupies_childrenAt array.child pc none)).step
    (F := pointsTo a (.item (cell array prev next pc pv ps)) *
      (textAt pv array.valuestring * textAt ps array.string)) (by ac_rfl) fun b => ?_
  rw [mul_assoc]
  refine Triple.fact_pre fun hb => ?_
  have hlen := (length_le_nodesList array.child).trans hb
  refine (sizeLoop_spec array.child hlen 0 pc none).last rfl fun n => ?_
  rw [mul_assoc]
  refine fact_mul_le.2 fun hn => le_fact_mul (by simpa using hn) ?_
  exact le_iSup_of_le pc (le_iSup_of_le pv (le_iSup_of_le ps (le_of_eq (by ac_rfl))))

end CJsonHeap

end SingleTerminalLogin
