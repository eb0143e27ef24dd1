import SingleTerminalLogin.CJson.Linking
import SingleTerminalLogin.CJson.PrintBuffers

/-!
# `cJSON_Print` in memory

`print_spec`: whatever the tree and whichever calls of `malloc` fail, `cJSON_Print` either returns a
block with the text of `CJson.printValue`, having written inside of its blocks only, or the null
pointer after it has freed everything it had allocated.  The tree is as it was.
-/

namespace SingleTerminalLogin

open ByteText Binary64 CProgram SepLogic HProp HeapM

namespace CJsonHeap

section

variable {g : Grants}

/-! ## Values -/

theorem countEntries_spec (cs : List CJson) (first prev : Ptr) :
    Triple g (childrenAt cs first prev) (countEntries first) fun n =>
      fact (n = cs.length) * childrenAt cs first prev := by
  refine (Triple.bound (occupies_childrenAt cs first prev)).bind fun b => Triple.fact_pre fun hb => ?_
  refine (sizeLoop_spec cs ((length_le_nodesList cs).trans hb) 0 first prev).bind fun n =>
    Triple.fact_pre ?_
  rintro rfl
  exact Triple.pure (le_fact_mul (by simp) le_rfl)

/-- A text that may be missing is nothing, or a block to be freed. -/
theorem printed_le (t : Text) (p : Ptr) : printed g t p ≤ ⨆ t : Option Text, textAt p t := by
  cases p with
  | none => exact le_iSup_of_le none fun h hh => hh.2
  | some a => exact le_iSup (fun t => textAt (some a) t) (some t)

/-- What the loop of `print_array` leaves: the texts and their size, or null pointers among them. -/
noncomputable def elementsPrinted (g : Grants) (fmt : Bool) (entries : Addr) (front : List Ptr)
    (len : ℕ) (es : List (Text × Text)) : Option ℕ → HProp Block
  | some r => ⨆ qs : List (Addr × Text),
      fact (textsOf qs = es.map Prod.snd ∧ r = len + elementsSize fmt (textsOf qs)) *
        (pointsTo entries (.pointers (front ++ pointersTo qs)) * textsAt qs)
  | none => ⨆ ps : List Ptr, fact (Denied g ∧ ps.length = es.length) *
      (pointsTo entries (.pointers (front ++ ps)) * heldAt ps)

/-- What the loop of `print_object` leaves. -/
noncomputable def membersPrinted (g : Grants) (fmt : Bool) (depth : ℕ) (names entries : Addr)
    (front front' : List Ptr) (len : Option ℕ) (es : List (Text × Text)) : Option ℕ → HProp Block
  | some r => ⨆ rows : List Row,
      fact (rowTexts rows = es ∧ len.map (· + membersSize fmt depth es) = some r) *
        (pointsTo names (.pointers (front ++ pointersTo (rows.map Prod.fst))) *
        (pointsTo entries (.pointers (front' ++ pointersTo (rows.map Prod.snd))) *
        (textsAt (rows.map Prod.fst) * textsAt (rows.map Prod.snd))))
  | none => ⨆ ps : List Ptr, ⨆ qs : List Ptr,
      fact (Denied g ∧ ps.length = es.length ∧ qs.length = es.length) *
        (pointsTo names (.pointers (front ++ ps)) * (pointsTo entries (.pointers (front' ++ qs)) *
          (heldAt ps * heldAt qs)))

/-- What the printing functions do, at one fuel. -/
structure PrintsAt (g : Grants) (fmt : Bool) (fuel : ℕ) : Prop where
  value : ∀ c a prev next depth txt, 3 * nodes c ≤ fuel + 1 →
    CJson.printValue fmt depth c = .ok txt →
    Triple g (itemAt c a prev next) (printValue fmt fuel depth (some a)) fun p =>
      printed g txt p * itemAt c a prev next
  array : ∀ cs item prev depth es, 3 * nodesList cs < fuel →
    CJson.printEntries fmt (depth + 1) cs = .ok es →
    Triple g (childrenAt cs item.child prev) (printArray fmt fuel depth item) fun p =>
      printed g (CJson.composeArray fmt (es.map Prod.snd)) p * childrenAt cs item.child prev
  elements : ∀ cs entries front first prev depth len es, 3 * nodesList cs ≤ fuel →
    CJson.printEntries fmt depth cs = .ok es →
    Triple g (pointsTo entries (.pointers (front ++ List.replicate cs.length none)) *
        childrenAt cs first prev)
      (printElements fmt fuel depth entries front.length len first) fun r =>
      elementsPrinted g fmt entries front len es r * childrenAt cs first prev
  object : ∀ cs item prev depth es, 3 * nodesList cs < fuel →
    CJson.printEntries fmt (depth + 1) cs = .ok es →
    Triple g (childrenAt cs item.child prev) (printObject fmt fuel depth item) fun p =>
      printed g (CJson.composeObject fmt (depth + 1) es) p * childrenAt cs item.child prev
  members : ∀ cs names entries front front' first prev depth len es, 3 * nodesList cs ≤ fuel →
    front.length = front'.length → CJson.printEntries fmt depth cs = .ok es →
    (len = none → Denied g) →
    Triple g (pointsTo names (.pointers (front ++ List.replicate cs.length none)) *
        (pointsTo entries (.pointers (front' ++ List.replicate cs.length none)) *
        childrenAt cs first prev))
      (printMembers fmt fuel depth names entries front.length len first) fun r =>
      membersPrinted g fmt depth names entries front front' len es r * childrenAt cs first prev

theorem printEntries_length {fmt : Bool} {depth : ℕ} {cs : List CJson} {es : List (Text × Text)}
    (h : CJson.printEntries fmt depth cs = .ok es) : es.length = cs.length := by
  induction cs generalizing es with
  | nil => cases h; rfl
  | cons c cs ih =>
    obtain ⟨txt, rest, -, hr, rfl⟩ := CJson.printEntries_cons h
    rw [List.length_cons, List.length_cons, ih hr]

section

variable {fmt : Bool} {fuel : ℕ}

theorem printValue_step (ih : PrintsAt g fmt fuel) (c : CJson) (a : Addr) (prev next : Ptr)
    (depth : ℕ) (txt : Text) (hfuel : 3 * nodes c ≤ fuel + 2)
    (hp : CJson.printValue fmt depth c = .ok txt) :
    Triple g (itemAt c a prev next) (printValue fmt (fuel + 1) depth (some a)) fun p =>
      printed g txt p * itemAt c a prev next := by
  have hnodes := nodes_eq c
  refine Triple.weaken ?_ (itemAt_eq c a prev next).le fun _ => le_rfl
  refine Triple.exists_pre fun pc => Triple.exists_pre fun pv => Triple.exists_pre fun ps => ?_
  have hfold : ∀ R : HProp Block, R * (pointsTo a (.item (cell c prev next pc pv ps)) *
      (textAt pv c.valuestring * (textAt ps c.string * childrenAt c.child pc none))) ≤
      R * itemAt c a prev next := fun R => mul_le_mul' le_rfl (le_itemAt c a prev next pc pv ps le_rfl)
  rw [printValue]
  refine (getItem_spec a _).step rfl fun r => ?_
  rw [mul_assoc]
  refine Triple.fact_pre ?_
  rintro rfl
  rcases c with ⟨ty, vs, vi, vd, s, child⟩
  cases ty with
  | NULL =>
    cases hp
    exact (strdup_printed _).last (one_mul _).symm fun p => hfold _
  | False =>
    cases hp
    exact (strdup_printed _).last (one_mul _).symm fun p => hfold _
  | True =>
    cases hp
    exact (strdup_printed _).last (one_mul _).symm fun p => hfold _
  | Number =>
    have hlt : (CJson.numberText ⟨.Number, vs, vi, vd, s, []⟩).length < 64 := by
      by_contra hge
      rw [CJson.printValue, CJson.printNumber, if_neg hge] at hp
      cases hp
    obtain rfl := CJson.printNumber_eq_ok hp
    exact (fillNew_spec (noNul_numberText _) (numberText_fits
      (cell ⟨.Number, vs, vi, vd, s, child⟩ prev next pc pv ps) (c := ⟨.Number, vs, vi, vd, s, []⟩)
      rfl rfl hlt)).last (one_mul _).symm fun p => hfold _
  | String =>
    cases hp
    refine (printStringPtr_spec pv vs).last (mul_left_comm _ _ _) fun p => le_trans (le_of_eq ?_)
      (hfold _)
    ac_rfl
  | Array =>
    rw [CJson.printValue] at hp
    obtain ⟨es, he, hp⟩ := bind_eq_ok.1 hp
    cases hp
    refine (ih.array child (cell ⟨.Array, vs, vi, vd, s, child⟩ prev next pc pv ps) none depth es
      (by simp only at hnodes; omega) he).last
      (F := pointsTo a (.item (cell ⟨.Array, vs, vi, vd, s, child⟩ prev next pc pv ps)) *
        (textAt pv vs * textAt ps s)) (by ac_rfl) fun p => le_trans (le_of_eq ?_) (hfold _)
    ac_rfl
  | Object =>
    rw [CJson.printValue] at hp
    obtain ⟨es, he, hp⟩ := bind_eq_ok.1 hp
    cases hp
    refine (ih.object child (cell ⟨.Object, vs, vi, vd, s, child⟩ prev next pc pv ps) none depth es
      (by simp only at hnodes; omega) he).last
      (F := pointsTo a (.item (cell ⟨.Object, vs, vi, vd, s, child⟩ prev next pc pv ps)) *
        (textAt pv vs * textAt ps s)) (by ac_rfl) fun p => le_trans (le_of_eq ?_) (hfold _)
    ac_rfl

theorem printArray_step (ih : PrintsAt g fmt fuel) (cs : List CJson) (item : Item) (prev : Ptr)
    (depth : ℕ) (es : List (Text × Text)) (hfuel : 3 * nodesList cs < fuel + 1)
    (hp : CJson.printEntries fmt (depth + 1) cs = .ok es) :
    Triple g (childrenAt cs item.child prev) (printArray fmt (fuel + 1) depth item) fun p =>
      printed g (CJson.composeArray fmt (es.map Prod.snd)) p * childrenAt cs item.child prev := by
  have hlen := printEntries_length hp
  rw [printArray]
  refine (countEntries_spec cs item.child prev).bind fun n => Triple.fact_pre ?_
  rintro rfl
  refine (Triple.malloc _).step (one_mul _).symm fun entries => ?_
  cases entries with
  | none => exact Triple.fact_pre fun hd => Triple.pure (le_fact_mul hd le_rfl)
  | some entries =>
    refine (ih.elements cs entries [] item.child prev (depth + 1) 5 es (by omega) hp).bind
      fun len => ?_
    cases len with
    | none =>
      simp only [elementsPrinted, Quantale.iSup_mul_distrib]
      refine Triple.exists_pre fun ps => ?_
      rw [mul_assoc]
      refine Triple.fact_pre fun hd => ?_
      have hgive := giveUpArray_spec hd.1 entries ps (CJson.composeArray fmt (es.map Prod.snd))
      rw [hd.2, hlen] at hgive
      exact hgive.frame _
    | some len =>
      simp only [elementsPrinted, Quantale.iSup_mul_distrib]
      refine Triple.exists_pre fun qs => ?_
      rw [mul_assoc]
      refine Triple.fact_pre ?_
      rintro ⟨hqs, rfl⟩
      have hcount : cs.length = qs.length := by
        rw [← hlen, ← List.length_map (f := Prod.snd), ← hqs, textsOf, List.length_map]
      rw [hcount, ← hqs]
      exact (finishArray_spec fmt entries qs).frame _

theorem printElements_nil (entries : Addr) (front : List Ptr) (first prev : Ptr) (depth len : ℕ) :
    Triple g (pointsTo entries (.pointers (front ++ List.replicate 0 none)) * childrenAt [] first prev)
      (printElements fmt fuel depth entries front.length len first) fun r =>
      elementsPrinted g fmt entries front len [] r * childrenAt [] first prev := by
  cases first with
  | some a =>
    rw [childrenAt_nil_some, Quantale.mul_bot]
    exact Triple.of_bot
  | none =>
    have hrun : printElements fmt fuel depth entries front.length len none = pure (some len) := by
      cases fuel <;> rw [printElements]
    rw [hrun]
    refine Triple.pure (mul_le_mul' (le_iSup_of_le [] (le_fact_mul ⟨rfl, rfl⟩ ?_)) le_rfl)
    rw [textsAt, List.map_nil, List.prod_nil, mul_one]
    exact le_rfl

theorem printElements_step (ih : PrintsAt g fmt fuel) (cs : List CJson) (entries : Addr)
    (front : List Ptr) (first prev : Ptr) (depth len : ℕ) (es : List (Text × Text))
    (hfuel : 3 * nodesList cs ≤ fuel + 1) (hp : CJson.printEntries fmt depth cs = .ok es)
    :
    Triple g (pointsTo entries (.pointers (front ++ List.replicate cs.length none)) *
        childrenAt cs first prev)
      (printElements fmt (fuel + 1) depth entries front.length len first) fun r =>
      elementsPrinted g fmt entries front len es r * childrenAt cs first prev := by
  cases cs with
  | nil =>
    cases hp
    exact printElements_nil entries front first prev depth len
  | cons c cs =>
    obtain ⟨txt, rest, ht, hr, rfl⟩ := CJson.printEntries_cons hp
    have hlen := printEntries_length hr
    have hnodes := nodes_eq c
    rw [nodesList] at hfuel
    cases first with
    | none =>
      rw [childrenAt_cons_none, Quantale.mul_bot]
      exact Triple.of_bot
    | some a =>
      rw [childrenAt_cons_some, Quantale.mul_iSup_distrib, printElements]
      refine Triple.exists_pre fun q => ?_
      refine (ih.value c a prev q depth txt (by omega) ht).step
        (mul_left_comm _ _ _) fun ret => ?_
      rw [List.length_cons, List.replicate_succ]
      refine (setPointer_spec entries front none ret _).step
        (F := printed g txt ret * (itemAt c a prev q * childrenAt cs q (some a))) (by ac_rfl)
        fun _ => ?_
      have hback := le_iSup (fun q => itemAt c a prev q * childrenAt cs q (some a)) q
      cases ret with
      | none =>
        rw [mul_left_comm]
        refine Triple.fact_pre fun hd => Triple.pure ?_
        refine mul_le_mul' (le_iSup_of_le (List.replicate (cs.length + 1) none)
          (le_fact_mul ⟨hd, by simp [hlen]⟩ ?_)) hback
        rw [heldAt_replicate, mul_one, List.replicate_succ]
      | some r =>
        refine (getText_spec r txt).step (mul_left_comm _ _ _) fun t => ?_
        rw [mul_assoc]
        refine Triple.fact_pre ?_
        rintro rfl
        refine (nextOf_spec c a prev q).step (F := textAt (some r) (some t) *
          (pointsTo entries (.pointers (front ++ some r :: List.replicate cs.length none)) *
          childrenAt cs q (some a))) (by ac_rfl) fun q' => ?_
        rw [mul_assoc]
        refine Triple.fact_pre ?_
        rintro rfl
        have hnext := ih.elements cs entries (front ++ [some r]) q' (some a) depth
          (len + (t.length + 2 + if fmt then 1 else 0)) rest (by omega) hr
        rw [List.length_append, List.append_assoc, List.singleton_append] at hnext
        refine hnext.last (F := textAt (some r) (some t) * itemAt c a prev q') (by ac_rfl)
          fun res => ?_
        rw [show elementsPrinted g fmt entries (front ++ [some r])
              (len + (t.length + 2 + if fmt then 1 else 0)) rest res * childrenAt cs q' (some a) *
            (textAt (some r) (some t) * itemAt c a prev q') =
          textAt (some r) (some t) * elementsPrinted g fmt entries (front ++ [some r])
              (len + (t.length + 2 + if fmt then 1 else 0)) rest res *
            (itemAt c a prev q' * childrenAt cs q' (some a)) by ac_rfl]
        refine mul_le_mul' ?_ hback
        cases res with
        | none =>
          simp only [elementsPrinted, Quantale.mul_iSup_distrib]
          refine iSup_le fun ps => ?_
          rw [mul_left_comm]
          refine fact_mul_le.2 fun hd => le_iSup_of_le (some r :: ps)
            (le_fact_mul ⟨hd.1, by simp [hd.2]⟩ ?_)
          rw [heldAt_cons, List.append_assoc, List.singleton_append, mul_left_comm]
          exact mul_le_mul' le_rfl (mul_le_mul' (le_iSup (fun t => textAt (some r) t) (some t)) le_rfl)
        | some res =>
          simp only [elementsPrinted, Quantale.mul_iSup_distrib]
          refine iSup_le fun qs => ?_
          rw [mul_left_comm]
          refine fact_mul_le.2 ?_
          rintro ⟨hqs, rfl⟩
          refine le_iSup_of_le ((r, t) :: qs) (le_fact_mul ⟨?_, ?_⟩ ?_)
          · rw [List.map_cons, ← hqs]
            rfl
          · rw [show textsOf ((r, t) :: qs) = t :: textsOf qs from rfl, elementsSize, elementsSize,
              List.map_cons, List.sum_cons, Nat.add_assoc]
          · rw [textsAt_cons, List.append_assoc, List.singleton_append, mul_left_comm]
            exact le_rfl

theorem printObject_step (ih : PrintsAt g fmt fuel) (cs : List CJson) (item : Item) (prev : Ptr)
    (depth : ℕ) (es : List (Text × Text)) (hfuel : 3 * nodesList cs < fuel + 1)
    (hp : CJson.printEntries fmt (depth + 1) cs = .ok es) :
    Triple g (childrenAt cs item.child prev) (printObject fmt (fuel + 1) depth item) fun p =>
      printed g (CJson.composeObject fmt (depth + 1) es) p * childrenAt cs item.child prev := by
  have hlen := printEntries_length hp
  rw [printObject]
  refine (countEntries_spec cs item.child prev).bind fun n => Triple.fact_pre ?_
  rintro rfl
  refine (Triple.malloc _).step (one_mul _).symm fun entries => ?_
  cases entries with
  | none => exact Triple.fact_pre fun hd => Triple.pure (le_fact_mul hd le_rfl)
  | some entries =>
    refine (Triple.malloc _).step (one_mul _).symm fun names => ?_
    cases names with
    | none =>
      refine Triple.fact_pre fun hd => ?_
      refine (Triple.free entries _).step rfl fun _ => ?_
      rw [one_mul]
      exact Triple.pure (le_fact_mul hd le_rfl)
    | some names =>
      refine (ih.members cs names entries [] [] item.child prev (depth + 1) _ es (by omega) rfl hp
        (by simp)).bind fun len => ?_
      cases len with
      | none =>
        simp only [membersPrinted, Quantale.iSup_mul_distrib]
        refine Triple.exists_pre fun ps => Triple.exists_pre fun qs => ?_
        rw [mul_assoc]
        refine Triple.fact_pre fun hd => ?_
        have hgive := giveUpObject_spec hd.1 names entries ps qs (hd.2.1.trans hd.2.2.symm)
          (CJson.composeObject fmt (depth + 1) es)
        rw [hd.2.1, hlen] at hgive
        exact hgive.frame _
      | some len =>
        simp only [membersPrinted, Quantale.iSup_mul_distrib]
        refine Triple.exists_pre fun rows => ?_
        rw [mul_assoc]
        refine Triple.fact_pre ?_
        rintro ⟨rfl, hsize⟩
        have hcount : cs.length = rows.length := by rw [← hlen, rowTexts, List.length_map]
        obtain rfl := Option.some.inj hsize
        rw [hcount]
        exact (finishObject_spec fmt (depth + 1) names entries rows).frame _

/-- The output grows by a name and a value, or is given up. -/
theorem growLength_spec (depth : ℕ) (len : Option ℕ) (s t : Text) (str ret : Ptr) :
    Triple g (printed g s str * printed g t ret) (growLength fmt depth len str ret) fun r =>
      fact ((∃ sa ta, str = some sa ∧ ret = some ta ∧
          r = len.map (· + (t.length + s.length + 2 + if fmt then 2 + depth else 0))) ∨
        r = none ∧ Denied g) * (printed g s str * printed g t ret) := by
  have hfail : ∀ str ret, (printed g s str * printed g t ret ≤ fact (Denied g) *
      (printed g s str * printed g t ret)) → Triple g (printed g s str * printed g t ret)
      (pure none : HeapM Block (Option ℕ)) fun r =>
      fact ((∃ sa ta, str = some sa ∧ ret = some ta ∧
          r = len.map (· + (t.length + s.length + 2 + if fmt then 2 + depth else 0))) ∨
        r = none ∧ Denied g) * (printed g s str * printed g t ret) := by
    intro str ret h
    exact Triple.pure (h.trans (mul_le_mul' (fact_mono fun hd => Or.inr ⟨rfl, hd⟩) le_rfl))
  cases str with
  | none =>
    refine hfail none ret (fact_mul_le.2 fun hd => le_fact_mul hd (le_fact_mul hd le_rfl))
  | some sa =>
    cases ret with
    | none =>
      refine hfail (some sa) none ?_
      rw [mul_comm]
      exact fact_mul_le.2 fun hd => le_fact_mul hd (le_fact_mul hd le_rfl)
    | some ta =>
      refine (getText_spec sa s).step rfl fun r => ?_
      rw [mul_assoc]
      refine Triple.fact_pre ?_
      rintro rfl
      refine (getText_spec ta t).step (mul_comm _ _) fun r' => ?_
      rw [mul_assoc]
      refine Triple.fact_pre ?_
      rintro rfl
      refine Triple.pure (le_fact_mul (Or.inl ⟨sa, ta, rfl, rfl, rfl⟩) (le_of_eq ?_))
      exact mul_comm _ _

/-- `print_string_ptr(child->string)`. -/
theorem printName_spec {β : Type} {Q : β → HProp Block} (c : CJson) (a : Addr) (prev next : Ptr)
    {k : Ptr → HeapM Block β} {F : HProp Block}
    (h : ∀ str, Triple g (printed g (CJson.printStringPtr c.string) str * (itemAt c a prev next * F))
      (k str) Q) :
    Triple g (itemAt c a prev next * F)
      (do
        let item ← getItem a
        let str ← printStringPtr item.string
        k str) Q := by
  refine Triple.weaken ?_ (mul_le_mul' (itemAt_eq c a prev next).le le_rfl) fun _ => le_rfl
  simp only [Quantale.iSup_mul_distrib]
  refine Triple.exists_pre fun pc => Triple.exists_pre fun pv => Triple.exists_pre fun ps => ?_
  refine (getItem_spec a _).step (mul_assoc _ _ _) fun r => ?_
  rw [mul_assoc]
  refine Triple.fact_pre ?_
  rintro rfl
  refine (printStringPtr_spec ps c.string).step (F := pointsTo a (.item (cell c prev next pc pv ps)) *
    (textAt pv c.valuestring * (childrenAt c.child pc none * F))) (by ac_rfl) fun str => ?_
  refine (h str).weaken ?_ fun _ => le_rfl
  refine le_trans (le_of_eq ?_) (mul_le_mul' le_rfl
    (mul_le_mul' (le_itemAt c a prev next pc pv ps le_rfl) le_rfl))
  ac_rfl

theorem printMembers_nil (names entries : Addr) (front front' : List Ptr) (first prev : Ptr)
    (depth : ℕ) (len : Option ℕ) (hd : len = none → Denied g) :
    Triple g (pointsTo names (.pointers (front ++ List.replicate 0 none)) *
        (pointsTo entries (.pointers (front' ++ List.replicate 0 none)) * childrenAt [] first prev))
      (printMembers fmt fuel depth names entries front.length len first) fun r =>
      membersPrinted g fmt depth names entries front front' len [] r * childrenAt [] first prev := by
  cases first with
  | some a =>
    rw [childrenAt_nil_some, Quantale.mul_bot, Quantale.mul_bot]
    exact Triple.of_bot
  | none =>
    have hrun : printMembers fmt fuel depth names entries front.length len none = pure len := by
      cases fuel <;> rw [printMembers]
    rw [hrun, ← mul_assoc]
    refine Triple.pure (mul_le_mul' ?_ le_rfl)
    cases len with
    | none =>
      refine le_iSup_of_le [] (le_iSup_of_le [] (le_fact_mul ⟨hd rfl, rfl, rfl⟩ (le_of_eq ?_)))
      rw [heldAt, List.map_nil, List.prod_nil, mul_one, mul_one]
      rfl
    | some len =>
      refine le_iSup_of_le [] (le_fact_mul ⟨rfl, rfl⟩ (le_of_eq ?_))
      rw [List.map_nil, List.map_nil, textsAt, List.map_nil, List.prod_nil, mul_one, mul_one]
      rfl

/-- One more row in front of what the rest of the loop leaves. -/
theorem membersPrinted_cons (names entries : Addr) (front front' : List Ptr) (depth : ℕ)
    (len r : Option ℕ) (s t : Text) (str ret : Ptr) (rest : List (Text × Text))
    (hr : (∃ sa ta, str = some sa ∧ ret = some ta ∧
      r = len.map (· + (t.length + s.length + 2 + if fmt then 2 + depth else 0))) ∨
        r = none ∧ Denied g) (res : Option ℕ) :
    printed g s str * printed g t ret *
        membersPrinted g fmt depth names entries (front ++ [str]) (front' ++ [ret]) r rest res ≤
      membersPrinted g fmt depth names entries front front' len ((s, t) :: rest) res := by
  cases res with
  | none =>
    simp only [membersPrinted, Quantale.mul_iSup_distrib]
    refine iSup_le fun ps => iSup_le fun qs => ?_
    rw [mul_left_comm]
    refine fact_mul_le.2 fun hd => le_iSup_of_le (str :: ps) (le_iSup_of_le (ret :: qs)
      (le_fact_mul ⟨hd.1, by simp [hd.2.1], by simp [hd.2.2]⟩ ?_))
    rw [heldAt_cons, heldAt_cons, List.append_assoc, List.append_assoc, List.singleton_append,
      List.singleton_append]
    refine le_trans (mul_le_mul' (mul_le_mul' (printed_le s str) (printed_le t ret)) le_rfl)
      (le_of_eq ?_)
    ac_rfl
  | some res =>
    simp only [membersPrinted, Quantale.mul_iSup_distrib]
    refine iSup_le fun rows => ?_
    rw [mul_left_comm]
    refine fact_mul_le.2 ?_
    rintro ⟨hrows, hsize⟩
    rcases hr with ⟨sa, ta, rfl, rfl, rfl⟩ | ⟨rfl, -⟩
    swap
    · cases hsize
    refine le_iSup_of_le (((sa, s), (ta, t)) :: rows) (le_fact_mul ⟨?_, ?_⟩ ?_)
    · rw [← hrows]
      rfl
    · rw [← hsize, Option.map_map]
      congr 1
      funext l
      rw [membersSize, List.map_cons, List.sum_cons, ← membersSize]
      exact (Nat.add_assoc _ _ _).symm
    · simp only [List.map_cons, textsAt_cons]
      rw [show ∀ qs, pointersTo ((sa, s) :: qs) = some sa :: pointersTo qs from fun _ => rfl,
        show ∀ qs, pointersTo ((ta, t) :: qs) = some ta :: pointersTo qs from fun _ => rfl,
        List.append_assoc, List.append_assoc, List.singleton_append, List.singleton_append,
        show printed g s (some sa) = textAt (some sa) (some s) from rfl,
        show printed g t (some ta) = textAt (some ta) (some t) from rfl]
      exact le_of_eq (by ac_rfl)

theorem printMembers_step (ih : PrintsAt g fmt fuel) (cs : List CJson) (names entries : Addr)
    (front front' : List Ptr) (first prev : Ptr) (depth : ℕ) (len : Option ℕ)
    (es : List (Text × Text)) (hfuel : 3 * nodesList cs ≤ fuel + 1)
    (hf : front.length = front'.length) (hp : CJson.printEntries fmt depth cs = .ok es)
    (hd : len = none → Denied g) :
    Triple g (pointsTo names (.pointers (front ++ List.replicate cs.length none)) *
        (pointsTo entries (.pointers (front' ++ List.replicate cs.length none)) *
        childrenAt cs first prev))
      (printMembers fmt (fuel + 1) depth names entries front.length len first) fun r =>
      membersPrinted g fmt depth names entries front front' len es r * childrenAt cs first prev := by
  cases cs with
  | nil =>
    cases hp
    exact printMembers_nil names entries front front' first prev depth len hd
  | cons c cs =>
    obtain ⟨txt, rest, ht, hr, rfl⟩ := CJson.printEntries_cons hp
    have hnodes := nodes_eq c
    rw [nodesList] at hfuel
    cases first with
    | none =>
      rw [childrenAt_cons_none, Quantale.mul_bot, Quantale.mul_bot]
      exact Triple.of_bot
    | some a =>
      rw [childrenAt_cons_some, Quantale.mul_iSup_distrib, Quantale.mul_iSup_distrib, printMembers]
      refine Triple.exists_pre fun q => ?_
      have hback := le_iSup (fun q => itemAt c a prev q * childrenAt cs q (some a)) q
      rw [List.length_cons, List.replicate_succ,
        show pointsTo names (.pointers (front ++ none :: List.replicate cs.length none)) *
          (pointsTo entries (.pointers (front' ++ none :: List.replicate cs.length none)) *
          (itemAt c a prev q * childrenAt cs q (some a))) = itemAt c a prev q *
          (pointsTo names (.pointers (front ++ none :: List.replicate cs.length none)) *
          (pointsTo entries (.pointers (front' ++ none :: List.replicate cs.length none)) *
          childrenAt cs q (some a))) by ac_rfl]
      refine printName_spec c a prev q fun str => ?_
      refine (setPointer_spec names front none str _).step
        (F := printed g (CJson.printStringPtr c.string) str * (itemAt c a prev q *
          (pointsTo entries (.pointers (front' ++ none :: List.replicate cs.length none)) *
          childrenAt cs q (some a)))) (by ac_rfl) fun _ => ?_
      refine (ih.value c a prev q depth txt (by omega) ht).step
        (F := printed g (CJson.printStringPtr c.string) str *
          (pointsTo names (.pointers (front ++ str :: List.replicate cs.length none)) *
          (pointsTo entries (.pointers (front' ++ none :: List.replicate cs.length none)) *
          childrenAt cs q (some a)))) (by ac_rfl) fun ret => ?_
      rw [hf]
      refine (setPointer_spec entries front' none ret _).step
        (F := printed g (CJson.printStringPtr c.string) str * (printed g txt ret *
          (pointsTo names (.pointers (front ++ str :: List.replicate cs.length none)) *
          (itemAt c a prev q * childrenAt cs q (some a))))) (by ac_rfl) fun _ => ?_
      refine (growLength_spec depth len _ txt str ret).step
        (F := pointsTo entries (.pointers (front' ++ ret :: List.replicate cs.length none)) *
          (pointsTo names (.pointers (front ++ str :: List.replicate cs.length none)) *
          (itemAt c a prev q * childrenAt cs q (some a)))) (by ac_rfl) fun r => ?_
      rw [mul_assoc]
      refine Triple.fact_pre fun hgrow => ?_
      have hnone : r = none → Denied g := by
        rintro rfl
        rcases hgrow with ⟨sa, ta, -, -, hr⟩ | ⟨-, hdeny⟩
        · exact hd (by simpa using hr.symm)
        · exact hdeny
      refine (nextOf_spec c a prev q).step (F := printed g (CJson.printStringPtr c.string) str *
          (printed g txt ret *
          (pointsTo entries (.pointers (front' ++ ret :: List.replicate cs.length none)) *
          (pointsTo names (.pointers (front ++ str :: List.replicate cs.length none)) *
          childrenAt cs q (some a))))) (by ac_rfl) fun q' => ?_
      rw [mul_assoc]
      refine Triple.fact_pre ?_
      rintro rfl
      have hnext := ih.members cs names entries (front ++ [str]) (front' ++ [ret]) q' (some a) depth r
        rest (by omega) (by simp [hf]) hr hnone
      rw [List.length_append, List.append_assoc, List.append_assoc, List.singleton_append,
        List.singleton_append, hf] at hnext
      refine hnext.last (F := printed g (CJson.printStringPtr c.string) str * (printed g txt ret *
        itemAt c a prev q')) (by ac_rfl) fun res => ?_
      refine le_trans (le_of_eq ?_) (mul_le_mul' (membersPrinted_cons names entries front front' depth
        len r _ txt str ret rest hgrow res) hback)
      ac_rfl

end

theorem printsAt_zero (fmt : Bool) : PrintsAt g fmt 0 where
  value c a prev next depth txt hfuel := by
    have := nodes_eq c
    omega
  array cs item prev depth es hfuel := absurd hfuel (by omega)
  elements cs entries front first prev depth len es hfuel hp := by
    cases cs with
    | nil =>
      cases hp
      exact printElements_nil entries front first prev depth len
    | cons c cs =>
      have := nodes_eq c
      rw [nodesList] at hfuel
      omega
  object cs item prev depth es hfuel := absurd hfuel (by omega)
  members cs names entries front front' first prev depth len es hfuel hf hp hd := by
    cases cs with
    | nil =>
      cases hp
      exact printMembers_nil names entries front front' first prev depth len hd
    | cons c cs =>
      have := nodes_eq c
      rw [nodesList] at hfuel
      omega

theorem printsAt (fmt : Bool) (fuel : ℕ) : PrintsAt g fmt fuel := by
  induction fuel with
  | zero => exact printsAt_zero fmt
  | succ fuel ih =>
    exact
      { value := printValue_step ih
        array := printArray_step ih
        elements := printElements_step ih
        object := printObject_step ih
        members := printMembers_step ih }

/-- **Printing**, of a tree whose numbers fit the number buffer.  The text of `CJson.printValue` in a
block of its own, or nothing at all. -/
theorem print_spec {fmt : Bool} {c : CJson} {txt : Text} (h : CJson.printValue fmt 0 c = .ok txt)
    (a : Addr) (prev next : Ptr) :
    Triple g (itemAt c a prev next) (print fmt (some a)) fun p =>
      printed g txt p * itemAt c a prev next := by
  refine (Triple.bound (occupies_itemAt c a prev next)).bind fun b => Triple.fact_pre fun hb => ?_
  exact (printsAt fmt (3 * b)).value c a prev next 0 txt (by omega) h

end

end CJsonHeap

end SingleTerminalLogin
