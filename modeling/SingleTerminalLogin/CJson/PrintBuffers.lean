import SingleTerminalLogin.CJson.Formatted
import SingleTerminalLogin.CJson.HeapPrint
import SingleTerminalLogin.CJson.Members
import SingleTerminalLogin.CJson.Owned
import SingleTerminalLogin.Lib.Rounding

/-!
# The buffers of the printers

What `print_number`, `print_string_ptr` and the loops that compose an array or an object write fits
the blocks that were measured for it.

* `fillNew_spec` — a block that is filled in at once;
* `finishArray_spec`, `finishObject_spec` — one that is filled in from other blocks, each of which is
  freed once it has been copied;
* `giveUpArray_spec`, `giveUpObject_spec` — what is freed when there is no such block.
-/

namespace SingleTerminalLogin

open ByteText Binary64 CProgram SepLogic HProp HeapM

namespace CJsonHeap

/-! ## What the blocks hold -/

section

variable {g : Grants}

/-- A block of `size` bytes with this C string in it. -/
noncomputable def charsAt (a : Addr) (size : ℕ) (t : Text) : HProp Block :=
  ⨆ b : CharBlock, fact (b.size = size ∧ b.text = some t) * pointsTo a (.chars b)

/-- What a printing function hands out. -/
noncomputable def printed (g : Grants) (t : Text) : Ptr → HProp Block :=
  orNull g fun a => textAt (some a) (some t)

theorem charsAt_le (a : Addr) (size : ℕ) (t : Text) : charsAt a size t ≤ textAt (some a) (some t) := by
  rw [textAt]
  exact iSup_mono fun b => fact_mul_le.2 fun hb => le_fact_mul hb.2 le_rfl

theorem mallocChars_spec (size : ℕ) :
    Triple g 1 (mallocChars size)
      (orNull g fun a => pointsTo a (.chars ⟨size, none, by simp⟩)) :=
  Triple.malloc _

/-- The first bytes that go into a block. -/
theorem startText_spec (a : Addr) (size : ℕ) {bytes : Text} (hn : NoNul bytes)
    (h : bytes.length < size) :
    Triple g (pointsTo a (.chars ⟨size, none, by simp⟩)) (writeText a bytes) fun _ =>
      charsAt a size bytes := by
  refine (Triple.load a _).bind fun v => Triple.fact_pre ?_
  rintro rfl
  simp only [h, ↓reduceDIte]
  refine (Triple.store a _ _).weaken le_rfl fun _ => ?_
  exact le_iSup_of_le _ (le_fact_mul ⟨rfl, congrArg some (cstr_eq_self hn)⟩ le_rfl)

/-- More bytes behind them. -/
theorem appendText_spec (a : Addr) {size : ℕ} {t bytes : Text} (h : (t ++ bytes).length < size) :
    Triple g (charsAt a size t) (appendText a bytes) fun _ => charsAt a size (t ++ bytes) := by
  refine Triple.exists_pre fun b => Triple.fact_pre ?_
  rcases b with ⟨n, u, fits⟩
  rintro ⟨rfl, rfl⟩
  refine (Triple.load a _).bind fun v => Triple.fact_pre ?_
  rintro rfl
  simp only [h, ↓reduceDIte]
  refine (Triple.store a _ _).weaken le_rfl fun _ => ?_
  exact le_iSup_of_le ⟨n, some (t ++ bytes), fun _ ht => by cases ht; exact h⟩
    (le_fact_mul ⟨rfl, rfl⟩ le_rfl)

theorem getPointer_spec (a : Addr) (front : List Ptr) (p : Ptr) (back : List Ptr) :
    Triple g (pointsTo a (.pointers (front ++ p :: back))) (getPointer a front.length) fun r =>
      fact (r = p) * pointsTo a (.pointers (front ++ p :: back)) := by
  refine (Triple.load a _).bind fun v => Triple.fact_pre ?_
  rintro rfl
  have hlt : front.length < (front ++ p :: back).length := by simp
  simp only [hlt, ↓reduceDIte]
  exact Triple.pure (le_fact_mul (by simp) le_rfl)

theorem setPointer_spec (a : Addr) (front : List Ptr) (p q : Ptr) (back : List Ptr) :
    Triple g (pointsTo a (.pointers (front ++ p :: back))) (setPointer a front.length q) fun _ =>
      pointsTo a (.pointers (front ++ q :: back)) := by
  refine (Triple.load a _).bind fun v => Triple.fact_pre ?_
  rintro rfl
  have hlt : front.length < (front ++ p :: back).length := by simp
  simp only [hlt, if_true]
  refine (Triple.store a _ _).weaken le_rfl fun _ => ?_
  simp

theorem strdup_printed (s : Text) : Triple g 1 (strdup s) (printed g s) := by
  refine (Triple.malloc _).weaken le_rfl fun p => ?_
  cases p with
  | none => exact le_rfl
  | some a =>
    change pointsTo a _ ≤ textAt (some a) (some s)
    rw [textAt]
    exact le_iSup_of_le _ (le_fact_mul rfl le_rfl)

/-- A function that takes a block and fills it. -/
theorem fillNew_spec {size : ℕ} {bytes : Text} (hn : NoNul bytes) (h : bytes.length < size) :
    Triple g 1
      (do
        unlessNull (← mallocChars size) fun out => do
          writeText out bytes
          pure (some out))
      (printed g bytes) := by
  refine (mallocChars_spec size).bind fun p => ?_
  cases p with
  | none => exact Triple.pure le_rfl
  | some a => exact (startText_spec a size hn h).bind fun _ => Triple.pure (charsAt_le a size bytes)

/-! ## Numbers and strings -/

theorem stringSize_eq (s : Text) : stringSize s = (CJson.escape s).length := by
  have hbyte : ∀ c : Byte, (1 + if c ∈ ([34, 92, 8, 12, 10, 13, 9] : Text) then 1
      else if c < 32 then 5 else 0) = (CJson.escapeByte c).length := by
    have htable : ∀ n < 256, (1 + if UInt8.ofNat n ∈ ([34, 92, 8, 12, 10, 13, 9] : Text) then 1
        else if UInt8.ofNat n < 32 then 5 else 0) = (CJson.escapeByte (UInt8.ofNat n)).length := by
      decide +kernel
    intro c
    simpa using htable c.toNat c.toNat_lt
  induction s with
  | nil => rfl
  | cons c cs ih =>
    rw [stringSize, ih, hbyte]
    simp [CJson.escape]

/-- Nothing `print_string_ptr` writes is a zero. -/
theorem noNul_escape (s : Text) : NoNul (CJson.escape s) := by
  have htable : ∀ n < 256, 0 ∉ CJson.escapeByte (UInt8.ofNat n) := by decide +kernel
  intro c hc hzero
  obtain ⟨d, -, hd⟩ := List.mem_flatMap.1 hc
  have := htable d.toNat d.toNat_lt
  rw [UInt8.ofNat_toNat] at this
  exact this (hzero ▸ hd)

theorem printStringPtr_spec (p : Ptr) (t : Option Text) :
    Triple g (textAt p t) (printStringPtr p) fun r =>
      printed g (CJson.printStringPtr t) r * textAt p t := by
  refine (textOf_spec p t).bind fun r => Triple.fact_pre ?_
  rintro rfl
  cases r with
  | none => exact (strdup_printed []).last (one_mul _).symm fun r => le_rfl
  | some s =>
    have hn : NoNul (34 :: CJson.escape s ++ [34]) :=
      noNul_append (noNul_append (s := [34]) (noNul_of_notMem (by decide)) (noNul_escape s))
        (noNul_of_notMem (by decide))
    have hlen : (34 :: CJson.escape s ++ [34]).length < stringSize s + 3 := by
      rw [stringSize_eq]
      simp
    exact (fillNew_spec hn hlen).last (one_mul _).symm fun r => le_rfl

theorem noNul_numberText (c : CJson) : NoNul (CJson.numberText c) := by
  cases hf : CJson.finite c.valuedouble with
  | true => exact (CJson.numberToken_numberText hf).noNul
  | false =>
    rcases CJson.numberText_special hf with h | h | h <;> rw [h] <;> exact noNul_of_notMem (by decide)

/-- A number that is printed as an integer is near one of 32 bits. -/
theorem natAbs_lt_of_printsAsInt {item : Item} (h : printsAsInt item) :
    item.valueint.natAbs < 2 ^ 53 := by
  obtain ⟨hnear, hmax, hmin⟩ := h
  cases hd : item.valuedouble with
  | nan => rw [hd] at hmax; cases hmax
  | inf neg => rw [hd] at hmax hmin; cases neg <;> simp [le] at hmax hmin
  | fin q =>
    rw [hd] at hnear hmax hmin
    simp only [le, decide_eq_true_eq] at hmax hmin
    exact natAbs_lt_of_near hnear (abs_le.2 ⟨by linarith, by linarith⟩)

/-- `"%lld"` fits 21 bytes, every other format fits 64 bytes when the tree printer returns. -/
theorem numberText_fits (item : Item) {c : CJson} (hi : item.valueint = c.valueint)
    (hd : item.valuedouble = c.valuedouble) (h : (CJson.numberText c).length < 64) :
    (CJson.numberText c).length < if printsAsInt item then 21 else 64 := by
  split
  · rename_i hint
    have hbits := natAbs_lt_of_printsAsInt hint
    rw [printsAsInt, hi, hd] at hint
    rw [hi] at hbits
    rw [CJson.numberText, if_pos hint, intText]
    split
    · have := CJson.natText_length_lt (k := 18) (n := c.valueint.natAbs) (by omega)
      simp only [List.length_cons]
      omega
    · have := CJson.natText_length_lt (k := 18) (n := c.valueint.toNat) (by omega)
      omega
  · exact h

/-! ## Arrays -/

/-- Texts, each in the block at its address. -/
noncomputable def textsAt (qs : List (Addr × Text)) : HProp Block :=
  (qs.map fun q => textAt (some q.1) (some q.2)).prod

/-- The pointers to them. -/
def pointersTo (qs : List (Addr × Text)) : List Ptr := qs.map fun q => some q.1

/-- The texts without their blocks. -/
def textsOf (qs : List (Addr × Text)) : List Text := qs.map Prod.snd

/-- A text at every pointer that is not null. -/
noncomputable def heldAt (ps : List Ptr) : HProp Block :=
  (ps.map fun p => ⨆ t : Option Text, textAt p t).prod

theorem textsAt_cons (q : Addr × Text) (qs : List (Addr × Text)) :
    textsAt (q :: qs) = textAt (some q.1) (some q.2) * textsAt qs := List.prod_cons

theorem heldAt_cons (p : Ptr) (ps : List Ptr) :
    heldAt (p :: ps) = (⨆ t : Option Text, textAt p t) * heldAt ps := List.prod_cons

theorem textsAt_le (qs : List (Addr × Text)) : textsAt qs ≤ heldAt (pointersTo qs) := by
  induction qs with
  | nil => exact le_rfl
  | cons q qs ih =>
    rw [textsAt_cons, pointersTo, List.map_cons, heldAt_cons]
    exact mul_le_mul' (le_iSup (fun t => textAt (some q.1) t) (some q.2)) ih

/-- Pointers nobody has filled in yet. -/
theorem heldAt_replicate (n : ℕ) : heldAt (List.replicate n none) = 1 := by
  induction n with
  | zero => rfl
  | succ n ih =>
    rw [List.replicate_succ, heldAt_cons, ih, mul_one]
    apply le_antisymm
    · refine iSup_le fun t => ?_
      cases t with
      | none => exact le_rfl
      | some t => exact bot_le
    · exact le_iSup (fun t => textAt none t) none

theorem freeHeld_spec (p : Ptr) :
    Triple g (⨆ t : Option Text, textAt p t) (freePtr p) fun _ => 1 :=
  Triple.exists_pre fun t => freePtr_spec p t

theorem freeElements_spec (entries : Addr) (front ps : List Ptr) :
    Triple g (pointsTo entries (.pointers (front ++ ps)) * heldAt ps)
      (freeElements entries front.length ps.length)
      fun _ => pointsTo entries (.pointers (front ++ ps)) := by
  induction ps generalizing front with
  | nil => exact Triple.pure (by rw [heldAt, List.map_nil, List.prod_nil, mul_one])
  | cons p ps ih =>
    rw [heldAt_cons]
    refine (getPointer_spec entries front p ps).step rfl fun r => ?_
    rw [mul_assoc]
    refine Triple.fact_pre ?_
    rintro rfl
    refine (freeHeld_spec r).step (mul_left_comm _ _ _) fun _ => ?_
    rw [one_mul]
    have hnext := ih (front ++ [r])
    rwa [List.append_assoc, List.length_append, List.singleton_append] at hnext

/-- `print_array` without memory for its output. -/
theorem giveUpArray_spec (hd : Denied g) (entries : Addr) (ps : List Ptr) (t : Text) :
    Triple g (pointsTo entries (.pointers ps) * heldAt ps)
      (do
        freeElements entries 0 ps.length
        free entries
        pure none)
      (printed g t) := by
  refine (freeElements_spec entries [] ps).bind fun _ => ?_
  refine (Triple.free entries _).bind fun _ => Triple.pure ?_
  exact le_of_eq (fact_of hd).symm

/-- How much `print_array` adds to `len` for its entries. -/
def elementsSize (fmt : Bool) (ts : List Text) : ℕ :=
  (ts.map fun t => t.length + 2 + if fmt then 1 else 0).sum

theorem composeElements_length (fmt : Bool) (ts : List Text) :
    (CJson.composeElements fmt ts).length ≤ elementsSize fmt ts := by
  induction ts with
  | nil => exact le_rfl
  | cons t ts ih =>
    have hsep : (if ts = [] then ([] : Text) else 44 :: if fmt then [32] else []).length ≤
        2 + if fmt then 1 else 0 := by
      split <;> cases fmt <;> simp
    rw [CJson.composeElements, elementsSize, List.map_cons, List.sum_cons, ← elementsSize]
    simp only [List.length_append]
    omega

theorem lt_of_append {s t : Text} {n : ℕ} (h : (s ++ t).length < n) : s.length < n := by
  rw [List.length_append] at h
  omega

/-- The loop appends one entry after the other, and frees it. -/
theorem composeElements_spec (fmt : Bool) (out entries : Addr) {size n : ℕ} (front : List Ptr)
    (qs : List (Addr × Text)) (t : Text) (hn : n = front.length + qs.length)
    (h : (t ++ CJson.composeElements fmt (textsOf qs)).length < size) :
    Triple g (charsAt out size t * (pointsTo entries (.pointers (front ++ pointersTo qs)) * textsAt qs))
      (composeElements fmt out entries n front.length qs.length)
      fun _ => charsAt out size (t ++ CJson.composeElements fmt (textsOf qs)) *
        pointsTo entries (.pointers (front ++ pointersTo qs)) := by
  induction qs generalizing front t with
  | nil =>
    refine Triple.pure (le_of_eq ?_)
    rw [textsAt, List.map_nil, List.prod_nil, mul_one, textsOf, List.map_nil, CJson.composeElements,
      List.append_nil]
  | cons q qs ih =>
    have hlast : front.length + 1 = n ↔ textsOf qs = [] := by
      rw [textsOf, List.map_eq_nil_iff, ← List.length_eq_zero_iff]
      simp only [List.length_cons] at hn
      omega
    have hcons : CJson.composeElements fmt (textsOf (q :: qs)) = q.2 ++
        ((if textsOf qs = [] then [] else 44 :: if fmt then [32] else []) ++
          CJson.composeElements fmt (textsOf qs)) := by
      rw [← List.append_assoc]
      rfl
    rw [hcons, ← List.append_assoc, ← List.append_assoc] at h ⊢
    have h2 := lt_of_append h
    have h1 := lt_of_append h2
    rw [textsAt_cons, show pointersTo (q :: qs) = some q.1 :: pointersTo qs from rfl]
    refine (getPointer_spec entries front (some q.1) (pointersTo qs)).step
      (mul_left_comm _ _ _) fun r => ?_
    rw [mul_assoc]
    refine Triple.fact_pre ?_
    rintro rfl
    rw [nonNull_some_bind]
    refine (getText_spec q.1 q.2).step (F := pointsTo entries (.pointers (front ++ some q.1 ::
      pointersTo qs)) * (charsAt out size t * textsAt qs)) (by ac_rfl) fun r => ?_
    rw [mul_assoc]
    refine Triple.fact_pre ?_
    rintro rfl
    refine (appendText_spec out h1).step
      (F := textAt (some q.1) (some q.2) * (pointsTo entries (.pointers (front ++ some q.1 ::
        pointersTo qs)) * textsAt qs)) (by ac_rfl) fun _ => ?_
    simp only [hlast]
    refine (appendText_spec out h2).step rfl fun _ => ?_
    refine (freePtr_spec (some q.1) (some q.2)).step (mul_left_comm _ _ _) fun _ => ?_
    rw [one_mul]
    have hnext := ih (front ++ [some q.1]) _
      (by simp only [List.length_append, List.length_cons, List.length_nil] at hn ⊢; omega) h
    rwa [List.length_append, List.append_assoc front, List.singleton_append] at hnext

/-- `print_array` with the texts of all its items. -/
theorem finishArray_spec (fmt : Bool) (entries : Addr) (qs : List (Addr × Text)) :
    Triple g (pointsTo entries (.pointers (pointersTo qs)) * textsAt qs)
      (finishArray fmt qs.length entries (some (5 + elementsSize fmt (textsOf qs))))
      (printed g (CJson.composeArray fmt (textsOf qs))) := by
  have hlen := composeElements_length fmt (textsOf qs)
  refine (mallocChars_spec _).step (one_mul _).symm fun out => ?_
  cases out with
  | none =>
    refine Triple.fact_pre fun hd => ?_
    have hgive := giveUpArray_spec hd entries (pointersTo qs) (CJson.composeArray fmt (textsOf qs))
    rw [pointersTo, List.length_map] at hgive
    exact hgive.weaken (mul_le_mul' le_rfl (textsAt_le qs)) fun _ => le_rfl
  | some out =>
    have hstart : ([91] : Text).length < 5 + elementsSize fmt (textsOf qs) := by simp; omega
    have hall : ([91] ++ CJson.composeElements fmt (textsOf qs) ++ [93]).length <
        5 + elementsSize fmt (textsOf qs) := by simp; omega
    refine (startText_spec out _ (noNul_of_notMem (by decide)) hstart).step rfl fun _ => ?_
    refine (composeElements_spec fmt out entries [] qs [91] (by simp) (lt_of_append hall)).bind
      fun _ => ?_
    refine (Triple.free entries _).step (mul_comm _ _) fun _ => ?_
    rw [one_mul]
    exact (appendText_spec out hall).bind fun _ => Triple.pure (charsAt_le out _ _)

/-! ## Objects -/

/-- A name and a value, each with its block. -/
abbrev Row := (Addr × Text) × (Addr × Text)

/-- The texts of a row. -/
def rowTexts (rows : List Row) : List (Text × Text) := rows.map fun r => (r.1.2, r.2.2)

theorem freeMembers_spec (names entries : Addr) (front front' ps qs : List Ptr)
    (hf : front.length = front'.length) (hl : ps.length = qs.length) :
    Triple g (pointsTo names (.pointers (front ++ ps)) * (pointsTo entries (.pointers (front' ++ qs)) *
        (heldAt ps * heldAt qs)))
      (freeMembers names entries front.length ps.length)
      fun _ => pointsTo names (.pointers (front ++ ps)) *
        pointsTo entries (.pointers (front' ++ qs)) := by
  induction ps generalizing front front' qs with
  | nil =>
    obtain rfl : qs = [] := List.length_eq_zero_iff.1 hl.symm
    refine Triple.pure (le_of_eq ?_)
    rw [heldAt, List.map_nil, List.prod_nil, mul_one, mul_one]
  | cons p ps ih =>
    obtain ⟨q, qs, rfl⟩ := List.exists_cons_of_length_eq_add_one hl.symm
    rw [heldAt_cons, heldAt_cons]
    refine (getPointer_spec names front p ps).step rfl fun r => ?_
    rw [mul_assoc]
    refine Triple.fact_pre ?_
    rintro rfl
    refine (freeHeld_spec r).step (F := pointsTo names (.pointers (front ++ r :: ps)) *
      (pointsTo entries (.pointers (front' ++ q :: qs)) *
        ((⨆ t, textAt q t) * (heldAt ps * heldAt qs)))) (by ac_rfl) fun _ => ?_
    rw [one_mul, hf]
    refine (getPointer_spec entries front' q qs).step (mul_left_comm _ _ _) fun r' => ?_
    rw [mul_assoc]
    refine Triple.fact_pre ?_
    rintro rfl
    refine (freeHeld_spec r').step (F := pointsTo names (.pointers (front ++ r :: ps)) *
      (pointsTo entries (.pointers (front' ++ r' :: qs)) * (heldAt ps * heldAt qs))) (by ac_rfl)
      fun _ => ?_
    rw [one_mul]
    have hnext := ih (front ++ [r]) (front' ++ [r']) qs (by simp [hf]) (by simpa using hl)
    rwa [List.append_assoc, List.append_assoc, List.length_append, List.singleton_append,
      List.singleton_append, hf] at hnext

/-- `print_object` without memory for a text of it. -/
theorem giveUpObject_spec (hd : Denied g) (names entries : Addr) (ps qs : List Ptr)
    (hl : ps.length = qs.length) (t : Text) :
    Triple g (pointsTo names (.pointers ps) * (pointsTo entries (.pointers qs) *
        (heldAt ps * heldAt qs)))
      (do
        freeMembers names entries 0 ps.length
        free names
        free entries
        pure none)
      (printed g t) := by
  refine (freeMembers_spec names entries [] [] ps qs rfl hl).bind fun _ => ?_
  refine (Triple.free names _).step rfl fun _ => ?_
  rw [one_mul]
  refine (Triple.free entries _).bind fun _ => Triple.pure ?_
  exact le_of_eq (fact_of hd).symm

/-- How much `print_object` adds to `len` for its entries. -/
def membersSize (fmt : Bool) (depth : ℕ) (es : List (Text × Text)) : ℕ :=
  (es.map fun e => e.2.length + e.1.length + 2 + if fmt then 2 + depth else 0).sum

theorem composeMembers_length (fmt : Bool) (depth : ℕ) (es : List (Text × Text)) :
    (CJson.composeMembers fmt depth es).length ≤ membersSize fmt depth es := by
  induction es with
  | nil => exact le_rfl
  | cons e es ih =>
    have hcomma : (if es = [] then ([] : Text) else [44]).length ≤ 1 := by split <;> simp
    rw [CJson.composeMembers, membersSize, List.map_cons, List.sum_cons, ← membersSize]
    simp only [List.length_append, List.length_cons]
    cases fmt
    · simp only [Bool.false_eq_true, if_false, List.length_nil]
      omega
    · simp only [if_true, List.length_replicate, List.length_cons, List.length_nil]
      omega

/-- The loop appends one member after the other, and frees its texts. -/
theorem composeMembers_spec (fmt : Bool) (depth : ℕ) (out names entries : Addr) {size n : ℕ}
    (front front' : List Ptr) (hf : front.length = front'.length) (rows : List Row) (t : Text)
    (hn : n = front.length + rows.length)
    (h : (t ++ CJson.composeMembers fmt depth (rowTexts rows)).length < size) :
    Triple g (charsAt out size t *
        (pointsTo names (.pointers (front ++ pointersTo (rows.map Prod.fst))) *
        (pointsTo entries (.pointers (front' ++ pointersTo (rows.map Prod.snd))) *
        (textsAt (rows.map Prod.fst) * textsAt (rows.map Prod.snd)))))
      (composeMembers fmt depth out names entries n front.length rows.length)
      fun _ => charsAt out size (t ++ CJson.composeMembers fmt depth (rowTexts rows)) *
        (pointsTo names (.pointers (front ++ pointersTo (rows.map Prod.fst))) *
        pointsTo entries (.pointers (front' ++ pointersTo (rows.map Prod.snd)))) := by
  induction rows generalizing front front' t with
  | nil =>
    refine Triple.pure (le_of_eq ?_)
    rw [List.map_nil, List.map_nil, textsAt, List.map_nil, List.prod_nil, mul_one, mul_one, rowTexts,
      List.map_nil, CJson.composeMembers, List.append_nil]
  | cons row rows ih =>
    rcases row with ⟨⟨na, nt⟩, ⟨va, vt⟩⟩
    have hlast : front.length + 1 = n ↔ rowTexts rows = [] := by
      rw [rowTexts, List.map_eq_nil_iff, ← List.length_eq_zero_iff]
      simp only [List.length_cons] at hn
      omega
    have hcons : t ++ CJson.composeMembers fmt depth (rowTexts (((na, nt), (va, vt)) :: rows)) =
        t ++ (if fmt then List.replicate depth 9 else []) ++ nt ++ (58 :: if fmt then [9] else []) ++ vt ++
          (if rowTexts rows = [] then [] else [44]) ++ (if fmt then [10] else []) ++
          CJson.composeMembers fmt depth (rowTexts rows) := by
      rw [rowTexts, List.map_cons, CJson.composeMembers, ← rowTexts]
      simp only [List.append_assoc]
    rw [hcons] at h ⊢
    have h6 := lt_of_append h
    have h5 := lt_of_append h6
    have h4 := lt_of_append h5
    have h3 := lt_of_append h4
    have h2 := lt_of_append h3
    have h1 := lt_of_append h2
    simp only [List.map_cons, textsAt_cons]
    rw [show ∀ qs, pointersTo ((na, nt) :: qs) = some na :: pointersTo qs from fun _ => rfl,
      show ∀ qs, pointersTo ((va, vt) :: qs) = some va :: pointersTo qs from fun _ => rfl]
    refine (appendText_spec out h1).step rfl fun _ => ?_
    generalize (t ++ if fmt then List.replicate depth 9 else []) = t1 at *
    refine (getPointer_spec names front (some na) _).step (mul_left_comm _ _ _) fun r => ?_
    rw [mul_assoc]
    refine Triple.fact_pre ?_
    rintro rfl
    rw [nonNull_some_bind]
    refine (getText_spec na nt).step (F := charsAt out size t1 *
      (pointsTo names (.pointers (front ++ some na :: pointersTo (rows.map Prod.fst))) *
      (pointsTo entries (.pointers (front' ++ some va :: pointersTo (rows.map Prod.snd))) *
      (textsAt (rows.map Prod.fst) * (textAt (some va) (some vt) * textsAt (rows.map Prod.snd))))))
      (by ac_rfl) fun r => ?_
    rw [mul_assoc]
    refine Triple.fact_pre ?_
    rintro rfl
    refine (appendText_spec out h2).step (mul_left_comm _ _ _) fun _ => ?_
    refine (appendText_spec out h3).step rfl fun _ => ?_
    generalize (t1 ++ r ++ 58 :: if fmt then [9] else []) = t3 at *
    rw [hf]
    refine (getPointer_spec entries front' (some va) _).step
      (F := charsAt out size t3 * (textAt (some na) (some r) *
      (pointsTo names (.pointers (front ++ some na :: pointersTo (rows.map Prod.fst))) *
      (textsAt (rows.map Prod.fst) * (textAt (some va) (some vt) * textsAt (rows.map Prod.snd))))))
      (by ac_rfl) fun r' => ?_
    rw [mul_assoc]
    refine Triple.fact_pre ?_
    rintro rfl
    rw [nonNull_some_bind]
    refine (getText_spec va vt).step (F := charsAt out size t3 * (textAt (some na) (some r) *
      (pointsTo names (.pointers (front ++ some na :: pointersTo (rows.map Prod.fst))) *
      (pointsTo entries (.pointers (front' ++ some va :: pointersTo (rows.map Prod.snd))) *
      (textsAt (rows.map Prod.fst) * textsAt (rows.map Prod.snd))))))
      (by ac_rfl) fun r' => ?_
    rw [mul_assoc]
    refine Triple.fact_pre ?_
    rintro rfl
    refine (appendText_spec out h4).step (mul_left_comm _ _ _) fun _ => ?_
    rw [← hf]
    simp only [hlast]
    refine (appendText_spec out h5).step rfl fun _ => ?_
    refine (appendText_spec out h6).step rfl fun _ => ?_
    generalize (t3 ++ r' ++ (if rowTexts rows = [] then [] else [44]) ++ if fmt then [10] else []) = t6
      at *
    refine (freePtr_spec (some na) (some r)).step (F := charsAt out size t6 *
      (textAt (some va) (some r') *
      (pointsTo names (.pointers (front ++ some na :: pointersTo (rows.map Prod.fst))) *
      (pointsTo entries (.pointers (front' ++ some va :: pointersTo (rows.map Prod.snd))) *
      (textsAt (rows.map Prod.fst) * textsAt (rows.map Prod.snd))))))
      (by ac_rfl) fun _ => ?_
    rw [one_mul]
    refine (freePtr_spec (some va) (some r')).step (mul_left_comm _ _ _) fun _ => ?_
    rw [one_mul]
    have hnext := ih (front ++ [some na]) (front' ++ [some va]) (by simp [hf]) _
      (by simp only [List.length_append, List.length_cons, List.length_nil] at hn ⊢; omega) h
    rwa [List.length_append, List.append_assoc front, List.append_assoc front', List.singleton_append,
      List.singleton_append] at hnext

/-- `print_object` with the texts of all its members. -/
theorem finishObject_spec (fmt : Bool) (depth : ℕ) (names entries : Addr) (rows : List Row) :
    Triple g (pointsTo names (.pointers (pointersTo (rows.map Prod.fst))) *
        (pointsTo entries (.pointers (pointersTo (rows.map Prod.snd))) *
        (textsAt (rows.map Prod.fst) * textsAt (rows.map Prod.snd))))
      (finishObject fmt depth rows.length names entries
        (some (7 + (if fmt then depth else 0) + membersSize fmt depth (rowTexts rows))))
      (printed g (CJson.composeObject fmt depth (rowTexts rows))) := by
  have hlen := composeMembers_length fmt depth (rowTexts rows)
  refine (mallocChars_spec _).step (one_mul _).symm fun out => ?_
  cases out with
  | none =>
    refine Triple.fact_pre fun hd => ?_
    have hgive := giveUpObject_spec hd names entries (pointersTo (rows.map Prod.fst))
      (pointersTo (rows.map Prod.snd)) (by simp [pointersTo])
      (CJson.composeObject fmt depth (rowTexts rows))
    rw [show (pointersTo (rows.map Prod.fst)).length = rows.length by simp [pointersTo]] at hgive
    exact hgive.weaken (mul_le_mul' le_rfl (mul_le_mul' le_rfl
      (mul_le_mul' (textsAt_le _) (textsAt_le _)))) fun _ => le_rfl
  | some out =>
    have hall : ((123 :: if fmt then [10] else []) ++ CJson.composeMembers fmt depth (rowTexts rows) ++
        (if fmt then List.replicate (depth - 1) 9 else []) ++ [125]).length <
        7 + (if fmt then depth else 0) + membersSize fmt depth (rowTexts rows) := by
      cases fmt <;> simp <;> omega
    have h3 := lt_of_append hall
    have h2 := lt_of_append h3
    have hnul : NoNul (123 :: if fmt then [10] else []) :=
      noNul_of_notMem (by cases fmt <;> decide)
    refine (startText_spec out _ hnul (lt_of_append h2)).step rfl fun _ => ?_
    refine (composeMembers_spec fmt depth out names entries [] [] rfl rows _ (by simp) h2).bind
      fun _ => ?_
    refine (Triple.free names _).step (mul_left_comm _ _ _) fun _ => ?_
    rw [one_mul]
    refine (Triple.free entries _).step (mul_comm _ _) fun _ => ?_
    rw [one_mul]
    refine (appendText_spec out h3).bind fun _ => ?_
    refine (appendText_spec out hall).bind fun _ => Triple.pure ?_
    refine (charsAt_le out _ _).trans (le_of_eq ?_)
    rw [CJson.composeObject]
    simp only [List.cons_append, List.append_assoc]
    rfl

end

end CJsonHeap

end SingleTerminalLogin
