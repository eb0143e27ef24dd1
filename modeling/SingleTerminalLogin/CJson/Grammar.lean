import SingleTerminalLogin.Lib.JsonText
import SingleTerminalLogin.CJson.Relay

/-!
# Every JSON text is read

`parse` accepts more than JSON: what stands behind the value is ignored, a number may lack its
digits, a string may hold line breaks.  This file is about the other direction.  Whatever white
space, escapes and spelling of numbers a peer chooses, a JSON text is read to its end, and the tree
is the one the grammar of `JsonText` gives it: `parse_document`.
-/

namespace SingleTerminalLogin

open ByteText Binary64 CProgram JsonText

namespace CJson

/-- The tree that stands for a value. -/
def tree : Algebra CJson where
  null := { newItem with type := .NULL }
  bool b := if b then { newItem with type := .True, valueint := 1 } else { newItem with type := .False }
  number t := numberOf t
  string s := { newItem with type := .String, valuestring := some s }
  array vs := { newItem with type := .Array, child := vs }
  object ms :=
    { newItem with type := .Object, child := ms.map fun m => { m.2 with string := some m.1 } }

/-! ## White space -/

theorem skip_ws {w : Text} (hw : Ws w) (t : Text) : skip (w ++ t) = skip t := by
  induction w with
  | nil => rfl
  | cons c cs ih =>
    have hc : c ≠ 0 ∧ c ≤ 32 := by rcases hw c (by simp) with rfl | rfl | rfl | rfl <;> decide
    rw [List.cons_append, skip, if_pos hc, ih hw.tail]

theorem skip_skip (t : Text) : skip (skip t) = skip t := by
  induction t with
  | nil => rfl
  | cons c cs ih =>
    rw [skip]
    split
    · exact ih
    · rename_i h
      rw [skip, if_neg h]

theorem endsNumber_ws {w : Text} (hw : Ws w) {rest : Text} (hr : EndsNumber rest) :
    EndsNumber (w ++ rest) := by
  cases w with
  | nil => exact hr
  | cons c cs =>
    rw [EndsNumber, List.cons_append, at0_cons]
    refine ⟨noDigitHead_cons ?_, ?_⟩ <;> rcases hw c (by simp) with rfl | rfl | rfl | rfl <;> decide

/-! ## Numbers -/

theorem integralText_of_intPart {t : Text} (h : IntPart t) : IntegralText t := by
  obtain ⟨⟨hne, hd⟩, h0⟩ := h
  cases t with
  | nil => exact absurd rfl hne
  | cons c cs =>
    refine ⟨hd, c, cs, rfl, ?_⟩
    rintro rfl
    exact h0 cs rfl

theorem fractionText_of_fracPart {t : Text} (h : FracPart t) : FractionText t := by
  rcases h with rfl | ⟨ds, rfl, hne, hd⟩
  · exact Or.inl rfl
  · cases ds with
    | nil => exact absurd rfl hne
    | cons d ds => exact Or.inr ⟨d, ds, rfl, hd d (by simp), fun c hc => hd c (by simp [hc])⟩

/-- An exponent is read to its end, with or without a sign. -/
theorem exponentPart_expPart {t rest : Text} (h : ExpPart t) (hr : EndsNumber rest) :
    exponentPart (t ++ rest) = ((exponentPart t).1, rest) := by
  rcases h with rfl | ⟨e, sign, ds, rfl, he, hs, hne, hd⟩
  · exact exponentPart_append (Or.inl rfl) hr.1 hr.2.2
  · obtain ⟨d, ds, rfl⟩ := List.exists_cons_of_ne_nil hne
    have hb := isDigit_bounds (hd d (by simp))
    have hd43 : d ≠ 43 := by
      rintro rfl
      exact absurd hb.1 (by decide)
    have hd45 : d ≠ 45 := by
      rintro rfl
      exact absurd hb.1 (by decide)
    have hloop := subscaleLoop_append hd hr.1 0
    rw [List.cons_append] at hloop
    rcases hs with rfl | rfl | rfl <;> simp [exponentPart, he, hloop, hd43, hd45]

theorem expPart_at0 {t rest : Text} (h : ExpPart t) (hr : EndsNumber rest) :
    NoDigitHead (t ++ rest) ∧ at0 (t ++ rest) ≠ 46 := by
  rcases h with rfl | ⟨e, sign, ds, rfl, he, -⟩
  · exact ⟨hr.1, hr.2.1⟩
  · rw [List.cons_append, at0_cons]
    rcases he with rfl | rfl <;> exact ⟨noDigitHead_cons (by decide), by decide⟩

theorem fracPart_at0 {frac exp rest : Text} (hf : FracPart frac) (he : ExpPart exp)
    (hr : EndsNumber rest) : NoDigitHead (frac ++ (exp ++ rest)) := by
  rcases hf with rfl | ⟨ds, rfl, -⟩
  · exact (expPart_at0 he hr).1
  · exact noDigitHead_cons (by decide)

/-- A number is read to its end, whatever item takes the value and whatever follows. -/
theorem parseNumber_token {t : Text} (h : NumberToken t) {rest : Text} (hr : EndsNumber rest)
    (item : CJson) :
    parseNumber item (t ++ rest) =
      ({ item with valuedouble := (numberOf t).valuedouble, valueint := (numberOf t).valueint,
                   type := .Number }, rest) := by
  obtain ⟨sign, int, frac, exp, rfl, hs, hint, hfrac, he⟩ := h
  have hi := integralText_of_intPart hint
  have hf := fractionText_of_fracPart hfrac
  -- the value is read off the parts, so it does not depend on what follows
  obtain ⟨d, hd⟩ : ∃ d, ∀ r, EndsNumber r → ∀ item,
      parseNumber item (sign ++ int ++ frac ++ exp ++ r) =
        ({ item with valuedouble := d, valueint := toInt64 d, type := .Number }, r) := by
    refine ⟨mul (ofInt (wrap64 ((if sign = [] then 1 else -1) *
      (fractionalPart (integralPart int).1 frac).1)))
      (pow10 (wrap64 ((fractionalPart (integralPart int).1 frac).2.1 + (exponentPart exp).1))), ?_⟩
    intro r hr item
    have hx := expPart_at0 he hr
    have h1 := integralPart_append hi (fracPart_at0 hfrac he hr)
    have h2 := fractionalPart_append hf hx.1 hx.2 (integralPart int).1
    have h3 := exponentPart_expPart he hr
    have hn : ¬ at0 (int ++ (frac ++ (exp ++ r))) = 45 := integralText_at0 hi
    rcases hs with rfl | rfl
    · simp only [parseNumber, List.nil_append, List.append_assoc, hn, ↓reduceIte, h1, h2, h3]
    · simp only [parseNumber, List.cons_append, List.nil_append, List.append_assoc, at0_cons,
        List.tail_cons, ↓reduceIte, h1, h2, h3, List.cons_ne_nil]
  have hself := hd [] endsNumber_nil newItem
  rw [List.append_nil] at hself
  rw [numberOf, hself]
  exact hd rest hr item

theorem numberToken_head {t : Text} (h : NumberToken t) : ∃ b bs, t = b :: bs ∧ NumberHead b := by
  obtain ⟨sign, int, frac, exp, rfl, hs, hint, -, -⟩ := h
  obtain ⟨hd, c, cs, rfl, -⟩ := integralText_of_intPart hint
  rcases hs with rfl | rfl
  · exact ⟨c, _, rfl, Or.inr (hd c (by simp))⟩
  · exact ⟨45, _, rfl, Or.inl rfl⟩

/-- A minus sign or a digit sends `parse_value` to `parse_number`. -/
theorem parseValue_numberHead (fuel : Nat) (item : CJson) {b : Byte} (bs : Text) (h : NumberHead b) :
    parseValue (fuel + 1) item (b :: bs) = .ok (some (parseNumber item (b :: bs))) := by
  have hbound : b.toNat = 45 ∨ (48 ≤ b.toNat ∧ b.toNat ≤ 57) := by
    rcases h with rfl | h
    · exact Or.inl rfl
    · exact Or.inr (isDigit_bounds h)
  have hne : ∀ m : Byte, (57 < m.toNat ∨ m.toNat < 45) → b ≠ m := by
    rintro m hm rfl
    omega
  rw [parseValue_cons fuel item _ (hne _ (by decide)) (hne _ (by decide)) (hne _ (by decide)),
    if_neg (hne _ (by decide))]
  exact if_pos h

/-! ## Strings -/

theorem utf8_tail (u : ℕ) : UInt8.ofNat ((u ||| 0x80) &&& 0xBF) = UInt8.ofNat (0x80 + u % 64) := by
  have htable : ∀ n < 256, (n ||| 0x80) &&& 0xBF = 0x80 + n % 64 := by decide +kernel
  apply UInt8.toNat_inj.1
  rw [UInt8.toNat_ofNat', UInt8.toNat_ofNat', Nat.and_mod_two_pow, Nat.or_mod_two_pow]
  have hmod : u % 2 ^ 8 % 64 = u % 64 := by omega
  have hbyte := htable (u % 2 ^ 8) (Nat.mod_lt _ (by decide))
  rw [hmod] at hbyte
  rw [show 128 % 2 ^ 8 = 128 from rfl, show 191 % 2 ^ 8 = 191 from rfl, hbyte]
  exact (Nat.mod_eq_of_lt (by omega)).symm

/-- The shifts and masks of `parse_string` are UTF-8. -/
theorem transcode_utf8 {u : ℕ} (h : u < 0x10000) : (transcode u).1 = utf8 u := by
  have h2 : ∀ n < 32, n ||| 0xC0 = 0xC0 + n := by decide
  have h3 : ∀ n < 16, n ||| 0xE0 = 0xE0 + n := by decide
  unfold transcode utf8
  split
  · rfl
  split
  · rw [Nat.shiftRight_eq_div_pow, h2 _ (by omega), utf8_tail]
  · rw [Nat.shiftRight_eq_div_pow, Nat.shiftRight_eq_div_pow, h3 _ (by omega), utf8_tail, utf8_tail]

theorem utf8_length (u : ℕ) : (utf8 u).length ≤ 3 := by
  unfold utf8
  split
  · simp
  split <;> simp

/-- A hexadecimal digit is none of the bytes the scanners look for. -/
theorem hexValue_ne {c : Byte} (h : (hexValue c).isSome = true) {b : Byte} (hb : hexValue b = none) :
    c ≠ b := by
  rintro rfl
  rw [hb] at h
  cases h

theorem hexValue_not_isSpace {c : Byte} (h : (hexValue c).isSome = true) : isSpace c = false := by
  have htable : ∀ n < 256, isSpace (UInt8.ofNat n) = true → hexValue (UInt8.ofNat n) = none := by
    decide +kernel
  cases hs : isSpace c with
  | false => rfl
  | true =>
    have hnone := htable c.toNat c.toNat_lt
    rw [UInt8.ofNat_toNat] at hnone
    rw [hnone hs] at h
    cases h

/-- `"%4x"` reads the four digits of an escape. -/
theorem scanHex4_hexDigits {ds : Text} {u : ℕ} (h : HexDigits ds u) (rest : Text) :
    scanHex4 (ds ++ rest) = some u := by
  obtain ⟨hlen, hd, rfl⟩ := h
  obtain ⟨a, b, c, d, rfl⟩ := List.length_eq_four.1 hlen
  have hall : ∀ x ∈ [a, b, c, d], (hexValue x).isSome = true := hd
  have hspace : isSpace a = false := hexValue_not_isSpace (hd a (by simp))
  have hwindow : (([a, b, c, d] ++ rest).dropWhile isSpace).take 4 = [a, b, c, d] := by
    simp [hspace]
  have hsign : readSign [a, b, c, d] = (false, [a, b, c, d]) := by
    have h45 := hexValue_ne (hd a (by simp)) (show hexValue 45 = none from rfl)
    have h43 := hexValue_ne (hd a (by simp)) (show hexValue 43 = none from rfl)
    unfold readSign
    split <;> simp_all
  have htake : [a, b, c, d].takeWhile (fun x => (hexValue x).isSome) = [a, b, c, d] :=
    List.takeWhile_eq_self_iff.2 hall
  have hx : ¬ (b = 120 ∨ b = 88) := by
    have hb := hd b (by simp)
    rintro (rfl | rfl) <;> exact absurd hb (by decide)
  simp only [scanHex4, hwindow, hsign]
  split
  · rename_i x ds heq
    obtain ⟨rfl, rfl, rfl⟩ : a = 48 ∧ b = x ∧ [c, d] = ds := by simpa using heq
    rw [if_neg hx, htake]
    rfl
  · rw [htake]
    rfl

/-- What `parse_string` makes of the bytes between the quotes, and the room it takes for it. -/
theorem unescape_body {body s : Text} (h : StringBody body s) (rest : Text) :
    (∀ uc, unescape uc (body ++ 34 :: rest) = .ok (s, 34 :: rest)) ∧
      s.length ≤ stringLength (body ++ 34 :: rest) := by
  induction h with
  | nil => exact ⟨fun uc => unescape_stop uc rest, Nat.zero_le _⟩
  | plain c hc h ih =>
    have h0 : c ≠ 0 := by
      rintro rfl
      exact absurd hc.1 (by decide)
    refine ⟨fun uc => ?_, ?_⟩
    · rw [List.cons_append, unescape_plain hc.2.1 h0 hc.2.2, ih.1, emit_ok]
      rfl
    · rw [List.cons_append, stringLength_plain hc.2.1 h0 hc.2.2, List.length_cons]
      exact Nat.succ_le_succ ih.2
  | escape e c he h ih =>
    have htable : ∀ p ∈ escapes, p.1 ≠ 117 ∧ unescapeByte p.1 = p.2 := by
      simp [escapes, unescapeByte]
    obtain ⟨hu, hbyte⟩ := htable _ he
    refine ⟨fun uc => ?_, ?_⟩
    · rw [List.cons_append, List.cons_append, unescape.eq_def]
      simp only [hu, if_false, hbyte, ih.1]
      rfl
    · rw [List.cons_append, List.cons_append, stringLength.eq_def]
      simpa using ih.2
  | unicode ds u hds h0 hs h ih =>
    have hscan := scanHex4_hexDigits hds
    have hlt := hds.lt
    obtain ⟨hlen, hd, -⟩ := hds
    obtain ⟨a, b, c, d, rfl⟩ := List.length_eq_four.1 hlen
    have hplain : ∀ x ∈ [a, b, c, d], x ≠ 34 ∧ x ≠ 0 ∧ x ≠ 92 := fun x hx =>
      ⟨hexValue_ne (hd x hx) rfl, hexValue_ne (hd x hx) rfl, hexValue_ne (hd x hx) rfl⟩
    simp only [List.forall_mem_cons] at hplain
    obtain ⟨ha, hb, hc, he, -⟩ := hplain
    refine ⟨fun uc => ?_, ?_⟩
    · simp only [List.cons_append, List.nil_append] at hscan ⊢
      rw [unescape.eq_def]
      simp [hscan, transcode_utf8 hlt, ih.1]
    · have hroom := utf8_length u
      have hrest := ih.2
      simp only [List.cons_append, List.nil_append]
      rw [stringLength.eq_def]
      simp only [stringLength_plain ha.1 ha.2.1 ha.2.2, stringLength_plain hb.1 hb.2.1 hb.2.2,
        stringLength_plain hc.1 hc.2.1 hc.2.2, stringLength_plain he.1 he.2.1 he.2.2]
      simp
      omega

/-- A string is read to its closing quote. -/
theorem parseString_token {t s : Text} (h : StringToken t s) (item : CJson) (rest : Text) :
    parseString item (t ++ rest) =
      .ok (some ({ item with valuestring := some s, type := .String }, rest)) := by
  obtain ⟨body, rfl, hbody⟩ := h
  obtain ⟨hread, hroom⟩ := unescape_body hbody rest
  have htext : 34 :: (body ++ [34]) ++ rest = 34 :: (body ++ 34 :: rest) := by simp
  rw [htext, parseString, at0_cons, if_neg (by decide), List.tail_cons, hread none, ok_bind,
    if_neg (by simpa using hroom)]
  simp [cstr_eq_self hbody.noNul]

/-! ## Values -/

/-- A value starts with a byte that is neither white space nor the end of an array. -/
theorem value_head {t : Text} {v : CJson} (h : Value tree t v) :
    ∃ b bs, t = b :: bs ∧ 32 < b ∧ b ≠ 93 := by
  cases h with
  | null => exact ⟨_, _, rfl, by decide, by decide⟩
  | true => exact ⟨_, _, rfl, by decide, by decide⟩
  | false => exact ⟨_, _, rfl, by decide, by decide⟩
  | number h =>
    obtain ⟨b, bs, hb, hh⟩ := numberToken_head h
    exact ⟨b, bs, hb, numberHead_gt hh⟩
  | string h =>
    obtain ⟨body, rfl, -⟩ := h
    exact ⟨_, _, rfl, by decide, by decide⟩
  | emptyArray h => exact ⟨_, _, rfl, by decide, by decide⟩
  | array es hne hw hv => exact ⟨_, _, rfl, by decide, by decide⟩
  | emptyObject h => exact ⟨_, _, rfl, by decide, by decide⟩
  | object ms hne hw hn hv => exact ⟨_, _, rfl, by decide, by decide⟩

/-- A value has no name of its own. -/
theorem value_nameless {t : Text} {v : CJson} (h : Value tree t v) :
    ({ v with string := none } : CJson) = v := by
  cases h with
  | true => rfl
  | false => rfl
  | _ => rfl

theorem skip_value {t : Text} {v : CJson} (h : Value tree t v) {w : Text} (hw : Ws w) (rest : Text) :
    skip (w ++ (t ++ rest)) = t ++ rest := by
  obtain ⟨b, bs, rfl, hb, -⟩ := value_head h
  rw [skip_ws hw]
  exact skip_of_gt hb

/-- The statement the induction over the grammar carries: wherever the value stands, it is read to
its end. -/
def ReadsAs (t : Text) (v : CJson) : Prop :=
  ∀ ty n rest fuel, EndsNumber rest → 3 * (t ++ rest).length + 3 ≤ fuel →
    parseValue fuel (slot ty n) (t ++ rest) = .ok (some ({ v with string := n }, rest))

theorem readsAs_null : ReadsAs (ascii "null") tree.null := by
  intro ty n rest fuel hr hfuel
  obtain ⟨k, rfl⟩ : ∃ k, fuel = k + 1 := ⟨fuel - 1, by omega⟩
  rw [parseValue]
  rfl

theorem readsAs_bool (b : Bool) : ReadsAs (ascii (if b then "true" else "false")) (tree.bool b) := by
  intro ty n rest fuel hr hfuel
  obtain ⟨k, rfl⟩ : ∃ k, fuel = k + 1 := ⟨fuel - 1, by omega⟩
  cases b <;> rw [parseValue] <;> rfl

theorem readsAs_number {t : Text} (h : NumberToken t) : ReadsAs t (tree.number t) := by
  intro ty n rest fuel hr hfuel
  obtain ⟨k, rfl⟩ : ∃ k, fuel = k + 1 := ⟨fuel - 1, by omega⟩
  have hread := parseNumber_token h hr (slot ty n)
  have hself := parseNumber_token h endsNumber_nil newItem
  obtain ⟨b, bs, rfl, hb⟩ := numberToken_head h
  rw [List.append_nil] at hself
  rw [List.cons_append, parseValue_numberHead k _ _ hb, ← List.cons_append, hread]
  have hnum : numberOf (b :: bs) = { newItem with
      valuedouble := (numberOf (b :: bs)).valuedouble, valueint := (numberOf (b :: bs)).valueint
      type := .Number } := congrArg Prod.fst hself
  rw [show tree.number (b :: bs) = numberOf (b :: bs) from rfl, hnum]
  rfl

theorem readsAs_string {t s : Text} (h : StringToken t s) : ReadsAs t (tree.string s) := by
  intro ty n rest fuel hr hfuel
  obtain ⟨k, rfl⟩ : ∃ k, fuel = k + 1 := ⟨fuel - 1, by omega⟩
  have hread := parseString_token h (slot ty n) rest
  obtain ⟨body, rfl, -⟩ := h
  rw [List.cons_append] at hread ⊢
  rw [parseValue_cons k _ _ (by decide) (by decide) (by decide), if_pos rfl, hread]
  rfl

/-- `parse_array`, when the array is not empty. -/
theorem parseArray_elements (fuel : Nat) (item : CJson) {body : Text} (h : at0 (skip body) ≠ 93) :
    parseArray (fuel + 1) item (91 :: body) =
      elementsFrom fuel { item with type := .Array } [] body := by
  rw [parseArray]
  refine (if_neg h).trans ?_
  exact congrArg (fun value => parseValue fuel newItem value >>= _) (skip_skip body)

/-- `parse_object`, when the object is not empty. -/
theorem parseObject_members (fuel : Nat) (item : CJson) {body : Text} (h : at0 (skip body) ≠ 125) :
    parseObject (fuel + 1) item (123 :: body) =
      membersFrom fuel { item with type := .Object } [] body := by
  rw [parseObject]
  refine (if_neg h).trans ?_
  exact congrArg (fun value => parseMember fuel value >>= _) (skip_skip body)

section Elements

variable {e : Element CJson} {es : List (Element CJson)}

/-- One element: what `elementsFrom` does until the comma or the bracket behind it. -/
theorem elementsFrom_element (hw : Ws e.before ∧ Ws e.after) (hv : Value tree e.text e.value)
    (hr : ReadsAs e.text e.value) (item : CJson) (children : List CJson) {c : Byte}
    (hc : c = 44 ∨ c = 93) (rest : Text) (fuel : Nat)
    (hfuel : 3 * (e.spelling ++ c :: rest).length + 3 ≤ fuel) :
    elementsFrom fuel item children (e.spelling ++ c :: rest) =
      arrayLoop fuel item (children ++ [e.value]) (c :: rest) := by
  have hc32 : 32 < c := by rcases hc with rfl | rfl <;> decide
  have hend : EndsNumber (e.after ++ c :: rest) :=
    endsNumber_ws hw.2 (endsNumber_cons _ (hc.imp_right Or.inl))
  rw [Element.spelling, List.append_assoc, List.append_assoc] at hfuel ⊢
  rw [elementsFrom, skip_value hv hw.1, newItem_eq_slot,
    hr _ _ _ _ hend (by simp only [List.length_append] at hfuel ⊢; omega), ok_bind]
  simp only [value_nameless hv, skip_ws hw.2, skip_of_gt hc32]

theorem elementsFrom_elements (hne : es ≠ []) (hw : ∀ e ∈ es, Ws e.before ∧ Ws e.after)
    (hv : ∀ e ∈ es, Value tree e.text e.value) (hr : ∀ e ∈ es, ReadsAs e.text e.value)
    (item : CJson) :
    ∀ (children : List CJson) (rest : Text) (fuel : Nat),
      3 * ([44].intercalate (es.map Element.spelling) ++ 93 :: rest).length + 3 ≤ fuel →
      elementsFrom fuel item children ([44].intercalate (es.map Element.spelling) ++ 93 :: rest) =
        .ok (some ({ item with child := children ++ es.map (·.value) }, rest)) := by
  induction es with
  | nil => exact absurd rfl hne
  | cons e es ih =>
    intro children rest fuel hfuel
    have hstep := fun c hc rest => elementsFrom_element (hw e (by simp)) (hv e (by simp))
      (hr e (by simp)) item children (c := c) hc rest fuel
    obtain ⟨k, rfl⟩ : ∃ k, fuel = k + 1 := ⟨fuel - 1, by omega⟩
    cases es with
    | nil =>
      rw [List.map_cons, List.map_nil, List.intercalate_singleton] at hfuel ⊢
      rw [hstep 93 (Or.inr rfl) rest hfuel, arrayLoop_close]
      rfl
    | cons d ds =>
      rw [List.map_cons, List.map_cons, List.intercalate_cons_cons, ← List.map_cons,
        List.append_assoc, List.append_assoc, List.singleton_append] at hfuel ⊢
      rw [hstep 44 (Or.inl rfl) _ hfuel, arrayLoop_comma,
        ih (by simp) (fun f hf => hw f (by simp [hf])) (fun f hf => hv f (by simp [hf]))
          (fun f hf => hr f (by simp [hf])) _ _ _
          (by simp only [List.length_append, List.length_cons] at hfuel ⊢; omega)]
      simp

theorem readsAs_array (hne : es ≠ []) (hw : ∀ e ∈ es, Ws e.before ∧ Ws e.after)
    (hv : ∀ e ∈ es, Value tree e.text e.value) (hr : ∀ e ∈ es, ReadsAs e.text e.value) :
    ReadsAs (91 :: ([44].intercalate (es.map Element.spelling) ++ [93]))
      (tree.array (es.map (·.value))) := by
  intro ty n rest fuel hend hfuel
  rw [List.cons_append, List.append_assoc, List.singleton_append] at hfuel ⊢
  simp only [List.length_cons] at hfuel
  obtain ⟨k, rfl⟩ : ∃ k, fuel = k + 2 := ⟨fuel - 2, by omega⟩
  have hhead : at0 (skip ([44].intercalate (es.map Element.spelling) ++ 93 :: rest)) ≠ 93 := by
    obtain ⟨e, es, rfl⟩ := List.exists_cons_of_ne_nil hne
    obtain ⟨b, bs, hb, h32, h93⟩ := value_head (hv e (by simp))
    have hskip : ∀ u, skip (e.spelling ++ u) = b :: (bs ++ (e.after ++ u)) := fun u => by
      rw [Element.spelling, List.append_assoc, List.append_assoc,
        skip_value (hv e (by simp)) (hw e (by simp)).1, hb]
      rfl
    cases es with
    | nil =>
      rw [List.map_cons, List.map_nil, List.intercalate_singleton, hskip]
      exact h93
    | cons d ds =>
      rw [List.map_cons, List.map_cons, List.intercalate_cons_cons, List.append_assoc,
        List.append_assoc, hskip]
      exact h93
  rw [parseValue_array, parseArray_elements _ _ hhead,
    elementsFrom_elements hne hw hv hr _ _ _ _ (by omega)]
  rfl

end Elements

section Members

variable {m : Member CJson} {ms : List (Member CJson)}

/-- What a member has to be. -/
structure Spelled (m : Member CJson) : Prop where
  before : Ws m.before
  after : Ws m.after
  left : Ws m.left
  right : Ws m.right
  name : StringToken m.name m.key
  value : Value tree m.text m.value
  reads : ReadsAs m.text m.value

theorem skip_stringToken {t s : Text} (h : StringToken t s) {w : Text} (hw : Ws w) (rest : Text) :
    skip (w ++ (t ++ rest)) = t ++ rest := by
  obtain ⟨body, rfl, -⟩ := h
  rw [skip_ws hw]
  exact skip_of_gt (by decide)

/-- One member: what `membersFrom` does until the comma or the brace behind it. -/
theorem membersFrom_member (h : Spelled m) (item : CJson) (children : List CJson) {c : Byte}
    (hc : c = 44 ∨ c = 125) (rest : Text) (fuel : Nat)
    (hfuel : 3 * (m.spelling ++ c :: rest).length + 3 ≤ fuel) :
    membersFrom fuel item children (m.spelling ++ c :: rest) =
      objectLoop fuel item (children ++ [{ m.value with string := some m.key }]) (c :: rest) := by
  have hc32 : 32 < c := by rcases hc with rfl | rfl <;> decide
  have hend : EndsNumber (m.after ++ c :: rest) :=
    endsNumber_ws h.after (endsNumber_cons _ (hc.imp_right Or.inr))
  have htext : m.spelling ++ c :: rest = m.left ++ (m.name ++ (m.right ++
      (58 :: (m.before ++ (m.text ++ (m.after ++ c :: rest)))))) := by
    simp [Member.spelling, Element.spelling]
  have hcolon : ∀ v, skip (58 :: v) = 58 :: v := fun v => skip_of_gt (by decide)
  obtain ⟨k, rfl⟩ : ∃ k, fuel = k + 1 := ⟨fuel - 1, by omega⟩
  rw [htext] at hfuel ⊢
  have hread := h.reads .String (some m.key) _ k hend
    (by simp only [List.length_append, List.length_cons] at hfuel ⊢; omega)
  rw [membersFrom, skip_stringToken h.name h.left, parseMember, parseString_token h.name, ok_bind]
  simp only [skip_ws h.right, hcolon, at0_cons, ne_eq, not_true_eq_false, if_false, List.tail_cons,
    skip_value h.value h.before]
  rw [show ({ newItem with valuestring := none, type := .String, string := some m.key } : CJson) =
    slot .String (some m.key) from rfl, hread, ok_bind]
  simp only [skip_ws h.after, skip_of_gt hc32]

theorem membersFrom_members (hne : ms ≠ []) (hm : ∀ m ∈ ms, Spelled m) (item : CJson) :
    ∀ (children : List CJson) (rest : Text) (fuel : Nat),
      3 * ([44].intercalate (ms.map Member.spelling) ++ 125 :: rest).length + 3 ≤ fuel →
      membersFrom fuel item children ([44].intercalate (ms.map Member.spelling) ++ 125 :: rest) =
        .ok (some ({ item with child := children ++ ms.map fun m =>
          { m.value with string := some m.key } }, rest)) := by
  induction ms with
  | nil => exact absurd rfl hne
  | cons m ms ih =>
    intro children rest fuel hfuel
    have hstep := fun c hc rest =>
      membersFrom_member (hm m (by simp)) item children (c := c) hc rest fuel
    obtain ⟨k, rfl⟩ : ∃ k, fuel = k + 1 := ⟨fuel - 1, by omega⟩
    cases ms with
    | nil =>
      rw [List.map_cons, List.map_nil, List.intercalate_singleton] at hfuel ⊢
      rw [hstep 125 (Or.inr rfl) rest hfuel, objectLoop_close]
      rfl
    | cons d ds =>
      rw [List.map_cons, List.map_cons, List.intercalate_cons_cons, ← List.map_cons,
        List.append_assoc, List.append_assoc, List.singleton_append] at hfuel ⊢
      rw [hstep 44 (Or.inl rfl) _ hfuel, objectLoop_comma,
        ih (by simp) (fun f hf => hm f (by simp [hf])) _ _ _
          (by simp only [List.length_append, List.length_cons] at hfuel ⊢; omega)]
      simp

theorem readsAs_object (hne : ms ≠ []) (hm : ∀ m ∈ ms, Spelled m) :
    ReadsAs (123 :: ([44].intercalate (ms.map Member.spelling) ++ [125]))
      (tree.object (ms.map fun m => (m.key, m.value))) := by
  intro ty n rest fuel hend hfuel
  rw [List.cons_append, List.append_assoc, List.singleton_append] at hfuel ⊢
  simp only [List.length_cons] at hfuel
  obtain ⟨k, rfl⟩ : ∃ k, fuel = k + 2 := ⟨fuel - 2, by omega⟩
  have hhead : at0 (skip ([44].intercalate (ms.map Member.spelling) ++ 125 :: rest)) ≠ 125 := by
    obtain ⟨m, ms, rfl⟩ := List.exists_cons_of_ne_nil hne
    have h := hm m (by simp)
    obtain ⟨body, hbody, -⟩ := id h.name
    have hskip : ∀ u, at0 (skip (m.spelling ++ u)) = 34 := fun u => by
      rw [Member.spelling, List.append_assoc, List.append_assoc, List.append_assoc,
        skip_stringToken h.name h.left, hbody]
      rfl
    cases ms with
    | nil =>
      rw [List.map_cons, List.map_nil, List.intercalate_singleton, hskip]
      decide
    | cons d ds =>
      rw [List.map_cons, List.map_cons, List.intercalate_cons_cons, List.append_assoc,
        List.append_assoc, hskip]
      decide
  rw [parseValue_object, parseObject_members _ _ hhead,
    membersFrom_members hne hm _ _ _ _ (by omega)]
  simp [tree, slot, Function.comp_def]

end Members

theorem readsAs_emptyArray {w : Text} (hw : Ws w) : ReadsAs (91 :: (w ++ [93])) (tree.array []) := by
  intro ty n rest fuel hend hfuel
  rw [List.cons_append, List.append_assoc, List.singleton_append] at hfuel ⊢
  simp only [List.length_cons] at hfuel
  obtain ⟨k, rfl⟩ : ∃ k, fuel = k + 2 := ⟨fuel - 2, by omega⟩
  rw [parseValue_array, parseArray]
  simp only [List.tail_cons, skip_ws hw, skip_bracket, at0_cons, if_true]
  rfl

theorem readsAs_emptyObject {w : Text} (hw : Ws w) :
    ReadsAs (123 :: (w ++ [125])) (tree.object []) := by
  intro ty n rest fuel hend hfuel
  rw [List.cons_append, List.append_assoc, List.singleton_append] at hfuel ⊢
  simp only [List.length_cons] at hfuel
  obtain ⟨k, rfl⟩ : ∃ k, fuel = k + 2 := ⟨fuel - 2, by omega⟩
  rw [parseValue_object, parseObject]
  simp only [List.tail_cons, skip_ws hw, skip_brace, at0_cons, if_true]
  rfl

/-- A JSON value is read to its end, wherever it stands. -/
theorem parseValue_value {t : Text} {v : CJson} (h : Value tree t v) : ReadsAs t v := by
  induction h with
  | null => exact readsAs_null
  | true => exact readsAs_bool true
  | false => exact readsAs_bool false
  | number h => exact readsAs_number h
  | string h => exact readsAs_string h
  | emptyArray h => exact readsAs_emptyArray h
  | array es hne hw hv ih => exact readsAs_array hne hw hv ih
  | emptyObject h => exact readsAs_emptyObject h
  | object ms hne hw hn hv ih =>
    refine readsAs_object hne fun m hm => ?_
    obtain ⟨hb, ha, hl, hr⟩ := hw m hm
    exact ⟨hb, ha, hl, hr, hn m hm, hv m hm, ih m hm⟩

/-- A value with white space around it. -/
theorem parse_spelling {before text after : Text} {v : CJson} (hb : Ws before) (ha : Ws after)
    (hv : Value tree text v) : parse (before ++ text ++ after) = .ok (some v) := by
  have hend : EndsNumber (after ++ []) := endsNumber_ws ha endsNumber_nil
  rw [List.append_nil] at hend
  rw [parse, List.append_assoc, skip_value hv hb, newItem_eq_slot,
    parseValue_value hv _ _ _ _ hend (by unfold parseFuel; omega), ok_bind]
  simp only [value_nameless hv]

/-- **Every JSON text is read**, and as the grammar says: the white space, the escapes and the
spelling of its numbers are the peer's own choice. -/
theorem parse_document {t : Text} {v : CJson} (h : Document tree t v) : parse t = .ok (some v) := by
  obtain ⟨before, text, after, rfl, hb, ha, hv⟩ := h
  exact parse_spelling hb ha hv

/-- An array with white space in it, of `true` and of a string that is spelled with an escape. -/
theorem parse_document_array :
    parse (ascii " [true ,\"\\u0041\"]\n") = .ok (some (tree.array [tree.bool true, tree.string [65]])) := by
  have hblank : Ws [32] := by simp [Ws]
  have hline : Ws [10] := by simp [Ws]
  have hletter : StringToken [34, 92, 117, 48, 48, 52, 49, 34] [65] :=
    ⟨[92, 117, 48, 48, 52, 49], rfl,
      .unicode [48, 48, 52, 49] 65 ⟨rfl, by decide +kernel, by decide +kernel⟩ (by decide) (by decide) .nil⟩
  have hvalue := Value.array (A := tree)
    [⟨[], ascii "true", [32], tree.bool true⟩,
      ⟨[], [34, 92, 117, 48, 48, 52, 49, 34], [], tree.string [65]⟩] (by simp)
    (by simp [ws_nil, hblank]) (by simpa using ⟨Value.true, Value.string hletter⟩)
  exact parse_document ⟨[32], _, [10], by decide, hblank, hline, hvalue⟩

end CJson

end SingleTerminalLogin
