import SingleTerminalLogin.CJson.Print

/-!
# Numbers that are printed and parsed again

Whatever `print_number` writes for a finite value is a `Numeral`, and
`parse_number` reads a numeral to its last byte and not beyond
(`parseNumber_numeral`).  So a number keeps its place in a text that is parsed
and printed at every hop; its value may change (`%f` keeps six decimals), and
`relayed` names the value the next hop gets.  An integer an `int` can hold is
relayed unchanged: `relayed_int`.

An infinity or a NaN prints as a word no JSON parser accepts (`numberText_special`).
-/

namespace SingleTerminalLogin

open ByteText Binary64 CProgram

namespace CJson

/-! ## Reading the parts of a numeral -/

theorem mantissaLoop_append {ds rest : Text} (hd : ∀ c ∈ ds, isDigit c = true)
    (hr : NoDigitHead rest) (n : Int) :
    mantissaLoop n (ds ++ rest) = ((mantissaLoop n ds).1, rest) := by
  induction ds generalizing n with
  | nil =>
    cases rest with
    | nil => rfl
    | cons c cs => simp [mantissaLoop, hr c cs rfl]
  | cons d ds ih =>
    have hd1 : isDigit d = true := hd d (by simp)
    simp only [List.cons_append, mantissaLoop, hd1, if_true]
    exact ih (fun c hc => hd c (by simp [hc])) _

theorem subscaleLoop_append {ds rest : Text} (hd : ∀ c ∈ ds, isDigit c = true)
    (hr : NoDigitHead rest) (n : Int) :
    subscaleLoop n (ds ++ rest) = ((subscaleLoop n ds).1, rest) := by
  induction ds generalizing n with
  | nil =>
    cases rest with
    | nil => rfl
    | cons c cs => simp [subscaleLoop, hr c cs rfl]
  | cons d ds ih =>
    have hd1 : isDigit d = true := hd d (by simp)
    simp only [List.cons_append, subscaleLoop, hd1, if_true]
    exact ih (fun c hc => hd c (by simp [hc])) _

/-- The integral part of a numeral: a lone zero, or digits that do not start with
one. -/
def IntegralText (t : Text) : Prop :=
  (∀ c ∈ t, isDigit c = true) ∧ ∃ c cs, t = c :: cs ∧ (c = 48 → cs = [])

/-- The fractional part of a numeral. -/
def FractionText (t : Text) : Prop :=
  t = [] ∨ ∃ d ds, t = 46 :: d :: ds ∧ isDigit d = true ∧ ∀ c ∈ ds, isDigit c = true

/-- The exponent of a numeral. -/
def ExponentText (t : Text) : Prop :=
  t = [] ∨ ∃ s ds, t = 101 :: s :: ds ∧ (s = 43 ∨ s = 45) ∧ ∀ c ∈ ds, isDigit c = true

theorem noDigitHead_at0 {t : Text} (h : NoDigitHead t) : isDigit (at0 t) = false := by
  cases t with
  | nil => decide
  | cons c cs => exact h c cs rfl

theorem integralPart_append {t rest : Text} (h : IntegralText t) (hr : NoDigitHead rest) :
    integralPart (t ++ rest) = ((integralPart t).1, rest) := by
  obtain ⟨hd, c, cs, rfl, h0⟩ := h
  have hc : isDigit c = true := hd c (by simp)
  by_cases hc0 : c = 48
  · obtain rfl := h0 hc0
    subst hc0
    have hhead : isDigit (at0 rest) = false := noDigitHead_at0 hr
    have h0 : isDigit 0 = false := by decide
    simp only [integralPart, List.cons_append, List.nil_append, at0_cons, at0_nil, if_true,
      List.tail_cons, hhead, h0, Bool.false_eq_true, false_and, if_false]
  · have hloop := mantissaLoop_append hd hr 0
    rw [List.cons_append] at hloop
    simp only [integralPart, List.cons_append, at0_cons, hc0, hc, hloop, ↓reduceIte, ne_eq,
      not_false_eq_true, and_self]

theorem fractionalPart_append {t rest : Text} (h : FractionText t) (hr : NoDigitHead rest)
    (hp : at0 rest ≠ 46) (n : Int) :
    fractionalPart n (t ++ rest) = ((fractionalPart n t).1, (fractionalPart n t).2.1, rest) := by
  rcases h with rfl | ⟨d, ds, rfl, -, hds⟩
  · have h0 : ¬ (0 : Byte) = 46 := by decide
    simp only [fractionalPart, List.nil_append, hp, at0_nil, h0, ↓reduceIte]
  · have hloop := mantissaLoop_append hds hr (wrap64 (n * 10 + digitOf d))
    have hloop' := mantissaLoop_append hds noDigitHead_nil (wrap64 (n * 10 + digitOf d))
    rw [List.append_nil] at hloop'
    have hlen : (mantissaLoop (wrap64 (n * 10 + digitOf d)) ds).2 = [] := by rw [hloop']
    simp [fractionalPart, hloop, hlen]

theorem exponentPart_append {t rest : Text} (h : ExponentText t) (hr : NoDigitHead rest)
    (he : at0 rest ≠ 101 ∧ at0 rest ≠ 69) :
    exponentPart (t ++ rest) = ((exponentPart t).1, rest) := by
  rcases h with rfl | ⟨s, ds, rfl, hs, hds⟩
  · have h0 : ¬ ((0 : Byte) = 101 ∨ (0 : Byte) = 69) := by decide
    have hr0 : ¬ (at0 rest = 101 ∨ at0 rest = 69) := not_or.2 he
    simp only [exponentPart, List.nil_append, hr0, at0_nil, h0, ↓reduceIte]
  · rcases hs with rfl | rfl <;>
      simp [exponentPart, subscaleLoop_append hds hr]

/-! ## Numerals -/

/-- What may follow a number in a text: nothing that could be read as part of
it. -/
def EndsNumber (rest : Text) : Prop :=
  NoDigitHead rest ∧ at0 rest ≠ 46 ∧ at0 rest ≠ 101 ∧ at0 rest ≠ 69

theorem endsNumber_nil : EndsNumber [] := ⟨noDigitHead_nil, by decide, by decide, by decide⟩

theorem endsNumber_cons {c : Byte} (cs : Text) (h : c = 44 ∨ c = 93 ∨ c = 125) :
    EndsNumber (c :: cs) := by
  rw [EndsNumber, at0_cons]
  refine ⟨noDigitHead_cons ?_, ?_⟩ <;> rcases h with rfl | rfl | rfl <;> decide

/-- The texts `print_number` writes for finite values. -/
def Numeral (t : Text) : Prop :=
  ∃ sign int frac exp, t = sign ++ int ++ frac ++ exp ∧ (sign = [] ∨ sign = [45]) ∧
    IntegralText int ∧ FractionText frac ∧ ExponentText exp

theorem noDigitHead_fraction {frac exp rest : Text} (hf : FractionText frac)
    (he : ExponentText exp) (hr : EndsNumber rest) : NoDigitHead (frac ++ (exp ++ rest)) := by
  rcases hf with rfl | ⟨d, ds, rfl, -, -⟩
  · rcases he with rfl | ⟨s, ds, rfl, -, -⟩
    · exact hr.1
    · exact noDigitHead_cons (by decide)
  · exact noDigitHead_cons (by decide)

theorem exponent_at0 {exp rest : Text} (he : ExponentText exp) (hr : EndsNumber rest) :
    NoDigitHead (exp ++ rest) ∧ at0 (exp ++ rest) ≠ 46 := by
  rcases he with rfl | ⟨s, ds, rfl, -, -⟩
  · exact ⟨hr.1, hr.2.1⟩
  · refine ⟨noDigitHead_cons (by decide), ?_⟩
    rw [List.cons_append, at0_cons]
    decide

theorem integralText_at0 {int rest : Text} (h : IntegralText int) : at0 (int ++ rest) ≠ 45 := by
  obtain ⟨hd, c, cs, rfl, -⟩ := h
  have hb := isDigit_bounds (hd c (by simp))
  rintro (hc : c = 45)
  rw [hc] at hb
  simp at hb

/-- The number a text stands for when it is read alone. -/
def numberOf (t : Text) : CJson := (parseNumber newItem t).1

/-- A numeral is read to its end, whatever item takes the value and whatever
follows. -/
theorem parseNumber_numeral {t : Text} (h : Numeral t) {rest : Text} (hr : EndsNumber rest)
    (item : CJson) :
    parseNumber item (t ++ rest) =
      ({ item with valuedouble := (numberOf t).valuedouble, valueint := (numberOf t).valueint,
                   type := .Number }, rest) := by
  obtain ⟨sign, int, frac, exp, rfl, hs, hi, hf, he⟩ := h
  have hparts : ∀ r, EndsNumber r →
      integralPart (int ++ (frac ++ (exp ++ r))) = ((integralPart int).1, frac ++ (exp ++ r)) ∧
      fractionalPart (integralPart int).1 (frac ++ (exp ++ r)) =
        ((fractionalPart (integralPart int).1 frac).1,
          (fractionalPart (integralPart int).1 frac).2.1, exp ++ r) ∧
      exponentPart (exp ++ r) = ((exponentPart exp).1, r) := by
    intro r hr
    have hx := exponent_at0 he hr
    exact ⟨integralPart_append hi (noDigitHead_fraction hf he hr),
      fractionalPart_append hf hx.1 hx.2 _, exponentPart_append he hr.1 hr.2.2⟩
  -- the value does not depend on what follows, so it is the one `numberOf` reads
  obtain ⟨d, hd⟩ : ∃ d, ∀ r, EndsNumber r → ∀ item,
      parseNumber item (sign ++ int ++ frac ++ exp ++ r) =
        ({ item with valuedouble := d, valueint := toInt64 d, type := .Number }, r) := by
    refine ⟨mul (ofInt (wrap64 ((if sign = [] then 1 else -1) *
      (fractionalPart (integralPart int).1 frac).1)))
      (pow10 (wrap64 ((fractionalPart (integralPart int).1 frac).2.1 + (exponentPart exp).1))), ?_⟩
    intro r hr item
    obtain ⟨h1, h2, h3⟩ := hparts r hr
    have hn : ¬ at0 (int ++ (frac ++ (exp ++ r))) = 45 := integralText_at0 hi
    rcases hs with rfl | rfl
    · simp only [parseNumber, List.nil_append, List.append_assoc, hn, ↓reduceIte, h1, h2, h3]
    · simp only [parseNumber, List.cons_append, List.nil_append, List.append_assoc, at0_cons,
        List.tail_cons, ↓reduceIte, h1, h2, h3, List.cons_ne_nil]
  have hself := hd [] endsNumber_nil newItem
  rw [List.append_nil] at hself
  rw [numberOf, hself]
  exact hd rest hr item

/-! ## What `print_number` writes -/

theorem integralText_natText (n : Nat) : IntegralText (natText n) := by
  obtain ⟨c, cs, hcs, -, h0⟩ := natText_head n
  exact ⟨natText_digits n, c, cs, hcs, fun hc => (h0 hc).2⟩

theorem padded_digits (k n : Nat) : ∀ c ∈ padded k n, isDigit c = true := by
  induction k generalizing n with
  | zero => intro c hc; simp [padded] at hc
  | succ k ih =>
    intro c hc
    rcases List.mem_append.1 hc with h | h
    · exact ih _ c h
    · rw [List.mem_singleton.1 h]
      exact isDigit_digit (by omega)

theorem padded_length (k n : Nat) : (padded k n).length = k := by
  induction k generalizing n with
  | zero => rfl
  | succ k ih => simp [padded, ih]

theorem fractionText_padded (n : Nat) : FractionText (46 :: padded 6 n) := by
  have hd := padded_digits 6 n
  have hl := padded_length 6 n
  cases h : padded 6 n with
  | nil => rw [h] at hl; simp at hl
  | cons d ds =>
    rw [h] at hd
    exact Or.inr ⟨d, ds, rfl, hd d (by simp), fun c hc => hd c (by simp [hc])⟩

theorem exponentText_exponent (e : Int) : ExponentText (101 :: exponentText e) := by
  refine Or.inr ⟨_, _, rfl, ?_, ?_⟩
  · split
    · exact Or.inr rfl
    · exact Or.inl rfl
  · split
    · intro c hc
      rcases List.mem_cons.1 hc with rfl | h
      · decide
      · exact natText_digits _ c h
    · exact natText_digits _

theorem signText_cases (q : ℚ) : signText q = [] ∨ signText q = [45] := by
  unfold signText
  split
  · exact Or.inr rfl
  · exact Or.inl rfl

theorem numeral_intText (n : Int) : Numeral (intText n) := by
  unfold intText
  split
  · exact ⟨[45], natText n.natAbs, [], [], by simp, Or.inr rfl, integralText_natText _,
      Or.inl rfl, Or.inl rfl⟩
  · exact ⟨[], natText n.toNat, [], [], by simp, Or.inl rfl, integralText_natText _,
      Or.inl rfl, Or.inl rfl⟩

theorem numeral_fixed0 (q : ℚ) : Numeral (fixed0 (.fin q)) :=
  ⟨signText q, natText (nearestEven |q|).toNat, [], [], by simp [fixed0], signText_cases q,
    integralText_natText _, Or.inl rfl, Or.inl rfl⟩

theorem numeral_fixed6 (q : ℚ) : Numeral (fixed6 (.fin q)) := by
  have htext : fixed6 (.fin q) = signText q ++ natText ((nearestEven (|q| * 10 ^ 6)).toNat / 10 ^ 6)
      ++ (46 :: padded 6 ((nearestEven (|q| * 10 ^ 6)).toNat % 10 ^ 6)) ++ [] := by
    simp only [fixed6, List.append_nil]
  exact ⟨_, _, _, _, htext, signText_cases q, integralText_natText _, fractionText_padded _,
    Or.inl rfl⟩

theorem integralText_digit (n : Nat) : IntegralText [digit (n % 10)] := by
  refine ⟨?_, _, [], rfl, fun _ => rfl⟩
  intro c hc
  rw [List.mem_singleton.1 hc]
  exact isDigit_digit (by omega)

theorem numeral_exp6 (q : ℚ) : Numeral (exp6 (.fin q)) :=
  ⟨signText q, _, _, _, rfl, signText_cases q, integralText_digit _, fractionText_padded _,
    exponentText_exponent _⟩

/-- Is the number neither an infinity nor a NaN? -/
def finite (d : Double) : Bool :=
  match d with
  | .fin _ => true
  | _ => false

theorem numeral_numberText {item : CJson} (h : finite item.valuedouble = true) :
    Numeral (numberText item) := by
  unfold finite at h
  split at h
  · rename_i q hq
    unfold numberText
    simp only [hq]
    split
    · exact numeral_intText _
    · split
      · exact numeral_fixed0 q
      · split
        · exact numeral_exp6 q
        · exact numeral_fixed6 q
  · cases h

/-- What an infinity or a NaN prints as. -/
theorem numberText_special {item : CJson} (h : finite item.valuedouble = false) :
    numberText item = ascii "inf" ∨ numberText item = ascii "-inf" ∨
      numberText item = ascii "-nan" := by
  have hspec : ∀ d, finite d = false →
      exp6 d = special d ∧ fixed6 d = special d ∧ fixed0 d = special d := by
    intro d hd
    cases d <;> simp [finite] at hd <;> exact ⟨rfl, rfl, rfl⟩
  have hfirst : ∀ v d, finite d = false → le (fabs (sub v d)) epsilon = false := by
    intro v d hd
    cases d <;> cases v <;> simp [finite] at hd <;> simp only [sub] <;> (try split) <;> rfl
  obtain ⟨h1, h2, h3⟩ := hspec _ h
  have hvals : special item.valuedouble = ascii "inf" ∨ special item.valuedouble = ascii "-inf" ∨
      special item.valuedouble = ascii "-nan" := by
    cases hd : item.valuedouble with
    | fin q => rw [hd] at h; simp [finite] at h
    | inf neg => cases neg <;> simp [special]
    | nan => simp [special]
  unfold numberText
  simp only [hfirst _ _ h, h1, h2]
  split
  · rename_i hc
    simp at hc
  · split
    · rename_i hc
      simp at hc
    · split <;> exact hvals

/-! ## Integers -/

theorem digitOf_digit {d : Nat} (h : d ≤ 9) : digitOf (digit d) = d := by
  have hn := digit_toNat h
  have hlt : digit d < 128 := by
    rw [UInt8.lt_iff_toNat_lt, hn]
    simp
    omega
  simp only [digitOf, hlt, if_true, hn]
  omega

theorem mantissaLoop_snoc {ds : Text} (hd : ∀ c ∈ ds, isDigit c = true) {c : Byte}
    (hc : isDigit c = true) (n : Int) :
    mantissaLoop n (ds ++ [c]) = (wrap64 ((mantissaLoop n ds).1 * 10 + digitOf c), []) := by
  induction ds generalizing n with
  | nil => simp [mantissaLoop, hc]
  | cons d ds ih =>
    have hd1 : isDigit d = true := hd d (by simp)
    simp only [List.cons_append, mantissaLoop, hd1, if_true]
    exact ih (fun c hc => hd c (by simp [hc])) _

theorem mantissaLoop_natText {n : Nat} (h : n < 2 ^ 63) :
    mantissaLoop 0 (natText n) = ((n : Int), []) := by
  induction n using Nat.strong_induction_on with
  | _ n ih =>
    rw [natText_step]
    split
    · rename_i hn
      have h9 : n ≤ 9 := by omega
      simp only [mantissaLoop, isDigit_digit h9, if_true, digitOf_digit h9]
      rw [wrap64_eq_self (by omega) (by omega)]
      simp
    · rename_i hn
      have h9 : n % 10 ≤ 9 := by omega
      rw [mantissaLoop_snoc (natText_digits _) (isDigit_digit h9), ih (n / 10) (by omega) (by omega),
        digitOf_digit h9, wrap64_eq_self (by omega) (by omega)]
      simp only [Prod.mk.injEq, and_true]
      omega

theorem integralPart_natText {n : Nat} (h : n < 2 ^ 63) :
    integralPart (natText n) = ((n : Int), []) := by
  obtain ⟨c, cs, hcs, hd, h0⟩ := natText_head n
  by_cases hc : c = 48
  · obtain ⟨rfl, rfl⟩ := h0 hc
    rw [hcs, hc]
    rfl
  · have hat : at0 (natText n) = c := by rw [hcs]; rfl
    simp only [integralPart, hat, if_neg hc]
    rw [if_pos ⟨hd, hc⟩, mantissaLoop_natText h]

/-- `parse_number` reads back an integer `"%lld"` printed. -/
theorem numberOf_intText {n : Int} (h : n.natAbs < 2 ^ 53) :
    (numberOf (intText n)).valueint = n ∧ (numberOf (intText n)).valuedouble = .fin n := by
  have hbig : n.natAbs < 2 ^ 63 := by omega
  have hnil : ∀ k : Int, fractionalPart k [] = (k, 0, []) := fun k => rfl
  have henil : exponentPart [] = (0, []) := rfl
  have hval : ∀ k : Int, k.natAbs < 2 ^ 53 →
      mul (ofInt (wrap64 k)) (pow10 (wrap64 (0 + 0))) = .fin k := by
    intro k hk
    rw [wrap64_eq_self (by omega) (by omega), add_zero, wrap64_eq_self (by decide) (by decide), pow10_zero,
      ofInt_eq hk, mul_one_int hk]
  have hres : (numberOf (intText n)).valuedouble = .fin n := by
    unfold intText
    split
    · rename_i hneg
      have ha : at0 (45 :: natText n.natAbs) = 45 := rfl
      simp only [numberOf, parseNumber, ha, if_true, List.tail_cons, integralPart_natText hbig,
        hnil, henil]
      rw [show (-1 : Int) * (n.natAbs : Int) = n by omega]
      exact hval n h
    · rename_i hpos
      have hto : n.toNat < 2 ^ 63 := by omega
      have ha : at0 (natText n.toNat) ≠ 45 := by
        have := @integralText_at0 _ [] (integralText_natText n.toNat)
        rwa [List.append_nil] at this
      simp only [numberOf, parseNumber, if_neg ha, integralPart_natText hto, hnil, henil]
      rw [show (1 : Int) * (n.toNat : Int) = n by omega]
      exact hval n h
  refine ⟨?_, hres⟩
  have hint : (numberOf (intText n)).valueint = toInt64 (numberOf (intText n)).valuedouble := rfl
  rw [hint, hres, toInt64_int h]

/-- The number the next hop gets for a number this hop prints. -/
def relayed (item : CJson) : CJson := numberOf (numberText item)

/-- An integer an `int` can hold prints as itself. -/
theorem numberText_int {item : CJson} {n : Int} (h1 : -2 ^ 31 ≤ n) (h2 : n < 2 ^ 31)
    (hv : item.valueint = n) (hd : item.valuedouble = .fin n) : numberText item = intText n := by
  have hb : n.natAbs < 2 ^ 53 := by omega
  have hle : le (.fin (n : ℚ)) (.fin 2147483647) = true := by
    have : (n : ℚ) ≤ 2147483647 := by exact_mod_cast (by omega : n ≤ 2147483647)
    simpa [le] using this
  have hge : le (.fin (-2147483648)) (.fin (n : ℚ)) = true := by
    have : (-2147483648 : ℚ) ≤ n := by exact_mod_cast (by omega : (-2147483648 : Int) ≤ n)
    simpa [le] using this
  unfold numberText
  simp only [hv, hd, ofInt_eq hb, sub_self_fin, epsilon_nonneg, hle, hge, and_self, if_true]

/-- **Integers survive every hop.** -/
theorem relayed_int (item : CJson) {n : Int} (h1 : -2 ^ 31 ≤ n) (h2 : n < 2 ^ 31)
    (hv : item.valueint = n) (hd : item.valuedouble = .fin n) :
    (relayed item).valueint = n ∧ (relayed item).valuedouble = .fin n := by
  rw [relayed, numberText_int h1 h2 hv hd]
  exact numberOf_intText (by omega)

end CJson

end SingleTerminalLogin
