import Mathlib

/-!
# Byte strings, decimal numerals and C's string-to-integer conversion

A C program sees its input as bytes.  This file collects what any development
about such a program needs of them and nothing else:

* `ascii`, `cstr` — the bytes of a literal, and the part of a buffer in front of
  its terminating zero;
* `natText`, `intText` — the decimal numeral `%llu` and `%d` print, with
  `natText_step`, `natText_digits` and `natText_head` as its whole interface;
* `takeDigits` — reading a run of digits, with `takeDigits_natText`: the run that
  was printed is the run that is read;
* `natText_injective`, `intText_injective` — so different numbers have different
  numerals;
* `strtoull` — the conversion with base 0, and `strtoull_natText`;
* `wrap32`, `wrap64` — storing an integer into an `int` or a `long long`.
-/

namespace ByteText

/-- A byte of a C buffer. -/
abbrev Byte := UInt8

/-- A run of bytes. -/
abbrev Text := List UInt8

/-- The bytes of a literal. -/
def ascii (s : String) : Text := s.toByteArray.data.toList

/-- What a C function makes of a buffer: the bytes in front of the first zero. -/
def cstr (t : Text) : Text := t.takeWhile (· ≠ 0)

/-- A text a C string can hold: no byte of it is zero. -/
def NoNul (t : Text) : Prop := ∀ c ∈ t, c ≠ 0

instance (t : Text) : Decidable (NoNul t) := inferInstanceAs (Decidable (∀ c ∈ t, c ≠ 0))

/-- The quick way to see it of a literal. -/
theorem noNul_of_notMem {t : Text} (h : 0 ∉ t) : NoNul t := by
  rintro c hc rfl
  exact h hc

theorem cstr_noNul (t : Text) : NoNul (cstr t) := by
  intro c hc
  simpa using List.mem_takeWhile_imp hc

theorem cstr_eq_self {t : Text} (h : NoNul t) : cstr t = t :=
  List.takeWhile_eq_self_iff.2 fun c hc => by simpa using h c hc

theorem noNul_append {s t : Text} (hs : NoNul s) (ht : NoNul t) : NoNul (s ++ t) := by
  intro c hc
  rcases List.mem_append.1 hc with h | h
  · exact hs c h
  · exact ht c h

/-! ## Digits -/

/-- Is this byte one of `'0'` .. `'9'`? -/
def isDigit (c : Byte) : Bool := 48 ≤ c && c ≤ 57

/-- The byte of a decimal digit. -/
def digit (d : Nat) : Byte := UInt8.ofNat (48 + d)

theorem digit_toNat {d : Nat} (h : d ≤ 9) : (digit d).toNat = 48 + d := by
  simp only [digit, UInt8.toNat_ofNat']
  omega

theorem isDigit_digit {d : Nat} (h : d ≤ 9) : isDigit (digit d) = true := by
  have hn := digit_toNat h
  simp only [isDigit, UInt8.le_iff_toNat_le, Bool.and_eq_true, decide_eq_true_eq, hn]
  exact ⟨Nat.le_add_right 48 d, Nat.add_le_add_left h 48⟩

theorem isDigit_bounds {c : Byte} (h : isDigit c = true) : 48 ≤ c.toNat ∧ c.toNat ≤ 57 := by
  simpa [isDigit, UInt8.le_iff_toNat_le] using h

/-- Print with an accumulator, least significant digit first. -/
def natTextAux : Nat → Nat → Text → Text
  | 0, _, acc => acc
  | fuel + 1, n, acc =>
    if n < 10 then digit n :: acc else natTextAux fuel (n / 10) (digit (n % 10) :: acc)

/-- The decimal numeral of a natural number, as `%llu` prints it. -/
def natText (n : Nat) : Text := natTextAux (n + 1) n []

/-- The decimal numeral of an integer, as `%d` and `%lld` print it. -/
def intText (n : Int) : Text :=
  if n < 0 then 45 :: natText n.natAbs else natText n.toNat

theorem natTextAux_append :
    ∀ (fuel n : Nat) (acc : Text), natTextAux fuel n acc = natTextAux fuel n [] ++ acc := by
  intro fuel
  induction fuel with
  | zero => intro n acc; rfl
  | succ fuel ih =>
    intro n acc
    rw [natTextAux, natTextAux]
    split
    · rfl
    · rw [ih _ (digit (n % 10) :: acc), ih _ [digit (n % 10)], List.append_assoc]
      rfl

theorem natTextAux_fuel :
    ∀ (n fuel : Nat), n < fuel → natTextAux fuel n [] = natTextAux (n + 1) n [] := by
  intro n
  induction n using Nat.strong_induction_on with
  | _ n ih =>
    intro fuel hf
    obtain ⟨f, rfl⟩ : ∃ f, fuel = f + 1 := ⟨fuel - 1, by omega⟩
    rw [natTextAux, natTextAux]
    split
    · rfl
    · rename_i hn
      rw [natTextAux_append f, natTextAux_append n, ih (n / 10) (by omega) f (by omega),
        ih (n / 10) (by omega) n (by omega)]

/-- The numeral of `n` is the numeral of `n / 10` followed by the last digit. -/
theorem natText_step (n : Nat) :
    natText n = if n < 10 then [digit n] else natText (n / 10) ++ [digit (n % 10)] := by
  rw [natText, natTextAux]
  split
  · rfl
  · rename_i hn
    rw [natTextAux_append, natTextAux_fuel (n / 10) n (by omega)]
    rfl

theorem natText_digits (n : Nat) : ∀ c ∈ natText n, isDigit c = true := by
  induction n using Nat.strong_induction_on with
  | _ n ih =>
    intro c hc
    rw [natText_step] at hc
    split at hc
    · rw [List.mem_singleton.1 hc]
      exact isDigit_digit (by omega)
    · rcases List.mem_append.1 hc with h | h
      · exact ih (n / 10) (by omega) c h
      · rw [List.mem_singleton.1 h]
        exact isDigit_digit (by omega)

/-- A numeral starts with a digit, and with `'0'` only when it is the numeral of
zero. -/
theorem natText_head (n : Nat) :
    ∃ c cs, natText n = c :: cs ∧ isDigit c = true ∧ (c = 48 → n = 0 ∧ cs = []) := by
  induction n using Nat.strong_induction_on with
  | _ n ih =>
    rw [natText_step]
    split
    · rename_i hn
      refine ⟨digit n, [], rfl, isDigit_digit (by omega), fun h => ⟨?_, rfl⟩⟩
      have := digit_toNat (d := n) (by omega)
      rw [h] at this
      simpa using this.symm
    · rename_i hn
      obtain ⟨c, cs, hcs, hd, h0⟩ := ih (n / 10) (by omega)
      refine ⟨c, cs ++ [digit (n % 10)], by rw [hcs]; rfl, hd, fun h => ?_⟩
      have := (h0 h).1
      omega

/-! ## Reading a run of digits -/

/-- `n = n*10 + (*num++ - '0')` while the next byte is a digit. -/
def takeDigits (n : Nat) : Text → Nat × Text
  | [] => (n, [])
  | c :: cs => if isDigit c then takeDigits (n * 10 + (c.toNat - 48)) cs else (n, c :: cs)

/-- What follows a numeral must not continue it. -/
def NoDigitHead (t : Text) : Prop := ∀ c cs, t = c :: cs → isDigit c = false

theorem noDigitHead_nil : NoDigitHead [] := by
  intro c cs h
  cases h

theorem noDigitHead_cons {c : Byte} {cs : Text} (h : isDigit c = false) :
    NoDigitHead (c :: cs) := by
  intro d ds hd
  cases hd
  exact h

/-- Reading on: the digits of a longer run are folded into what was read before. -/
theorem takeDigits_snoc {ds : Text} (hd : ∀ c ∈ ds, isDigit c = true) {c : Byte}
    (hc : isDigit c = true) (n : Nat) :
    takeDigits n (ds ++ [c]) = ((takeDigits n ds).1 * 10 + (c.toNat - 48), []) := by
  induction ds generalizing n with
  | nil => simp [takeDigits, hc]
  | cons d ds ih =>
    have hd1 : isDigit d = true := hd d (by simp)
    simp only [List.cons_append, takeDigits, hd1, if_true]
    exact ih (fun c hc => hd c (by simp [hc])) _

/-- Reading back a printed number gives the number. -/
theorem takeDigits_natText (n : Nat) : takeDigits 0 (natText n) = (n, []) := by
  induction n using Nat.strong_induction_on with
  | _ n ih =>
    rw [natText_step]
    split
    · rename_i hn
      have h9 : n ≤ 9 := by omega
      simp [takeDigits, isDigit_digit h9, digit_toNat h9]
    · rename_i hn
      have h9 : n % 10 ≤ 9 := by omega
      rw [takeDigits_snoc (natText_digits _) (isDigit_digit h9), ih (n / 10) (by omega),
        digit_toNat h9]
      simp only [Prod.mk.injEq, and_true]
      omega

theorem natText_injective {m n : Nat} (h : natText m = natText n) : m = n := by
  have hm := takeDigits_natText m
  rw [h, takeDigits_natText n] at hm
  exact (congrArg Prod.fst hm).symm

/-- A sign is no digit, so the text of an integer tells it. -/
theorem intText_injective {m n : Int} (h : intText m = intText n) : m = n := by
  have hsign : ∀ a b : Nat, natText a ≠ 45 :: natText b := by
    intro a b hab
    obtain ⟨c, cs, hcs, hdigit, -⟩ := natText_head a
    rw [hab, List.cons.injEq] at hcs
    rw [← hcs.1] at hdigit
    exact absurd hdigit (by decide)
  unfold intText at h
  split at h
  · split at h
    · rw [List.cons.injEq] at h
      have := natText_injective h.2
      omega
    · exact absurd h.symm (hsign _ _)
  · split at h
    · exact absurd h (hsign _ _)
    · have := natText_injective h
      omega

/-! ## C's conversions -/

/-- The value of a hexadecimal digit. -/
def hexValue (c : Byte) : Option Nat :=
  if isDigit c then some (c.toNat - 48)
  else if 97 ≤ c && c ≤ 102 then some (c.toNat - 87)
  else if 65 ≤ c && c ≤ 70 then some (c.toNat - 55)
  else none

/-- The white space `isspace` knows in the C locale. -/
def isSpace (c : Byte) : Bool := c = 32 || (9 ≤ c && c ≤ 13)

/-- The longest run of digits of a base, folded from the left. -/
def takeBase (base n : Nat) : Text → Nat
  | [] => n
  | c :: cs =>
    match hexValue c with
    | some d => if d < base then takeBase base (n * base + d) cs else n
    | none => n

/-- The base a numeral announces when `strtoull` is called with base 0, and the
digits behind the announcement. -/
def numeralBase : Text → Nat × Text
  | 48 :: x :: d :: cs =>
    if (x = 120 ∨ x = 88) ∧ (hexValue d).isSome then (16, d :: cs) else (8, 48 :: x :: d :: cs)
  | 48 :: cs => (8, 48 :: cs)
  | cs => (10, cs)

/-- An optional sign, and what stands behind it. -/
def readSign : Text → Bool × Text
  | 45 :: cs => (true, cs)
  | 43 :: cs => (false, cs)
  | cs => (false, cs)

/-- `strtoull(t, NULL, 0)` (and `strtoul`, where `long` has 64 bits): white space,
a sign, the announced base, and `ULLONG_MAX` when the number does not fit. -/
def strtoull (t : Text) : Nat :=
  let signed := readSign (t.dropWhile isSpace)
  let based := numeralBase signed.2
  let n := takeBase based.1 0 based.2
  if 2 ^ 64 ≤ n then 2 ^ 64 - 1
  else if signed.1 then (2 ^ 64 - n) % 2 ^ 64 else n

theorem hexValue_of_isDigit {c : Byte} (h : isDigit c = true) :
    hexValue c = some (c.toNat - 48) := by
  simp [hexValue, h]

theorem takeBase_ten {ds : Text} (hd : ∀ c ∈ ds, isDigit c = true) (n : Nat) :
    takeBase 10 n ds = (takeDigits n ds).1 := by
  induction ds generalizing n with
  | nil => rfl
  | cons d ds ih =>
    have hd1 : isDigit d = true := hd d (by simp)
    have hlt : d.toNat - 48 < 10 := by
      have := isDigit_bounds hd1
      omega
    simp only [takeBase, hexValue_of_isDigit hd1, hlt, if_true, takeDigits, hd1]
    exact ih (fun c hc => hd c (by simp [hc])) _

/-- A printed number announces base ten, zero apart. -/
theorem numeralBase_natText {n : Nat} (h : n ≠ 0) : numeralBase (natText n) = (10, natText n) := by
  obtain ⟨c, cs, hcs, -, h0⟩ := natText_head n
  have hc : c ≠ 48 := fun hc => h (h0 hc).1
  rw [hcs]
  unfold numeralBase
  split <;> simp_all

/-- **Numbers survive the trip through text**: a printed number that fits in 64
bits is read back by `strtoull`. -/
theorem strtoull_natText {n : Nat} (h : n < 2 ^ 64) : strtoull (natText n) = n := by
  by_cases h0 : n = 0
  · subst h0
    decide
  · obtain ⟨c, cs, hcs, hd, -⟩ := natText_head n
    have hb := isDigit_bounds hd
    have hsp : isSpace c = false := by
      have h32 : c ≠ 32 := by rintro rfl; simp at hb
      have h13 : ¬ c ≤ 13 := by rw [UInt8.le_iff_toNat_le]; simp; omega
      simp [isSpace, h32, h13]
    have hdrop : (natText n).dropWhile isSpace = natText n := by
      rw [hcs, List.dropWhile_cons, hsp]
      rfl
    have hsign : readSign (natText n) = (false, natText n) := by
      rw [hcs]
      unfold readSign
      split
      · rename_i heq
        cases heq
        simp at hb
      · rename_i heq
        cases heq
        simp at hb
      · rfl
    simp only [strtoull, hdrop, hsign, numeralBase_natText h0,
      takeBase_ten (natText_digits n), takeDigits_natText]
    rw [if_neg (by omega)]
    rfl

/-- Storing an integer into a 32-bit `int`. -/
def wrap32 (n : Int) : Int := Int.bmod n (2 ^ 32)

/-- Storing an integer into a 64-bit `long long`. -/
def wrap64 (n : Int) : Int := Int.bmod n (2 ^ 64)

theorem wrap32_eq_self {n : Int} (h1 : -2 ^ 31 ≤ n) (h2 : n < 2 ^ 31) : wrap32 n = n := by
  unfold wrap32
  rw [Int.bmod_eq_of_le] <;> norm_num <;> omega

theorem wrap64_eq_self {n : Int} (h1 : -2 ^ 63 ≤ n) (h2 : n < 2 ^ 63) : wrap64 n = n := by
  unfold wrap64
  rw [Int.bmod_eq_of_le] <;> norm_num <;> omega

end ByteText
