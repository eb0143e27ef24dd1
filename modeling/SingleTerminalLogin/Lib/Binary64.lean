import SingleTerminalLogin.Lib.ByteText

/-!
# C's `double`

A `double` as the value it stands for: a rational number, an infinity or a NaN.
The sign of a zero is not kept, because no operation below can show it.

* `round` — rounding to nearest, ties to even, with the 53-bit significand, the
  gradual underflow and the overflow of the binary64 format;
* `ofInt`, `mul`, `add`, `sub`, `fabs`, `floor`, `le`, `lt`, `toInt64`, `pow10` — the
  operations C code reaches through `(double)`, `*`, `+`, `-`, `<math.h>` and the cast
  back to `long long`;
* `fixed0`, `fixed6`, `exp6` — what `%.0f`, `%f` and `%e` print.

`round_int` is the fact programs that only route integers rely on: an integer of
at most 53 bits is its own `double`, so `ofInt`, `mul` by one and `toInt64` give
it back unchanged.
-/

namespace Binary64

open ByteText

/-- A `double`, up to the sign of zero. -/
inductive Double where
  /-- A finite value. -/
  | fin (q : ℚ)
  /-- An infinity; `neg` for the negative one. -/
  | inf (neg : Bool)
  /-- Not a number. -/
  | nan
  deriving DecidableEq

/-- `2 ^ k`. -/
def pow2 (k : Int) : ℚ :=
  if 0 ≤ k then ((2 ^ k.toNat : Nat) : ℚ) else 1 / ((2 ^ (-k).toNat : Nat) : ℚ)

/-- The `k` with `2 ^ k ≤ |q| < 2 ^ (k + 1)`, for `q ≠ 0`. -/
def log2 (q : ℚ) : Int :=
  let k : Int := (Nat.log2 q.num.natAbs : Int) - Nat.log2 q.den
  if pow2 k ≤ |q| then k else k - 1

/-- The nearest integer, the even one of two equally near. -/
def nearestEven (q : ℚ) : Int :=
  let f := q.floor
  let r := q - f
  if r < 1 / 2 then f else if 1 / 2 < r then f + 1 else if f % 2 = 0 then f else f + 1

/-- The `double` nearest to a rational number. -/
def round (q : ℚ) : Double :=
  if q = 0 then .fin 0
  else
    let ulp := pow2 (max (log2 q - 52) (-1074))
    let r := nearestEven (q / ulp) * ulp
    if pow2 1024 ≤ |r| then .inf (decide (q < 0)) else .fin r

/-! ## Operations -/

/-- `(double)n` for a `long long`. -/
def ofInt (n : Int) : Double := round n

/-- Is the value negative? -/
def isNeg : Double → Bool
  | .fin q => decide (q < 0)
  | .inf neg => neg
  | .nan => false

def mul : Double → Double → Double
  | .fin a, .fin b => round (a * b)
  | .nan, _ => .nan
  | _, .nan => .nan
  | a, b =>
    if a = .fin 0 ∨ b = .fin 0 then .nan else .inf (xor (isNeg a) (isNeg b))

def add : Double → Double → Double
  | .fin a, .fin b => round (a + b)
  | .nan, _ => .nan
  | _, .nan => .nan
  | .inf a, .inf b => if a = b then .inf a else .nan
  | .inf a, .fin _ => .inf a
  | .fin _, .inf b => .inf b

def sub : Double → Double → Double
  | .fin a, .fin b => round (a - b)
  | .nan, _ => .nan
  | _, .nan => .nan
  | .inf a, .inf b => if a = b then .nan else .inf a
  | .inf a, .fin _ => .inf a
  | .fin _, .inf b => .inf (!b)

def fabs : Double → Double
  | .fin q => .fin |q|
  | .inf _ => .inf false
  | .nan => .nan

def floor : Double → Double
  | .fin q => .fin q.floor
  | d => d

/-- `a <= b`; no comparison with a NaN holds. -/
def le : Double → Double → Bool
  | .fin a, .fin b => decide (a ≤ b)
  | .nan, _ => false
  | _, .nan => false
  | .inf a, .inf b => a || !b
  | .inf a, .fin _ => a
  | .fin _, .inf b => !b

/-- `a < b`; no comparison with a NaN holds. -/
def lt : Double → Double → Bool
  | .fin a, .fin b => decide (a < b)
  | .nan, _ => false
  | _, .nan => false
  | .inf a, .inf b => a && !b
  | .inf a, .fin _ => a
  | .fin _, .inf b => !b

/-- `(long long)d`: truncation towards zero.  Where C leaves the result undefined
(out of range, infinite, NaN) the processor's conversion gives the least value. -/
def toInt64 : Double → Int
  | .fin q =>
    let n := if q < 0 then -((-q).floor) else q.floor
    if -2 ^ 63 ≤ n ∧ n < 2 ^ 63 then n else -2 ^ 63
  | _ => -2 ^ 63

/-- `pow(10.0, k)` for an integral `k`. -/
def pow10 (k : Int) : Double :=
  if 308 < k then .inf false
  else if k < -400 then .fin 0
  else if 0 ≤ k then round ((10 ^ k.toNat : Nat) : ℚ)
  else round (1 / ((10 ^ (-k).toNat : Nat) : ℚ))

/-- `DBL_EPSILON`. -/
def epsilon : Double := .fin (pow2 (-52))

/-! ## Printing -/

/-- What a sign and an infinity or a NaN look like.  The NaN the processor
produces carries a sign bit, which `printf` shows. -/
def special : Double → Text
  | .inf neg => if neg then ascii "-inf" else ascii "inf"
  | _ => ascii "-nan"

/-- `"-"` in front of a negative value. -/
def signText (q : ℚ) : Text := if q < 0 then [45] else []

/-- A natural number in exactly `k` decimal places. -/
def padded : Nat → Nat → Text
  | 0, _ => []
  | k + 1, n => padded k (n / 10) ++ [digit (n % 10)]

/-- `%.0f`. -/
def fixed0 : Double → Text
  | .fin q => signText q ++ natText (nearestEven |q|).toNat
  | d => special d

/-- `%f`. -/
def fixed6 : Double → Text
  | .fin q =>
    let m := (nearestEven (|q| * 10 ^ 6)).toNat
    signText q ++ natText (m / 10 ^ 6) ++ 46 :: padded 6 (m % 10 ^ 6)
  | d => special d

/-- The `k` with `10 ^ k ≤ q < 10 ^ (k + 1)`, for `0 < q`. -/
def log10 (q : ℚ) : Int :=
  let k : Int := ((natText q.num.natAbs).length : Int) - (natText q.den).length
  let p : ℚ := if 0 ≤ k then ((10 ^ k.toNat : Nat) : ℚ) else 1 / ((10 ^ (-k).toNat : Nat) : ℚ)
  if p ≤ q then k else k - 1

/-- A decimal exponent: a sign and at least two digits. -/
def exponentText (e : Int) : Text :=
  (if e < 0 then 45 else 43) ::
    (if e.natAbs < 10 then 48 :: natText e.natAbs else natText e.natAbs)

/-- The seven digits and the exponent of a positive value. -/
def scientific (q : ℚ) : Nat × Int :=
  let e := log10 q
  let s : ℚ := if 6 ≤ e then q / ((10 ^ (e - 6).toNat : Nat) : ℚ)
    else q * ((10 ^ (6 - e).toNat : Nat) : ℚ)
  let m := (nearestEven s).toNat
  if m = 10 ^ 7 then (10 ^ 6, e + 1) else (m, e)

/-- `%e`. -/
def exp6 : Double → Text
  | .fin q =>
    let p := if q = 0 then (0, 0) else scientific |q|
    signText q ++ [digit (p.1 / 10 ^ 6 % 10)] ++ 46 :: padded 6 (p.1 % 10 ^ 6) ++
      101 :: exponentText p.2
  | d => special d

/-! ## Integers -/

theorem pow2_natCast (k : Nat) : pow2 k = (2 ^ k : Nat) := by
  simp [pow2]

theorem pow2_neg_natCast (k : Nat) : pow2 (-(k : Int)) = 1 / ((2 ^ k : Nat) : ℚ) := by
  rcases Nat.eq_zero_or_pos k with rfl | hk
  · simp [pow2]
  · rw [pow2, if_neg (by omega), show (- -(k : Int)).toNat = k by omega]

theorem nearestEven_int (n : Int) : nearestEven (n : ℚ) = n := by
  unfold nearestEven
  simp

/-- The binary logarithm of an integer is the one of its digits. -/
theorem log2_int {n : Int} (h : n ≠ 0) : log2 (n : ℚ) = Nat.log2 n.natAbs := by
  have hn : n.natAbs ≠ 0 := by simpa using h
  have hle : 2 ^ Nat.log2 n.natAbs ≤ n.natAbs := Nat.log2_self_le hn
  have hcast : ((2 ^ Nat.log2 n.natAbs : Nat) : ℚ) ≤ |(n : ℚ)| := by
    rw [← Int.cast_abs, Int.abs_eq_natAbs]
    exact_mod_cast hle
  have h1 : Nat.log2 1 = 0 := by decide
  unfold log2
  simp only [Rat.num_intCast, Rat.den_intCast, h1, Nat.cast_zero, sub_zero]
  rw [if_pos]
  rw [pow2_natCast]
  exact hcast

theorem abs_lt_pow2 {n : Int} {k : Nat} (h : n.natAbs < 2 ^ k) : |(n : ℚ)| < pow2 k := by
  rw [pow2_natCast, ← Int.cast_abs, Int.abs_eq_natAbs]
  exact_mod_cast h

/-- An integer of at most 53 bits is its own `double`. -/
theorem round_int {n : Int} (h : n.natAbs < 2 ^ 53) : round (n : ℚ) = .fin n := by
  by_cases h0 : n = 0
  · subst h0
    simp [round]
  have hlog : Nat.log2 n.natAbs < 53 := (Nat.log2_lt (by simpa using h0)).2 h
  obtain ⟨k, hk⟩ : ∃ k : Nat, (Nat.log2 n.natAbs : Int) - 52 = -(k : Int) :=
    ⟨52 - Nat.log2 n.natAbs, by omega⟩
  have hk52 : k ≤ 52 := by omega
  have hpos : ((2 ^ k : Nat) : ℚ) ≠ 0 := by positivity
  have hq : (n : ℚ) / pow2 (-(k : Int)) = ((n * 2 ^ k : Int) : ℚ) := by
    rw [pow2_neg_natCast]
    field_simp
    push_cast
    ring
  have hr : ((n * 2 ^ k : Int) : ℚ) * pow2 (-(k : Int)) = n := by
    rw [pow2_neg_natCast]
    push_cast at hpos ⊢
    field_simp
  have hbig : ¬ pow2 1024 ≤ |(n : ℚ)| := by
    obtain ⟨e, he, h53⟩ : ∃ e : Nat, (1024 : Int) = e ∧ 53 ≤ e := ⟨1024, rfl, by decide⟩
    rw [he, not_le]
    exact abs_lt_pow2 (h.trans_le (Nat.pow_le_pow_right Nat.two_pos h53))
  have hulp : max (log2 (n : ℚ) - 52) (-1074) = -(k : Int) := by
    rw [log2_int h0, hk]
    omega
  rw [round, if_neg (by exact_mod_cast h0)]
  simp only [hulp, hq, nearestEven_int, hr]
  rw [if_neg hbig]

theorem ofInt_eq {n : Int} (h : n.natAbs < 2 ^ 53) : ofInt n = .fin n := round_int h

theorem pow10_zero : pow10 0 = .fin 1 := by
  have h := round_int (n := 1) (by decide)
  simpa [pow10] using h

theorem mul_one_int {n : Int} (h : n.natAbs < 2 ^ 53) : mul (.fin n) (.fin 1) = .fin n := by
  simpa [mul] using round_int h

theorem toInt64_int {n : Int} (h : n.natAbs < 2 ^ 53) : toInt64 (.fin n) = n := by
  have hneg : (-(n : ℚ)).floor = -n := by
    rw [← Int.cast_neg]
    exact Rat.floor_intCast _
  have hval : (if (n : ℚ) < 0 then -((-(n : ℚ)).floor) else (n : ℚ).floor) = n := by
    split
    · rw [hneg, neg_neg]
    · exact Rat.floor_intCast _
  simp only [toInt64, hval]
  rw [if_pos]
  omega

theorem sub_self_fin (q : ℚ) : sub (.fin q) (.fin q) = .fin 0 := by
  simp [sub, round]

theorem epsilon_nonneg : le (fabs (.fin 0)) epsilon = true := by
  decide +kernel

end Binary64
