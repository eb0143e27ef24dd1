import SingleTerminalLogin.Lib.Binary64

/-!
# How far rounding goes

`round_int` of `Binary64` says which integers are kept.  Of every other number this file says that
rounding keeps its size: at least half of it is left (`half_le_round`), unless it is so small that the
format has no digits for it.  So a `double` near zero was a number near zero.
-/

namespace Binary64

theorem pow2_eq_zpow (k : Int) : pow2 k = (2 : ℚ) ^ k := by
  unfold pow2
  split
  · rename_i hk
    obtain ⟨n, rfl⟩ := Int.eq_ofNat_of_zero_le hk
    simp
  · rename_i hk
    obtain ⟨n, hn⟩ := Int.eq_ofNat_of_zero_le (by omega : 0 ≤ -k)
    obtain rfl : k = -(n : Int) := by omega
    simp

theorem pow2_pos (k : Int) : 0 < pow2 k := by
  rw [pow2_eq_zpow]
  positivity

theorem pow2_mono {j k : Int} (h : j ≤ k) : pow2 j ≤ pow2 k := by
  rw [pow2_eq_zpow, pow2_eq_zpow]
  exact zpow_le_zpow_right₀ (by norm_num) h

/-- The nearest integer is at most one half away. -/
theorem abs_nearestEven_sub (q : ℚ) : |(nearestEven q : ℚ) - q| ≤ 1 / 2 := by
  have h1 : (q.floor : ℚ) ≤ q := Int.floor_le q
  have h2 : q < q.floor + 1 := Int.lt_floor_add_one q
  rw [abs_le]
  unfold nearestEven
  simp only
  split_ifs <;> push_cast <;> constructor <;> linarith

/-- The binary logarithm from below. -/
theorem pow2_log2_le {q : ℚ} (h : q ≠ 0) : pow2 (log2 q) ≤ |q| := by
  unfold log2
  simp only
  split
  · assumption
  · have hnum : q.num.natAbs ≠ 0 := by simpa using h
    have hn : (2 : ℚ) ^ Nat.log2 q.num.natAbs ≤ q.num.natAbs := by
      exact_mod_cast Nat.log2_self_le hnum
    have hd : (q.den : ℚ) ≤ 2 ^ (Nat.log2 q.den + 1) := by
      exact_mod_cast (Nat.lt_log2_self (n := q.den)).le
    have hden : (0 : ℚ) < q.den := by exact_mod_cast q.den_pos
    have habs : |q| = (q.num.natAbs : ℚ) / q.den := by
      conv_lhs => rw [← Rat.num_div_den q]
      rw [abs_div, Nat.abs_cast, Nat.cast_natAbs, Int.cast_abs]
    rw [habs, pow2_eq_zpow, le_div_iff₀ hden]
    calc (2 : ℚ) ^ ((Nat.log2 q.num.natAbs : Int) - Nat.log2 q.den - 1) * q.den
        ≤ 2 ^ ((Nat.log2 q.num.natAbs : Int) - Nat.log2 q.den - 1) * 2 ^ (Nat.log2 q.den + 1) := by
          gcongr
      _ = 2 ^ Nat.log2 q.num.natAbs := by
          rw [← zpow_natCast (2 : ℚ) (Nat.log2 q.den + 1), ← zpow_add₀ (by norm_num),
            ← zpow_natCast]
          congr 1
          push_cast
          ring
      _ ≤ q.num.natAbs := hn

/-- Rounding keeps at least half of a number that is not too small. -/
theorem half_le_round {q r : ℚ} (h : 1 ≤ |q|) (hr : round q = .fin r) : |q| / 2 ≤ |r| := by
  have h0 : q ≠ 0 := by
    rintro rfl
    norm_num at h
  rw [round, if_neg h0] at hr
  simp only at hr
  split at hr
  · cases hr
  · cases hr
    have hpos := pow2_pos (max (log2 q - 52) (-1074))
    -- the unit in the last place is not larger than the number
    have hulp : pow2 (max (log2 q - 52) (-1074)) ≤ |q| := by
      rcases max_cases (log2 q - 52) (-1074) with ⟨hm, -⟩ | ⟨hm, -⟩
      · rw [hm]
        exact (pow2_mono (by omega)).trans (pow2_log2_le h0)
      · rw [hm]
        refine le_trans (pow2_mono (by norm_num : (-1074 : Int) ≤ 0)) ?_
        rw [pow2_eq_zpow, zpow_zero]
        exact h
    set u := pow2 (max (log2 q - 52) (-1074))
    have hnear := abs_nearestEven_sub (q / u)
    have hone : 1 ≤ |q / u| := by
      rw [abs_div, abs_of_pos hpos, le_div_iff₀ hpos, one_mul]
      exact hulp
    have htri : |q / u| ≤ |(nearestEven (q / u) : ℚ)| + 1 / 2 := by
      have := abs_sub_abs_le_abs_sub (q / u) (nearestEven (q / u))
      rw [abs_sub_comm] at this
      linarith
    have hhalf : |q / u| / 2 ≤ |(nearestEven (q / u) : ℚ)| := by linarith
    rw [abs_mul, abs_of_pos hpos]
    calc |q| / 2 = |q / u| / 2 * u := by
          rw [abs_div, abs_of_pos hpos]
          field_simp
      _ ≤ |(nearestEven (q / u) : ℚ)| * u := by gcongr

/-- An integer whose `double` is near a number of 32 bits has few digits itself. -/
theorem natAbs_lt_of_near {n : Int} {q : ℚ}
    (h : le (fabs (sub (ofInt n) (.fin q))) epsilon = true) (hq : |q| ≤ 2 ^ 31) :
    n.natAbs < 2 ^ 53 := by
  by_contra hge
  have hbig : (2 : ℚ) ^ 53 ≤ |(n : ℚ)| := by
    rw [← Int.cast_abs, Int.abs_eq_natAbs]
    exact_mod_cast not_lt.1 hge
  cases hr : ofInt n with
  | nan => rw [hr] at h; cases h
  | inf neg => rw [hr] at h; cases h
  | fin r =>
    rw [hr] at h
    have hhalf := half_le_round (le_trans (by norm_num) hbig) hr
    have hr52 : (2 : ℚ) ^ 52 ≤ |r| := by
      refine le_trans ?_ hhalf
      linarith
    have hdiff : (1 : ℚ) ≤ |r - q| := by
      have := abs_sub_abs_le_abs_sub r q
      linarith
    cases hs : round (r - q) with
    | nan => simp only [sub, hs] at h; cases h
    | inf neg => simp only [sub, hs] at h; cases h
    | fin s =>
      have hs2 := half_le_round hdiff hs
      simp only [sub, hs, fabs, epsilon, le, decide_eq_true_eq, pow2_eq_zpow] at h
      have heps : (2 : ℚ) ^ (-52 : Int) < 1 / 2 := by norm_num
      have hsmall := h.trans_lt heps
      linarith

end Binary64
