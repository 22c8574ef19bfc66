import Mathlib
import PlotGeometry.Proofs.Float.Convert
/-!
# 最も近い数への丸め

足し算と引き算の結果は、正確な値を最も近い倍精度数に丸めたもの（同じ近さなら仮数が偶数の方）。
ここではそれを「表せるどの数よりも近い」という形で言う。誤差の上界（`Float.add_error`）は大きさに
比例するが、こちらは比べる数を選べるので、正確な値が表せる数のすぐそばにあれば、丸めた結果も
そのそばにある。

53 ビットへの丸め `roundUnits N = rne N k × 2^k` は、`2^k` の倍数のうち `N` に最も近い
（`rne_nearest`）。表せる大きさ `M × 2^j`（`M < 2^53`）は、`j ≥ k` なら `2^k` の倍数で、`j < k`
なら `2^(52 + k)` より小さく、`N` はそれ以上なので `2^(52 + k)` の方が近い。

* `roundUnits_nearest` — 53 ビットに丸めた大きさは、表せるどの大きさよりも `N` に近い
* `roundRank_nearest` — 符号付きの位置でも同じで、結果は有限の範囲にある
* `Float.add_nearest`、`Float.sub_nearest` — 有限な二数の和と差の位置は、正確な和と差に、どの
  有限数の位置よりも近い
-/

namespace PlotGeometry

open Float.Model Float.Model.UnpackedFloat

/-! ## 倍数への丸め -/

/-- `rne N k` は、余りが刻みの半分以下なら商 `⌊N / 2^k⌋`、半分以上ならその一つ上。 -/
theorem rne_cases (N k : Nat) :
    (rne N k = N / 2 ^ k ∧ 2 * (N % 2 ^ k) ≤ 2 ^ k) ∨
      (rne N k = N / 2 ^ k + 1 ∧ 2 ^ k ≤ 2 * (N % 2 ^ k)) := by
  unfold rne
  have := Nat.mod_two_eq_zero_or_one (N / 2 ^ k)
  split_ifs <;> omega

/-- `D q + r`（`0 ≤ r`）から `D` の倍数 `c D` までの距離は、`c ≤ q` なら `r` 以上、`c ≥ q + 1` なら
`D − r` 以上。 -/
theorem dist_multiple_bounds {D q r c : ℤ} (hD : 0 ≤ D) :
    (c ≤ q → r ≤ |D * q + r - c * D|) ∧ (q + 1 ≤ c → D - r ≤ |D * q + r - c * D|) := by
  refine ⟨fun hc => ?_, fun hc => ?_⟩
  · have := Int.mul_le_mul_of_nonneg_right hc hD
    exact le_abs.mpr (Or.inl (by linarith))
  · have := Int.mul_le_mul_of_nonneg_right hc hD
    exact le_abs.mpr (Or.inr (by linarith))

/-- `rne N k × 2^k` は `2^k` の倍数のうち `N` に最も近い。 -/
theorem rne_nearest (N k c : Nat) :
    |(N : ℤ) - rne N k * 2 ^ k| ≤ |(N : ℤ) - c * 2 ^ k| := by
  have hdm := Nat.div_add_mod N (2 ^ k)
  have hr := Nat.mod_lt N (Nat.two_pow_pos k)
  have hcases := rne_cases N k
  generalize rne N k = R at *
  generalize N / 2 ^ k = q at *
  generalize N % 2 ^ k = r at *
  have hN : (N : ℤ) = 2 ^ k * q + r := by rw [← hdm]; push_cast; ring
  obtain ⟨hlow, hhigh⟩ := dist_multiple_bounds (D := 2 ^ k) (q := q) (r := r) (c := c) (by positivity)
  have hr' : (r : ℤ) < 2 ^ k := by exact_mod_cast hr
  rw [hN]
  rcases hcases with ⟨hR, hhalf⟩ | ⟨hR, hhalf⟩ <;> rw [hR] <;> push_cast at hhalf ⊢
  · rw [show (2 ^ k * q + r : ℤ) - q * 2 ^ k = r by ring, abs_of_nonneg (by positivity)]
    rcases le_or_gt c q with hc | hc
    · exact hlow (by exact_mod_cast hc)
    · have := hhigh (by exact_mod_cast hc)
      linarith
  · rw [show (2 ^ k * q + r : ℤ) - (q + 1) * 2 ^ k = -(2 ^ k - r) by ring, abs_neg,
      abs_of_nonneg (by linarith)]
    rcases le_or_gt c q with hc | hc
    · have := hlow (by exact_mod_cast hc)
      linarith
    · exact hhigh (by exact_mod_cast hc)

/-! ## 表せる大きさへの丸め -/

/-- 53 ビットに丸めた大きさは、表せるどの大きさ `M × 2^j`（`M < 2^53`）よりも `N` に近い。 -/
theorem roundUnits_nearest (N : Nat) {M : Nat} (j : Nat) (hM : M < 2 ^ 53) :
    |(N : ℤ) - roundUnits N| ≤ |(N : ℤ) - M * 2 ^ j| := by
  unfold roundUnits
  push_cast
  rcases le_or_gt (shiftOf N) j with hjk | hjk
  · have hsplit : (M : ℤ) * 2 ^ j = ((M * 2 ^ (j - shiftOf N) : Nat) : ℤ) * 2 ^ shiftOf N := by
      push_cast
      rw [mul_assoc, ← pow_add, Nat.sub_add_cancel hjk]
    rw [hsplit]
    exact rne_nearest N (shiftOf N) _
  · -- 倍数でなければ `2^(52 + k)` より小さく、`N` はそれ以上なので、`2^(52 + k)` の方が近い
    have hN : 2 ^ 52 * 2 ^ shiftOf N ≤ N :=
      (Nat.le_div_iff_mul_le (Nat.two_pow_pos _)).mp (le_div_shiftOf (by omega))
    have hV : M * 2 ^ j < 2 ^ 52 * 2 ^ shiftOf N := by
      calc M * 2 ^ j < 2 ^ 53 * 2 ^ j := Nat.mul_lt_mul_of_pos_right hM (Nat.two_pow_pos j)
        _ = 2 ^ 52 * 2 ^ (j + 1) := by rw [← pow_add, ← pow_add]; ring_nf
        _ ≤ 2 ^ 52 * 2 ^ shiftOf N := Nat.mul_le_mul_left _ (Nat.pow_le_pow_right (by norm_num) hjk)
    have hbase := rne_nearest N (shiftOf N) (2 ^ 52)
    have hN' : ((2 ^ 52 * 2 ^ shiftOf N : Nat) : ℤ) ≤ N := by exact_mod_cast hN
    have hV' : ((M * 2 ^ j : Nat) : ℤ) < ((2 ^ 52 * 2 ^ shiftOf N : Nat) : ℤ) := by exact_mod_cast hV
    push_cast at hbase hN' hV'
    rw [abs_of_nonneg (sub_nonneg.mpr hN')] at hbase
    rw [abs_of_nonneg (sub_nonneg.mpr (hV'.le.trans hN'))]
    linarith

/-- 有限数の位置の絶対値は、表せる大きさ `M × 2^j`（`M < 2^53`）。 -/
theorem Float.natAbs_rankOf_representable {x : Float} (hx : x.isFinite = true) :
    ∃ M j, M < 2 ^ 53 ∧ (rankOf x).natAbs = M * 2 ^ j := by
  have hc := canonicalForm_toModel x
  rw [Float.isFinite_eq_unpack] at hx
  unfold rankOf
  cases hu : x.toModel.unpack with
  | notANumber | infinity _ => rw [hu] at hx; cases hx
  | zero _ => exact ⟨0, 0, by norm_num, rfl⟩
  | finite s m e hm =>
    rw [hu] at hc
    refine ⟨m, (e + 1074).toNat, by rcases hc with h | h <;> omega, ?_⟩
    cases s <;> simp [valueRank, Sign.apply, units, Int.natAbs_mul, Int.natAbs_pow]

/-- 符号付きの位置 `S` を丸めて詰めた位置は、表せる位置 `V` のどれよりも `S` に近い。`|S|` に
その距離を足しても `overflowRank` に届かなければ、結果は有限の範囲にある。 -/
theorem roundRank_nearest {S V : ℤ} (hV : ∃ M j, M < 2 ^ 53 ∧ V.natAbs = M * 2 ^ j)
    (hS : |S| + |S - V| < overflowRank) :
    |roundRank S - S| ≤ |S - V| ∧ |roundRank S| < overflowRank := by
  obtain ⟨M, j, hM, hVabs⟩ := hV
  have hmag : |(S.natAbs : ℤ) - M * 2 ^ j| ≤ |S - V| := by
    have h := abs_abs_sub_abs_le_abs_sub S V
    rwa [Int.abs_eq_natAbs S, Int.abs_eq_natAbs V, hVabs, Nat.cast_mul, Nat.cast_pow,
      Nat.cast_ofNat] at h
  have hnear := (roundUnits_nearest S.natAbs j hM).trans hmag
  rw [Int.abs_eq_natAbs S] at hS
  generalize |S - V| = d at hS hnear ⊢
  generalize hR : roundUnits S.natAbs = R at hnear
  have hU : (R : ℤ) < overflowRank := by
    have := (abs_le.mp hnear).1
    linarith
  have hsat : saturate R = R := by
    have h := hU
    rw [overflowRank_eq_cast] at h
    exact saturate_of_lt (Int.ofNat_lt.mp h)
  have hR0 : (0 : ℤ) ≤ R := Int.natCast_nonneg _
  clear hS
  unfold roundRank
  by_cases h0 : 0 ≤ S
  · have hn : S.toNat = S.natAbs := by omega
    rw [if_pos h0, hn, hR, hsat, abs_of_nonneg hR0]
    refine ⟨?_, hU⟩
    rw [abs_sub_comm, show (S : ℤ) = S.natAbs by omega]
    exact hnear
  · have hn : (-S).toNat = S.natAbs := by omega
    rw [if_neg h0, hn, hR, hsat, abs_neg, abs_of_nonneg hR0]
    refine ⟨?_, hU⟩
    rw [show -(R : ℤ) - S = (S.natAbs : ℤ) - R by omega]
    exact hnear

/-- 無限大の位置に、大きさが `overflowRank` より小さい数を足して丸めても、同じ無限大の位置。 -/
theorem roundRank_infinite_add {r t : ℤ} (hr : r = infRank ∨ r = -infRank) (ht : |t| < overflowRank) :
    roundRank (r + t) = r := by
  have h := abs_lt.mp ht
  rw [overflowRank_eq_cast] at h
  rcases hr with hr | hr <;> rw [hr]
  · exact roundRank_infRank_add .positive t (by simp only [Sign.apply]; omega)
  · exact roundRank_infRank_add .negative t (by simp only [Sign.apply]; omega)

/-- 有限数の位置の絶対値は、最大の有限数 `(2^53 − 1) × 2^971` の位置 `(2^53 − 1) × 2^2045` 以下。 -/
theorem Float.abs_rankOf_le_max {x : Float} (hx : x.isFinite = true) :
    |rankOf x| ≤ (2 ^ 53 - 1) * 2 ^ 2045 := by
  have hc := canonicalForm_toModel x
  rw [Float.isFinite_eq_unpack] at hx
  unfold rankOf
  cases hu : x.toModel.unpack with
  | notANumber | infinity _ => rw [hu] at hx; cases hx
  | zero _ =>
    simp only [valueRank, abs_zero]
    positivity
  | finite s m e hm =>
    rw [hu] at hc
    have hm53 : (m : ℤ) ≤ 2 ^ 53 - 1 := by rcases hc with h | h <;> omega
    have hpow : (2 : ℤ) ^ (e + 1074).toNat ≤ 2 ^ 2045 :=
      pow_le_pow_right₀ (by norm_num) (by rcases hc with h | h <;> omega)
    have hU : ((units m e : Nat) : ℤ) ≤ (2 ^ 53 - 1) * 2 ^ 2045 := by
      rw [units, Nat.cast_mul, Nat.cast_pow, Nat.cast_ofNat]
      exact Int.mul_le_mul hm53 hpow (by positivity) (by norm_num)
    cases s <;> simp only [valueRank, Sign.apply, abs_neg, Nat.abs_cast] <;> exact hU

/-! ## 和と差 -/

/-- 位置が `roundRank S` の数は、正確な位置 `S` に、どの有限数 `z` の位置よりも近い。`|S|` に
その距離を足しても `overflowRank` に届かなければ、その数は有限。 -/
theorem Float.nearest_of_rankOf_eq_roundRank {r z : Float} {S : ℤ} (hr : r.isNaN = false)
    (hrank : rankOf r = roundRank S) (hz : z.isFinite = true)
    (hb : |S| + |S - rankOf z| < overflowRank) :
    r.isFinite = true ∧ |rankOf r - S| ≤ |S - rankOf z| := by
  obtain ⟨hnear, hfin⟩ := roundRank_nearest (Float.natAbs_rankOf_representable hz) hb
  rw [← hrank] at hnear hfin
  have hI := overflowRank_lt_infRank
  obtain ⟨h1, h2⟩ := abs_lt.mp hfin
  exact ⟨Float.isFinite_of_rankOf_lt hr (by linarith) (by linarith), hnear⟩

/-- 有限な二数の和の位置は、正確な和に、どの有限数 `z` の位置よりも近い。正確な和の大きさに
その距離を足しても `overflowRank` に届かなければ、和は有限。 -/
theorem Float.add_nearest {x y z : Float} (hx : x.isFinite = true) (hy : y.isFinite = true)
    (hz : z.isFinite = true)
    (hb : |rankOf x + rankOf y| + |rankOf x + rankOf y - rankOf z| < overflowRank) :
    (x + y).isFinite = true ∧
      |rankOf (x + y) - (rankOf x + rankOf y)| ≤ |rankOf x + rankOf y - rankOf z| := by
  have hnan := Float.add_isNaN_eq_false_of_isFinite_left hx (Float.isNaN_eq_false_of_isFinite hy)
  exact Float.nearest_of_rankOf_eq_roundRank hnan (Float.rankOf_add hnan) hz hb

/-- 有限な二数の差の位置は、正確な差に、どの有限数 `z` の位置よりも近い。 -/
theorem Float.sub_nearest {x y z : Float} (hx : x.isFinite = true) (hy : y.isFinite = true)
    (hz : z.isFinite = true)
    (hb : |rankOf x - rankOf y| + |rankOf x - rankOf y - rankOf z| < overflowRank) :
    (x - y).isFinite = true ∧
      |rankOf (x - y) - (rankOf x - rankOf y)| ≤ |rankOf x - rankOf y - rankOf z| := by
  have hnan := Float.sub_isNaN_eq_false (Float.isNaN_eq_false_of_isFinite hx) hy
  exact Float.nearest_of_rankOf_eq_roundRank hnan (Float.rankOf_sub hnan) hz hb

end PlotGeometry
