import Mathlib
import PlotGeometry.Proofs.Float.Bounds
import PlotGeometry.Proofs.Float.Zero
/-!
# 一度の丸めの誤差

足し算、引き算、掛け算、割り算の結果は、正確な値（位置の和、差、積、商）を 53 ビットに一度
丸めて詰めたもの。ここではその誤差を抑える。

丸めは落とす桁の刻み `2^k` より遠くへは動かさず、桁を落とすときは刻みの `2^52` 倍が丸める
大きさを越えない。だから位置のずれの `2^52` 倍は、丸める大きさ以下。掛け算と割り算では `2^1074`
で割ってから丸めるので、非正規数の刻み一つ分（位置で 1）が加わる。

浮動小数点数の演算の誤差は、正確な値の大きさの上界 `A` で書く（大きさが `A` 以下で `A` が
溢れなければ、結果は有限で、ずれの `2^52` 倍は `A` 以下）。位置は `2^-1074` を単位にした整数
なので、不等式はどれも整数の上で書く。

* `rnd_mul_error` — 商を丸めて掛け戻すと、割る数より遠くへは離れない
* `roundUnits_error`、`roundQuot_error` — 53 ビットへの丸めの誤差
* `Float.add_error`、`Float.sub_error`、`Float.mul_error`、`Float.div_error` — 演算の誤差
-/

namespace PlotGeometry

/-! ## 丸めた大きさ -/

/-- 商を丸めて割る数を掛け戻すと、割られる数から割る数より遠くへは離れない。 -/
theorem rnd_mul_error (A : Nat) {D : Nat} (hD : 0 < D) : |(rnd A D : ℤ) * D - A| ≤ D := by
  obtain ⟨hlo, hhi⟩ := rnd_bounds A D
  have hdm := Nat.div_add_mod A D
  have hmod := Nat.mod_lt A hD
  generalize rnd A D = R at hlo hhi
  generalize A / D = q at hlo hhi hdm
  generalize A % D = r at hdm hmod
  have h1 : q * D ≤ R * D := Nat.mul_le_mul_right D hlo
  have h2 : R * D ≤ q * D + D := by
    calc R * D ≤ (q + 1) * D := Nat.mul_le_mul_right D hhi
      _ = q * D + D := Nat.succ_mul q D
  have hA : (A : ℤ) = q * D + r := by
    rw [← hdm]
    push_cast
    ring
  rw [abs_le]
  constructor
  · have : ((q * D : Nat) : ℤ) ≤ R * D := by exact_mod_cast h1
    push_cast at this
    omega
  · have : (R * D : ℤ) ≤ q * D + D := by exact_mod_cast h2
    omega

/-- 53 ビットへの丸めは、大きさ `N` を `N / 2^52` より遠くへは動かさない。 -/
theorem roundUnits_error (N : Nat) : |(roundUnits N : ℤ) - N| * 2 ^ 52 ≤ N := by
  unfold roundUnits
  rcases Nat.eq_zero_or_pos (shiftOf N) with hk | hk
  · rw [hk, rne_zero_shift, pow_zero, Nat.mul_one, sub_self, abs_zero, zero_mul]
    exact Int.natCast_nonneg N
  · -- 落とす桁の刻み `2^k` の `2^52` 倍は `N` を越えない
    have herr := rnd_mul_error N (Nat.two_pow_pos (shiftOf N))
    have hq : 2 ^ shiftOf N * 2 ^ 52 ≤ N := by
      calc 2 ^ shiftOf N * 2 ^ 52 ≤ 2 ^ shiftOf N * (N / 2 ^ shiftOf N) :=
            Nat.mul_le_mul_left _ (le_div_shiftOf hk)
        _ ≤ N := Nat.mul_div_le N _
    rw [rne_eq_rnd, Nat.cast_mul]
    calc |(rnd N (2 ^ shiftOf N) : ℤ) * ((2 ^ shiftOf N : Nat) : ℤ) - N| * 2 ^ 52
        ≤ ((2 ^ shiftOf N : Nat) : ℤ) * 2 ^ 52 := mul_le_mul_of_nonneg_right herr (by positivity)
      _ ≤ (N : ℤ) := by exact_mod_cast hq

/-- 商の丸めは、掛け戻した値を `A / 2^52` と割る数の一つ分を足したものより遠くへは動かさない。 -/
theorem roundQuot_error (A : Nat) {B : Nat} (hB : 0 < B) :
    |(roundQuot A B : ℤ) * B - A| * 2 ^ 52 ≤ A + B * 2 ^ 52 := by
  unfold roundQuot
  set k := shiftOf (A / B)
  have herr := rnd_mul_error A (Nat.mul_pos hB (Nat.two_pow_pos k))
  have hscale : ((B * 2 ^ k : Nat) : ℤ) * 2 ^ 52 ≤ A + B * 2 ^ 52 := by
    rcases Nat.eq_zero_or_pos k with hk | hk
    · rw [hk, pow_zero, Nat.mul_one]
      exact le_add_of_nonneg_left (Int.natCast_nonneg A)
    · have h52 : 2 ^ 52 ≤ A / (B * 2 ^ k) := by
        rw [← Nat.div_div_eq_div_mul]
        exact le_div_shiftOf hk
      have hq : B * 2 ^ k * 2 ^ 52 ≤ A :=
        calc B * 2 ^ k * 2 ^ 52 ≤ B * 2 ^ k * (A / (B * 2 ^ k)) := Nat.mul_le_mul_left _ h52
          _ ≤ A := Nat.mul_div_le A _
      have hB0 : (0 : ℤ) ≤ B * 2 ^ 52 := by positivity
      calc ((B * 2 ^ k : Nat) : ℤ) * 2 ^ 52 ≤ A := by exact_mod_cast hq
        _ ≤ A + B * 2 ^ 52 := le_add_of_nonneg_right hB0
  rw [show ((rnd A (B * 2 ^ k) * 2 ^ k : Nat) : ℤ) * B =
      (rnd A (B * 2 ^ k) : ℤ) * ((B * 2 ^ k : Nat) : ℤ) by push_cast; ring]
  calc |(rnd A (B * 2 ^ k) : ℤ) * ((B * 2 ^ k : Nat) : ℤ) - A| * 2 ^ 52
      ≤ ((B * 2 ^ k : Nat) : ℤ) * 2 ^ 52 := mul_le_mul_of_nonneg_right herr (by positivity)
    _ ≤ A + B * 2 ^ 52 := hscale

/-! ## 溢れない丸め -/

/-- 丸めた大きさが溢れる境目に届かなければ、詰めても変わらない。 -/
theorem saturate_of_abs_lt {U : Nat} (h : |saturate U| < infRank) : saturate U = U := by
  by_contra hne
  have hge : 2 ^ 2098 ≤ U := by
    by_contra hlt
    exact hne (saturate_of_lt (Nat.lt_of_not_le hlt))
  rw [saturate_of_le hge, abs_of_pos infRank_pos] at h
  exact lt_irrefl _ h

/-- 溢れない丸めは、符号付きの大きさ `S` を `|S| / 2^52` より遠くへは動かさない。 -/
theorem roundRank_error {S : ℤ} (h : |roundRank S| < infRank) :
    |roundRank S - S| * 2 ^ 52 ≤ |S| := by
  unfold roundRank at h ⊢
  split_ifs at h ⊢ with hS
  · rw [saturate_of_abs_lt h, abs_of_nonneg hS]
    have herr := roundUnits_error S.toNat
    rwa [Int.toNat_of_nonneg hS] at herr
  · rw [abs_neg] at h
    rw [saturate_of_abs_lt h, abs_of_neg (Int.lt_of_not_ge hS)]
    have herr := roundUnits_error (-S).toNat
    rw [Int.toNat_of_nonneg (by omega)] at herr
    rwa [show -((roundUnits (-S).toNat : Nat) : ℤ) - S = -(((roundUnits (-S).toNat : Nat) : ℤ) - -S) by ring,
      abs_neg]

/-- 溢れない商の丸めの誤差。 -/
theorem roundRankQuot_error {S : ℤ} {B : Nat} (hB : 0 < B) (h : |roundRankQuot S B| < infRank) :
    |roundRankQuot S B * B - S| * 2 ^ 52 ≤ |S| + B * 2 ^ 52 := by
  unfold roundRankQuot at h ⊢
  split_ifs at h ⊢ with hS
  · rw [saturate_of_abs_lt h, abs_of_nonneg hS]
    have herr := roundQuot_error S.toNat hB
    rwa [Int.toNat_of_nonneg hS] at herr
  · rw [abs_neg] at h
    rw [saturate_of_abs_lt h, abs_of_neg (Int.lt_of_not_ge hS)]
    have herr := roundQuot_error (-S).toNat hB
    rw [Int.toNat_of_nonneg (by omega)] at herr
    rwa [show -((roundQuot (-S).toNat B : Nat) : ℤ) * B - S =
        -(((roundQuot (-S).toNat B : Nat) : ℤ) * B - -S) by ring, abs_neg]

/-- 商の丸めは、割られる数が割る数の `A` 倍（`A ≤ 2^2096`）以下なら溢れない。 -/
theorem roundQuot_lt_of_le {N B : Nat} (hB : 0 < B) {A : ℤ} (hA : (N : ℤ) ≤ A * B)
    (hov : A ≤ 2 ^ 2096) : (roundQuot N B : ℤ) < 2 ^ 2098 := by
  have herr := roundQuot_error N hB
  have hle := le_abs_self ((roundQuot N B : ℤ) * B - N)
  have hB' : (0 : ℤ) < B := by exact_mod_cast hB
  have hN : (0 : ℤ) ≤ N := Int.natCast_nonneg N
  -- `Q B 2^52 ≤ N (2^52 + 1) + B 2^52 ≤ (A (2^52 + 1) + 2^52) B` から `B` を払う
  have h1 : (roundQuot N B : ℤ) * 2 ^ 52 * B ≤ (A * (2 ^ 52 + 1) + 2 ^ 52) * B := by nlinarith
  have h2 := le_of_mul_le_mul_right h1 hB'
  have hA0 : 0 ≤ A := by nlinarith
  have h5 : (1 : ℤ) ≤ 2 ^ 2096 := one_le_pow₀ (by norm_num)
  rw [show (2 : ℤ) ^ 2098 = 4 * 2 ^ 2096 by rw [show 2098 = 2 + 2096 from rfl, pow_add]; norm_num]
  generalize (2 : ℤ) ^ 2096 = T at hov h5 ⊢
  linarith

/-- 割られる数の大きさが割る数の `A` 倍（`A ≤ 2^2096`）以下なら、商の丸めは溢れず、掛け戻した
ずれの `2^52` 倍は `(A + 2^52) B` 以下。 -/
theorem roundRankQuot_error_of_le {S : ℤ} {B : Nat} (hB : 0 < B) {A : ℤ} (hA : |S| ≤ A * B)
    (hov : A ≤ 2 ^ 2096) :
    |roundRankQuot S B| < ((2 ^ 2098 : Nat) : ℤ) ∧
      |roundRankQuot S B * B - S| * 2 ^ 52 ≤ (A + 2 ^ 52) * B := by
  have hsat : |roundRankQuot S B| < ((2 ^ 2098 : Nat) : ℤ) := by
    have hQ := roundQuot_lt_of_le hB (N := |S|.toNat) (by rwa [Int.toNat_of_nonneg (abs_nonneg S)]) hov
    unfold roundRankQuot
    rw [Nat.cast_pow, Nat.cast_ofNat]
    split_ifs with hS
    · rw [abs_of_nonneg hS] at hQ
      rw [saturate_of_lt (by exact_mod_cast hQ), abs_of_nonneg (Int.natCast_nonneg _)]
      exact hQ
    · rw [abs_of_neg (Int.lt_of_not_ge hS)] at hQ
      rw [saturate_of_lt (by exact_mod_cast hQ), abs_neg, abs_of_nonneg (Int.natCast_nonneg _)]
      exact hQ
  refine ⟨hsat, ?_⟩
  have herr := roundRankQuot_error hB (lt_trans hsat overflow_lt_infRank)
  have hB' : (0 : ℤ) ≤ B := Int.natCast_nonneg B
  calc |roundRankQuot S B * B - S| * 2 ^ 52 ≤ |S| + B * 2 ^ 52 := herr
    _ ≤ A * B + B * 2 ^ 52 := by linarith
    _ = (A + 2 ^ 52) * B := by ring

/-! ## 演算の誤差 -/

/-- 有限な二数の和は、位置の和の大きさが `A ≤ 2^2097` 以下なら有限で、ずれの `2^52` 倍は `A`
以下。 -/
theorem Float.add_error {x y : Float} (hx : x.isFinite = true) (hy : y.isFinite = true) {A : ℤ}
    (hA : |rankOf x + rankOf y| ≤ A) (hov : A ≤ 2 ^ 2097) :
    (x + y).isFinite = true ∧ |rankOf (x + y) - (rankOf x + rankOf y)| * 2 ^ 52 ≤ A := by
  have hnan := Float.add_isNaN_eq_false_of_isFinite_left hx (Float.isNaN_eq_false_of_isFinite hy)
  obtain ⟨h1, h2⟩ := abs_le.mp (hA.trans hov)
  have hb := roundRank_bounds (S := rankOf x + rankOf y) (k := 2097) (by norm_num) (by norm_num)
    (by rw [Nat.cast_pow, Nat.cast_ofNat]; exact h1)
    (by rw [Nat.cast_pow, Nat.cast_ofNat]; exact h2)
  rw [Float.rankOf_add hnan]
  refine ⟨Float.isFinite_of_rankOf_lt hnan ?_ ?_, (roundRank_error (abs_lt.mpr hb)).trans hA⟩
  · rw [Float.rankOf_add hnan]
    exact hb.1
  · rw [Float.rankOf_add hnan]
    exact hb.2

/-- 有限な二数の差は、位置の差の大きさが `A ≤ 2^2097` 以下なら有限で、ずれの `2^52` 倍は `A`
以下。 -/
theorem Float.sub_error {x y : Float} (hx : x.isFinite = true) (hy : y.isFinite = true) {A : ℤ}
    (hA : |rankOf x - rankOf y| ≤ A) (hov : A ≤ 2 ^ 2097) :
    (x - y).isFinite = true ∧ |rankOf (x - y) - (rankOf x - rankOf y)| * 2 ^ 52 ≤ A := by
  have hnan := Float.sub_isNaN_eq_false (Float.isNaN_eq_false_of_isFinite hx) hy
  obtain ⟨h1, h2⟩ := abs_le.mp (hA.trans hov)
  have hb := roundRank_bounds (S := rankOf x - rankOf y) (k := 2097) (by norm_num) (by norm_num)
    (by rw [Nat.cast_pow, Nat.cast_ofNat]; exact h1)
    (by rw [Nat.cast_pow, Nat.cast_ofNat]; exact h2)
  rw [Float.rankOf_sub hnan]
  refine ⟨Float.isFinite_of_rankOf_lt hnan ?_ ?_, (roundRank_error (abs_lt.mpr hb)).trans hA⟩
  · rw [Float.rankOf_sub hnan]
    exact hb.1
  · rw [Float.rankOf_sub hnan]
    exact hb.2

/-- 有限な二数の積は、位置の積の大きさが `A 2^1074`（`A ≤ 2^2096`）以下なら有限で、`2^1074` 倍
した位置のずれの `2^52` 倍は `(A + 2^52) 2^1074` 以下。 -/
theorem Float.mul_error {x y : Float} (hx : x.isFinite = true) (hy : y.isFinite = true) {A : ℤ}
    (hA : |rankOf x * rankOf y| ≤ A * 2 ^ 1074) (hov : A ≤ 2 ^ 2096) :
    (x * y).isFinite = true ∧
      |rankOf (x * y) * 2 ^ 1074 - rankOf x * rankOf y| * 2 ^ 52 ≤ (A + 2 ^ 52) * 2 ^ 1074 := by
  have hnan := Float.mul_isNaN_eq_false hx hy
  obtain ⟨hsat, herr⟩ := roundRankQuot_error_of_le (S := rankOf x * rankOf y) (B := 2 ^ 1074)
    (by positivity) (by rw [Nat.cast_pow, Nat.cast_ofNat]; exact hA) hov
  have hI := overflow_lt_infRank
  rw [Float.rankOf_mul hx hy]
  rw [Nat.cast_pow, Nat.cast_ofNat] at herr
  refine ⟨Float.isFinite_of_rankOf_lt hnan ?_ ?_, herr⟩
  · rw [Float.rankOf_mul hx hy]
    exact neg_lt_of_abs_lt (lt_trans hsat hI)
  · rw [Float.rankOf_mul hx hy]
    exact lt_of_abs_lt (lt_trans hsat hI)

/-- 有限な数を正の有限な数で割った商は、割られる数の `2^1074` 倍の大きさが割る数の位置の `A` 倍
（`A ≤ 2^2096`）以下なら有限で、割る数の位置を掛け戻したずれの `2^52` 倍は `(A + 2^52)` 倍の
割る数の位置以下。 -/
theorem Float.div_error {x y : Float} (hx : x.isFinite = true) (hy : y.isFinite = true)
    (hy0 : 0 < rankOf y) {A : ℤ} (hA : |rankOf x| * 2 ^ 1074 ≤ A * rankOf y) (hov : A ≤ 2 ^ 2096) :
    (x / y).isFinite = true ∧
      |rankOf (x / y) * rankOf y - rankOf x * 2 ^ 1074| * 2 ^ 52 ≤ (A + 2 ^ 52) * rankOf y := by
  have hnan := Float.div_isNaN_eq_false (Float.isNaN_eq_false_of_isFinite hx) hy (ne_of_gt hy0)
  have hB : 0 < (rankOf y).toNat := by omega
  have hcast : (((rankOf y).toNat : Nat) : ℤ) = rankOf y := Int.toNat_of_nonneg hy0.le
  obtain ⟨hsat, herr⟩ := roundRankQuot_error_of_le (S := rankOf x * 2 ^ 1074) hB (A := A)
    (by rw [hcast, abs_mul, abs_of_pos (by positivity : (0 : ℤ) < 2 ^ 1074)]; exact hA) hov
  have hI := overflow_lt_infRank
  rw [hcast] at herr
  rw [Float.rankOf_div hx hy hy0]
  refine ⟨Float.isFinite_of_rankOf_lt hnan ?_ ?_, herr⟩
  · rw [Float.rankOf_div hx hy hy0]
    exact neg_lt_of_abs_lt (lt_trans hsat hI)
  · rw [Float.rankOf_div hx hy hy0]
    exact lt_of_abs_lt (lt_trans hsat hI)

/-! ## 誤差の刻みを決めた形 -/

theorem two_pow_mul_le {e : ℤ} {a b c : Nat} (hc : b + a = c) (he : e ≤ 2 ^ a) :
    (2 : ℤ) ^ b * e ≤ 2 ^ c := by
  rw [← hc, pow_add]
  exact mul_le_mul_of_nonneg_left he (by positivity)

/-- 位置の和の大きさが `2^52 e` 以下なら、和は有限で、ずれは `e` 以下。 -/
theorem Float.add_near {x y : Float} (hx : x.isFinite = true) (hy : y.isFinite = true) {e : ℤ}
    (hS : |rankOf x + rankOf y| ≤ 2 ^ 52 * e) (he : e ≤ 2 ^ 2045) :
    (x + y).isFinite = true ∧ |rankOf (x + y) - (rankOf x + rankOf y)| ≤ e := by
  obtain ⟨hfin, herr⟩ := Float.add_error hx hy hS (two_pow_mul_le (a := 2045) (b := 52) (c := 2097) rfl he)
  rw [mul_comm] at herr
  exact ⟨hfin, le_of_mul_le_mul_left herr (by positivity)⟩

/-- 位置の差の大きさが `2^52 e` 以下なら、差は有限で、ずれは `e` 以下。 -/
theorem Float.sub_near {x y : Float} (hx : x.isFinite = true) (hy : y.isFinite = true) {e : ℤ}
    (hS : |rankOf x - rankOf y| ≤ 2 ^ 52 * e) (he : e ≤ 2 ^ 2045) :
    (x - y).isFinite = true ∧ |rankOf (x - y) - (rankOf x - rankOf y)| ≤ e := by
  obtain ⟨hfin, herr⟩ := Float.sub_error hx hy hS (two_pow_mul_le (a := 2045) (b := 52) (c := 2097) rfl he)
  rw [mul_comm] at herr
  exact ⟨hfin, le_of_mul_le_mul_left herr (by positivity)⟩

/-- 自然数（`2^53` 未満）倍は、位置の積の大きさが `2^52 e` 以下なら有限で、ずれは `e + 1` 以下。 -/
theorem Float.natMul_near {n : Nat} (hn : n < 2 ^ 53) {y : Float} (hy : y.isFinite = true) {e : ℤ}
    (hS : n * |rankOf y| ≤ 2 ^ 52 * e) (he : e ≤ 2 ^ 2044) :
    (n.toFloat * y).isFinite = true ∧ |rankOf (n.toFloat * y) - n * rankOf y| ≤ e + 1 := by
  have hrank : rankOf n.toFloat = n * 2 ^ 1074 := by
    rw [show n.toFloat = Float.ofNat n from rfl, Float.rankOf_ofNat_of_lt hn, Nat.cast_mul,
      Nat.cast_pow, Nat.cast_ofNat]
  have hfin : n.toFloat.isFinite = true := by
    have h53 : 2 ^ 53 ≤ 2 ^ 1023 := pow_le_pow_right₀ (by norm_num) (by norm_num)
    exact Float.isFinite_ofNat (by omega)
  have hU : (0 : ℤ) < 2 ^ 1074 := by positivity
  have hA : |rankOf n.toFloat * rankOf y| ≤ 2 ^ 52 * e * 2 ^ 1074 := by
    have hn0 : (0 : ℤ) ≤ n * 2 ^ 1074 := Int.mul_nonneg (Int.natCast_nonneg n) hU.le
    calc |rankOf n.toFloat * rankOf y| = n * 2 ^ 1074 * |rankOf y| := by
          rw [abs_mul, hrank, abs_of_nonneg hn0]
      _ = n * |rankOf y| * 2 ^ 1074 := mul_right_comm _ _ _
      _ ≤ 2 ^ 52 * e * 2 ^ 1074 := Int.mul_le_mul_of_nonneg_right hS hU.le
  obtain ⟨hfin', herr⟩ :=
    Float.mul_error hfin hy hA (two_pow_mul_le (a := 2044) (b := 52) (c := 2096) rfl he)
  refine ⟨hfin', ?_⟩
  have hfactor : rankOf (n.toFloat * y) * 2 ^ 1074 - rankOf n.toFloat * rankOf y =
      (rankOf (n.toFloat * y) - n * rankOf y) * 2 ^ 1074 := by
    rw [hrank, sub_mul, mul_right_comm (n : ℤ)]
  rw [hfactor, abs_mul, abs_of_pos hU, mul_right_comm] at herr
  have h2 : |rankOf (n.toFloat * y) - n * rankOf y| * 2 ^ 52 ≤ (e + 1) * 2 ^ 52 := by
    rw [show (e + 1) * 2 ^ 52 = 2 ^ 52 * e + 2 ^ 52 by ring]
    exact le_of_mul_le_mul_right herr hU
  exact le_of_mul_le_mul_right h2 (by positivity)

/-- 負でない有限な二数の積の位置が `2^k`（`52 ≤ k < 2098`）未満なら、位置の積は `2^k 2^1074`
未満：丸めは `2^k` をそのまま残すので、積がそれ以上なら丸めた値もそれ以上。 -/
theorem Float.mul_lt_of_rankOf_lt {x y : Float} (hx : x.isFinite = true) (hy : y.isFinite = true)
    {k : Nat} (hk : 52 ≤ k) (hk' : k < 2098) (h : rankOf (x * y) < 2 ^ k) :
    rankOf x * rankOf y < 2 ^ k * 2 ^ 1074 := by
  by_contra hge
  have hexact : roundRank ((2 ^ k : Nat) : ℤ) = 2 ^ k := by
    rw [roundRank, if_pos (Int.natCast_nonneg _), Int.toNat_natCast, roundUnits_two_pow hk,
      saturate_of_lt (pow_lt_pow_right₀ (by norm_num) hk'), Nat.cast_pow, Nat.cast_ofNat]
  have hmono := roundRankQuot_mono (B := 2 ^ 1074) (by positivity)
    (show ((2 ^ k : Nat) : ℤ) * ((2 ^ 1074 : Nat) : ℤ) ≤ rankOf x * rankOf y by
      rw [Nat.cast_pow, Nat.cast_pow, Nat.cast_ofNat]; omega)
  rw [roundRankQuot_mul_self _ (by positivity), hexact, ← Float.rankOf_mul hx hy] at hmono
  omega

/-! ## 誤差つきの位置

大きさが `2^36`（位置で `2^1110`）を越えない数を足したり、引いたり、自然数倍したりするとき、
一度の丸めの誤差は `2^-16`（位置で `2^1058`）以下。`Float.Near x v e` はその勘定で、誤差は
演算ごとに足し合わせる。 -/

/-- `x` は有限で、その位置は `v` から `e` 以内。 -/
def Float.Near (x : Float) (v e : ℤ) : Prop :=
  x.isFinite = true ∧ v - e ≤ rankOf x ∧ rankOf x ≤ v + e

theorem Float.near_rankOf {x : Float} (hx : x.isFinite = true) : Float.Near x (rankOf x) 0 :=
  ⟨hx, by omega, by omega⟩

/-- 区間 `[c - e, c + e]` を含む区間へ広げる。 -/
theorem Float.Near.widen {x : Float} {c e : ℤ} (h : Float.Near x c e) {v e' : ℤ} (h1 : v - e' ≤ c - e)
    (h2 : c + e ≤ v + e') : Float.Near x v e' :=
  ⟨h.1, by have := h.2.1; omega, by have := h.2.2; omega⟩

theorem Float.Near.add {x y : Float} {v w e f : ℤ} (hx : Float.Near x v e) (hy : Float.Near y w f)
    (hb : |v + w| ≤ 2 ^ 1110 - e - f) : Float.Near (x + y) (v + w) (e + f + 2 ^ 1058) := by
  obtain ⟨hxf, hx1, hx2⟩ := hx
  obtain ⟨hyf, hy1, hy2⟩ := hy
  have hvw := abs_le.mp hb
  obtain ⟨hfin, herr⟩ := Float.add_near hxf hyf (e := 2 ^ 1058)
    (abs_le.mpr ⟨by omega, by omega⟩) (by omega)
  have h := abs_le.mp herr
  exact ⟨hfin, by omega, by omega⟩

theorem Float.Near.sub {x y : Float} {v w e f : ℤ} (hx : Float.Near x v e) (hy : Float.Near y w f)
    (hb : |v - w| ≤ 2 ^ 1110 - e - f) : Float.Near (x - y) (v - w) (e + f + 2 ^ 1058) := by
  obtain ⟨hxf, hx1, hx2⟩ := hx
  obtain ⟨hyf, hy1, hy2⟩ := hy
  have hvw := abs_le.mp hb
  obtain ⟨hfin, herr⟩ := Float.sub_near hxf hyf (e := 2 ^ 1058)
    (abs_le.mpr ⟨by omega, by omega⟩) (by omega)
  have h := abs_le.mp herr
  exact ⟨hfin, by omega, by omega⟩

/-- 自然数（`2^53` 未満）倍は、位置の積が `2^1110` を越えなければ、ずれは `2^1058 + 1` 以下。 -/
theorem Float.near_natMul {n : Nat} (hn : n < 2 ^ 53) {y : Float} (hy : y.isFinite = true)
    (hb : n * |rankOf y| ≤ 2 ^ 1110) :
    Float.Near (n.toFloat * y) (n * rankOf y) (2 ^ 1058 + 1) := by
  obtain ⟨hfin, herr⟩ := Float.natMul_near hn hy (e := 2 ^ 1058) (by omega) (by omega)
  have h := abs_le.mp herr
  exact ⟨hfin, by omega, by omega⟩

end PlotGeometry
