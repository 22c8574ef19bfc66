import Mathlib
import PlotGeometry.Proofs.Float.Quotient
/-!
# 掛け算と割り算の位置

有限数どうしの `Float` の掛け算は、位置の積を `2^-2148` 単位の大きさと見て丸めて詰めたもの、
割り算は、`2^1074` 倍した位置を割る数の位置で割った有理数を丸めて詰めたものになる：

* `Float.rankOf_mul` — `rankOf (x * y) = roundRankQuot (rankOf x * rankOf y) (2^1074)`
* `Float.rankOf_div` — `rankOf (x / y) = roundRankQuot (rankOf x * 2^1074) (rankOf y)`（`y > 0`）

`roundRankQuot` は分子について単調で、負でない分子では分母について逆向きに単調なので、
負でない数を掛けること、正の数で割ることは順序を保ち、負でない数は大きい数で割るほど小さい
（`Float.mul_le_mul_of_nonneg_right`、`Float.div_le_div_of_pos_right`、
`Float.div_le_div_of_nonneg_left`）。無限大は位置 `±infRank` が積や商の式に収まらないので、
ここでは有限数だけを扱う。

符号は無限大やゼロを含めて扱う。`-0` の逆数は負の無限大なので、位置が負でないことは割り算で
保たれないが、符号のビットが 0 であること（`Float.SignPositive`、`+0` は含み `-0` は含まない）は
掛け算と割り算で保たれ、正の数の `powInt` の値はこの形（`Float.signPositive_powInt`）。
-/

namespace PlotGeometry

open Float.Model Float.Model.UnpackedFloat

/-! ## 符号付きの位置 -/

/-- 符号付きの大きさ `S / B`（`2^-1074` 単位）の数を丸めて詰めたときの位置。 -/
def roundRankQuot (S : ℤ) (B : Nat) : ℤ :=
  if 0 ≤ S then saturate (roundQuot S.toNat B) else -saturate (roundQuot (-S).toNat B)

theorem saturate_zero : saturate 0 = 0 := by
  rw [saturate_of_lt (by positivity), Nat.cast_zero]

theorem roundRankQuot_zero (B : Nat) : roundRankQuot 0 B = 0 := by
  rw [roundRankQuot, if_pos le_rfl, Int.toNat_zero, roundQuot_zero, saturate_zero]

theorem roundRankQuot_apply (s : Sign) (N B : Nat) :
    roundRankQuot (s.apply N) B = s.apply (saturate (roundQuot N B)) := by
  rcases Nat.eq_zero_or_pos N with rfl | hN
  · have h0 (t : Sign) : t.apply 0 = 0 := by cases t <;> rfl
    rw [Nat.cast_zero, h0, roundRankQuot_zero, roundQuot_zero, saturate_zero, h0]
  · cases s
    · show roundRankQuot (-(N : ℤ)) B = -saturate (roundQuot N B)
      rw [roundRankQuot, if_neg (by omega), Int.neg_neg, Int.toNat_natCast]
    · show roundRankQuot (N : ℤ) B = saturate (roundQuot N B)
      rw [roundRankQuot, if_pos (by omega), Int.toNat_natCast]

theorem roundRankQuot_one (S : ℤ) : roundRankQuot S 1 = roundRank S := by
  simp only [roundRankQuot, roundRank, roundQuot_one]

/-- 丸めて詰めることは、大きさの順序を保つ。 -/
theorem roundRankQuot_mono {S S' : ℤ} {B : Nat} (hB : 0 < B) (h : S ≤ S') :
    roundRankQuot S B ≤ roundRankQuot S' B := by
  unfold roundRankQuot
  split_ifs with h1 h2 h2
  · exact saturate_mono (roundQuot_mono hB hB (Nat.mul_le_mul_right _ (by omega)))
  · omega
  · have := saturate_nonneg (roundQuot (-S).toNat B)
    have := saturate_nonneg (roundQuot S'.toNat B)
    omega
  · have := saturate_mono (roundQuot_mono hB hB
      (Nat.mul_le_mul_right B (show (-S').toNat ≤ (-S).toNat by omega)))
    omega

/-- 負でない大きさは、大きい数で割るほど小さい。 -/
theorem roundRankQuot_anti {S : ℤ} {B B' : Nat} (hS : 0 ≤ S) (hB : 0 < B) (h : B ≤ B') :
    roundRankQuot S B' ≤ roundRankQuot S B := by
  unfold roundRankQuot
  rw [if_pos hS, if_pos hS]
  exact saturate_mono (roundQuot_mono (by omega) hB (Nat.mul_le_mul_left _ h))

/-- 丸めは、大きさに同じ正の数を掛けた分母で割っても変わらない。 -/
theorem roundRankQuot_mul_right (S : ℤ) {B c : Nat} (hB : 0 < B) (hc : 0 < c) :
    roundRankQuot (S * c) (B * c) = roundRankQuot S B := by
  unfold roundRankQuot
  have hcz : (0 : ℤ) < c := by exact_mod_cast hc
  by_cases hS : 0 ≤ S
  · rw [if_pos (by positivity), if_pos hS,
      roundQuot_congr (by positivity) hB (show (S * c).toNat * B = S.toNat * (B * c) by
        rw [Int.toNat_mul hS hcz.le, Int.toNat_natCast]; ring)]
  · rw [if_neg (by nlinarith), if_neg hS,
      roundQuot_congr (by positivity) hB (show (-(S * c)).toNat * B = (-S).toNat * (B * c) by
        rw [← Int.neg_mul, Int.toNat_mul (by omega) hcz.le, Int.toNat_natCast]; ring)]

theorem roundRankQuot_mul_self (S : ℤ) {c : Nat} (hc : 0 < c) : roundRankQuot (S * c) c = roundRank S := by
  have h := roundRankQuot_mul_right S Nat.one_pos hc
  rw [Nat.one_mul] at h
  rw [h, roundRankQuot_one]

/-! ## 開いた数の掛け算と割り算 -/

theorem Sign.apply_mul_apply (s t : Sign) (a b : ℤ) : s.apply a * t.apply b = (s * t).apply (a * b) := by
  cases s <;> cases t
  · show -a * -b = a * b
    ring
  · show -a * b = -(a * b)
    ring
  · show a * -b = -(a * b)
    ring
  · rfl

theorem Sign.apply_apply (s t : Sign) (a : ℤ) : t.apply (s.apply a) = (s / t).apply a := by
  cases s <;> cases t
  · exact Int.neg_neg a
  all_goals rfl

/-- 正規形の有限数どうしの積は、丸めの目標の指数を越えない。一方が正規数なら仮数の積は
`2^52` 以上、どちらも非正規数なら指数は `-2148`。 -/
theorem mul_exponent_le_target {m₁ m₂ : Nat} {e₁ e₂ : Int} (h₁ : Canonical m₁ e₁) (h₂ : Canonical m₂ e₂) :
    e₁ + e₂ ≤ Format.binary64.targetExponent (totalExponent (m₁ * m₂) (e₁ + e₂)) := by
  rw [targetExponent_binary64, totalExponent]
  have hm₁ : 0 < m₁ := by rcases h₁ with h | h <;> omega
  have hm₂ : 0 < m₂ := by rcases h₂ with h | h <;> omega
  have key : 2 ^ 52 ≤ m₁ * m₂ ∨ (e₁ = -1074 ∧ e₂ = -1074) := by
    rcases h₁ with ⟨a₁, -⟩ | ⟨-, -, rfl⟩
    · exact .inl (le_trans a₁ (Nat.le_mul_of_pos_right _ hm₂))
    · rcases h₂ with ⟨a₂, -⟩ | ⟨-, -, rfl⟩
      · exact .inl (le_trans a₂ (Nat.le_mul_of_pos_left _ hm₁))
      · exact .inr ⟨rfl, rfl⟩
  rcases key with h | ⟨rfl, rfl⟩
  · have := (Nat.le_log2 (by positivity)).mpr h
    omega
  · omega

/-- 有限数どうしの積を丸めて詰めた数の位置は、位置の積（`2^-2148` 単位）を丸めて詰めたもの。 -/
theorem valueRank_pack_mul {u v : UnpackedFloat} (hu : CanonicalForm u) (hv : CanonicalForm v)
    (hfu : u.isFinite = true) (hfv : v.isFinite = true) :
    valueRank (UnpackedFloat.unpack .binary64 (UnpackedFloat.pack .binary64
        (UnpackedFloat.mul .binary64 u v))) = roundRankQuot (valueRank u * valueRank v) (2 ^ 1074) := by
  have hzero (s : Sign) : valueRank (.zero s) = 0 := rfl
  cases u with
  | notANumber | infinity _ => cases hfu
  | zero s =>
    cases v with
    | notANumber | infinity _ => cases hfv
    | zero s' | finite s' m e hm =>
      simp only [UnpackedFloat.mul, valueRank_pack_zero]
      rw [hzero, Int.zero_mul, roundRankQuot_zero]
  | finite s m e hm =>
    cases v with
    | notANumber | infinity _ => cases hfv
    | zero s' =>
      simp only [UnpackedFloat.mul, valueRank_pack_zero]
      rw [hzero, Int.mul_zero, roundRankQuot_zero]
    | finite s' m' e' hm' =>
      have he : -1074 ≤ e := by rcases hu with h | h <;> omega
      have he' : -1074 ≤ e' := by rcases hv with h | h <;> omega
      simp only [UnpackedFloat.mul]
      rw [valueRank_pack_roundWithAccuracy_exact _ _ (mul_exponent_le_target hu hv)
        (a := (e + 1074).toNat + (e' + 1074).toNat) (b := 1074) (by omega)]
      simp only [valueRank]
      rw [Sign.apply_mul_apply, ← Nat.cast_mul, roundRankQuot_apply]
      congr 3
      unfold units
      rw [pow_add]
      ring

/-- 割り算の指数の目標：目標を割られる数と割る数の全体の指数の差から決め、そこまで指数を
下げて割った商の仮数は、指数が最小でなければ 53 ビット以上ある。 -/
theorem div_exponent_le_target {m₁ m₂ : Nat} (hm₁ : 0 < m₁) (hm₂ : 0 < m₂) {e₁ e₂ t₀ : Int}
    (ht₀ : t₀ ≤ Format.binary64.targetExponent (totalExponent m₁ e₁ - totalExponent m₂ e₂)) :
    t₀ ≤ Format.binary64.targetExponent (totalExponent (m₁ * 2 ^ (e₁ - e₂ - t₀).toNat / m₂) t₀) := by
  rw [targetExponent_binary64] at ht₀ ⊢
  unfold totalExponent at ht₀ ⊢
  by_cases hmin : t₀ ≤ -1074
  · exact le_trans hmin (le_max_right _ _)
  · set sh := (e₁ - e₂ - t₀).toNat with hsh
    have hq : 2 ^ 52 ≤ m₁ * 2 ^ sh / m₂ := by
      rw [Nat.le_div_iff_mul_le hm₂]
      calc 2 ^ 52 * m₂ ≤ 2 ^ 52 * 2 ^ (m₂.log2 + 1) := Nat.mul_le_mul_left _ Nat.lt_log2_self.le
        _ = 2 ^ (m₂.log2 + 53) := by rw [← pow_add]; ring_nf
        _ ≤ 2 ^ (m₁.log2 + sh) := Nat.pow_le_pow_right (by norm_num) (by omega)
        _ = 2 ^ m₁.log2 * 2 ^ sh := pow_add _ _ _
        _ ≤ m₁ * 2 ^ sh := Nat.mul_le_mul_right _ (Nat.log2_self_le (by omega))
    have := (Nat.le_log2 (by positivity)).mpr hq
    omega

/-- 有限数を有限数で割って丸めて詰めた数の位置は、`2^1074` 倍した位置の商を丸めて詰め、
割る数の符号を付けたもの。 -/
theorem valueRank_pack_div {u : UnpackedFloat} (hu : CanonicalForm u) (hfu : u.isFinite = true)
    {s' : Sign} {m' : Nat} {e' : Int} {hm' : 0 < m'} (hv : Canonical m' e') :
    valueRank (UnpackedFloat.unpack .binary64 (UnpackedFloat.pack .binary64
        (UnpackedFloat.div .binary64 u (.finite s' m' e' hm')))) =
      s'.apply (roundRankQuot (valueRank u * 2 ^ 1074) (units m' e')) := by
  cases u with
  | notANumber | infinity _ => cases hfu
  | zero s =>
    simp only [UnpackedFloat.div, valueRank_pack_zero]
    rw [show valueRank (.zero s) = 0 from rfl, Int.zero_mul, roundRankQuot_zero]
    cases s' <;> rfl
  | finite s m e hm =>
    have he : -1074 ≤ e := by rcases hu with h | h <;> omega
    have he' : -1074 ≤ e' := by rcases hv with h | h <;> omega
    simp only [UnpackedFloat.div, divCore, Nat.shiftLeft_eq]
    set t₀ := min (e - e') (Format.binary64.targetExponent (totalExponent m e - totalExponent m' e'))
      with ht₀
    have ht : t₀ ≤ e - e' := min_le_left _ _
    have hq : roundQuot (m * 2 ^ (e - e' - t₀).toNat * 2 ^ (t₀ + 1074).toNat)
        (m' * 2 ^ (-(t₀ + 1074)).toNat) = roundQuot (units m e * 2 ^ 1074) (units m' e') := by
      apply roundQuot_congr (by positivity) (units_pos _ _ hm')
      unfold units
      obtain ⟨K, hK⟩ : ∃ K, K = 1074 := ⟨_, rfl⟩
      rw [← hK]
      have hexp : (e - e' - t₀).toNat + (t₀ + 1074).toNat + (e' + 1074).toNat =
          (e + 1074).toNat + K + (-(t₀ + 1074)).toNat := by omega
      calc m * 2 ^ (e - e' - t₀).toNat * 2 ^ (t₀ + 1074).toNat * (m' * 2 ^ (e' + 1074).toNat)
          = m * m' * 2 ^ ((e - e' - t₀).toNat + (t₀ + 1074).toNat + (e' + 1074).toNat) := by
            rw [pow_add, pow_add]
            ring
        _ = m * m' * 2 ^ ((e + 1074).toNat + K + (-(t₀ + 1074)).toNat) := by rw [hexp]
        _ = m * 2 ^ (e + 1074).toNat * 2 ^ K * (m' * 2 ^ (-(t₀ + 1074)).toNat) := by
            rw [pow_add, pow_add]
            ring
    rw [valueRank_pack_roundWithAccuracy (s / s') (m * 2 ^ (e - e' - t₀).toNat) hm'
      (div_exponent_le_target hm hm' (min_le_right _ _)) (a := (t₀ + 1074).toNat)
      (b := (-(t₀ + 1074)).toNat) (by omega), hq]
    simp only [valueRank]
    rw [Sign.apply_mul, show (2 : ℤ) ^ 1074 = ((2 ^ 1074 : Nat) : ℤ) by rw [Nat.cast_pow, Nat.cast_ofNat],
      ← Nat.cast_mul, roundRankQuot_apply, Sign.apply_apply]

/-! ## `Float` の掛け算と割り算 -/

theorem Float.isNaN_eq_false_of_isFinite {x : Float} (h : x.isFinite = true) : x.isNaN = false := by
  rw [Float.isFinite_eq_unpack] at h
  rw [Float.isNaN_eq_unpack]
  cases hx : x.toModel.unpack with
  | notANumber | infinity _ => rw [hx] at h; cases h
  | zero _ | finite _ _ _ _ => rfl

/-- 有限数どうしの積は NaN でない。 -/
theorem Float.mul_isNaN_eq_false {x y : Float} (hx : x.isFinite = true) (hy : y.isFinite = true) :
    (x * y).isNaN = false := by
  rw [Float.isFinite_eq_unpack] at hx hy
  apply Float.isNaN_ofModel_pack_eq_false
  cases hu : x.toModel.unpack with
  | notANumber | infinity _ => rw [hu] at hx; cases hx
  | zero s =>
    cases hv : y.toModel.unpack with
    | notANumber | infinity _ => rw [hv] at hy; cases hy
    | zero _ | finite _ _ _ _ => exact fun h => by cases h
  | finite s m e hm =>
    cases hv : y.toModel.unpack with
    | notANumber | infinity _ => rw [hv] at hy; cases hy
    | zero _ => exact fun h => by cases h
    | finite _ _ _ _ => exact UnpackedFloat.roundWithAccuracy_ne_notANumber _ _ _ _

/-- NaN でない数に、ゼロでない有限数を掛けた積は NaN でない（無限大は無限大のまま）。 -/
theorem Float.mul_isNaN_eq_false_of_ne_zero {x y : Float} (hx : x.isNaN = false)
    (hy : y.isFinite = true) (hy0 : rankOf y ≠ 0) : (x * y).isNaN = false := by
  rw [Float.isFinite_eq_unpack] at hy
  apply Float.isNaN_ofModel_pack_eq_false
  unfold rankOf at hy0
  cases hv : y.toModel.unpack with
  | notANumber | infinity _ => rw [hv] at hy; cases hy
  | zero _ => rw [hv] at hy0; exact absurd rfl hy0
  | finite s' m' e' hm' =>
    cases hu : x.toModel.unpack with
    | notANumber => exact absurd hu (unpack_ne_notANumber hx)
    | infinity _ | zero _ => exact fun h => by cases h
    | finite _ _ _ _ => exact UnpackedFloat.roundWithAccuracy_ne_notANumber _ _ _ _

/-- NaN でない数を、ゼロでない有限数で割った商は NaN でない（無限大は無限大のまま）。 -/
theorem Float.div_isNaN_eq_false {x y : Float} (hx : x.isNaN = false) (hy : y.isFinite = true)
    (hy0 : rankOf y ≠ 0) : (x / y).isNaN = false := by
  rw [Float.isFinite_eq_unpack] at hy
  apply Float.isNaN_ofModel_pack_eq_false
  unfold rankOf at hy0
  cases hv : y.toModel.unpack with
  | notANumber | infinity _ => rw [hv] at hy; cases hy
  | zero _ => rw [hv] at hy0; exact absurd rfl hy0
  | finite s' m' e' hm' =>
    cases hu : x.toModel.unpack with
    | notANumber => exact absurd hu (unpack_ne_notANumber hx)
    | infinity _ | zero _ => exact fun h => by cases h
    | finite s m e hm =>
      simp only [UnpackedFloat.div]
      exact UnpackedFloat.roundWithAccuracy_ne_notANumber _ _ _ _

/-- 有限数どうしの積の位置は、位置の積（`2^-2148` 単位）を丸めて詰めたもの。 -/
theorem Float.rankOf_mul {x y : Float} (hx : x.isFinite = true) (hy : y.isFinite = true) :
    rankOf (x * y) = roundRankQuot (rankOf x * rankOf y) (2 ^ 1074) :=
  valueRank_pack_mul (canonicalForm_toModel x) (canonicalForm_toModel y) hx hy

/-- 有限数を正の有限数で割った商の位置は、`2^1074` 倍した位置の商を丸めて詰めたもの。 -/
theorem Float.rankOf_div {x y : Float} (hx : x.isFinite = true) (hy : y.isFinite = true)
    (hy0 : 0 < rankOf y) : rankOf (x / y) = roundRankQuot (rankOf x * 2 ^ 1074) (rankOf y).toNat := by
  have hc := canonicalForm_toModel y
  rw [Float.isFinite_eq_unpack] at hy
  show valueRank (UnpackedFloat.unpack .binary64 (UnpackedFloat.pack .binary64
    (UnpackedFloat.div .binary64 x.toModel.unpack y.toModel.unpack))) = _
  unfold rankOf at hy0 ⊢
  cases hv : y.toModel.unpack with
  | notANumber | infinity _ => rw [hv] at hy; cases hy
  | zero s => rw [hv] at hy0; cases hy0
  | finite s m e hm =>
    rw [hv] at hc hy0
    cases s
    · have := units_pos m e hm
      simp only [valueRank, Sign.apply] at hy0
      omega
    · rw [valueRank_pack_div (canonicalForm_toModel x) hx hc]
      rfl

/-- 有限数に 1 を掛けても位置は変わらない。 -/
theorem Float.rankOf_mul_one {x : Float} (hx : x.isFinite = true) : rankOf (x * 1.0) = rankOf x := by
  rw [Float.rankOf_mul hx rfl, rankOf_one, roundRankQuot_mul_self _ (Nat.two_pow_pos 1074),
    Float.roundRank_rankOf]

/-! ## 掛け算と割り算は順序を保つ -/

section
variable {x x' y y' : Float}

/-- 負でない有限数を右から掛けることは、有限数の順序を保つ。 -/
theorem Float.mul_le_mul_of_nonneg_right (h : x ≤ x') (hx : x.isFinite = true)
    (hx' : x'.isFinite = true) (hy : y.isFinite = true) (hy0 : 0 ≤ rankOf y) : x * y ≤ x' * y := by
  have hr := (Float.le_iff_rank (Float.isNaN_eq_false_of_isFinite hx)
    (Float.isNaN_eq_false_of_isFinite hx')).mp h
  rw [Float.le_iff_rank (Float.mul_isNaN_eq_false hx hy) (Float.mul_isNaN_eq_false hx' hy),
    Float.rankOf_mul hx hy, Float.rankOf_mul hx' hy]
  exact roundRankQuot_mono (by positivity) (Int.mul_le_mul_of_nonneg_right hr hy0)

/-- 負でない有限数に左から掛けることは、有限数の順序を保つ。 -/
theorem Float.mul_le_mul_of_nonneg_left (h : y ≤ y') (hx : x.isFinite = true)
    (hy : y.isFinite = true) (hy' : y'.isFinite = true) (hx0 : 0 ≤ rankOf x) : x * y ≤ x * y' := by
  have hr := (Float.le_iff_rank (Float.isNaN_eq_false_of_isFinite hy)
    (Float.isNaN_eq_false_of_isFinite hy')).mp h
  rw [Float.le_iff_rank (Float.mul_isNaN_eq_false hx hy) (Float.mul_isNaN_eq_false hx hy'),
    Float.rankOf_mul hx hy, Float.rankOf_mul hx hy']
  exact roundRankQuot_mono (by positivity) (Int.mul_le_mul_of_nonneg_left hr hx0)

/-- 正の有限数で割ることは、有限数の順序を保つ。 -/
theorem Float.div_le_div_of_pos_right (h : x ≤ x') (hx : x.isFinite = true)
    (hx' : x'.isFinite = true) (hy : y.isFinite = true) (hy0 : 0 < rankOf y) : x / y ≤ x' / y := by
  have hr := (Float.le_iff_rank (Float.isNaN_eq_false_of_isFinite hx)
    (Float.isNaN_eq_false_of_isFinite hx')).mp h
  rw [Float.le_iff_rank (Float.div_isNaN_eq_false (Float.isNaN_eq_false_of_isFinite hx) hy hy0.ne')
    (Float.div_isNaN_eq_false (Float.isNaN_eq_false_of_isFinite hx') hy hy0.ne'),
    Float.rankOf_div hx hy hy0, Float.rankOf_div hx' hy hy0]
  exact roundRankQuot_mono (by omega) (Int.mul_le_mul_of_nonneg_right hr (by positivity))

/-- 負でない有限数は、大きい正の有限数で割るほど小さい。 -/
theorem Float.div_le_div_of_nonneg_left (h : y ≤ y') (hx : x.isFinite = true)
    (hy : y.isFinite = true) (hy' : y'.isFinite = true) (hx0 : 0 ≤ rankOf x) (hy0 : 0 < rankOf y) :
    x / y' ≤ x / y := by
  have hr := (Float.le_iff_rank (Float.isNaN_eq_false_of_isFinite hy)
    (Float.isNaN_eq_false_of_isFinite hy')).mp h
  have hy0' : 0 < rankOf y' := hy0.trans_le hr
  rw [Float.le_iff_rank (Float.div_isNaN_eq_false (Float.isNaN_eq_false_of_isFinite hx) hy' hy0'.ne')
    (Float.div_isNaN_eq_false (Float.isNaN_eq_false_of_isFinite hx) hy hy0.ne'),
    Float.rankOf_div hx hy' hy0', Float.rankOf_div hx hy hy0]
  exact roundRankQuot_anti (by positivity) (by omega) (by omega)

end

/-! ## 符号のビットが 0 の数 -/

/-- 符号が正：有限数と無限大は正、ゼロは `+0` に限る（NaN は符号を問わない）。 -/
def PositiveSign : UnpackedFloat → Prop
  | .finite s .. => s = .positive
  | .infinity s => s = .positive
  | .zero s => s = .positive
  | .notANumber => True

theorem PositiveSign.nonnegSign {u : UnpackedFloat} (h : PositiveSign u) : NonnegSign u := by
  cases u <;> trivial

theorem positiveSign_of_valueRank_pos {u : UnpackedFloat} (h : 0 < valueRank u) : PositiveSign u := by
  cases u with
  | zero s => exact absurd h (lt_irrefl 0)
  | notANumber => trivial
  | _ => exact nonnegSign_of_valueRank_nonneg h.le

theorem positiveSign_unpack {b : BitVec 64}
    (h : Sign.ofBitVec (@unpackSign Format.binary64 b) = .positive) :
    PositiveSign (UnpackedFloat.unpack .binary64 b) := by
  unfold UnpackedFloat.unpack
  dsimp only
  split_ifs <;> trivial

theorem positiveSign_unpack_pack {w : UnpackedFloat} (hw : PositiveSign w) :
    PositiveSign (UnpackedFloat.unpack .binary64 (UnpackedFloat.pack .binary64 w)) := by
  cases w with
  | notANumber => rw [unpack_pack_notANumber]; trivial
  | zero s => rw [UnpackedFloat.pack, unpack_packedZero]; exact hw
  | infinity s => rw [UnpackedFloat.pack, unpack_packedInfinity]; exact hw
  | finite s m e hm =>
    cases hw
    apply positiveSign_unpack
    unfold UnpackedFloat.pack
    dsimp only
    split_ifs <;> simp only [packedInfinity, unpackSign_packComponents, Sign.ofBitVec_toBitVec]

theorem positiveSign_roundWithAccuracy (M : Nat) (E : Int) (acc : Accuracy) :
    PositiveSign (roundWithAccuracy .binary64 .positive M E acc) := by
  unfold roundWithAccuracy
  dsimp only
  split <;> trivial

theorem positiveSign_mul {u v : UnpackedFloat} (hu : PositiveSign u) (hv : PositiveSign v) :
    PositiveSign (UnpackedFloat.mul .binary64 u v) := by
  cases u <;> cases v <;> simp only [UnpackedFloat.mul] <;> first
    | trivial
    | (cases hu; cases hv; first | rfl | exact positiveSign_roundWithAccuracy _ _ _)

theorem positiveSign_div {u v : UnpackedFloat} (hu : PositiveSign u) (hv : PositiveSign v) :
    PositiveSign (UnpackedFloat.div .binary64 u v) := by
  cases u <;> cases v <;> simp only [UnpackedFloat.div] <;> first
    | trivial
    | (cases hu; cases hv; first | rfl | exact positiveSign_roundWithAccuracy _ _ _)

/-- 符号のビットが 0 の数（NaN も含める）。 -/
def Float.SignPositive (x : Float) : Prop := PositiveSign x.toModel.unpack

theorem Float.signPositive_of_rankOf_pos {x : Float} (h : 0 < rankOf x) : Float.SignPositive x :=
  positiveSign_of_valueRank_pos h

theorem Float.SignPositive.rankOf_nonneg {x : Float} (h : Float.SignPositive x) : 0 ≤ rankOf x :=
  valueRank_nonneg_of_nonnegSign h.nonnegSign

theorem Float.SignPositive.mul {x y : Float} (hx : Float.SignPositive x) (hy : Float.SignPositive y) :
    Float.SignPositive (x * y) :=
  positiveSign_unpack_pack (positiveSign_mul hx hy)

theorem Float.SignPositive.div {x y : Float} (hx : Float.SignPositive x) (hy : Float.SignPositive y) :
    Float.SignPositive (x / y) :=
  positiveSign_unpack_pack (positiveSign_div hx hy)

theorem Float.signPositive_one : Float.SignPositive 1 :=
  Float.signPositive_of_rankOf_pos (by decide +kernel)

/-- 途中の積に底を掛けても掛けなくても、符号のビットは 0 のまま。 -/
theorem Float.SignPositive.dite_mul {a r : Float} (c : Prop) [Decidable c]
    (ha : Float.SignPositive a) (hr : Float.SignPositive r) :
    Float.SignPositive (if _ : c then r * a else r) := by
  split
  · exact hr.mul ha
  · exact hr

theorem Float.SignPositive.powNatGo {a r : Float} (n : Nat) (ha : Float.SignPositive a)
    (hr : Float.SignPositive r) : Float.SignPositive (powNat.go a r n) := by
  -- 指数を半分にする繰り返しに沿った帰納法：底は自乗され、途中の積には底が掛かる
  fun_induction powNat.go a r n with
  | case1 a r n r' h => exact Float.SignPositive.dite_mul _ ha hr
  | case2 a r n r' h ih => exact ih (ha.mul ha) (Float.SignPositive.dite_mul _ ha hr)

/-- 符号のビットが 0 の数の整数乗は、負の指数（逆数）でも符号のビットが 0。 -/
theorem Float.signPositive_powInt {a : Float} (ha : Float.SignPositive a) (k : Int) :
    Float.SignPositive (powInt a k) := by
  have hr := Float.SignPositive.powNatGo k.natAbs ha Float.signPositive_one
  unfold powInt
  split
  · exact Float.signPositive_one.div hr
  · exact hr

end PlotGeometry
