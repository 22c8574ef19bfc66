import Mathlib
import PlotGeometry.Proofs.Float.Product
/-!
# 無限大と、整数からの変換

NaN でない数は、有限で位置が `±infRank` の内側にあるか、位置が `infRank` か `-infRank` の
無限大（`Float.finite_or_infinite`）。和が NaN になるのは符号の違う無限大どうしのときだけで
（`Float.add_isNaN_iff`）、有限な数に足すなら NaN にならない。

符号の反転は位置の符号を反転する。自然数 `n` の変換の位置は `n × 2^1074` を丸めて詰めたもの
（`Float.rankOf_ofNat`）。変換は 53 ビットに収まるかどうかで二つの道に分かれる（64 ビットの整数
からの変換に 1 を掛けるか、仮数をずらして丸めるか）が、どちらも同じ丸めになる。整数の変換も
同じで、順序を保ち、NaN にならず、絶対値が `2^1023` 以下なら有限。
-/

namespace PlotGeometry

open Float.Model Float.Model.UnpackedFloat

/-! ## 有限な数と無限大 -/

/-- 正規形の数の位置が `infRank` なのは正の無限大だけ。 -/
theorem valueRank_eq_infRank_iff {u : UnpackedFloat} (hu : CanonicalForm u) :
    valueRank u = infRank ↔ u = .infinity .positive := by
  have hI := overflow_lt_infRank
  have hI0 := infRank_pos
  constructor
  · intro h
    cases u with
    | notANumber | zero _ => simp only [valueRank] at h; omega
    | infinity s =>
      cases s with
      | positive => rfl
      | negative => simp only [valueRank, Sign.apply] at h; omega
    | finite s m e hm =>
      have := (valueRank_finite_bounds (s := s) hm hu).2
      omega
  · rintro rfl
    rfl

/-- 正規形の数の位置が `-infRank` なのは負の無限大だけ。 -/
theorem valueRank_eq_neg_infRank_iff {u : UnpackedFloat} (hu : CanonicalForm u) :
    valueRank u = -infRank ↔ u = .infinity .negative := by
  have hI := overflow_lt_infRank
  have hI0 := infRank_pos
  constructor
  · intro h
    cases u with
    | notANumber | zero _ => simp only [valueRank] at h; omega
    | infinity s =>
      cases s with
      | positive => simp only [valueRank, Sign.apply] at h; omega
      | negative => rfl
    | finite s m e hm =>
      have := (valueRank_finite_bounds (s := s) hm hu).1
      omega
  · rintro rfl
    rfl

/-- NaN でない数は、有限で位置が `±infRank` の内側にあるか、位置が `infRank` か `-infRank` の無限大。 -/
theorem Float.finite_or_infinite {x : Float} (hx : x.isNaN = false) :
    (x.isFinite = true ∧ -infRank < rankOf x ∧ rankOf x < infRank) ∨
      (x.isFinite = false ∧ rankOf x = infRank) ∨ (x.isFinite = false ∧ rankOf x = -infRank) := by
  have hI := overflow_lt_infRank
  have hI0 := infRank_pos
  rw [Float.isFinite_eq_unpack]
  rw [Float.isNaN_eq_unpack] at hx
  have hc := canonicalForm_toModel x
  unfold rankOf
  cases hu : x.toModel.unpack with
  | notANumber => rw [hu] at hx; cases hx
  | zero s => left; exact ⟨rfl, by simp only [valueRank]; omega, by simp only [valueRank]; omega⟩
  | finite s m e hm =>
    rw [hu] at hc
    have hb := valueRank_finite_bounds (s := s) hm hc
    left
    exact ⟨rfl, by omega, by omega⟩
  | infinity s =>
    cases s with
    | positive => exact .inr (.inl ⟨rfl, rfl⟩)
    | negative => exact .inr (.inr ⟨rfl, rfl⟩)

/-- NaN でない数は、位置が `±infRank` の真に内側なら有限。 -/
theorem Float.isFinite_of_rankOf_lt {x : Float} (hx : x.isNaN = false) (h1 : -infRank < rankOf x)
    (h2 : rankOf x < infRank) : x.isFinite = true := by
  rcases Float.finite_or_infinite hx with ⟨hf, -⟩ | ⟨-, h⟩ | ⟨-, h⟩
  · exact hf
  · omega
  · omega

/-- どの数の位置も `±infRank` の間にある（NaN の位置は 0）。 -/
theorem Float.rankOf_bounds (x : Float) : -infRank ≤ rankOf x ∧ rankOf x ≤ infRank := by
  have hI0 := infRank_pos
  cases hx : x.isNaN
  · rcases Float.finite_or_infinite hx with ⟨-, h1, h2⟩ | ⟨-, h⟩ | ⟨-, h⟩ <;> omega
  · rw [rankOf_of_isNaN hx]
    omega

/-! ## 和が NaN になるとき -/

/-- NaN でない二つの数の和が NaN になるのは、符号の違う無限大どうしのときだけ。 -/
theorem UnpackedFloat.add_eq_notANumber_iff {u v : UnpackedFloat} (hu : u ≠ .notANumber)
    (hv : v ≠ .notANumber) :
    UnpackedFloat.add .binary64 u v = .notANumber ↔
      (u = .infinity .positive ∧ v = .infinity .negative) ∨
        (u = .infinity .negative ∧ v = .infinity .positive) := by
  cases u with
  | notANumber => exact absurd rfl hu
  | infinity s =>
    cases v with
    | notANumber => exact absurd rfl hv
    | infinity s' => cases s <;> cases s' <;> simp [UnpackedFloat.add]
    | zero _ | finite _ _ _ _ => simp [UnpackedFloat.add]
  | zero s =>
    cases v with
    | notANumber => exact absurd rfl hv
    | zero s' => simp only [UnpackedFloat.add]; split <;> simp
    | infinity _ | finite _ _ _ _ => simp [UnpackedFloat.add]
  | finite s m e hm =>
    cases v with
    | notANumber => exact absurd rfl hv
    | finite s' m' e' hm' =>
      exact iff_of_false (normalize_ne_notANumber _ _ _) (by simp)
    | zero _ | infinity _ => simp [UnpackedFloat.add]

/-- NaN でない二つの数の和が NaN になるのは、位置が `infRank` と `-infRank` の組のときだけ。 -/
theorem Float.add_isNaN_iff {x y : Float} (hx : x.isNaN = false) (hy : y.isNaN = false) :
    (x + y).isNaN = true ↔ (rankOf x = infRank ∧ rankOf y = -infRank) ∨
      (rankOf x = -infRank ∧ rankOf y = infRank) := by
  have hsum : (x + y).isNaN = (Float.ofModel (Float.Model.pack
      (UnpackedFloat.add .binary64 x.toModel.unpack y.toModel.unpack))).isNaN := rfl
  unfold rankOf
  rw [valueRank_eq_infRank_iff (canonicalForm_toModel x), valueRank_eq_infRank_iff (canonicalForm_toModel y),
    valueRank_eq_neg_infRank_iff (canonicalForm_toModel x),
    valueRank_eq_neg_infRank_iff (canonicalForm_toModel y),
    ← UnpackedFloat.add_eq_notANumber_iff (unpack_ne_notANumber hx) (unpack_ne_notANumber hy), hsum]
  constructor
  · intro h
    by_contra hne
    rw [Float.isNaN_ofModel_pack_eq_false hne] at h
    cases h
  · intro h
    rw [h]
    exact Float.isNaN_ofModel_pack_notANumber

/-- 有限な数に NaN でない数を足しても NaN にならない。 -/
theorem Float.add_isNaN_eq_false_of_isFinite_left {x y : Float} (hx : x.isFinite = true)
    (hy : y.isNaN = false) : (x + y).isNaN = false := by
  have hx' := Float.isNaN_eq_false_of_isFinite hx
  have hb : -infRank < rankOf x ∧ rankOf x < infRank := by
    rcases Float.finite_or_infinite hx' with ⟨-, hb⟩ | ⟨hf, -⟩ | ⟨hf, -⟩
    · exact hb
    · rw [hx] at hf; cases hf
    · rw [hx] at hf; cases hf
  cases h : (x + y).isNaN
  · rfl
  · rcases (Float.add_isNaN_iff hx' hy).mp h with ⟨h1, -⟩ | ⟨h1, -⟩ <;> omega

/-- 同じ数に足すのは単調（両方の和が NaN でなければ）。 -/
theorem Float.add_le_add_left {y y' : Float} (h : y ≤ y') (x : Float) (hs : (x + y).isNaN = false)
    (hs' : (x + y').isNaN = false) : x + y ≤ x + y' := by
  obtain ⟨hy, hy'⟩ := Float.isNaN_eq_false_of_le h
  have hrank := (Float.le_iff_rank hy hy').mp h
  rw [Float.le_iff_rank hs hs', Float.rankOf_add hs, Float.rankOf_add hs']
  exact roundRank_mono (by omega)

/-! ## 符号の反転 -/

theorem UnpackedFloat.neg_ne_notANumber {u : UnpackedFloat} (h : u ≠ .notANumber) :
    u.neg ≠ .notANumber := by
  cases u <;> simp_all [UnpackedFloat.neg]

/-- 符号を反転した数の位置は、位置の符号を反転したもの（NaN の位置 0 もそのまま）。 -/
theorem Float.rankOf_neg (x : Float) : rankOf (-x) = -rankOf x := by
  show valueRank (UnpackedFloat.unpack .binary64
    (UnpackedFloat.pack .binary64 x.toModel.unpack.neg)) = -valueRank x.toModel.unpack
  by_cases hn : x.toModel.unpack = .notANumber
  · rw [hn]
    show valueRank (UnpackedFloat.unpack .binary64 (UnpackedFloat.pack .binary64 .notANumber)) = -0
    rw [unpack_pack_notANumber]
    rfl
  · rw [unpack_pack_self (canonicalForm_neg (canonicalForm_toModel x))
      (UnpackedFloat.neg_ne_notANumber hn), valueRank_neg]

theorem Float.isNaN_neg (x : Float) : (-x).isNaN = x.isNaN := by
  show (UnpackedFloat.unpack .binary64 (UnpackedFloat.pack .binary64 x.toModel.unpack.neg)).isNaN =
    x.toModel.unpack.isNaN
  by_cases hn : x.toModel.unpack = .notANumber
  · rw [hn, UnpackedFloat.neg, unpack_pack_notANumber]
  · rw [unpack_pack_self (canonicalForm_neg (canonicalForm_toModel x))
      (UnpackedFloat.neg_ne_notANumber hn)]
    cases x.toModel.unpack <;> simp_all [UnpackedFloat.neg, UnpackedFloat.isNaN]

/-- 丸めて詰めることは符号の反転と入れ替わる。 -/
theorem roundRank_neg (S : ℤ) : roundRank (-S) = -roundRank S := by
  rcases lt_trichotomy S 0 with h | rfl | h
  · rw [roundRank, roundRank, if_pos (by omega), if_neg (by omega), Int.neg_neg]
  · rw [Int.neg_zero, roundRank_zero, Int.neg_zero]
  · rw [roundRank, roundRank, if_neg (by omega), if_pos (by omega), Int.neg_neg]

/-! ## 自然数と整数の変換 -/

theorem mul_two_pow_lt_two_pow {n k K : Nat} (hn : n < 2 ^ 53) (hk : 53 + k ≤ K) :
    n * 2 ^ k < 2 ^ K :=
  calc n * 2 ^ k < 2 ^ 53 * 2 ^ k := Nat.mul_lt_mul_of_pos_right hn (Nat.two_pow_pos k)
    _ = 2 ^ (53 + k) := (pow_add 2 53 k).symm
    _ ≤ 2 ^ K := Nat.pow_le_pow_right (by norm_num) hk

/-- 53 ビットに収まる数に 2 の冪を掛けても、丸めで変わらない。 -/
theorem roundUnits_mul_two_pow {n : Nat} (hn : n < 2 ^ 53) (k : Nat) :
    roundUnits (n * 2 ^ k) = n * 2 ^ k := by
  rcases Nat.eq_zero_or_pos n with rfl | hpos
  · rw [Nat.zero_mul, roundUnits_zero]
  have hlog : n.log2 < 53 := (Nat.log2_lt (by omega)).mpr hn
  have hs : shiftOf (n * 2 ^ k) ≤ k := by
    unfold shiftOf
    rw [log2_mul_two_pow hpos]
    omega
  have hdvd : 2 ^ shiftOf (n * 2 ^ k) ∣ n * 2 ^ k := Dvd.dvd.mul_left (Nat.pow_dvd_pow 2 hs) n
  unfold roundUnits
  rw [rne_of_dvd hdvd, Nat.div_mul_cancel hdvd]

theorem roundRank_natCast_mul_of_lt {n : Nat} (hn : n < 2 ^ 53) :
    roundRank ((n * 2 ^ 1074 : Nat) : ℤ) = ((n * 2 ^ 1074 : Nat) : ℤ) := by
  rw [roundRank, if_pos (Int.natCast_nonneg _), Int.toNat_natCast, roundUnits_mul_two_pow hn,
    saturate_of_lt (mul_two_pow_lt_two_pow hn (by norm_num))]

/-- 位置が `±2^k`（`k < 2098`）の内側の数を丸めて詰めても、無限大にならない。 -/
theorem roundRank_bounds {S : ℤ} {k : Nat} (hk : 52 ≤ k) (hk' : k < 2098)
    (h1 : -((2 ^ k : Nat) : ℤ) ≤ S) (h2 : S ≤ ((2 ^ k : Nat) : ℤ)) :
    -infRank < roundRank S ∧ roundRank S < infRank := by
  have hI := overflow_lt_infRank
  have hlt : 2 ^ k < 2 ^ 2098 := by
    obtain ⟨K, hK⟩ : ∃ K, K = 2098 := ⟨_, rfl⟩
    rw [← hK] at hk' ⊢
    exact Nat.pow_lt_pow_right Nat.one_lt_two hk'
  have htop : roundRank ((2 ^ k : Nat) : ℤ) = ((2 ^ k : Nat) : ℤ) := by
    rw [roundRank, if_pos (Int.natCast_nonneg _), Int.toNat_natCast, roundUnits_two_pow hk,
      saturate_of_lt hlt]
  have hlt' : ((2 ^ k : Nat) : ℤ) < ((2 ^ 2098 : Nat) : ℤ) := Int.ofNat_lt.mpr hlt
  have hup := roundRank_mono h2
  have hlow := roundRank_mono h1
  rw [roundRank_neg, htop] at hlow
  rw [htop] at hup
  omega

theorem Float.exactlyRepresentablePowersOfTen_zero :
    Float.exactlyRepresentablePowersOfTen[0] = 1.0 := by
  rfl

/-- 53 ビットに収まる自然数の変換は、64 ビットの整数からの変換に 1 を掛けたもの。 -/
theorem Float.ofNat_of_lt {n : Nat} (h : n < 2 ^ 53) : Float.ofNat n = n.toUInt64.toFloat * 1.0 := by
  show Float.ofScientific n false 0 = _
  unfold Float.ofScientific
  rw [dif_pos ⟨h, by decide⟩]
  simp only [Bool.false_eq_true, if_false]
  rw [Float.exactlyRepresentablePowersOfTen_zero]

/-- 53 ビットを越える自然数の変換は、53 ビット左へずらした仮数を落とした部分なしで丸めて詰めたもの。 -/
theorem Float.ofNat_of_large {n : Nat} (h : 2 ^ 53 ≤ n) :
    Float.ofNat n =
      .ofModel (.pack (roundWithAccuracy .binary64 .positive (n * 2 ^ 53) (-53) .exact)) := by
  show Float.ofScientific n false 0 = _
  unfold Float.ofScientific
  rw [dif_neg (by omega)]
  simp only [Bool.false_eq_true, if_false, Int.ofNat_eq_natCast, Nat.cast_zero]
  show Float.ofModel (.pack (UnpackedFloat.ofScientific .binary64 n 0)) = _
  unfold UnpackedFloat.ofScientific
  have h0 : n ≠ 0 := by omega
  have hlog : (0 : ℤ) ≤ (2 ^ Format.binary64.exponentBits : Int) + n.log2 := by positivity
  rw [dif_neg h0, if_neg (by decide), if_neg (by omega), if_pos (Int.le_refl 0)]
  have hM : n <<< Format.binary64.mantissaBits * 10 ^ Int.toNat 0 = n * 2 ^ 53 := by
    rw [Nat.shiftLeft_eq, Int.toNat_zero, pow_zero, Nat.mul_one]
    rfl
  simp only [UnpackedFloat.mul]
  rw [hM, show (-(Format.binary64.mantissaBits : ℤ) + 0) = -53 from rfl]
  rfl

theorem Float.rankOf_toFloat_of_lt {n : Nat} (hn : n < 2 ^ 53) :
    rankOf n.toUInt64.toFloat = ((n * 2 ^ 1074 : Nat) : ℤ) := by
  have hnat : n.toUInt64.toNat = n := by
    rw [Nat.toUInt64_eq, UInt64.toNat_ofNat', Nat.mod_eq_of_lt (by omega)]
  have hcast : (n : ℤ) * 2 ^ 1074 = ((n * 2 ^ 1074 : Nat) : ℤ) := by
    rw [Nat.cast_mul, Nat.cast_pow, Nat.cast_ofNat]
  show valueRank (UnpackedFloat.unpack .binary64 (UnpackedFloat.pack .binary64
    (UnpackedFloat.normalize .binary64 (n.toUInt64.toNat : ℤ) 0 .positive))) = _
  rw [valueRank_pack_normalize _ (by decide), hnat, show ((0 : ℤ) + 1074).toNat = 1074 from rfl,
    hcast]
  exact roundRank_natCast_mul_of_lt hn

theorem Float.isFinite_toFloat_of_lt {n : Nat} (hn : n < 2 ^ 53) :
    n.toUInt64.toFloat.isFinite = true := by
  have hI := overflow_lt_infRank
  have hlt : ((n * 2 ^ 1074 : Nat) : ℤ) < ((2 ^ 2098 : Nat) : ℤ) :=
    Int.ofNat_lt.mpr (mul_two_pow_lt_two_pow hn (by norm_num))
  have hr := Float.rankOf_toFloat_of_lt hn
  have := infRank_pos
  apply Float.isFinite_of_rankOf_lt (x := n.toUInt64.toFloat)
    (Float.isNaN_ofModel_pack_eq_false (UnpackedFloat.normalize_ne_notANumber _ _ _)) <;> omega

/-- 自然数の変換は NaN にならない。 -/
theorem Float.isNaN_ofNat (n : Nat) : (Float.ofNat n).isNaN = false := by
  rcases Nat.lt_or_ge n (2 ^ 53) with h | h
  · rw [Float.ofNat_of_lt h]
    exact Float.mul_isNaN_eq_false (Float.isFinite_toFloat_of_lt h) rfl
  · rw [Float.ofNat_of_large h]
    exact Float.isNaN_ofModel_pack_eq_false (UnpackedFloat.roundWithAccuracy_ne_notANumber _ _ _ _)

/-- 自然数を変換した数の位置は、`n × 2^1074` を丸めて詰めたもの。 -/
theorem Float.rankOf_ofNat (n : Nat) :
    rankOf (Float.ofNat n) = roundRank ((n : ℤ) * ((2 ^ 1074 : Nat) : ℤ)) := by
  rcases Nat.lt_or_ge n (2 ^ 53) with h | h
  · rw [Float.ofNat_of_lt h, Float.rankOf_mul_one (Float.isFinite_toFloat_of_lt h),
      Float.rankOf_toFloat_of_lt h, ← Nat.cast_mul, roundRank_natCast_mul_of_lt h]
  · have hpos : 0 < n := by omega
    have hlog53 : 53 ≤ n.log2 := (Nat.le_log2 (by omega)).mpr h
    have htarget : -53 ≤ Format.binary64.targetExponent (totalExponent (n * 2 ^ 53) (-53)) := by
      rw [targetExponent_binary64]
      unfold totalExponent
      rw [log2_mul_two_pow hpos]
      omega
    rw [Float.ofNat_of_large h, Float.rankOf_ofModel_pack,
      valueRank_pack_roundWithAccuracy_exact _ _ htarget (a := 1021) (b := 0) (by norm_num),
      pow_zero, roundQuot_one, Nat.mul_assoc, ← pow_add, ← Nat.cast_mul, roundRank,
      if_pos (Int.natCast_nonneg _), Int.toNat_natCast, show 53 + 1021 = 1074 from rfl]
    rfl

/-- 53 ビットに収まる自然数の変換は正確。 -/
theorem Float.rankOf_ofNat_of_lt {n : Nat} (h : n < 2 ^ 53) :
    rankOf (Float.ofNat n) = ((n * 2 ^ 1074 : Nat) : ℤ) := by
  rw [Float.rankOf_ofNat, ← Nat.cast_mul, roundRank_natCast_mul_of_lt h]

/-- 自然数の変換は順序を保つ。 -/
theorem Float.ofNat_le_ofNat {m n : Nat} (h : m ≤ n) : Float.ofNat m ≤ Float.ofNat n := by
  rw [Float.le_iff_rank (Float.isNaN_ofNat m) (Float.isNaN_ofNat n), Float.rankOf_ofNat,
    Float.rankOf_ofNat]
  exact roundRank_mono (Int.mul_le_mul_of_nonneg_right (Int.ofNat_le.mpr h) (Int.natCast_nonneg _))

/-- 整数を変換した数の位置は、`z × 2^1074` を丸めて詰めたもの。 -/
theorem Float.rankOf_ofInt (z : Int) :
    rankOf (Float.ofInt z) = roundRank (z * ((2 ^ 1074 : Nat) : ℤ)) := by
  cases z with
  | ofNat n => exact Float.rankOf_ofNat n
  | negSucc n =>
    show rankOf (-Float.ofNat (n + 1)) = _
    rw [Float.rankOf_neg, Float.rankOf_ofNat, ← roundRank_neg, Int.negSucc_eq, Int.neg_mul,
      Nat.cast_succ]

/-- 整数の変換は NaN にならない。 -/
theorem Float.isNaN_ofInt (z : Int) : (Float.ofInt z).isNaN = false := by
  cases z with
  | ofNat n => exact Float.isNaN_ofNat n
  | negSucc n =>
    show (-Float.ofNat (n + 1)).isNaN = false
    rw [Float.isNaN_neg, Float.isNaN_ofNat]

/-- 整数の変換は順序を保つ。 -/
theorem Float.ofInt_le_ofInt {a b : Int} (h : a ≤ b) : Float.ofInt a ≤ Float.ofInt b := by
  rw [Float.le_iff_rank (Float.isNaN_ofInt a) (Float.isNaN_ofInt b), Float.rankOf_ofInt,
    Float.rankOf_ofInt]
  exact roundRank_mono (Int.mul_le_mul_of_nonneg_right h (Int.natCast_nonneg _))

/-- 絶対値が `2^1023` 以下の整数を変換した数は有限。 -/
theorem Float.isFinite_ofInt {z : Int} (h : z.natAbs ≤ 2 ^ 1023) : (Float.ofInt z).isFinite = true := by
  have hK : (0 : ℤ) ≤ ((2 ^ 1074 : Nat) : ℤ) := Int.natCast_nonneg _
  have hz : -((2 ^ 1023 : Nat) : ℤ) ≤ z ∧ z ≤ ((2 ^ 1023 : Nat) : ℤ) := by omega
  have hpow : ((2 ^ (1023 + 1074) : Nat) : ℤ) = ((2 ^ 1023 : Nat) : ℤ) * ((2 ^ 1074 : Nat) : ℤ) := by
    rw [pow_add, Nat.cast_mul]
  have hb := roundRank_bounds (S := z * ((2 ^ 1074 : Nat) : ℤ)) (k := 1023 + 1074) (by norm_num)
    (by norm_num) (by rw [hpow, ← Int.neg_mul]; exact Int.mul_le_mul_of_nonneg_right hz.1 hK)
    (by rw [hpow]; exact Int.mul_le_mul_of_nonneg_right hz.2 hK)
  rw [← Float.rankOf_ofInt] at hb
  exact Float.isFinite_of_rankOf_lt (Float.isNaN_ofInt z) hb.1 hb.2

/-- `2^1023` 以下の自然数を変換した数は有限。 -/
theorem Float.isFinite_ofNat {n : Nat} (h : n ≤ 2 ^ 1023) : (Float.ofNat n).isFinite = true :=
  Float.isFinite_ofInt (z := n) (by rw [Int.natAbs_natCast]; exact h)

end PlotGeometry
