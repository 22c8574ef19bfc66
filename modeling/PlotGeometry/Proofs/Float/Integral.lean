import Mathlib
import PlotGeometry.Proofs.Float.Convert
/-!
# 整数への丸めと、整数への変換

`toIntegral away` は有限な数を整数に丸める。向き `away` が余りと割る数の比だけで決まり、余り 0
では進めず、余りが大きいほど進めやすいなら（`RemainderRule`）、丸めた数の位置は位置を整数に
丸めたもの（`Float.rankOf_toIntegral`）で、丸めは順序を保つ。床、天井、四捨五入はその三つの例。

整数への変換はビット列から符号、仮数、指数を取り出す。取り出したものは開いた数のもの
（`Decimal.Binary.ofFloat?_fields`）なので、有限な数を 0 の方へ切り捨てた整数は位置を `2^1074`
で割って切り捨てたもの（`truncInt?_eq`）。飽和する変換は、範囲が `±2^64` の内側なら、無限大も
含めて位置の式で書け（`toIntSat_eq`）、順序を保つ。四捨五入してから 64 ビットの整数にすると、
NaN は 0 に、位置が 0 以下の数は 0 以下になる。
-/

namespace PlotGeometry

open Float.Model Float.Model.UnpackedFloat

/-! ## ビット列の欄 -/

theorem toNat_unpackExponent (b : BitVec 64) :
    (@unpackExponent .binary64 b).toNat = b.toNat / 2 ^ 52 % 2 ^ 11 := by
  simp only [unpackExponent, BitVec.toNat_cast, BitVec.extractLsb_toNat, Nat.shiftRight_eq_div_pow]

theorem toNat_unpackMantissa (b : BitVec 64) :
    (@unpackMantissa .binary64 b).toNat = b.toNat % 2 ^ 52 := by
  simp only [unpackMantissa, BitVec.toNat_cast, BitVec.extractLsb_toNat, Nat.shiftRight_zero]

theorem unpackSign_eq_zero_iff (b : BitVec 64) :
    @unpackSign .binary64 b = 0#1 ↔ b.toNat / 2 ^ 63 % 2 = 0 := by
  rw [← BitVec.toNat_inj]
  simp only [unpackSign, BitVec.toNat_cast, BitVec.extractLsb_toNat, Nat.shiftRight_eq_div_pow]
  rfl

theorem Sign.ofBitVec_unpackSign_beq (b : BitVec 64) :
    (Sign.ofBitVec (@unpackSign .binary64 b) == .negative) = (b.toNat / 2 ^ 63 % 2 == 1) := by
  have h2 : b.toNat / 2 ^ 63 % 2 < 2 := Nat.mod_lt _ (by decide)
  by_cases hs : @unpackSign .binary64 b = 0#1
  · have h0 := (unpackSign_eq_zero_iff b).mp hs
    simp only [Sign.ofBitVec, hs, if_true, h0]
    decide
  · have h1 : b.toNat / 2 ^ 63 % 2 = 1 := by
      have := mt (unpackSign_eq_zero_iff b).mpr hs
      omega
    simp only [Sign.ofBitVec, hs, if_false, h1]
    decide

namespace Decimal

/-- ビット列から取り出す符号、仮数、指数は、開いた数のもの。ゼロの仮数は 0、指数は -1074、
無限大と NaN では取り出さない。 -/
theorem Binary.ofFloat?_fields (x : Float) :
    (Binary.ofFloat? x).map (fun b => (b.neg, b.mant, b.exp)) =
      match x.toModel.unpack with
      | .finite s m e _ => some (s == Sign.negative, m, e)
      | .zero s => some (s == Sign.negative, 0, -1074)
      | _ => none := by
  have hw : x.toBits.toNat = x.toModel.toBits.toBitVec.toNat := rfl
  change _ = match UnpackedFloat.unpack .binary64 x.toModel.toBits.toBitVec with
    | .finite s m e _ => some (s == Sign.negative, m, e)
    | .zero s => some (s == Sign.negative, 0, -1074)
    | _ => none
  unfold Binary.ofFloat?
  rw [hw]
  generalize x.toModel.toBits.toBitVec = b
  have hev := toNat_unpackExponent b
  have hmv := toNat_unpackMantissa b
  have hsv := Sign.ofBitVec_unpackSign_beq b
  unfold UnpackedFloat.unpack
  simp only [Nat.pow_eq]
  by_cases hinf : @unpackExponent .binary64 b = -1#11
  · have h2 : b.toNat / 2 ^ 52 % 2 ^ 11 = 2047 := by rw [← hev, hinf]; rfl
    rw [if_pos h2, if_pos hinf]
    by_cases hm0 : @unpackMantissa .binary64 b = 0#52
    · rw [if_pos hm0]
      rfl
    · rw [if_neg hm0]
      rfl
  by_cases hzero : @unpackExponent .binary64 b = 0#11
  · have hf0 : b.toNat / 2 ^ 52 % 2 ^ 11 = 0 := by rw [← hev, hzero]; rfl
    have hexp : ((@unpackExponent .binary64 b).toNat : ℤ) -
        ((Format.binary64.exponentBias : ℤ) + (52 : Nat)) + 1 = -1074 := by
      rw [hzero]
      rfl
    rw [if_neg (by omega), if_pos hf0, if_neg hinf, if_pos hzero]
    by_cases hm0 : @unpackMantissa .binary64 b = 0#52
    · have hfrac : b.toNat % 2 ^ 52 = 0 := by rw [← hmv, hm0]; rfl
      rw [dif_pos hm0]
      simp only [Option.map_some, hsv, hfrac]
    · rw [dif_neg hm0]
      simp only [Option.map_some, hsv, hmv, hexp]
  · have h1 : b.toNat / 2 ^ 52 % 2 ^ 11 ≠ 0 := fun h0 =>
      hzero (BitVec.eq_of_toNat_eq (by rw [hev, h0]; rfl))
    have h2 : b.toNat / 2 ^ 52 % 2 ^ 11 ≠ 2047 := fun h0 =>
      hinf (BitVec.eq_of_toNat_eq (by rw [hev, h0]; rfl))
    have hbias : ((Format.binary64.exponentBias : ℤ) + (52 : Nat)) = 1075 := rfl
    rw [if_neg h2, if_neg h1, if_neg hinf, if_neg hzero]
    simp only [Option.map_some, hsv, toNat_one_append, hmv, hev, hbias, Nat.add_comm]

end Decimal

/-! ## 整数への変換 -/

/-- 有限数の大きさ（`2^-1074` 単位）を `2^1074` で割った商は、仮数を指数だけずらした整数部。 -/
theorem units_div_two_pow {m : Nat} {e : Int} (he : -1074 ≤ e) :
    units m e / 2 ^ 1074 = if 0 ≤ e then m * 2 ^ e.toNat else m / 2 ^ (-e).toNat := by
  unfold units
  split_ifs with h
  · rw [show (e + 1074).toNat = e.toNat + 1074 by omega, pow_add, ← Nat.mul_assoc,
      Nat.mul_div_cancel _ (Nat.two_pow_pos _)]
  · rw [show 1074 = (e + 1074).toNat + (-e).toNat by omega, pow_add, Nat.mul_comm m,
      Nat.mul_div_mul_left _ _ (Nat.two_pow_pos _)]

/-- 有限な数を 0 の方へ切り捨てた整数は、位置を `2^1074` で割って 0 の方へ切り捨てたもの。
無限大と NaN では `none`。 -/
theorem truncInt?_eq (x : Float) :
    truncInt? x = if x.isFinite then some ((rankOf x).tdiv ((2 ^ 1074 : Nat) : ℤ)) else none := by
  have hsplit : truncInt? x = ((Decimal.Binary.ofFloat? x).map fun b => (b.neg, b.mant, b.exp)).map
      fun t : Bool × Nat × Int =>
        let mag : Nat := if 0 ≤ t.2.2 then t.2.1 * Nat.pow 2 t.2.2.toNat
          else t.2.1 / Nat.pow 2 (-t.2.2).toNat
        if t.1 then -(mag : Int) else mag := by
    rw [Option.map_map]
    rfl
  rw [hsplit, Decimal.Binary.ofFloat?_fields, Float.isFinite_eq_unpack]
  have hc := canonicalForm_toModel x
  unfold rankOf
  cases hu : x.toModel.unpack with
  | notANumber | infinity _ => rfl
  | zero s =>
    simp only [Option.map_some, Nat.pow_eq, Nat.zero_div, Nat.zero_mul, ite_self, Nat.cast_zero,
      Int.neg_zero, show valueRank (.zero s) = 0 from rfl, Int.zero_tdiv]
    rfl
  | finite s m e hm =>
    rw [hu] at hc
    have he : -1074 ≤ e := by rcases hc with h | h <;> omega
    simp only [Option.map_some, Nat.pow_eq]
    rw [← units_div_two_pow he]
    cases s with
    | negative =>
      show some (-((units m e / 2 ^ 1074 : Nat) : ℤ)) = some ((-(units m e : ℤ)).tdiv _)
      rw [Int.neg_tdiv, Int.ofNat_tdiv]
    | positive =>
      show some ((units m e / 2 ^ 1074 : Nat) : ℤ) = some ((units m e : ℤ).tdiv _)
      rw [Int.ofNat_tdiv]

theorem rankOf_natZero : rankOf (0 : Float) = 0 := by
  rw [show (0 : Float) = Float.ofNat 0 from rfl, Float.rankOf_ofNat, Nat.cast_zero, Int.zero_mul,
    roundRank_zero]

theorem two_pow_mul_two_pow_le {a b c : Nat} (h : a + b ≤ c) :
    ((2 ^ a : Nat) : ℤ) * ((2 ^ b : Nat) : ℤ) ≤ (2 : ℤ) ^ c := by
  rw [← Nat.cast_mul, ← pow_add]
  exact_mod_cast Nat.pow_le_pow_right (by norm_num) h

section
variable {lo hi : Int}

/-- 飽和する整数への変換は、NaN でなければ、位置を `2^1074` で割って 0 の方へ切り捨て、
`[lo, hi]` に収めたもの。範囲が `±2^64` の内側なら、無限大もこの式に従う。 -/
theorem toIntSat_eq (hlh : lo ≤ hi) (hlo : -((2 ^ 64 : Nat) : ℤ) ≤ lo)
    (hhi : hi ≤ ((2 ^ 64 : Nat) : ℤ)) {x : Float} (hx : x.isNaN = false) :
    toIntSat lo hi x = max lo (min hi ((rankOf x).tdiv ((2 ^ 1074 : Nat) : ℤ))) := by
  have hK : (0 : ℤ) < ((2 ^ 1074 : Nat) : ℤ) := by positivity
  have hbig : ((2 ^ 64 : Nat) : ℤ) ≤ infRank.tdiv ((2 ^ 1074 : Nat) : ℤ) :=
    Int.le_tdiv_of_mul_le hK (two_pow_mul_two_pow_le (by norm_num))
  have h0 := rankOf_natZero
  unfold toIntSat
  rw [truncInt?_eq]
  rcases Float.finite_or_infinite hx with ⟨hf, -⟩ | ⟨hf, hr⟩ | ⟨hf, hr⟩
  · rw [if_pos hf]
  · have hpos : (0 : Float) < x := by
      rw [Float.lt_iff_rank rfl hx, h0, hr]
      exact infRank_pos
    simp only [hf, Bool.false_eq_true, if_false, hx, if_pos hpos, hr]
    omega
  · have hneg : ¬(0 : Float) < x := by
      rw [Float.lt_iff_rank rfl hx, h0, hr]
      have := infRank_pos
      omega
    simp only [hf, Bool.false_eq_true, if_false, hx, if_neg hneg, hr, Int.neg_tdiv]
    omega

/-- 飽和する整数への変換は順序を保つ。 -/
theorem toIntSat_mono (hlh : lo ≤ hi) (hlo : -((2 ^ 64 : Nat) : ℤ) ≤ lo)
    (hhi : hi ≤ ((2 ^ 64 : Nat) : ℤ)) {x y : Float} (h : x ≤ y) :
    toIntSat lo hi x ≤ toIntSat lo hi y := by
  obtain ⟨hx, hy⟩ := Float.isNaN_eq_false_of_le h
  have hr := (Float.le_iff_rank hx hy).mp h
  have hq := Int.tdiv_le_tdiv (c := ((2 ^ 1074 : Nat) : ℤ)) (by positivity) hr
  rw [toIntSat_eq hlh hlo hhi hx, toIntSat_eq hlh hlo hhi hy]
  omega

/-- 位置が 0 以下の数の変換は、下限が 0 以下なら 0 以下。 -/
theorem toIntSat_nonpos (hlh : lo ≤ hi) (hlo : -((2 ^ 64 : Nat) : ℤ) ≤ lo)
    (hhi : hi ≤ ((2 ^ 64 : Nat) : ℤ)) (hlo0 : lo ≤ 0) {x : Float} (hx : x.isNaN = false)
    (h : rankOf x ≤ 0) : toIntSat lo hi x ≤ 0 := by
  have hq := Int.tdiv_le_tdiv (c := ((2 ^ 1074 : Nat) : ℤ)) (by positivity) h
  rw [Int.zero_tdiv] at hq
  rw [toIntSat_eq hlh hlo hhi hx]
  omega

theorem toIntSat_of_isNaN {x : Float} (h : x.isNaN = true) : toIntSat lo hi x = 0 := by
  have hf : x.isFinite = false := by
    rcases Bool.eq_false_or_eq_true x.isFinite with hf | hf
    · rw [Float.isNaN_eq_false_of_isFinite hf] at h
      cases h
    · exact hf
  unfold toIntSat
  simp only [truncInt?_eq, hf, Bool.false_eq_true, if_false, h, if_true]

/-- 飽和する変換は、範囲が 0 を含むなら NaN も含めて `[lo, hi]` に収まる。 -/
theorem toIntSat_bounds (hlh : lo ≤ hi) (hlo : -((2 ^ 64 : Nat) : ℤ) ≤ lo)
    (hhi : hi ≤ ((2 ^ 64 : Nat) : ℤ)) (hlo0 : lo ≤ 0) (hhi0 : 0 ≤ hi) (x : Float) :
    lo ≤ toIntSat lo hi x ∧ toIntSat lo hi x ≤ hi := by
  cases hx : x.isNaN
  · rw [toIntSat_eq hlh hlo hhi hx]
    omega
  · rw [toIntSat_of_isNaN hx]
    omega

end

/-- 64 ビットの符号なし整数への変換が 1 以上の `k` 以上なら、位置は `k` の位置以上。 -/
theorem mul_le_rankOf_of_le_toNatSat {x : Float} {k : Nat} (hk : 0 < k) (h : k ≤ toNatSat x) :
    (k : ℤ) * ((2 ^ 1074 : Nat) : ℤ) ≤ rankOf x := by
  unfold toNatSat at h
  cases hx : x.isNaN
  · rw [toIntSat_eq (by decide) (by decide) (by decide) hx] at h
    have hq : (k : ℤ) ≤ (rankOf x).tdiv ((2 ^ 1074 : Nat) : ℤ) := by omega
    rcases le_or_gt 0 (rankOf x) with hr | hr
    · rw [Int.tdiv_eq_ediv_of_nonneg hr] at hq
      exact (Int.le_ediv_iff_mul_le (by positivity)).mp hq
    · have := Int.tdiv_le_tdiv (c := ((2 ^ 1074 : Nat) : ℤ)) (by positivity) hr.le
      rw [Int.zero_tdiv] at this
      omega
  · rw [toIntSat_of_isNaN hx] at h
    simp only [Int.toNat_zero, Nat.le_zero] at h
    omega
/-- 64 ビットの符号付き整数への変換は順序を保つ。 -/
theorem toInt64Sat_mono {x y : Float} (h : x ≤ y) : toInt64Sat x ≤ toInt64Sat y :=
  toIntSat_mono (by decide) (by decide) (by decide) h

/-- 64 ビットの符号付き整数への変換は、その範囲に収まる。 -/
theorem toInt64Sat_bounds (x : Float) :
    -9223372036854775808 ≤ toInt64Sat x ∧ toInt64Sat x ≤ 9223372036854775807 :=
  toIntSat_bounds (by decide) (by decide) (by decide) (by decide) (by decide) x

/-! ## 整数への丸め -/

/-- 整数への丸めの向き `away neg r d`（絶対値を `d` で割った余りが `r` のとき、0 と反対の方へ
一つ進めるか）が、余りと割る数の比だけで決まり、余り 0 では進めず、余りが大きいほど進めやすい。 -/
structure RemainderRule (away : Bool → Nat → Nat → Bool) : Prop where
  scale : ∀ neg r d c, 0 < c → away neg (r * c) (d * c) = away neg r d
  zero : ∀ neg d, 0 < d → away neg 0 d = false
  mono : ∀ neg d r r', r ≤ r' → away neg r d = true → away neg r' d = true

/-- 大きさ `U`（`2^-1074` 単位）の数を、向き `away` で整数に丸めた大きさ。 -/
def integralUnits (away : Bool → Nat → Nat → Bool) (neg : Bool) (U : Nat) : Nat :=
  (U / 2 ^ 1074 + if away neg (U % 2 ^ 1074) (2 ^ 1074) then 1 else 0) * 2 ^ 1074

/-- 位置 `r` の数を、向き `away` で整数に丸めた位置。 -/
def integralRank (away : Bool → Nat → Nat → Bool) (r : ℤ) : ℤ :=
  if 0 ≤ r then integralUnits away false r.toNat else -(integralUnits away true (-r).toNat : ℤ)

section
variable {away : Bool → Nat → Nat → Bool}

theorem integralUnits_of_dvd (hrule : RemainderRule away) (neg : Bool) {U : Nat}
    (h : 2 ^ 1074 ∣ U) : integralUnits away neg U = U := by
  unfold integralUnits
  rw [Nat.mod_eq_zero_of_dvd h, hrule.zero _ _ (Nat.two_pow_pos _), if_neg (by decide), Nat.add_zero,
    Nat.div_mul_cancel h]

/-- 整数の位置（`2^1074` の倍数）は丸めても変わらない。 -/
theorem integralRank_of_dvd (hrule : RemainderRule away) {r : ℤ} (h : ((2 ^ 1074 : Nat) : ℤ) ∣ r) :
    integralRank away r = r := by
  unfold integralRank
  split_ifs with hr
  · have h' : 2 ^ 1074 ∣ r.toNat := by
      rw [show r.toNat = r.natAbs by omega]
      exact Int.ofNat_dvd_left.mp h
    rw [integralUnits_of_dvd hrule _ h', Int.toNat_of_nonneg hr]
  · have h' : 2 ^ 1074 ∣ (-r).toNat := by
      rw [show (-r).toNat = (-r).natAbs by omega]
      exact Int.ofNat_dvd_left.mp (Int.dvd_neg.mpr h)
    rw [integralUnits_of_dvd hrule _ h', Int.toNat_of_nonneg (by omega), Int.neg_neg]

theorem integralUnits_mono (hrule : RemainderRule away) (neg : Bool) {U U' : Nat} (h : U ≤ U') :
    integralUnits away neg U ≤ integralUnits away neg U' := by
  unfold integralUnits
  apply Nat.mul_le_mul_right
  generalize 2 ^ 1074 = D
  have hq := Nat.div_le_div_right (c := D) h
  rcases Nat.lt_or_eq_of_le hq with hlt | heq
  · split_ifs <;> omega
  · have hmod : U % D ≤ U' % D := by
      have h1 := Nat.div_add_mod U D
      have h2 := Nat.div_add_mod U' D
      rw [heq] at h1
      omega
    by_cases ha : away neg (U % D) D = true
    · rw [if_pos ha, if_pos (hrule.mono neg D _ _ hmod ha)]
      omega
    · rw [if_neg ha]
      split_ifs <;> omega

/-- 整数への丸めは順序を保つ。 -/
theorem integralRank_mono (hrule : RemainderRule away) {r r' : ℤ} (h : r ≤ r') :
    integralRank away r ≤ integralRank away r' := by
  unfold integralRank
  split_ifs with h1 h2 h2
  · exact Int.ofNat_le.mpr (integralUnits_mono hrule false (by omega))
  · omega
  · have := Int.natCast_nonneg (integralUnits away true (-r).toNat)
    have := Int.natCast_nonneg (integralUnits away false r'.toNat)
    omega
  · have := Int.ofNat_le.mpr (integralUnits_mono hrule true (show (-r').toNat ≤ (-r).toNat by omega))
    omega

/-- 指数が負の有限数を丸めた大きさは、仮数を `2^-e` で割った商に、余りで決まる 1 を足したもの。 -/
theorem integralUnits_units (hrule : RemainderRule away) (neg : Bool) (m : Nat) {e : Int}
    (he : -1074 ≤ e) (he0 : e < 0) :
    integralUnits away neg (units m e) =
      (if away neg (m % 2 ^ (-e).toNat) (2 ^ (-e).toNat) then m / 2 ^ (-e).toNat + 1
        else m / 2 ^ (-e).toNat) * 2 ^ 1074 := by
  have hsplit : 2 ^ 1074 = 2 ^ (-e).toNat * 2 ^ (e + 1074).toNat := by
    rw [← pow_add]
    congr 1
    omega
  have hdiv := units_div_two_pow (m := m) he
  rw [if_neg (by omega)] at hdiv
  have hmod : units m e % 2 ^ 1074 = m % 2 ^ (-e).toNat * 2 ^ (e + 1074).toNat := by
    unfold units
    rw [hsplit, Nat.mul_mod_mul_right]
  unfold integralUnits
  rw [hdiv, hmod, hsplit, hrule.scale _ _ _ _ (Nat.two_pow_pos _)]
  split_ifs <;> rfl

theorem Sign.apply_dvd (s : Sign) {a b : ℤ} (h : a ∣ b) : a ∣ s.apply b := by
  cases s with
  | positive => exact h
  | negative => exact Int.dvd_neg.mpr h

/-- 無限大の位置 `2^2100` は整数（`2^1074` の倍数）。 -/
theorem infRank_dvd : ((2 ^ 1074 : Nat) : ℤ) ∣ infRank := by
  unfold infRank
  rw [show (2 : ℤ) ^ 2100 = ((2 ^ 1074 * 2 ^ 1026 : Nat) : ℤ) by
    rw [← pow_add, Nat.cast_pow, Nat.cast_ofNat]]
  exact Int.natCast_dvd_natCast.mpr (Dvd.intro _ rfl)

/-- 整数に丸めた位置は `2^1074` の倍数。 -/
theorem integralRank_dvd (away : Bool → Nat → Nat → Bool) (r : ℤ) :
    ((2 ^ 1074 : Nat) : ℤ) ∣ integralRank away r := by
  unfold integralRank integralUnits
  by_cases hr : 0 ≤ r
  · rw [if_pos hr]
    exact Int.natCast_dvd_natCast.mpr (Nat.dvd_mul_left _ _)
  · rw [if_neg hr]
    exact Int.dvd_neg.mpr (Int.natCast_dvd_natCast.mpr (Nat.dvd_mul_left _ _))

/-- 整数に丸めた数の位置は、位置を整数に丸めたもの。無限大、ゼロ、NaN はそのまま。 -/
theorem Float.rankOf_toIntegral (hrule : RemainderRule away) (x : Float) :
    rankOf (toIntegral away x) = integralRank away (rankOf x) := by
  have hc := canonicalForm_toModel x
  unfold toIntegral
  cases hu : x.toModel.unpack with
  | notANumber | zero _ =>
    show rankOf x = _
    rw [rankOf, hu]
    exact (integralRank_of_dvd hrule (dvd_zero _)).symm
  | infinity s =>
    show rankOf x = _
    rw [rankOf, hu]
    exact (integralRank_of_dvd hrule (Sign.apply_dvd s infRank_dvd)).symm
  | finite s m e hm =>
    rw [hu] at hc
    have he : -1074 ≤ e := by rcases hc with h | h <;> omega
    have hm53 : m < 2 ^ 53 := by rcases hc with h | h <;> omega
    have hr : rankOf x = s.apply (units m e) := by rw [rankOf, hu]; rfl
    dsimp only
    split
    · rename_i he0
      have hdvd : 2 ^ 1074 ∣ units m e := by
        unfold units
        rw [show (e + 1074).toNat = e.toNat + 1074 by omega, pow_add, ← Nat.mul_assoc]
        exact Dvd.intro_left _ rfl
      rw [hr, integralRank_of_dvd hrule (Sign.apply_dvd s (Int.natCast_dvd_natCast.mpr hdvd))]
    · rename_i he0
      have hd : 2 ≤ 2 ^ (-e).toNat := by
        calc 2 = 2 ^ 1 := rfl
          _ ≤ 2 ^ (-e).toNat := Nat.pow_le_pow_right (by norm_num) (by omega)
      have hq (neg : Bool) : (if away neg (m % 2 ^ (-e).toNat) (2 ^ (-e).toNat) then
          m / 2 ^ (-e).toNat + 1 else m / 2 ^ (-e).toNat) < 2 ^ 53 := by
        have : m / 2 ^ (-e).toNat ≤ m / 2 := Nat.div_le_div_left hd (by norm_num)
        split_ifs <;> omega
      simp only [Nat.pow_eq]
      rw [hr]
      cases s with
      | positive =>
        show rankOf (Float.ofNat _) = integralRank away (units m e : ℤ)
        rw [show (Sign.positive == Sign.negative) = false from rfl, Float.rankOf_ofNat_of_lt (hq false),
          integralRank, if_pos (Int.natCast_nonneg _), Int.toNat_natCast,
          integralUnits_units hrule false m he (by omega)]
      | negative =>
        have hU := units_pos m e hm
        show rankOf (-Float.ofNat _) = integralRank away (-(units m e : ℤ))
        rw [show (Sign.negative == Sign.negative) = true from rfl, Float.rankOf_neg,
          Float.rankOf_ofNat_of_lt (hq true), integralRank,
          if_neg (show ¬(0 ≤ -(units m e : ℤ)) by omega), Int.neg_neg, Int.toNat_natCast,
          integralUnits_units hrule true m he (by omega)]

/-- 整数に丸めた数の位置は `2^1074` の倍数。 -/
theorem Float.rankOf_toIntegral_dvd (hrule : RemainderRule away) (x : Float) :
    ((2 ^ 1074 : Nat) : ℤ) ∣ rankOf (toIntegral away x) := by
  rw [Float.rankOf_toIntegral hrule]
  exact integralRank_dvd away _

/-- 整数への丸めは、NaN を NaN に、NaN でない数を NaN でない数に移す。 -/
theorem Float.isNaN_toIntegral (x : Float) : (toIntegral away x).isNaN = x.isNaN := by
  unfold toIntegral
  cases hu : x.toModel.unpack with
  | finite s m e hm =>
    have hx : x.isNaN = false := by rw [Float.isNaN_eq_unpack, hu]; rfl
    rw [hx]
    dsimp only
    split
    · exact hx
    · split
      · rw [Float.isNaN_neg, Float.isNaN_ofNat]
      · exact Float.isNaN_ofNat _
  | _ => rfl

/-- 整数への丸めは順序を保つ。 -/
theorem Float.toIntegral_mono (hrule : RemainderRule away) {x y : Float} (h : x ≤ y) :
    toIntegral away x ≤ toIntegral away y := by
  obtain ⟨hx, hy⟩ := Float.isNaN_eq_false_of_le h
  have hx' : (toIntegral away x).isNaN = false := by rw [Float.isNaN_toIntegral, hx]
  have hy' : (toIntegral away y).isNaN = false := by rw [Float.isNaN_toIntegral, hy]
  rw [Float.le_iff_rank hx' hy', Float.rankOf_toIntegral hrule, Float.rankOf_toIntegral hrule]
  exact integralRank_mono hrule ((Float.le_iff_rank hx hy).mp h)

end

/-! ## 床、天井、四捨五入 -/

/-- 余りが 0 でなければ、符号で決まる側（床は負の数、天井は正の数）でだけ進める丸め。 -/
theorem nonzeroRule (side : Bool → Bool) : RemainderRule fun neg r _ => side neg && r != 0 := by
  refine ⟨fun neg r d c hc => ?_, fun neg d _ => ?_, fun neg d r r' h hr => ?_⟩
  · rw [Bool.eq_iff_iff]
    simp only [Bool.and_eq_true, bne_iff_ne, ne_eq, Nat.mul_eq_zero, hc.ne', or_false]
  · simp only [bne_self_eq_false, Bool.and_false]
  · simp only [Bool.and_eq_true, bne_iff_ne, ne_eq] at hr ⊢
    exact ⟨hr.1, by omega⟩

theorem floorRule : RemainderRule fun neg r _ => neg && r != 0 :=
  nonzeroRule id

theorem ceilRule : RemainderRule fun neg r _ => !neg && r != 0 :=
  nonzeroRule (!·)

theorem roundRule : RemainderRule fun _ r d => d ≤ 2 * r := by
  refine ⟨fun neg r d c hc => ?_, fun neg d hd => ?_, fun neg d r r' h hr => ?_⟩
  · simp only [decide_eq_decide, ← Nat.mul_assoc]
    exact Nat.mul_le_mul_right_iff hc
  · simp only [Nat.mul_zero, decide_eq_false_iff_not, Nat.not_le]
    exact hd
  · simp only [decide_eq_true_eq] at hr ⊢
    omega

theorem floorNum_mono {x y : Float} (h : x ≤ y) : floorNum x ≤ floorNum y :=
  Float.toIntegral_mono floorRule h

theorem roundNum_mono {x y : Float} (h : x ≤ y) : roundNum x ≤ roundNum y :=
  Float.toIntegral_mono roundRule h

/-- 床は数を越えず、数から 1 未満しか下がらない。 -/
theorem rankOf_floorNum_bounds (x : Float) :
    rankOf x - 2 ^ 1074 < rankOf (floorNum x) ∧ rankOf (floorNum x) ≤ rankOf x := by
  rw [floorNum, Float.rankOf_toIntegral floorRule, integralRank]
  unfold integralUnits
  have hD : 0 < 2 ^ 1074 := by positivity
  rcases le_or_gt 0 (rankOf x) with hr | hr
  · rw [if_pos hr]
    simp only [Bool.false_and, Bool.false_eq_true, if_false, Nat.add_zero]
    have hN : ((rankOf x).toNat : ℤ) = rankOf x := Int.toNat_of_nonneg hr
    have := Nat.div_add_mod (rankOf x).toNat (2 ^ 1074)
    have := Nat.mod_lt (rankOf x).toNat hD
    omega
  · rw [if_neg (by omega)]
    have hN : ((-rankOf x).toNat : ℤ) = -rankOf x := Int.toNat_of_nonneg (by omega)
    have := Nat.div_add_mod (-rankOf x).toNat (2 ^ 1074)
    have := Nat.mod_lt (-rankOf x).toNat hD
    simp only [Bool.true_and, bne_iff_ne, ne_eq]
    split_ifs <;> omega

/-- 天井は数を下回らず、数から 1 未満しか上がらない。 -/
theorem rankOf_ceilNum_bounds (x : Float) :
    rankOf x ≤ rankOf (ceilNum x) ∧ rankOf (ceilNum x) < rankOf x + 2 ^ 1074 := by
  rw [ceilNum, Float.rankOf_toIntegral ceilRule, integralRank]
  unfold integralUnits
  have hD : 0 < 2 ^ 1074 := by positivity
  rcases le_or_gt 0 (rankOf x) with hr | hr
  · rw [if_pos hr]
    have hN : ((rankOf x).toNat : ℤ) = rankOf x := Int.toNat_of_nonneg hr
    have := Nat.div_add_mod (rankOf x).toNat (2 ^ 1074)
    have := Nat.mod_lt (rankOf x).toNat hD
    simp only [Bool.not_false, Bool.true_and, bne_iff_ne, ne_eq]
    split_ifs <;> omega
  · rw [if_neg (by omega)]
    simp only [Bool.not_true, Bool.false_and, Bool.false_eq_true, if_false, Nat.add_zero]
    have hN : ((-rankOf x).toNat : ℤ) = -rankOf x := Int.toNat_of_nonneg (by omega)
    have := Nat.div_add_mod (-rankOf x).toNat (2 ^ 1074)
    have := Nat.mod_lt (-rankOf x).toNat hD
    omega

/-- 正の数の天井は 1 以上。 -/
theorem one_le_ceilNum {x : Float} (hx : x.isNaN = false) (h : 0 < rankOf x) : 1.0 ≤ ceilNum x := by
  have hc : (ceilNum x).isNaN = false := by rw [ceilNum, Float.isNaN_toIntegral, hx]
  rw [Float.le_iff_rank rfl hc, rankOf_one, ceilNum, Float.rankOf_toIntegral ceilRule, integralRank,
    if_pos h.le]
  apply Int.ofNat_le.mpr
  have hU : 0 < (rankOf x).toNat := by omega
  have hD : 0 < 2 ^ 1074 := by positivity
  unfold integralUnits
  generalize (rankOf x).toNat = U at hU
  generalize 2 ^ 1074 = D at hD ⊢
  rcases Nat.lt_or_ge U D with hlt | hge
  · rw [Nat.div_eq_of_lt hlt, Nat.mod_eq_of_lt hlt,
      if_pos (by simp only [Bool.not_false, Bool.true_and, bne_iff_ne]; omega)]
    omega
  · have hq : 1 ≤ U / D := (Nat.one_le_div_iff hD).mpr hge
    calc D = 1 * D := (Nat.one_mul D).symm
      _ ≤ _ := Nat.mul_le_mul_right D (by omega)

/-! ## 丸めて 64 ビットの整数に -/

theorem toInt64Sat_roundNum_of_isNaN {v : Float} (h : v.isNaN = true) : toInt64Sat (roundNum v) = 0 :=
  toIntSat_of_isNaN (by rw [roundNum, Float.isNaN_toIntegral, h])

/-- 位置が 0 以下の数を丸めて 64 ビットの整数にすると 0 以下。 -/
theorem toInt64Sat_roundNum_nonpos {v : Float} (hv : v.isNaN = false) (h : rankOf v ≤ 0) :
    toInt64Sat (roundNum v) ≤ 0 := by
  have hr : (roundNum v).isNaN = false := by rw [roundNum, Float.isNaN_toIntegral, hv]
  apply toIntSat_nonpos (by decide) (by decide) (by decide) (by decide) hr
  rw [roundNum, Float.rankOf_toIntegral roundRule]
  calc integralRank _ (rankOf v) ≤ integralRank _ 0 := integralRank_mono roundRule h
    _ = 0 := integralRank_of_dvd roundRule (dvd_zero _)

end PlotGeometry
