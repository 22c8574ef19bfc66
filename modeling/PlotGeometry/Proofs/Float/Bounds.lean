import Mathlib
import PlotGeometry.Proofs.Float.Convert
/-!
# 有限に収まること、正であること

有限数の位置は `±2^2098` の内側にあり、無限大の位置 `±2^2100` との間には隙間がある。そこで
負の無限大から有限な数までの差は正の無限大になり（`Float.isFinite_of_lt_of_sub`）、有限数を
1 以上の数で割っても、商の位置の絶対値は割られる数の位置を越えず有限（`Float.isFinite_div_of_one_le`）。
反対に 1 以上の有限数を正の有限数で割った商は、`2^2098` 未満の数で割るので正
（`Float.rankOf_div_pos`）。正の有限数に 1 以上の数を掛けても小さくならない。無限大を掛ければ
無限大になる（`Float.le_mul_of_one_le_right`）。

無限大に正の有限数を掛けても、無限大を正の有限数で割っても、同じ無限大のまま。だから正の有限数
を掛けることと割ることは、無限大も含めて NaN でない数の順序を保つ（`Float.mul_le_mul_right_of_pos`、
`Float.div_le_div_right_of_pos`）。
-/

namespace PlotGeometry

open Float.Model Float.Model.UnpackedFloat

/-! ## 有限数と無限大 -/

/-- 有限数の位置は `±2^2098` の内側。 -/
theorem Float.rankOf_finite_bounds {x : Float} (hx : x.isFinite = true) :
    -((2 ^ 2098 : Nat) : ℤ) < rankOf x ∧ rankOf x < ((2 ^ 2098 : Nat) : ℤ) := by
  rw [Float.isFinite_eq_unpack] at hx
  have hc := canonicalForm_toModel x
  have hpos : (0 : ℤ) < ((2 ^ 2098 : Nat) : ℤ) := by positivity
  unfold rankOf
  cases hu : x.toModel.unpack with
  | notANumber | infinity _ => rw [hu] at hx; cases hx
  | zero _ => simp only [valueRank]; omega
  | finite s m e hm =>
    rw [hu] at hc
    exact valueRank_finite_bounds hm hc

/-- 1 以上の数の位置は正。 -/
theorem Float.rankOf_pos_of_one_le {x : Float} (h : 1.0 ≤ x) : 0 < rankOf x := by
  have hK : (0 : ℤ) < ((2 ^ 1074 : Nat) : ℤ) := by positivity
  have := (Float.rankOf_of_one_le h).2
  omega

/-- 大きい方からの差が有限なら、小さい方は有限（負の無限大からの差は正の無限大）。 -/
theorem Float.isFinite_of_lt_of_sub {x y : Float} (hxy : x < y) (h : (y - x).isFinite = true) :
    x.isFinite = true := by
  obtain ⟨hx, hy⟩ := Float.isNaN_eq_false_of_lt hxy
  have hr := (Float.lt_iff_rank hx hy).mp hxy
  have hyb := Float.rankOf_bounds y
  have hI := overflow_lt_infRank
  rcases Float.finite_or_infinite hx with ⟨hf, -⟩ | ⟨-, hxi⟩ | ⟨-, hxi⟩
  · exact hf
  · omega
  · have hy2 : -((2 ^ 2098 : Nat) : ℤ) < rankOf y := by
      rcases Float.finite_or_infinite hy with ⟨hyf, -⟩ | ⟨-, hyi⟩ | ⟨-, hyi⟩
      · exact (Float.rankOf_finite_bounds hyf).1
      · omega
      · omega
    have h4 : infRank = 4 * ((2 ^ 2098 : Nat) : ℤ) := by
      unfold infRank
      rw [Nat.cast_pow, Nat.cast_ofNat, show 2100 = 2 + 2098 from rfl, pow_add,
        show (2 : ℤ) ^ 2 = 4 by norm_num]
    have hsb := Float.rankOf_finite_bounds h
    rw [Float.rankOf_sub (Float.isNaN_eq_false_of_isFinite h), hxi,
      roundRank_of_overflow (by omega)] at hsb
    omega

/-- 正の有限数に正の無限大を掛けると、NaN でなく正の無限大。 -/
theorem Float.mul_of_rankOf_eq_infRank {x c : Float} (hx : x.isFinite = true) (hx0 : 0 < rankOf x)
    (hci : rankOf c = infRank) : (x * c).isNaN = false ∧ rankOf (x * c) = infRank := by
  have hcu := (valueRank_eq_infRank_iff (canonicalForm_toModel c)).mp hci
  rw [Float.isFinite_eq_unpack] at hx
  unfold rankOf at hx0
  have hmul : x * c = .ofModel (.pack (UnpackedFloat.mul .binary64 x.toModel.unpack c.toModel.unpack)) :=
    rfl
  rw [hmul, hcu]
  cases hu : x.toModel.unpack with
  | notANumber | infinity _ => rw [hu] at hx; cases hx
  | zero _ => rw [hu] at hx0; simp only [valueRank] at hx0; omega
  | finite s m e hm =>
    cases s with
    | negative => rw [hu] at hx0; simp only [valueRank, Sign.apply] at hx0; omega
    | positive =>
      refine ⟨Float.isNaN_ofModel_pack_eq_false (fun h => by cases h), ?_⟩
      rw [Float.rankOf_ofModel_pack]
      simp only [UnpackedFloat.mul]
      rw [valueRank_pack_infinity]
      rfl

/-- 正の無限大に正の有限数を掛けても、NaN でなく正の無限大。 -/
theorem Float.infRank_mul {c x : Float} (hci : rankOf c = infRank) (hx : x.isFinite = true)
    (hx0 : 0 < rankOf x) : (c * x).isNaN = false ∧ rankOf (c * x) = infRank := by
  have hcu := (valueRank_eq_infRank_iff (canonicalForm_toModel c)).mp hci
  rw [Float.isFinite_eq_unpack] at hx
  unfold rankOf at hx0
  have hmul : c * x = .ofModel (.pack (UnpackedFloat.mul .binary64 c.toModel.unpack x.toModel.unpack)) :=
    rfl
  rw [hmul, hcu]
  cases hu : x.toModel.unpack with
  | notANumber | infinity _ => rw [hu] at hx; cases hx
  | zero _ => rw [hu] at hx0; simp only [valueRank] at hx0; omega
  | finite s m e hm =>
    cases s with
    | negative => rw [hu] at hx0; simp only [valueRank, Sign.apply] at hx0; omega
    | positive =>
      refine ⟨Float.isNaN_ofModel_pack_eq_false (fun h => by cases h), ?_⟩
      rw [Float.rankOf_ofModel_pack]
      simp only [UnpackedFloat.mul]
      rw [valueRank_pack_infinity]
      rfl

/-- 位置が正の無限大の位置なら、無限大。 -/
theorem Float.isInf_of_rankOf_eq_infRank {x : Float} (h : rankOf x = infRank) : x.isInf = true := by
  have hu := (valueRank_eq_infRank_iff (canonicalForm_toModel x)).mp h
  change x.toModel.unpack.isInf = true
  rw [hu]
  rfl

/-- 正の有限数に 1 以上の数（無限大でもよい）を掛けても小さくならない。 -/
theorem Float.le_mul_of_one_le_right {x c : Float} (hx : x.isFinite = true) (hx0 : 0 < rankOf x)
    (hc : 1.0 ≤ c) : x ≤ x * c := by
  obtain ⟨hcn, hc1⟩ := Float.rankOf_of_one_le hc
  have hxn := Float.isNaN_eq_false_of_isFinite hx
  rcases Float.finite_or_infinite hcn with ⟨hcf, -⟩ | ⟨-, hci⟩ | ⟨-, hci⟩
  · have h1 := Float.mul_le_mul_of_nonneg_left hc hx rfl hcf hx0.le
    have hn := Float.mul_isNaN_eq_false hx hcf
    rw [Float.le_iff_rank hxn hn, ← Float.rankOf_mul_one hx]
    exact (Float.le_iff_rank (Float.mul_isNaN_eq_false hx rfl) hn).mp h1
  · obtain ⟨hn, hr⟩ := Float.mul_of_rankOf_eq_infRank hx hx0 hci
    rw [Float.le_iff_rank hxn hn, hr]
    exact (Float.rankOf_bounds x).2
  · have := infRank_pos
    omega

/-! ## 無限大を含む数の順序 -/

/-- 無限大に正の有限数を掛けても、NaN でなく同じ無限大。 -/
theorem Float.mul_of_not_isFinite {c x : Float} (hc : c.isNaN = false) (hcf : c.isFinite = false)
    (hx : x.isFinite = true) (hx0 : 0 < rankOf x) :
    (c * x).isNaN = false ∧ rankOf (c * x) = rankOf c := by
  rw [Float.isFinite_eq_unpack] at hx hcf
  unfold rankOf at hx0
  have hmul : c * x = .ofModel (.pack (UnpackedFloat.mul .binary64 c.toModel.unpack x.toModel.unpack)) :=
    rfl
  rw [hmul, show rankOf c = valueRank c.toModel.unpack from rfl]
  cases hu : c.toModel.unpack with
  | notANumber => exact absurd hu (unpack_ne_notANumber hc)
  | zero _ | finite _ _ _ _ => rw [hu] at hcf; cases hcf
  | infinity s =>
    cases hv : x.toModel.unpack with
    | notANumber | infinity _ => rw [hv] at hx; cases hx
    | zero _ => rw [hv] at hx0; simp only [valueRank] at hx0; omega
    | finite t m e hm =>
      cases t with
      | negative =>
        rw [hv] at hx0
        have := units_pos m e hm
        simp only [valueRank, Sign.apply] at hx0
        omega
      | positive =>
        refine ⟨Float.isNaN_ofModel_pack_eq_false (fun h => by cases h), ?_⟩
        rw [Float.rankOf_ofModel_pack]
        simp only [UnpackedFloat.mul]
        rw [valueRank_pack_infinity]
        cases s <;> rfl

/-- 無限大を正の有限数で割っても、NaN でなく同じ無限大。 -/
theorem Float.div_of_not_isFinite {c x : Float} (hc : c.isNaN = false) (hcf : c.isFinite = false)
    (hx : x.isFinite = true) (hx0 : 0 < rankOf x) :
    (c / x).isNaN = false ∧ rankOf (c / x) = rankOf c := by
  rw [Float.isFinite_eq_unpack] at hx hcf
  unfold rankOf at hx0
  have hdiv : c / x = .ofModel (.pack (UnpackedFloat.div .binary64 c.toModel.unpack x.toModel.unpack)) :=
    rfl
  rw [hdiv, show rankOf c = valueRank c.toModel.unpack from rfl]
  cases hu : c.toModel.unpack with
  | notANumber => exact absurd hu (unpack_ne_notANumber hc)
  | zero _ | finite _ _ _ _ => rw [hu] at hcf; cases hcf
  | infinity s =>
    cases hv : x.toModel.unpack with
    | notANumber | infinity _ => rw [hv] at hx; cases hx
    | zero _ => rw [hv] at hx0; simp only [valueRank] at hx0; omega
    | finite t m e hm =>
      cases t with
      | negative =>
        rw [hv] at hx0
        have := units_pos m e hm
        simp only [valueRank, Sign.apply] at hx0
        omega
      | positive =>
        refine ⟨Float.isNaN_ofModel_pack_eq_false (fun h => by cases h), ?_⟩
        rw [Float.rankOf_ofModel_pack]
        simp only [UnpackedFloat.div]
        rw [valueRank_pack_infinity]
        cases s <;> rfl

/-- NaN でない数を NaN でない数に移し、無限大の位置を動かさず、有限数の順序を保つ演算は、
無限大も含めて NaN でない数の順序を保つ。 -/
theorem Float.map_le_map {f : Float → Float} (hnan : ∀ x : Float, x.isNaN = false → (f x).isNaN = false)
    (hinf : ∀ x : Float, x.isNaN = false → x.isFinite = false → rankOf (f x) = rankOf x)
    (hfin : ∀ x x' : Float, x.isFinite = true → x'.isFinite = true → x ≤ x' → f x ≤ f x')
    {x x' : Float} (h : x ≤ x') : f x ≤ f x' := by
  obtain ⟨hx, hx'⟩ := Float.isNaN_eq_false_of_le h
  have hr := (Float.le_iff_rank hx hx').mp h
  have hb := Float.rankOf_bounds (f x)
  have hb' := Float.rankOf_bounds (f x')
  rw [Float.le_iff_rank (hnan x hx) (hnan x' hx')]
  rcases Float.finite_or_infinite hx with ⟨hxf, hx1, -⟩ | ⟨hxf, hxi⟩ | ⟨hxf, hxi⟩ <;>
    rcases Float.finite_or_infinite hx' with ⟨hxf', -, hx2'⟩ | ⟨hxf', hxi'⟩ | ⟨hxf', hxi'⟩
  · exact (Float.le_iff_rank (hnan x hx) (hnan x' hx')).mp (hfin x x' hxf hxf' h)
  · rw [hinf x' hx' hxf', hxi']
    exact hb.2
  · omega
  · omega
  · rw [hinf x hx hxf, hinf x' hx' hxf']
    exact hr
  · omega
  all_goals
    rw [hinf x hx hxf, hxi]
    exact hb'.1

/-- 正の有限数を右から掛けることは、無限大も含めて NaN でない数の順序を保つ。 -/
theorem Float.mul_le_mul_right_of_pos {x x' y : Float} (h : x ≤ x') (hy : y.isFinite = true)
    (hy0 : 0 < rankOf y) : x * y ≤ x' * y :=
  Float.map_le_map (f := (· * y)) (fun _ hx => Float.mul_isNaN_eq_false_of_ne_zero hx hy hy0.ne')
    (fun _ hx hxf => (Float.mul_of_not_isFinite hx hxf hy hy0).2)
    (fun _ _ hxf hxf' hle => Float.mul_le_mul_of_nonneg_right hle hxf hxf' hy hy0.le) h

/-- 正の有限数で割ることは、無限大も含めて NaN でない数の順序を保つ。 -/
theorem Float.div_le_div_right_of_pos {x x' y : Float} (h : x ≤ x') (hy : y.isFinite = true)
    (hy0 : 0 < rankOf y) : x / y ≤ x' / y :=
  Float.map_le_map (f := (· / y)) (fun _ hx => Float.div_isNaN_eq_false hx hy hy0.ne')
    (fun _ hx hxf => (Float.div_of_not_isFinite hx hxf hy hy0).2)
    (fun _ _ hxf hxf' hle => Float.div_le_div_of_pos_right hle hxf hxf' hy hy0) h

/-! ## 割り算の大きさ -/

theorem roundRankQuot_neg (S : ℤ) (B : Nat) : roundRankQuot (-S) B = -roundRankQuot S B := by
  rcases lt_trichotomy S 0 with h | rfl | h
  · rw [roundRankQuot, roundRankQuot, if_pos (by omega), if_neg (by omega), Int.neg_neg]
  · rw [Int.neg_zero, roundRankQuot_zero, Int.neg_zero]
  · rw [roundRankQuot, roundRankQuot, if_neg (by omega), if_pos (by omega), Int.neg_neg]

theorem roundRankQuot_nonneg {S : ℤ} {B : Nat} (hB : 0 < B) (hS : 0 ≤ S) : 0 ≤ roundRankQuot S B := by
  have := roundRankQuot_mono hB hS
  rwa [roundRankQuot_zero] at this

/-- 大きい数で割るほど、丸めた商の絶対値は小さい。 -/
theorem roundRankQuot_abs_le {S : ℤ} {B B' : Nat} (hB : 0 < B) (h : B ≤ B') :
    |roundRankQuot S B'| ≤ |roundRankQuot S B| := by
  have hB' : 0 < B' := by omega
  rcases le_total 0 S with hS | hS
  · rw [abs_of_nonneg (roundRankQuot_nonneg hB' hS), abs_of_nonneg (roundRankQuot_nonneg hB hS)]
    exact roundRankQuot_anti hS hB h
  · obtain ⟨T, rfl⟩ : ∃ T, S = -T := ⟨-S, by omega⟩
    have hT : 0 ≤ T := by omega
    rw [roundRankQuot_neg, roundRankQuot_neg, abs_neg, abs_neg,
      abs_of_nonneg (roundRankQuot_nonneg hB' hT), abs_of_nonneg (roundRankQuot_nonneg hB hT)]
    exact roundRankQuot_anti hT hB h

/-- 有限数を 1 以上の有限数で割った商は有限。 -/
theorem Float.isFinite_div_of_one_le {x y : Float} (hx : x.isFinite = true) (hy : y.isFinite = true)
    (hy1 : 1.0 ≤ y) : (x / y).isFinite = true := by
  have hr := (Float.rankOf_of_one_le hy1).2
  have hK : (0 : ℤ) < ((2 ^ 1074 : Nat) : ℤ) := by positivity
  have hn := Float.div_isNaN_eq_false (Float.isNaN_eq_false_of_isFinite hx) hy (by omega)
  have habs : |rankOf (x / y)| ≤ |rankOf x| := by
    rw [Float.rankOf_div hx hy (by omega)]
    calc |roundRankQuot (rankOf x * 2 ^ 1074) (rankOf y).toNat|
        ≤ |roundRankQuot (rankOf x * 2 ^ 1074) (2 ^ 1074)| :=
          roundRankQuot_abs_le (by positivity) (by omega)
      _ = |rankOf x| := by
          rw [show (2 : ℤ) ^ 1074 = ((2 ^ 1074 : Nat) : ℤ) by rw [Nat.cast_pow, Nat.cast_ofNat],
            roundRankQuot_mul_self _ (by positivity), Float.roundRank_rankOf]
  have hq := abs_lt.mp (habs.trans_lt (abs_lt.mpr (Float.rankOf_finite_bounds hx)))
  have hI := overflow_lt_infRank
  exact Float.isFinite_of_rankOf_lt hn (by omega) (by omega)

theorem roundQuot_pos {A B : Nat} (hB : 0 < B) (h : B ≤ A) : 0 < roundQuot A B := by
  have hle := roundQuot_mono (A := B) (B := B) hB hB (Nat.mul_le_mul_right B h)
  have hBB : roundQuot B B = roundQuot 1 1 :=
    roundQuot_congr hB Nat.one_pos (by rw [Nat.mul_one, Nat.one_mul])
  rw [hBB, roundQuot_one, roundUnits_of_lt (by norm_num)] at hle
  omega

/-- 割る数以上の正の数の商を丸めた位置は正。 -/
theorem roundRankQuot_pos {S : ℤ} {B : Nat} (hB : 0 < B) (h : (B : ℤ) ≤ S) : 0 < roundRankQuot S B := by
  have hq := roundQuot_pos hB (show B ≤ S.toNat by omega)
  rw [roundRankQuot, if_pos (by omega)]
  unfold saturate
  split_ifs
  · exact_mod_cast hq
  · exact infRank_pos

theorem two_pow_le_two_pow_mul_two_pow {a b c : Nat} (h : c ≤ a + b) : 2 ^ c ≤ 2 ^ a * 2 ^ b := by
  rw [← pow_add]
  exact Nat.pow_le_pow_right (by norm_num) h

/-- 1 以上の有限数を正の有限数で割った商は正（有限数の位置は `2^2098` より小さい）。 -/
theorem Float.rankOf_div_pos {x y : Float} (hx : x.isFinite = true) (hx1 : 1.0 ≤ x)
    (hy : y.isFinite = true) (hy0 : 0 < rankOf y) : 0 < rankOf (x / y) := by
  have hxr := (Float.rankOf_of_one_le hx1).2
  have hyb := (Float.rankOf_finite_bounds hy).2
  have hsq : ((2 ^ 2098 : Nat) : ℤ) ≤ ((2 ^ 1074 : Nat) : ℤ) * ((2 ^ 1074 : Nat) : ℤ) := by
    rw [← Nat.cast_mul]
    exact Int.ofNat_le.mpr (two_pow_le_two_pow_mul_two_pow (by norm_num))
  have hK : (0 : ℤ) ≤ ((2 ^ 1074 : Nat) : ℤ) := Int.natCast_nonneg _
  rw [Float.rankOf_div hx hy hy0,
    show (2 : ℤ) ^ 1074 = ((2 ^ 1074 : Nat) : ℤ) by rw [Nat.cast_pow, Nat.cast_ofNat]]
  apply roundRankQuot_pos (by omega)
  have := Int.mul_le_mul_of_nonneg_right hxr hK
  omega

end PlotGeometry
