import Mathlib
import PlotGeometry.Proofs.Float.Arith
import PlotGeometry.Numeric.Log
/-!
# 0 と 1、対数と床の符号

`0.0 ≤ x`、`1.0 ≤ x` は位置の不等式に読み替えられる。`lnNum` は 1 以上の数を負にしない。精度を倍にする繰り返し `refineRounding` はどの段で
止まっても、ある精度での下限を丸めた数を返し、`x = m × 2^e ≥ 1` なら `e + ⌊log₂ m⌋ ≥ 0`
なので下限の式は負でない。`floorNum` は負でない数を負にしない。
-/

namespace PlotGeometry

open Float.Model Float.Model.UnpackedFloat

/-! ## 0 と 1 -/

theorem rankOf_zero : rankOf 0.0 = 0 := by
  decide

/-- 0 以上の数は NaN でなく、位置は負でない。 -/
theorem Float.rankOf_of_zero_le {x : Float} (h : 0.0 ≤ x) : x.isNaN = false ∧ 0 ≤ rankOf x := by
  obtain ⟨hzero, hx⟩ := Float.isNaN_eq_false_of_le h
  rw [Float.le_iff_rank hzero hx, rankOf_zero] at h
  exact ⟨hx, h⟩

theorem unpack_one :
    (1.0 : Float).toModel.unpack = .finite .positive (2 ^ 52) (-52) (by positivity) := by
  rfl

theorem rankOf_one : rankOf 1.0 = ((2 ^ 1074 : Nat) : ℤ) := by
  rw [rankOf, unpack_one]
  show ((2 ^ 52 * 2 ^ (-52 + 1074 : ℤ).toNat : Nat) : ℤ) = _
  rw [← pow_add, show 52 + (-52 + 1074 : ℤ).toNat = 1074 from rfl]

/-- 1 以上の数は NaN でなく、位置は `2^1074` 以上。 -/
theorem Float.rankOf_of_one_le {x : Float} (h : 1.0 ≤ x) :
    x.isNaN = false ∧ ((2 ^ 1074 : Nat) : ℤ) ≤ rankOf x := by
  obtain ⟨hone, hx⟩ := Float.isNaN_eq_false_of_le h
  rw [Float.le_iff_rank hone hx, rankOf_one] at h
  exact ⟨hx, h⟩

/-! ## 自然対数 -/

theorem roundDyadic_nonneg {n : ℤ} (hn : 0 ≤ n) (P : Nat) : 0 ≤ rankOf (roundDyadic n P) :=
  valueRank_nonneg_of_nonnegSign (nonnegSign_unpack_pack (nonnegSign_normalize hn _))

/-- 精度を上げる繰り返しは、`P` を `i` 回（回数以下）倍にした精度の下限を丸めた数を返す。 -/
theorem refineRounding_eq (bounds : Nat → Int × Int) (fuel P : Nat) :
    ∃ i ≤ fuel, refineRounding bounds fuel P = roundDyadic (bounds (2 ^ i * P)).1 (2 ^ i * P) := by
  induction fuel generalizing P with
  | zero => exact ⟨0, le_rfl, by simp [refineRounding]⟩
  | succ fuel ih =>
    simp only [refineRounding]
    split
    · exact ⟨0, Nat.zero_le _, by simp⟩
    · obtain ⟨i, hi, h⟩ := ih (2 * P)
      refine ⟨i + 1, by omega, ?_⟩
      rw [h, pow_succ, Nat.mul_assoc]

/-- 1 以上の数 `m × 2^e` の対数の下限は負でない。 -/
theorem lnBounds_fst_nonneg (P m : Nat) {e : Int} (h : 0 ≤ e + m.log2) :
    0 ≤ (lnBounds P m e).1 := by
  unfold lnBounds
  dsimp only
  rw [if_pos h]
  positivity

/-- 大きさが `2^1074`（つまり 1）以上なら、最上位の桁の指数は負でない。 -/
theorem exponent_nonneg_of_one_le {m : Nat} {e : Int} (he : -1074 ≤ e)
    (h : 2 ^ 1074 ≤ units m e) : 0 ≤ e + m.log2 := by
  have hlt : units m e < 2 ^ (m.log2 + 1 + (e + 1074).toNat) := by
    unfold units
    rw [pow_add]
    exact Nat.mul_lt_mul_of_pos_right Nat.lt_log2_self (Nat.two_pow_pos _)
  have hk : 1074 < m.log2 + 1 + (e + 1074).toNat :=
    (pow_lt_pow_iff_right₀ (by norm_num)).mp (lt_of_le_of_lt h hlt)
  omega

/-- 1 以上の数の自然対数は負でない。 -/
theorem lnNum_nonneg {x : Float} (h : 1.0 ≤ x) : 0 ≤ rankOf (lnNum x) := by
  obtain ⟨hx, hrank⟩ := Float.rankOf_of_one_le h
  have hpos : (0 : ℤ) < ((2 ^ 1074 : Nat) : ℤ) := by positivity
  have hc := canonicalForm_toModel x
  unfold lnNum
  unfold rankOf at hrank
  cases hu : x.toModel.unpack with
  | notANumber => exact absurd hu (unpack_ne_notANumber hx)
  | zero s =>
    rw [hu] at hrank
    exact absurd hrank (by simp only [valueRank]; omega)
  | infinity s =>
    have hI := infRank_pos
    rw [hu] at hrank
    cases s
    · exact absurd hrank (by simp only [valueRank, Sign.apply]; omega)
    · simp only [rankOf, hu, valueRank, Sign.apply]
      omega
  | finite s m e hm =>
    rw [hu] at hrank hc
    have hU := units_pos m e hm
    cases s
    · exact absurd hrank (by simp only [valueRank, Sign.apply]; omega)
    · have he : -1074 ≤ e := by rcases hc with hc | hc <;> omega
      have hge : ((2 ^ 1074 : Nat) : ℤ) ≤ (units m e : ℤ) := hrank
      have hE := exponent_nonneg_of_one_le he (Int.ofNat_le.mp hge)
      obtain ⟨i, -, hQ⟩ := refineRounding_eq (fun P => lnBounds P m e) 4 128
      show 0 ≤ rankOf (refineRounding (fun P => lnBounds P m e) 4 128)
      rw [hQ]
      exact roundDyadic_nonneg (lnBounds_fst_nonneg _ m hE) _

/-! ## 床 -/

/-- 負でない数の床は負でない。 -/
theorem floorNum_nonneg {x : Float} (h : 0 ≤ rankOf x) : 0 ≤ rankOf (floorNum x) := by
  unfold floorNum toIntegral
  have hsign := nonnegSign_of_valueRank_nonneg h
  cases hu : x.toModel.unpack with
  | finite s m e hm =>
    rw [hu] at hsign
    cases hsign
    dsimp only
    split
    · exact h
    · exact Float.rankOf_ofNat_nonneg _
  | _ => exact h

end PlotGeometry
