import Mathlib
import PlotGeometry.Proofs.Float.Arith
/-!
# ゼロと、NaN にならない計算

丸めて詰めた結果が NaN になるのは、詰める前から NaN のときだけ：大きすぎる有限数は無限大に
詰まり、指数の欄がすべて 1 で仮数の欄が 0 でない形にはならない（`unpack_pack_ne_notANumber`）。
そこで NaN でない数から有限な数（ゼロか有限の値）を引いても NaN にならない。

ゼロ（符号は問わない）は、有限な数を掛けても、NaN でもゼロでもない数で割ってもゼロ。
-/

namespace PlotGeometry

open Float.Model Float.Model.UnpackedFloat

/-! ## 詰めても NaN にならない -/

/-- 指数の欄がすべて 1 でなければ、開いても NaN でない。 -/
theorem unpack_ne_notANumber_of_exponent {b : BitVec 64}
    (h : @unpackExponent .binary64 b ≠ -1#11) :
    UnpackedFloat.unpack .binary64 b ≠ .notANumber := by
  intro hb
  unfold UnpackedFloat.unpack at hb
  rw [if_neg h] at hb
  split at hb
  · split at hb <;> cases hb
  · cases hb

/-- NaN でない数は、詰めて開いても NaN でない。大きすぎる有限数は無限大に詰まる。 -/
theorem unpack_pack_ne_notANumber {w : UnpackedFloat} (hw : w ≠ .notANumber) :
    UnpackedFloat.unpack .binary64 (UnpackedFloat.pack .binary64 w) ≠ .notANumber := by
  cases w with
  | notANumber => exact absurd rfl hw
  | infinity s => rw [UnpackedFloat.pack, unpack_packedInfinity]; exact fun h => by cases h
  | zero s => rw [UnpackedFloat.pack, unpack_packedZero]; exact fun h => by cases h
  | finite s m e hm =>
    unfold UnpackedFloat.pack
    dsimp only
    split
    · rw [unpack_packedInfinity]; exact fun h => by cases h
    · rename_i hbig
      apply unpack_ne_notANumber_of_exponent
      split
      · rw [unpackExponent_packComponents]
        intro heq
        have := congrArg BitVec.toNat heq
        simp only [BitVec.toNat_ofNat] at this
        change _ % 2 ^ 11 = 2 ^ 11 - 1 at this
        change ¬2 ^ 11 ≤ _ + 1 at hbig
        omega
      · rw [unpackExponent_packComponents]
        decide

theorem UnpackedFloat.roundWithAccuracy_ne_notANumber (s : Sign) (M : Nat) (E : Int)
    (acc : Accuracy) : roundWithAccuracy .binary64 s M E acc ≠ .notANumber := by
  unfold roundWithAccuracy
  dsimp only
  split <;> exact fun h => by cases h

theorem UnpackedFloat.normalize_ne_notANumber (n E : Int) (s : Sign) :
    UnpackedFloat.normalize .binary64 n E s ≠ .notANumber := by
  unfold UnpackedFloat.normalize
  split
  · exact roundWithAccuracy_ne_notANumber _ _ _ _
  · exact fun h => by cases h
  · exact roundWithAccuracy_ne_notANumber _ _ _ _

/-- 詰める前が NaN でなければ、NaN でない。 -/
theorem Float.isNaN_ofModel_pack_eq_false {w : UnpackedFloat} (hw : w ≠ .notANumber) :
    (Float.ofModel (Float.Model.pack w)).isNaN = false := by
  cases h : (Float.ofModel (Float.Model.pack w)).isNaN
  · rfl
  · exact absurd ((Float.isNaN_eq_true_iff _).mp h) (unpack_pack_ne_notANumber hw)

/-! ## 有限な数を引く -/

theorem Float.isFinite_eq_unpack (x : Float) : x.isFinite = x.toModel.unpack.isFinite := rfl

/-- NaN でない数から有限な数を引いても、詰める前は NaN でない。 -/
theorem UnpackedFloat.sub_ne_notANumber {u v : UnpackedFloat} (hu : u ≠ .notANumber)
    (hv : v.isFinite = true) : UnpackedFloat.sub .binary64 u v ≠ .notANumber := by
  cases v with
  | notANumber => cases hv
  | infinity _ => cases hv
  | zero s' =>
    cases u with
    | notANumber => exact absurd rfl hu
    | zero s => simp only [UnpackedFloat.sub]; split <;> exact fun h => by cases h
    | infinity _ | finite _ _ _ _ => exact fun h => by cases h
  | finite s' m' e' hm' =>
    cases u with
    | notANumber => exact absurd rfl hu
    | infinity _ | zero _ => exact fun h => by cases h
    | finite s m e hm => exact normalize_ne_notANumber _ _ _

/-- NaN でない数から有限な数を引いても NaN にならない。 -/
theorem Float.sub_isNaN_eq_false {x y : Float} (hx : x.isNaN = false) (hy : y.isFinite = true) :
    (x - y).isNaN = false :=
  Float.isNaN_ofModel_pack_eq_false
    (UnpackedFloat.sub_ne_notANumber (unpack_ne_notANumber hx) hy)

/-! ## ゼロ -/

/-- 数がゼロ（符号は問わない）。 -/
def Float.IsZero (x : Float) : Prop := ∃ s, x.toModel.unpack = .zero s

theorem Float.isZero_natZero : Float.IsZero (0 : Nat).toFloat := ⟨.positive, rfl⟩

section
variable {x y z : Float}

theorem Float.IsZero.isFinite (hz : Float.IsZero z) : z.isFinite = true := by
  obtain ⟨s, hs⟩ := hz
  rw [Float.isFinite_eq_unpack, hs]
  rfl

theorem Float.IsZero.isNaN (hz : Float.IsZero z) : z.isNaN = false := by
  obtain ⟨s, hs⟩ := hz
  rw [Float.isNaN_eq_unpack, hs]
  rfl

theorem Float.IsZero.rankOf (hz : Float.IsZero z) : rankOf z = 0 := by
  obtain ⟨s, hs⟩ := hz
  unfold PlotGeometry.rankOf
  rw [hs]
  rfl

/-- ゼロは `0.0` より大きくない。 -/
theorem Float.IsZero.le_zero (hz : Float.IsZero z) : z ≤ 0.0 := by
  rw [Float.le_iff_rank hz.isNaN rfl, hz.rankOf]
  decide

/-- ゼロに有限な数を掛けてもゼロ。 -/
theorem Float.IsZero.mul (hz : Float.IsZero z) (hy : y.isFinite = true) : Float.IsZero (z * y) := by
  obtain ⟨s, hs⟩ := hz
  rw [Float.isFinite_eq_unpack] at hy
  show ∃ s', UnpackedFloat.unpack .binary64 (UnpackedFloat.pack .binary64
    (UnpackedFloat.mul .binary64 z.toModel.unpack y.toModel.unpack)) = .zero s'
  rw [hs]
  cases hv : y.toModel.unpack with
  | notANumber | infinity _ => rw [hv] at hy; cases hy
  | zero s' | finite s' _ _ _ => exact ⟨s * s', unpack_packedZero⟩

/-- ゼロとの積が NaN でなければ、掛けた数は有限（`0 × ∞` と `0 × NaN` は NaN）。 -/
theorem Float.IsZero.isFinite_of_mul (hz : Float.IsZero z) (h : (z * y).isNaN = false) :
    y.isFinite = true := by
  obtain ⟨s, hs⟩ := hz
  have hne := unpack_ne_notANumber h
  rw [Float.isFinite_eq_unpack]
  cases hv : y.toModel.unpack with
  | zero _ | finite _ _ _ _ => rfl
  | notANumber | infinity _ =>
    refine absurd ?_ hne
    show UnpackedFloat.unpack .binary64 (UnpackedFloat.pack .binary64
      (UnpackedFloat.mul .binary64 z.toModel.unpack y.toModel.unpack)) = .notANumber
    rw [hs, hv]
    exact unpack_pack_notANumber

/-- ゼロを、NaN でもゼロでもない数で割ってもゼロ（無限大で割っても）。 -/
theorem Float.IsZero.div (hz : Float.IsZero z) (hy : y.isNaN = false) (hy0 : ¬Float.IsZero y) :
    Float.IsZero (z / y) := by
  obtain ⟨s, hs⟩ := hz
  show ∃ s', UnpackedFloat.unpack .binary64 (UnpackedFloat.pack .binary64
    (UnpackedFloat.div .binary64 z.toModel.unpack y.toModel.unpack)) = .zero s'
  rw [hs]
  cases hv : y.toModel.unpack with
  | notANumber => exact absurd hv (unpack_ne_notANumber hy)
  | zero s' => exact absurd ⟨s', hv⟩ hy0
  | infinity s' | finite s' _ _ _ => exact ⟨s / s', unpack_packedZero⟩

end

end PlotGeometry
