import Mathlib
import PlotGeometry.Proofs.Float.Bounds
/-!
# 同じ値

`Float.SameValue x y` は、`x` と `y` が同じ実数（無限大を含む）か、どちらも NaN であること：
NaN かどうかと位置 `rankOf` が等しい。ゼロの符号は区別しない。`==` で等しいか、どちらも NaN
であることと同じ（`Float.sameValue_iff`）。

* 足し算と引き算はこの関係を保つ（`Float.SameValue.add`、`Float.SameValue.sub`）
* `x - y` は `x + -y` そのもの、`(-x) * y` は `-(x * y)` と同じ値
* 位置 0 の有限な数を足し引きしても同じ値（ゼロの符号だけが変わりうる）
* `clampUnit` の値は NaN でなければ `[-1, 1]` にあり、有限。`sinNum`、`cosNum` も同じ
-/

namespace PlotGeometry

open Float.Model Float.Model.UnpackedFloat

/-- 同じ実数（無限大を含む）か、どちらも NaN。ゼロの符号は区別しない。 -/
def Float.SameValue (x y : Float) : Prop := x.isNaN = y.isNaN ∧ rankOf x = rankOf y

namespace Float.SameValue

@[refl] theorem refl (x : Float) : Float.SameValue x x := ⟨rfl, rfl⟩

@[symm] theorem symm {x y : Float} (h : Float.SameValue x y) : Float.SameValue y x :=
  ⟨h.1.symm, h.2.symm⟩

@[trans] theorem trans {x y z : Float} (h₁ : Float.SameValue x y) (h₂ : Float.SameValue y z) :
    Float.SameValue x z :=
  ⟨h₁.1.trans h₂.1, h₁.2.trans h₂.2⟩

/-- どちらも NaN なら同じ値。 -/
theorem of_isNaN {x y : Float} (hx : x.isNaN = true) (hy : y.isNaN = true) : Float.SameValue x y :=
  ⟨hx.trans hy.symm, by rw [rankOf_of_isNaN hx, rankOf_of_isNaN hy]⟩

/-- `≤` の左辺は同じ値に取り替えられる（NaN なら両辺とも成り立たない）。 -/
theorem le_iff_left {x x' y : Float} (h : Float.SameValue x x') : x ≤ y ↔ x' ≤ y := by
  have key : ∀ {a b : Float}, Float.SameValue a b → a ≤ y → b ≤ y := by
    intro a b hab hle
    obtain ⟨ha, hy⟩ := Float.isNaN_eq_false_of_le hle
    have hb : b.isNaN = false := hab.1 ▸ ha
    rw [Float.le_iff_rank ha hy] at hle
    rw [Float.le_iff_rank hb hy, ← hab.2]
    exact hle
  exact ⟨key h, key h.symm⟩

end Float.SameValue

/-- 同じ値とは、`==` で等しいか、どちらも NaN であること。 -/
theorem Float.sameValue_iff {x y : Float} :
    Float.SameValue x y ↔ (x == y) = true ∨ (x.isNaN = true ∧ y.isNaN = true) := by
  constructor
  · rintro ⟨hn, hr⟩
    cases hx : x.isNaN
    · exact .inl ((Float.beq_iff_rank hx (hn.symm.trans hx)).mpr hr)
    · exact .inr ⟨rfl, hn.symm.trans hx⟩
  · rintro (h | ⟨hx, hy⟩)
    · obtain ⟨hx, hy⟩ := Float.isNaN_eq_false_of_beq h
      exact ⟨hx.trans hy.symm, (Float.beq_iff_rank hx hy).mp h⟩
    · exact Float.SameValue.of_isNaN hx hy

/-! ## NaN は伝わる -/

theorem Float.add_isNaN_of_left {x : Float} (y : Float) (hx : x.isNaN = true) :
    (x + y).isNaN = true := by
  cases h : (x + y).isNaN
  · exact absurd ((Float.isNaN_of_add h).1.symm.trans hx) Bool.false_ne_true
  · rfl

theorem Float.add_isNaN_of_right (x : Float) {y : Float} (hy : y.isNaN = true) :
    (x + y).isNaN = true := by
  cases h : (x + y).isNaN
  · exact absurd ((Float.isNaN_of_add h).2.symm.trans hy) Bool.false_ne_true
  · rfl

theorem Float.sub_isNaN_of_left {x : Float} (y : Float) (hx : x.isNaN = true) :
    (x - y).isNaN = true := by
  cases h : (x - y).isNaN
  · exact absurd ((Float.isNaN_of_sub h).1.symm.trans hx) Bool.false_ne_true
  · rfl

theorem Float.mul_isNaN_of_left {x : Float} (y : Float) (hx : x.isNaN = true) :
    (x * y).isNaN = true := by
  rw [Float.isNaN_eq_true_iff] at hx ⊢
  show UnpackedFloat.unpack .binary64 (UnpackedFloat.pack .binary64
    (UnpackedFloat.mul .binary64 x.toModel.unpack y.toModel.unpack)) = .notANumber
  rw [hx]
  exact unpack_pack_notANumber

/-! ## 符号を変える -/

theorem Float.unpack_neg (x : Float) : (-x).toModel.unpack = x.toModel.unpack.neg := by
  show UnpackedFloat.unpack .binary64 (UnpackedFloat.pack .binary64 x.toModel.unpack.neg) = _
  by_cases hn : x.toModel.unpack = .notANumber
  · rw [hn]
    exact unpack_pack_notANumber
  · exact unpack_pack_self (canonicalForm_neg (canonicalForm_toModel x))
      (UnpackedFloat.neg_ne_notANumber hn)

/-- 引き算は、符号を変えた数の足し算そのもの。 -/
theorem Float.sub_eq_add_neg (x y : Float) : x - y = x + -y := by
  show Float.ofModel (Float.Model.pack (UnpackedFloat.sub .binary64 x.toModel.unpack y.toModel.unpack)) =
    Float.ofModel (Float.Model.pack (UnpackedFloat.add .binary64 x.toModel.unpack (-y).toModel.unpack))
  rw [Float.unpack_neg, UnpackedFloat.sub_eq_add_neg]

theorem Float.isFinite_neg (x : Float) : (-x).isFinite = x.isFinite := by
  rw [Float.isFinite_eq_unpack, Float.isFinite_eq_unpack, Float.unpack_neg]
  cases x.toModel.unpack <;> rfl

theorem Sign.neg_mul_left (s t : Sign) : -s * t = -(s * t) := by
  cases s <;> cases t <;> rfl

/-- 丸めは符号によらない。 -/
theorem UnpackedFloat.roundWithAccuracy_neg (s : Sign) (M : Nat) (E : Int) (acc : Accuracy) :
    roundWithAccuracy .binary64 (-s) M E acc = (roundWithAccuracy .binary64 s M E acc).neg := by
  unfold roundWithAccuracy
  dsimp only
  split <;> rfl

theorem UnpackedFloat.mul_neg_left (u v : UnpackedFloat) :
    UnpackedFloat.mul .binary64 u.neg v = (UnpackedFloat.mul .binary64 u v).neg := by
  cases u <;> cases v <;>
    simp only [UnpackedFloat.mul, UnpackedFloat.neg, UnpackedFloat.roundWithAccuracy_neg,
      Sign.neg_mul_left]

theorem Float.neg_mul_eq_pack (x y : Float) :
    (-x) * y = Float.ofModel (Float.Model.pack
      (UnpackedFloat.mul .binary64 x.toModel.unpack y.toModel.unpack).neg) := by
  show Float.ofModel (Float.Model.pack
      (UnpackedFloat.mul .binary64 (-x).toModel.unpack y.toModel.unpack)) = _
  rw [Float.unpack_neg, UnpackedFloat.mul_neg_left]

theorem Float.neg_mul_isNaN (x y : Float) : ((-x) * y).isNaN = (x * y).isNaN := by
  rw [Float.neg_mul_eq_pack, Float.isNaN_ofModel_pack]
  show _ = (UnpackedFloat.unpack .binary64 (UnpackedFloat.pack .binary64
    (UnpackedFloat.mul .binary64 x.toModel.unpack y.toModel.unpack))).isNaN
  by_cases hM : UnpackedFloat.mul .binary64 x.toModel.unpack y.toModel.unpack = .notANumber
  · rw [hM]
    rfl
  · rw [← Float.isNaN_ofModel_pack, ← Float.isNaN_ofModel_pack,
      Float.isNaN_ofModel_pack_eq_false hM,
      Float.isNaN_ofModel_pack_eq_false (UnpackedFloat.neg_ne_notANumber hM)]

/-- 有限でない数を掛けた積は、NaN、無限大、ゼロのどれかで、正規形。 -/
theorem canonicalForm_mul_of_not_finite {u v : UnpackedFloat}
    (h : ¬(u.isFinite = true ∧ v.isFinite = true)) :
    CanonicalForm (UnpackedFloat.mul .binary64 u v) := by
  cases u <;> cases v <;> simp_all [UnpackedFloat.mul, UnpackedFloat.isFinite, CanonicalForm]

theorem Float.rankOf_neg_mul (x y : Float) : rankOf ((-x) * y) = -rankOf (x * y) := by
  by_cases hf : x.isFinite = true ∧ y.isFinite = true
  · obtain ⟨hx, hy⟩ := hf
    rw [Float.rankOf_mul (by rwa [Float.isFinite_neg]) hy, Float.rankOf_mul hx hy,
      Float.rankOf_neg, Int.neg_mul, roundRankQuot_neg]
  · rw [Float.isFinite_eq_unpack, Float.isFinite_eq_unpack] at hf
    have hc := canonicalForm_mul_of_not_finite hf
    rw [Float.neg_mul_eq_pack, Float.rankOf_ofModel_pack]
    show _ = -valueRank (UnpackedFloat.unpack .binary64 (UnpackedFloat.pack .binary64
      (UnpackedFloat.mul .binary64 x.toModel.unpack y.toModel.unpack)))
    by_cases hM : UnpackedFloat.mul .binary64 x.toModel.unpack y.toModel.unpack = .notANumber
    · rw [hM, show UnpackedFloat.neg .notANumber = .notANumber from rfl, unpack_pack_notANumber]
      rfl
    · rw [unpack_pack_self hc hM, unpack_pack_self (canonicalForm_neg hc)
        (UnpackedFloat.neg_ne_notANumber hM), valueRank_neg]

/-- `(-x) * y` は `-(x * y)` と同じ値。 -/
theorem Float.sameValue_neg_mul (x y : Float) : Float.SameValue ((-x) * y) (-(x * y)) :=
  ⟨by rw [Float.neg_mul_isNaN, Float.isNaN_neg], by rw [Float.rankOf_neg_mul, Float.rankOf_neg]⟩

/-! ## 足し算と引き算は同じ値を保つ -/

namespace Float.SameValue

theorem neg {x x' : Float} (h : Float.SameValue x x') : Float.SameValue (-x) (-x') :=
  ⟨by rw [Float.isNaN_neg, Float.isNaN_neg, h.1], by rw [Float.rankOf_neg, Float.rankOf_neg, h.2]⟩

theorem add {x x' y y' : Float} (hx : Float.SameValue x x') (hy : Float.SameValue y y') :
    Float.SameValue (x + y) (x' + y') := by
  have hnan : (x + y).isNaN = (x' + y').isNaN := by
    cases hxn : x.isNaN
    · cases hyn : y.isNaN
      · rw [Bool.eq_iff_iff, Float.add_isNaN_iff hxn hyn,
          Float.add_isNaN_iff (hx.1.symm.trans hxn) (hy.1.symm.trans hyn), hx.2, hy.2]
      · rw [Float.add_isNaN_of_right x hyn, Float.add_isNaN_of_right x' (hy.1.symm.trans hyn)]
    · rw [Float.add_isNaN_of_left y hxn, Float.add_isNaN_of_left y' (hx.1.symm.trans hxn)]
  refine ⟨hnan, ?_⟩
  cases h : (x + y).isNaN
  · rw [Float.rankOf_add h, Float.rankOf_add (hnan.symm.trans h), hx.2, hy.2]
  · rw [rankOf_of_isNaN h, rankOf_of_isNaN (hnan.symm.trans h)]

theorem sub {x x' y y' : Float} (hx : Float.SameValue x x') (hy : Float.SameValue y y') :
    Float.SameValue (x - y) (x' - y') := by
  rw [Float.sub_eq_add_neg, Float.sub_eq_add_neg]
  exact hx.add hy.neg

end Float.SameValue

/-- `p + (-h) * c` は `p - h * c` と同じ値。 -/
theorem Float.sameValue_add_neg_mul (p h c : Float) :
    Float.SameValue (p + -h * c) (p - h * c) := by
  rw [Float.sub_eq_add_neg]
  exact (Float.SameValue.refl p).add (Float.sameValue_neg_mul h c)

/-! ## 位置 0 の数を足し引きする -/

/-- 位置 0 の有限な数を足しても同じ値。 -/
theorem Float.sameValue_add_of_rankOf_eq_zero (x : Float) {z : Float} (hz : z.isFinite = true)
    (hz0 : rankOf z = 0) : Float.SameValue (x + z) x := by
  cases hx : x.isNaN
  · have hzn := Float.isNaN_eq_false_of_isFinite hz
    have hI := infRank_pos
    have h : (x + z).isNaN = false := by
      cases h : (x + z).isNaN
      · rfl
      · rcases (Float.add_isNaN_iff hx hzn).mp h with ⟨-, h'⟩ | ⟨-, h'⟩ <;> omega
    refine ⟨h.trans hx.symm, ?_⟩
    rw [Float.rankOf_add h, hz0, Int.add_zero, Float.roundRank_rankOf]
  · exact Float.SameValue.of_isNaN (Float.add_isNaN_of_left z hx) hx

/-- 位置 0 の有限な数を引いても同じ値。 -/
theorem Float.sameValue_sub_of_rankOf_eq_zero (x : Float) {z : Float} (hz : z.isFinite = true)
    (hz0 : rankOf z = 0) : Float.SameValue (x - z) x := by
  rw [Float.sub_eq_add_neg]
  exact Float.sameValue_add_of_rankOf_eq_zero x (by rwa [Float.isFinite_neg])
    (by rw [Float.rankOf_neg, hz0, Int.neg_zero])

/-- `0.0` に足しても同じ値。 -/
theorem Float.sameValue_zero_add (x : Float) : Float.SameValue (0.0 + x) x := by
  cases hx : x.isNaN
  · have hI := infRank_pos
    have h0 : (0.0 : Float).isNaN = false := by decide
    have h : (0.0 + x).isNaN = false := by
      cases h : (0.0 + x).isNaN
      · rfl
      · rcases (Float.add_isNaN_iff h0 hx).mp h with ⟨h', -⟩ | ⟨h', -⟩ <;> rw [rankOf_zero] at h' <;>
          omega
    refine ⟨h.trans hx.symm, ?_⟩
    rw [Float.rankOf_add h, rankOf_zero, Int.zero_add, Float.roundRank_rankOf]
  · exact Float.SameValue.of_isNaN (Float.add_isNaN_of_right 0.0 hx) hx

/-- 有限な数に `0.0` を掛けると、位置 0 の有限な数。 -/
theorem Float.zero_mul_of_isFinite {s : Float} (hs : s.isFinite = true) :
    (0.0 * s).isFinite = true ∧ rankOf (0.0 * s) = 0 := by
  have h0 : (0.0 : Float).isFinite = true := by decide
  have hr : rankOf (0.0 * s) = 0 := by
    rw [Float.rankOf_mul h0 hs, rankOf_zero, Int.zero_mul, roundRankQuot_zero]
  have hI := infRank_pos
  exact ⟨Float.isFinite_of_rankOf_lt (Float.mul_isNaN_eq_false h0 hs) (by omega) (by omega), hr⟩

/-! ## `[-1, 1]` に収めた数 -/

theorem rankOf_neg_one : rankOf (-1.0) = -((2 ^ 1074 : Nat) : ℤ) := by
  rw [Float.rankOf_neg, rankOf_one]

/-- NaN でない数を収めると `[-1, 1]` に入る。 -/
theorem clampUnit_mem {x : Float} (hx : x.isNaN = false) :
    -1.0 ≤ clampUnit x ∧ clampUnit x ≤ 1.0 := by
  have h1 : (1.0 : Float).isNaN = false := by decide
  have hm := minNum_le_left x h1
  have hlo := le_maxNum_left (minNum 1.0 x) (show (-1.0 : Float).isNaN = false by decide)
  simp only [clampUnit, hx, Bool.false_eq_true, if_false]
  refine ⟨hlo, ?_⟩
  rcases maxNum_eq_or (-1.0) (minNum 1.0 x) with h | h <;> rw [h]
  · decide
  · exact hm

theorem clampUnit_isNaN (x : Float) : (clampUnit x).isNaN = x.isNaN := by
  cases hx : x.isNaN
  · exact (Float.isNaN_eq_false_of_le (clampUnit_mem hx).1).2
  · rw [clampUnit, if_pos hx, hx]

/-- 収めた数は、NaN でなければ有限。 -/
theorem clampUnit_isFinite {x : Float} (hx : x.isNaN = false) : (clampUnit x).isFinite = true := by
  obtain ⟨hlo, hhi⟩ := clampUnit_mem hx
  have hn : (clampUnit x).isNaN = false := (clampUnit_isNaN x).trans hx
  have hlo' := (Float.le_iff_rank (by decide) hn).mp hlo
  have hhi' := (Float.le_iff_rank hn (by decide)).mp hhi
  rw [rankOf_neg_one] at hlo'
  rw [rankOf_one] at hhi'
  have hI := overflow_lt_infRank
  have hb : ((2 ^ 1074 : Nat) : ℤ) < ((2 ^ 2098 : Nat) : ℤ) := by
    exact_mod_cast Nat.pow_lt_pow_right (by norm_num) (by norm_num)
  exact Float.isFinite_of_rankOf_lt hn (by omega) (by omega)

theorem sinNum_isFinite {x : Float} (h : (sinNum x).isNaN = false) : (sinNum x).isFinite = true :=
  clampUnit_isFinite ((clampUnit_isNaN _).symm.trans h)

theorem cosNum_isFinite {x : Float} (h : (cosNum x).isNaN = false) : (cosNum x).isFinite = true :=
  clampUnit_isFinite ((clampUnit_isNaN _).symm.trans h)

end PlotGeometry
