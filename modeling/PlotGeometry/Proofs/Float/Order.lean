import Mathlib
import PlotGeometry.Numeric.Float
/-!
# 倍精度数の比較

`Float` の比較（`<`、`≤`、`==`）は、ビット列を `UnpackedFloat` に開いて `compare` で決まる。
ここでは NaN を含む比較の基本的な性質を、その `compare` から示す。

* `Float.lt_irrefl` — どの数も自分より小さくない（NaN も）
* `Float.isNaN_eq_false_of_lt` — `<` が成り立てば両辺とも NaN でない
* `Float.beq_self` — NaN でない数は自分と `==`
* `maxNum_maxNum_self`、`minNum_minNum_self` — 同じ相手との `maxNum`、`minNum` は二度しても同じ
-/

namespace PlotGeometry

open Float.Model

/-! ## `compare` への書き換え -/

theorem Float.lt_iff_compare {x y : Float} :
    x < y ↔ x.toModel.unpack.compare y.toModel.unpack = some .lt := by
  show decide (x.toModel.lt y.toModel = true) = true ↔ _
  simp [Float.Model.lt, UnpackedFloat.lt]

theorem Float.le_iff_compare {x y : Float} :
    x ≤ y ↔ (x.toModel.unpack.compare y.toModel.unpack).any (·.isLE) = true := by
  show decide (x.toModel.le y.toModel = true) = true ↔ _
  exact decide_eq_true_iff

theorem Float.beq_eq_compare (x y : Float) :
    (x == y) = (x.toModel.unpack.compare y.toModel.unpack == some .eq) := rfl

theorem Float.isNaN_eq_unpack (x : Float) : x.isNaN = x.toModel.unpack.isNaN := rfl

/-! ## 開いた数の `compare` -/

theorem UnpackedFloat.compare_self {u : UnpackedFloat} (h : u.isNaN = false) :
    u.compare u = some .eq := by
  cases u with
  | notANumber => simp [UnpackedFloat.isNaN] at h
  | infinity s => cases s <;> rfl
  | zero s => cases s <;> rfl
  | finite s m e hm => cases s <;> simp [UnpackedFloat.compare, Ordering.then]

theorem UnpackedFloat.compare_notANumber_left (u : UnpackedFloat) :
    UnpackedFloat.notANumber.compare u = none := by
  cases u <;> rfl

theorem UnpackedFloat.compare_notANumber_right (u : UnpackedFloat) :
    u.compare .notANumber = none := by
  cases u <;> rfl

/-- 片方が NaN なら比べられない。 -/
theorem UnpackedFloat.isNaN_eq_false_of_compare {u v : UnpackedFloat} {o : Ordering}
    (h : u.compare v = some o) : u.isNaN = false ∧ v.isNaN = false := by
  cases u <;> cases v <;>
    simp_all [UnpackedFloat.isNaN, compare_notANumber_left, compare_notANumber_right]

/-! ## `Float` の比較 -/

theorem Float.lt_irrefl (x : Float) : ¬x < x := by
  rw [Float.lt_iff_compare]
  intro h
  rw [UnpackedFloat.compare_self (UnpackedFloat.isNaN_eq_false_of_compare h).1] at h
  cases h

theorem Float.isNaN_eq_false_of_lt {x y : Float} (h : x < y) :
    x.isNaN = false ∧ y.isNaN = false :=
  UnpackedFloat.isNaN_eq_false_of_compare (Float.lt_iff_compare.mp h)

theorem Float.isNaN_eq_false_of_le {x y : Float} (h : x ≤ y) :
    x.isNaN = false ∧ y.isNaN = false := by
  rw [Float.le_iff_compare] at h
  cases hc : x.toModel.unpack.compare y.toModel.unpack with
  | none =>
    rw [hc] at h
    cases h
  | some o => exact UnpackedFloat.isNaN_eq_false_of_compare hc

/-- `==` で等しい数はどちらも NaN でない。 -/
theorem Float.isNaN_eq_false_of_beq {x y : Float} (h : (x == y) = true) :
    x.isNaN = false ∧ y.isNaN = false := by
  rw [Float.beq_eq_compare] at h
  cases hc : x.toModel.unpack.compare y.toModel.unpack with
  | none =>
    rw [hc] at h
    cases h
  | some o => exact UnpackedFloat.isNaN_eq_false_of_compare hc

/-- NaN でない数は自分と `==` で等しい。 -/
theorem Float.beq_self {x : Float} (h : x.isNaN = false) : (x == x) = true := by
  rw [Float.beq_eq_compare, UnpackedFloat.compare_self h]
  rfl

/-! ## `maxNum` と `minNum` -/

/-- 同じ相手との `maxNum` は一度で決まる。相手が NaN なら何もせず、そうでなければ結果は
NaN でなく、相手より小さくない。 -/
theorem maxNum_maxNum_self (x k : Float) : maxNum (maxNum x k) k = maxNum x k := by
  unfold maxNum
  cases hk : k.isNaN
  · cases hx : x.isNaN
    · by_cases hlt : k < x
      · simp only [hx, hlt, Bool.false_eq_true, if_false, if_true]
      · simp only [hk, hlt, Float.lt_irrefl, Bool.false_eq_true, if_false]
    · simp only [hk, Float.lt_irrefl, Bool.false_eq_true, if_false, if_true]
  · simp only [if_true]

theorem minNum_minNum_self (x k : Float) : minNum (minNum x k) k = minNum x k := by
  unfold minNum
  cases hk : k.isNaN
  · cases hx : x.isNaN
    · by_cases hlt : x < k
      · simp only [hx, hlt, Bool.false_eq_true, if_false, if_true]
      · simp only [hk, hlt, Float.lt_irrefl, Bool.false_eq_true, if_false]
    · simp only [hk, Float.lt_irrefl, Bool.false_eq_true, if_false, if_true]
  · simp only [if_true]

end PlotGeometry
