import Mathlib
import PlotGeometry.Proofs.Float.Canonical
/-!
# 倍精度数の値の順序

正規形の有限数 `m × 2^e` の大きさは、最小の非正規数 `2^-1074` を単位にすると自然数
`units m e = m × 2^(e + 1074)` になる。符号を付け、無限大を両端の `±infRank` に置いた整数
`valueRank` で、`compare` は整数の比較そのものになる（`compare_eq_some_iff`）。

NaN でない `Float` の `<`、`≤`、`==` は `Float.rank` の整数の比較に読み替えられるので、
推移律や `maxNum` の性質は整数の順序から出る。

* `Float.lt_iff_rank`、`Float.le_iff_rank`、`Float.beq_iff_rank`
* `Float.le_trans`、`Float.le_of_not_lt`
* `le_maxNum_left`、`minNum_le_left`
-/

namespace PlotGeometry

open Float.Model Float.Model.UnpackedFloat

/-! ## 大きさ -/

/-- 正規形の有限数 `m × 2^e` の大きさ（`2^-1074` 単位）。 -/
def units (m : Nat) (e : Int) : Nat := m * 2 ^ (e + 1074).toNat

theorem units_pos (m : Nat) (e : Int) (hm : 0 < m) : 0 < units m e :=
  Nat.mul_pos hm (Nat.two_pow_pos _)

theorem units_lt_of_exponent_lt {m m' : Nat} {e e' : Int} (h : Canonical m e)
    (h' : Canonical m' e') (he : e < e') : units m e < units m' e' := by
  unfold units
  have hm : m < 2 ^ 53 := by rcases h with h | h <;> omega
  have hm' : 2 ^ 52 ≤ m' := by rcases h with h | h <;> rcases h' with h' | h' <;> omega
  have hk : (e + 1074).toNat + 1 ≤ (e' + 1074).toNat := by rcases h with h | h <;> omega
  calc m * 2 ^ (e + 1074).toNat < 2 ^ 53 * 2 ^ (e + 1074).toNat :=
        Nat.mul_lt_mul_of_pos_right hm (Nat.two_pow_pos _)
    _ = 2 ^ 52 * 2 ^ ((e + 1074).toNat + 1) := by rw [pow_succ]; ring
    _ ≤ m' * 2 ^ (e' + 1074).toNat :=
        Nat.mul_le_mul hm' (Nat.pow_le_pow_right (by norm_num) hk)

/-- 正規形どうしでは、指数、仮数の順の辞書式の比較は大きさの比較。 -/
theorem compare_lex_eq_units {m m' : Nat} {e e' : Int} (h : Canonical m e)
    (h' : Canonical m' e') :
    (compare e e').then (compare m m') = compare (units m e) (units m' e') := by
  rcases lt_trichotomy e e' with he | rfl | he
  · rw [Int.compare_eq_lt.mpr he, Ordering.lt_then,
      Nat.compare_eq_lt.mpr (units_lt_of_exponent_lt h h' he)]
  · rw [Int.compare_eq_eq.mpr rfl, Ordering.eq_then]
    unfold units
    rcases Nat.lt_trichotomy m m' with hm | rfl | hm
    · rw [Nat.compare_eq_lt.mpr hm,
        Nat.compare_eq_lt.mpr (Nat.mul_lt_mul_of_pos_right hm (Nat.two_pow_pos _))]
    · simp
    · rw [Nat.compare_eq_gt.mpr hm,
        Nat.compare_eq_gt.mpr (Nat.mul_lt_mul_of_pos_right hm (Nat.two_pow_pos _))]
  · rw [Int.compare_eq_gt.mpr he, Ordering.gt_then,
      Nat.compare_eq_gt.mpr (units_lt_of_exponent_lt h' h he)]

/-! ## 値の順序での位置 -/

/-- 無限大の位置。正規形の有限数の大きさ（`2^2098` 未満）より大きい。 -/
def infRank : ℤ := 2 ^ 2100

theorem infRank_pos : 0 < infRank := by
  unfold infRank
  positivity

/-- 正規形の有限数の大きさは `2^2098` 未満。 -/
theorem units_lt_overflow {m : Nat} {e : Int} (h : Canonical m e) : units m e < 2 ^ 2098 := by
  have hm : m < 2 ^ 53 := by rcases h with h | h <;> omega
  have hk : (e + 1074).toNat ≤ 2045 := by rcases h with h | h <;> omega
  calc units m e < 2 ^ 53 * 2 ^ (e + 1074).toNat :=
        Nat.mul_lt_mul_of_pos_right hm (Nat.two_pow_pos _)
    _ ≤ 2 ^ 53 * 2 ^ 2045 := Nat.mul_le_mul_left _ (Nat.pow_le_pow_right (by norm_num) hk)
    _ = 2 ^ 2098 := by simp only [← pow_add]

theorem overflow_lt_infRank : ((2 ^ 2098 : Nat) : ℤ) < infRank := by
  unfold infRank
  rw [Nat.cast_pow, Nat.cast_ofNat]
  exact pow_lt_pow_right₀ (by norm_num) (by norm_num)

/-- `1.0` の位置 `2^1074`：位置の単位は最小の非正規数 `2^-1074`。 -/
def unitRank : ℤ := 2 ^ 1074

/-- 正規形の有限数の大きさが届かない位置 `2^2098`。丸めた大きさがここに届けば無限大。 -/
def overflowRank : ℤ := 2 ^ 2098

theorem unitRank_eq : unitRank = 2 ^ 1074 := rfl

theorem unitRank_eq_cast : unitRank = ((2 ^ 1074 : Nat) : ℤ) := by
  rw [unitRank, Nat.cast_pow, Nat.cast_ofNat]

theorem overflowRank_eq_cast : overflowRank = ((2 ^ 2098 : Nat) : ℤ) := by
  rw [overflowRank, Nat.cast_pow, Nat.cast_ofNat]

theorem overflowRank_lt_infRank : overflowRank < infRank :=
  overflowRank_eq_cast ▸ overflow_lt_infRank

theorem units_lt_infRank {m : Nat} {e : Int} (h : Canonical m e) : (units m e : ℤ) < infRank := by
  have hlt : (units m e : ℤ) < ((2 ^ 2098 : Nat) : ℤ) := by exact_mod_cast units_lt_overflow h
  exact hlt.trans overflow_lt_infRank

/-- 値の順序での位置：`2^-1074` 単位の符号付きの大きさ、無限大は `±infRank`。NaN には使わない。 -/
def valueRank : UnpackedFloat → ℤ
  | .infinity s => s.apply infRank
  | .notANumber => 0
  | .zero _ => 0
  | .finite s m e _ => s.apply (units m e)

/-- 正規形の NaN でない数どうしの `compare` は、位置の比較。 -/
theorem compare_eq_some_iff {u v : UnpackedFloat} (hu : CanonicalForm u) (hv : CanonicalForm v)
    (hnu : u ≠ .notANumber) (hnv : v ≠ .notANumber) (o : Ordering) :
    u.compare v = some o ↔ compare (valueRank u) (valueRank v) = o := by
  have hpos := infRank_pos
  -- 構成子と符号と `o` で場合を分け、残りは整数の不等式
  cases u with
  | notANumber => exact absurd rfl hnu
  | infinity s =>
    cases v with
    | notANumber => exact absurd rfl hnv
    | infinity s' =>
      have c1 : compare Sign.negative Sign.positive = .lt := rfl
      have c2 : compare Sign.positive Sign.negative = .gt := rfl
      have c3 : compare Sign.negative Sign.negative = .eq := rfl
      have c4 : compare Sign.positive Sign.positive = .eq := rfl
      cases s <;> cases s' <;> cases o <;>
        simp [UnpackedFloat.compare, valueRank, Sign.apply, Int.compare_eq_lt, Int.compare_eq_gt,
          c1, c2, c3, c4] <;> omega
    | zero s' =>
      cases s <;> cases s' <;> cases o <;>
        simp [UnpackedFloat.compare, valueRank, Sign.apply, Int.compare_eq_lt, Int.compare_eq_gt] <;>
        omega
    | finite s' m e hm =>
      have hI := units_lt_infRank hv
      cases s <;> cases s' <;> cases o <;>
        simp [UnpackedFloat.compare, valueRank, Sign.apply, Int.compare_eq_lt, Int.compare_eq_gt] <;>
        omega
  | zero s =>
    cases v with
    | notANumber => exact absurd rfl hnv
    | infinity s' =>
      cases s <;> cases s' <;> cases o <;>
        simp [UnpackedFloat.compare, valueRank, Sign.apply, Int.compare_eq_lt, Int.compare_eq_gt] <;>
        omega
    | zero s' => cases s <;> cases s' <;> cases o <;> simp [UnpackedFloat.compare, valueRank]
    | finite s' m e hm =>
      have hU := units_pos m e hm
      cases s <;> cases s' <;> cases o <;>
        simp [UnpackedFloat.compare, valueRank, Sign.apply, Int.compare_eq_lt, Int.compare_eq_gt] <;>
        omega
  | finite s m e hm =>
    have hU := units_pos m e hm
    have hI := units_lt_infRank hu
    cases v with
    | notANumber => exact absurd rfl hnv
    | infinity s' =>
      cases s <;> cases s' <;> cases o <;>
        simp [UnpackedFloat.compare, valueRank, Sign.apply, Int.compare_eq_lt, Int.compare_eq_gt] <;>
        omega
    | zero s' =>
      cases s <;> cases s' <;> cases o <;>
        simp [UnpackedFloat.compare, valueRank, Sign.apply, Int.compare_eq_lt, Int.compare_eq_gt] <;>
        omega
    | finite s' m' e' hm' =>
      have hU' := units_pos m' e' hm'
      have hlex := compare_lex_eq_units hu hv
      cases s <;> cases s' <;> cases o <;>
        simp [UnpackedFloat.compare, valueRank, Sign.apply, hlex, Nat.compare_eq_lt,
          Nat.compare_eq_gt, Int.compare_eq_lt, Int.compare_eq_gt] <;> omega


/-! ## `Float` の比較 -/

/-- `Float` の値の順序での位置。 -/
def rankOf (x : Float) : ℤ := valueRank x.toModel.unpack

theorem unpack_ne_notANumber {x : Float} (h : x.isNaN = false) : x.toModel.unpack ≠ .notANumber := by
  intro hn
  rw [Float.isNaN_eq_unpack, hn] at h
  cases h

theorem canonicalForm_toModel (x : Float) : CanonicalForm x.toModel.unpack :=
  canonicalForm_unpack _

theorem Float.compare_unpack_iff {x y : Float} (hx : x.isNaN = false) (hy : y.isNaN = false)
    (o : Ordering) :
    x.toModel.unpack.compare y.toModel.unpack = some o ↔ compare (rankOf x) (rankOf y) = o :=
  compare_eq_some_iff (canonicalForm_toModel x) (canonicalForm_toModel y)
    (unpack_ne_notANumber hx) (unpack_ne_notANumber hy) o

theorem Float.lt_iff_rank {x y : Float} (hx : x.isNaN = false) (hy : y.isNaN = false) :
    x < y ↔ rankOf x < rankOf y := by
  rw [Float.lt_iff_compare, Float.compare_unpack_iff hx hy, Int.compare_eq_lt]

theorem Float.le_iff_rank {x y : Float} (hx : x.isNaN = false) (hy : y.isNaN = false) :
    x ≤ y ↔ rankOf x ≤ rankOf y := by
  rw [Float.le_iff_compare]
  rcases hc : compare (rankOf x) (rankOf y) with _ | _ | _
  · rw [(Float.compare_unpack_iff hx hy .lt).mpr hc]
    have := Int.compare_eq_lt.mp hc
    simp
    omega
  · rw [(Float.compare_unpack_iff hx hy .eq).mpr hc]
    have := Int.compare_eq_eq.mp hc
    simp
    omega
  · rw [(Float.compare_unpack_iff hx hy .gt).mpr hc]
    have := Int.compare_eq_gt.mp hc
    simp
    omega

theorem Float.beq_iff_rank {x y : Float} (hx : x.isNaN = false) (hy : y.isNaN = false) :
    (x == y) = true ↔ rankOf x = rankOf y := by
  rw [Float.beq_eq_compare]
  rcases hc : compare (rankOf x) (rankOf y) with _ | _ | _
  · rw [(Float.compare_unpack_iff hx hy .lt).mpr hc]
    have := Int.compare_eq_lt.mp hc
    simp
    omega
  · rw [(Float.compare_unpack_iff hx hy .eq).mpr hc]
    have := Int.compare_eq_eq.mp hc
    simp
    omega
  · rw [(Float.compare_unpack_iff hx hy .gt).mpr hc]
    have := Int.compare_eq_gt.mp hc
    simp
    omega

theorem Float.le_refl {x : Float} (hx : x.isNaN = false) : x ≤ x :=
  (Float.le_iff_rank hx hx).mpr (Int.le_refl _)

/-- `≤` が成り立てば両辺とも NaN でないので、推移律に仮定は要らない。 -/
theorem Float.le_trans {x y z : Float} (hxy : x ≤ y) (hyz : y ≤ z) : x ≤ z := by
  obtain ⟨hx, hy⟩ := Float.isNaN_eq_false_of_le hxy
  obtain ⟨-, hz⟩ := Float.isNaN_eq_false_of_le hyz
  rw [Float.le_iff_rank hx hy] at hxy
  rw [Float.le_iff_rank hy hz] at hyz
  rw [Float.le_iff_rank hx hz]
  omega

theorem Float.le_of_not_lt {x y : Float} (hx : x.isNaN = false) (hy : y.isNaN = false)
    (h : ¬y < x) : x ≤ y := by
  rw [Float.lt_iff_rank hy hx] at h
  rw [Float.le_iff_rank hx hy]
  omega

/-- `maxNum` は NaN でない左の引数より小さくならない。 -/
theorem le_maxNum_left {x : Float} (k : Float) (hx : x.isNaN = false) : x ≤ maxNum x k := by
  unfold maxNum
  cases hk : k.isNaN
  · have hlt : ¬k < x → x ≤ k := Float.le_of_not_lt hx hk
    by_cases h : k < x
    · simp only [hx, h, Bool.false_eq_true, if_false, if_true]
      exact Float.le_refl hx
    · simp only [hx, h, Bool.false_eq_true, if_false]
      exact hlt h
  · simp only [if_true]
    exact Float.le_refl hx

/-- `minNum` は NaN でない左の引数より大きくならない。 -/
theorem minNum_le_left {x : Float} (k : Float) (hx : x.isNaN = false) : minNum x k ≤ x := by
  unfold minNum
  cases hk : k.isNaN
  · by_cases h : x < k
    · simp only [hx, h, Bool.false_eq_true, if_false, if_true]
      exact Float.le_refl hx
    · simp only [hx, h, Bool.false_eq_true, if_false]
      exact Float.le_of_not_lt hk hx h
  · simp only [if_true]
    exact Float.le_refl hx

theorem Float.not_lt_of_le {x y : Float} (h : x ≤ y) : ¬y < x := by
  obtain ⟨hx, hy⟩ := Float.isNaN_eq_false_of_le h
  rw [Float.le_iff_rank hx hy] at h
  rw [Float.lt_iff_rank hy hx]
  omega

theorem Float.le_of_lt {x y : Float} (h : x < y) : x ≤ y := by
  obtain ⟨hx, hy⟩ := Float.isNaN_eq_false_of_lt h
  rw [Float.lt_iff_rank hx hy] at h
  rw [Float.le_iff_rank hx hy]
  omega

theorem Float.lt_of_le_of_lt {x y z : Float} (hxy : x ≤ y) (hyz : y < z) : x < z := by
  obtain ⟨hx, hy⟩ := Float.isNaN_eq_false_of_le hxy
  have hz := (Float.isNaN_eq_false_of_lt hyz).2
  rw [Float.le_iff_rank hx hy] at hxy
  rw [Float.lt_iff_rank hy hz] at hyz
  rw [Float.lt_iff_rank hx hz]
  omega

theorem Float.lt_of_lt_of_le {x y z : Float} (hxy : x < y) (hyz : y ≤ z) : x < z := by
  obtain ⟨hy, hz⟩ := Float.isNaN_eq_false_of_le hyz
  have hx := (Float.isNaN_eq_false_of_lt hxy).1
  rw [Float.lt_iff_rank hx hy] at hxy
  rw [Float.le_iff_rank hy hz] at hyz
  rw [Float.lt_iff_rank hx hz]
  omega

/-- `==` は NaN でない数どうしの位置の一致なので、向きを変えても、つないでも成り立ち、`<` を
保つ。 -/
theorem Float.beq_symm {x y : Float} (h : (x == y) = true) : (y == x) = true := by
  obtain ⟨hx, hy⟩ := Float.isNaN_eq_false_of_beq h
  rw [Float.beq_iff_rank hx hy] at h
  rw [Float.beq_iff_rank hy hx]
  exact h.symm

theorem Float.beq_trans {x y z : Float} (hxy : (x == y) = true) (hyz : (y == z) = true) :
    (x == z) = true := by
  obtain ⟨hx, hy⟩ := Float.isNaN_eq_false_of_beq hxy
  obtain ⟨-, hz⟩ := Float.isNaN_eq_false_of_beq hyz
  rw [Float.beq_iff_rank hx hy] at hxy
  rw [Float.beq_iff_rank hy hz] at hyz
  rw [Float.beq_iff_rank hx hz]
  exact hxy.trans hyz

theorem Float.lt_of_beq_of_lt {x x' y y' : Float} (hx : (x == x') = true) (hy : (y == y') = true)
    (h : x < y) : x' < y' := by
  obtain ⟨hx₁, hx₂⟩ := Float.isNaN_eq_false_of_beq hx
  obtain ⟨hy₁, hy₂⟩ := Float.isNaN_eq_false_of_beq hy
  rw [Float.beq_iff_rank hx₁ hx₂] at hx
  rw [Float.beq_iff_rank hy₁ hy₂] at hy
  rw [Float.lt_iff_rank hx₁ hy₁] at h
  rw [Float.lt_iff_rank hx₂ hy₂]
  omega

/-- `k ≤ x` で `x == y` なら、`y` は `k` より小さくない。 -/
theorem Float.not_lt_of_le_of_beq {k x y : Float} (hk : k ≤ x) (hxy : (x == y) = true) :
    ¬y < k := by
  intro hlt
  obtain ⟨hx, hy⟩ := Float.isNaN_eq_false_of_beq hxy
  have hkx := (Float.le_iff_rank (Float.isNaN_eq_false_of_le hk).1 hx).mp hk
  have hrank := (Float.beq_iff_rank hx hy).mp hxy
  have hyk := (Float.lt_iff_rank hy (Float.isNaN_eq_false_of_le hk).1).mp hlt
  omega

/-- `x ≤ k` で `x == y` なら、`k` は `y` より小さくない。 -/
theorem Float.not_lt_of_ge_of_beq {k x y : Float} (hk : x ≤ k) (hxy : (x == y) = true) :
    ¬k < y := by
  intro hlt
  obtain ⟨hx, hy⟩ := Float.isNaN_eq_false_of_beq hxy
  have hxk := (Float.le_iff_rank hx (Float.isNaN_eq_false_of_le hk).2).mp hk
  have hrank := (Float.beq_iff_rank hx hy).mp hxy
  have hky := (Float.lt_iff_rank (Float.isNaN_eq_false_of_le hk).2 hy).mp hlt
  omega

/-- `maxNum` は NaN でない右の引数より小さくならない。 -/
theorem le_maxNum_right (x : Float) {k : Float} (hk : k.isNaN = false) : k ≤ maxNum x k := by
  unfold maxNum
  cases hx : x.isNaN
  · by_cases h : k < x
    · simp only [hk, h, Bool.false_eq_true, if_false, if_true]
      exact (Float.le_iff_rank hk hx).mpr (Int.le_of_lt ((Float.lt_iff_rank hk hx).mp h))
    · simp only [hk, h, Bool.false_eq_true, if_false]
      exact Float.le_refl hk
  · simp only [hk, Bool.false_eq_true, if_false, if_true]
    exact Float.le_refl hk

/-- `minNum` は NaN でない右の引数より大きくならない。 -/
theorem minNum_le_right (x : Float) {k : Float} (hk : k.isNaN = false) : minNum x k ≤ k := by
  unfold minNum
  cases hx : x.isNaN
  · by_cases h : x < k
    · simp only [hk, h, Bool.false_eq_true, if_false, if_true]
      exact (Float.le_iff_rank hx hk).mpr (Int.le_of_lt ((Float.lt_iff_rank hx hk).mp h))
    · simp only [hk, h, Bool.false_eq_true, if_false]
      exact Float.le_refl hk
  · simp only [hk, Bool.false_eq_true, if_false, if_true]
    exact Float.le_refl hk

/-- `maxNum` は引数のどちらかを返す。 -/
theorem maxNum_eq_or (a b : Float) : maxNum a b = a ∨ maxNum a b = b := by
  unfold maxNum
  split_ifs <;> simp

/-- `minNum` は引数のどちらかを返す。 -/
theorem minNum_eq_or (a b : Float) : minNum a b = a ∨ minNum a b = b := by
  unfold minNum
  split_ifs <;> simp

end PlotGeometry
