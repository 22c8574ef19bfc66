import Mathlib
import PlotGeometry.Proofs.Axis.NiceStep
import PlotGeometry.Proofs.Float.SameValue
import PlotGeometry.Proofs.Layout.XLabels
import PlotGeometry.Axis.Scale
/-!
# Y 軸の目盛り

`YAxisScale.ticks` は、下端 `yBottom` から `yBottom + i × yStep` を `i = 0, 1, …` と区間の数
`tickIntervalCount` まで並べ、上端の許容 `yTop + yStep × 10^-9` を越えたところで打ち切る。最後の値が
上端の許容より下にあれば、上端そのものを足す。

刻みが負でなければ、目盛りは次の形になる（`YAxisScale.TicksShape`）。`computeYAxis` の刻みはいつも
負でない：使える上書きは正で、`niceStep` は負にならない。

* 小さい順。ただし等しい値は続きうる：刻みが値の間隔の半分より細かければ、足しても丸めで
  元の値に戻る
* 個数は区間の数より二つ多いまで。上書きの刻みの判定は格子を張る範囲で区間を数え、目盛りは端を
  刻みに合わせた範囲で数え直すので、上限 200 では抑えられない
* 空になるのは、刻みが有限でないか、下端が上端の許容を越える（NaN を含む）ときだけ
* 初めの目盛りは下端と同じ値。最後は上端の許容の内側の格子の値か、どの格子の値より真に上の上端

格子の値は番号について単調なので、格子は上端の許容を越えない番号までの値をすべて含む
（`lt_length_gridFrom`）。目盛りの数の下限は、並べずにこれで数える。

* `computeYAxis_ticks_shape` — どの系列と設定でも、Y 軸の目盛りはこの形
* `ticks_repeat_below_half_ulp` — 重なる目盛り、200 を越える目盛り、空の目盛りの例
-/

namespace PlotGeometry

/-! ## 区間の数と刻みの符号 -/

/-- 区間の数は 64 ビットに収まる。 -/
theorem tickIntervalCount_lt (bottom top step : Float) : tickIntervalCount bottom top step < 2 ^ 64 := by
  unfold tickIntervalCount
  dsimp only
  split
  · have h := (@toIntSat_bounds 0 18446744073709551615 (by norm_num) (by norm_num) (by norm_num)
      le_rfl (by norm_num) (floorNum ((top - bottom) / step + snapEpsilon))).2
    unfold toNatSat
    omega
  · positivity

/-- Y 軸の刻みは、使える上書き（正）か `niceStep` の値なので、負でない。 -/
theorem computeYAxis_step_nonneg (series : List Series) (opts : YAxisOptions) :
    0 ≤ rankOf (computeYAxis series opts).1.yStep := by
  unfold computeYAxis
  dsimp only
  generalize gridExtents _ _ _ = g
  split
  · next s hs =>
    split
    · obtain ⟨hfin, hpos⟩ := AxisOverrides.sanitize_step hs
      have h := (Float.lt_iff_rank rfl (Float.isNaN_eq_false_of_isFinite hfin)).mp hpos
      rw [rankOf_zero] at h
      exact le_of_lt h
    · exact niceStep_rankOf_nonneg _ _
  · exact niceStep_rankOf_nonneg _ _

namespace YAxisScale

/-! ## 格子 -/

/-- 格子の値は、番号 `j`（`i ≤ j < i + n`）の `bottom + j × step` で、`limit` を越えない。 -/
theorem mem_gridFrom {bottom step limit w : Float} :
    ∀ {i n : Nat}, w ∈ gridFrom bottom step limit i n →
      ∃ j, i ≤ j ∧ j < i + n ∧ w = bottom + j.toFloat * step ∧ w ≤ limit
  | _, 0, h => absurd h List.not_mem_nil
  | i, n + 1, h => by
    rw [gridFrom] at h
    split at h
    · next hv =>
      rcases List.mem_cons.mp h with rfl | h
      · exact ⟨i, le_refl i, by omega, rfl, hv⟩
      · obtain ⟨j, hij, hjn, rfl, hle⟩ := mem_gridFrom h
        exact ⟨j, by omega, by omega, rfl, hle⟩
    · exact absurd h List.not_mem_nil

theorem length_gridFrom_le (bottom step limit : Float) :
    ∀ i n, (gridFrom bottom step limit i n).length ≤ n
  | _, 0 => le_refl 0
  | i, n + 1 => by
    rw [gridFrom]
    split
    · exact Nat.succ_le_succ (length_gridFrom_le bottom step limit (i + 1) n)
    · exact Nat.zero_le _

/-- 番号が大きい格子の値は小さくない（刻みが有限で負でなく、番号が `2^1023` 以下で、どちらの値も
NaN でないとき）。 -/
theorem gridValue_le {bottom step : Float} (hs : step.isFinite = true) (hs0 : 0 ≤ rankOf step)
    {i j : Nat} (hij : i ≤ j) (hj : j ≤ 2 ^ 1023) (hi' : (bottom + i.toFloat * step).isNaN = false)
    (hj' : (bottom + j.toFloat * step).isNaN = false) :
    bottom + i.toFloat * step ≤ bottom + j.toFloat * step :=
  Float.add_le_add_left (Float.mul_le_mul_of_nonneg_right (Float.ofNat_le_ofNat hij)
    (Float.isFinite_ofNat (hij.trans hj)) (Float.isFinite_ofNat hj) hs hs0) bottom hi' hj'

theorem gridFrom_sorted {bottom step limit : Float} (hs : step.isFinite = true)
    (hs0 : 0 ≤ rankOf step) :
    ∀ i n, i + n ≤ 2 ^ 1023 → (gridFrom bottom step limit i n).Pairwise (· ≤ ·)
  | _, 0, _ => List.Pairwise.nil
  | i, n + 1, hn => by
    rw [gridFrom]
    split
    · next hv =>
      refine List.Pairwise.cons (fun w hw => ?_) (gridFrom_sorted hs hs0 (i + 1) n (by omega))
      obtain ⟨j, hij, hjn, rfl, hw⟩ := mem_gridFrom hw
      exact gridValue_le hs hs0 (by omega) (by omega) (Float.isNaN_eq_false_of_le hv).1
        (Float.isNaN_eq_false_of_le hw).1
    · exact List.Pairwise.nil

/-- 下端と刻みが有限で刻みが負でなければ、格子は `limit` を越えない番号 `k` の値までをすべて含む：
値は番号について単調なので、それより前の値も `limit` を越えない。 -/
theorem lt_length_gridFrom {bottom step limit : Float} (hb : bottom.isFinite = true)
    (hs : step.isFinite = true) (hs0 : 0 ≤ rankOf step) (k : Nat) (hk : k ≤ 2 ^ 1023)
    (hv : bottom + k.toFloat * step ≤ limit) :
    ∀ i n, i ≤ k → k < i + n → k - i < (gridFrom bottom step limit i n).length
  | i, 0, hik, hkn => absurd hkn (by omega)
  | i, n + 1, hik, hkn => by
    have hvi : bottom + i.toFloat * step ≤ limit := by
      have hi : (bottom + i.toFloat * step).isNaN = false :=
        Float.add_isNaN_eq_false_of_isFinite_left hb
          (Float.mul_isNaN_eq_false (Float.isFinite_ofNat (hik.trans hk)) hs)
      exact Float.le_trans (gridValue_le hs hs0 hik hk hi (Float.isNaN_eq_false_of_le hv).1) hv
    rw [gridFrom, if_pos hvi, List.length_cons]
    rcases Nat.eq_or_lt_of_le hik with rfl | hlt
    · omega
    · have := lt_length_gridFrom hb hs hs0 k hk hv (i + 1) n hlt (by omega)
      omega

/-- 刻みが有限なら、番号 0 の格子の値は下端と同じ値（ゼロの符号だけが変わりうる）。 -/
theorem sameValue_gridZero (bottom : Float) {step : Float} (hs : step.isFinite = true) :
    Float.SameValue (bottom + (0 : Nat).toFloat * step) bottom :=
  have hz := Float.isZero_natZero.mul hs
  Float.sameValue_add_of_rankOf_eq_zero bottom hz.isFinite hz.rankOf

/-- 番号 0 の格子の値が NaN でなければ、刻みは有限。 -/
theorem isFinite_of_gridZero {bottom step : Float}
    (h : (bottom + (0 : Nat).toFloat * step).isNaN = false) : step.isFinite = true :=
  Float.isZero_natZero.isFinite_of_mul (Float.isNaN_of_add h).2

/-- 0 から数えた格子が空でないのは、刻みが有限で、下端が `limit` を越えないときだけ。 -/
theorem gridFrom_zero_ne_nil_iff (bottom step limit : Float) (n : Nat) :
    gridFrom bottom step limit 0 (n + 1) ≠ [] ↔ step.isFinite = true ∧ bottom ≤ limit := by
  rw [gridFrom]
  constructor
  · intro h
    split at h
    · next hv =>
      have hs := isFinite_of_gridZero (Float.isNaN_eq_false_of_le hv).1
      exact ⟨hs, (sameValue_gridZero bottom hs).le_iff_left.mp hv⟩
    · exact absurd rfl h
  · rintro ⟨hs, hle⟩
    rw [if_pos ((sameValue_gridZero bottom hs).le_iff_left.mpr hle)]
    exact List.cons_ne_nil _ _

/-- 0 から数えた格子の先頭は、下端と同じ値。 -/
theorem gridFrom_zero_head (bottom step limit : Float) (n : Nat) :
    ∀ t ∈ (gridFrom bottom step limit 0 n).head?, Float.SameValue t bottom := by
  intro t ht
  cases n with
  | zero => cases ht
  | succ n =>
    rw [gridFrom] at ht
    split at ht
    · next hv =>
      cases ht
      exact sameValue_gridZero bottom (isFinite_of_gridZero (Float.isNaN_eq_false_of_le hv).1)
    · cases ht

/-! ## 目盛り -/

/-- 目盛りのもとになる格子：下端から、上端の許容 `yTop + yStep × 10^-9` を越える手前まで。 -/
def grid (s : YAxisScale) : List Float :=
  gridFrom s.yBottom s.yStep (s.yTop + s.yStep * snapEpsilon) 0
    (tickIntervalCount s.yBottom s.yTop s.yStep + 1)

theorem grid_sorted (s : YAxisScale) (hs0 : 0 ≤ rankOf s.yStep) : s.grid.Pairwise (· ≤ ·) := by
  by_cases hs : s.yStep.isFinite = true
  · have hcount := tickIntervalCount_lt s.yBottom s.yTop s.yStep
    exact gridFrom_sorted hs hs0 0 _ (by omega)
  · -- 刻みが有限でなければ、番号 0 の値が NaN で格子は空
    have hnil : s.grid = [] := by
      by_contra hne
      exact hs ((gridFrom_zero_ne_nil_iff _ _ _ _).mp hne).1
    rw [hnil]
    exact List.Pairwise.nil

/-- 目盛りは格子そのものか、格子の最後の値が上端の許容より下にあれば、格子に上端を足したもの。 -/
theorem ticks_eq_grid_or_append (s : YAxisScale) :
    (s.ticks = s.grid ∧ ∀ last ∈ s.grid.getLast?, ¬s.yStep * snapEpsilon < s.yTop - last) ∨
      ∃ last ∈ s.grid.getLast?, s.yStep * snapEpsilon < s.yTop - last ∧
        s.ticks = s.grid ++ [s.yTop] := by
  simp only [ticks, ← grid.eq_1]
  cases hlast : s.grid.getLast? with
  | none => exact .inl ⟨rfl, fun _ h => by cases h⟩
  | some last =>
    by_cases hgap : s.yStep * snapEpsilon < s.yTop - last
    · exact .inr ⟨last, rfl, hgap, if_pos hgap⟩
    · refine .inl ⟨if_neg hgap, fun t ht => ?_⟩
      cases ht
      exact hgap

/-- 目盛りは格子より短くない。 -/
theorem length_grid_le_ticks (s : YAxisScale) : s.grid.length ≤ s.ticks.length := by
  rcases s.ticks_eq_grid_or_append with ⟨h, -⟩ | ⟨-, -, -, h⟩
  · rw [h]
  · rw [h, List.length_append]
    omega

/-- 上端を足すとき、格子の値はどれも上端より真に小さい：最後の値は上端との差が負でない許容を
越えるので小さく、格子は小さい順なので、ほかの値は最後の値以下。 -/
theorem grid_lt_top (s : YAxisScale) (hs0 : 0 ≤ rankOf s.yStep) {last : Float}
    (hlast : last ∈ s.grid.getLast?) (hgap : s.yStep * snapEpsilon < s.yTop - last) :
    ∀ u ∈ s.grid, u < s.yTop := by
  have hsorted := s.grid_sorted hs0
  obtain ⟨ys, hys⟩ := List.getLast?_eq_some_iff.mp hlast
  have hlastLt : last < s.yTop :=
    Float.lt_of_lt_sub (Float.rankOf_mul_nonneg hs0 (by decide +kernel)) hgap
  intro u hu
  rw [hys] at hu hsorted
  rcases List.mem_append.mp hu with hu | hu
  · exact Float.lt_of_le_of_lt
      ((List.pairwise_append.mp hsorted).2.2 u hu last (List.mem_singleton_self _)) hlastLt
  · rw [List.mem_singleton.mp hu]
    exact hlastLt

/-- 目盛りの形。 -/
structure TicksShape (s : YAxisScale) : Prop where
  /-- 小さい順（等しい値は続きうる）。 -/
  sorted : s.ticks.Pairwise (· ≤ ·)
  /-- 区間の数より二つ多いまで。 -/
  length_le : s.ticks.length ≤ tickIntervalCount s.yBottom s.yTop s.yStep + 2
  /-- 空でないのは、刻みが有限で、下端が上端の許容を越えないときだけ。 -/
  ne_nil_iff : s.ticks ≠ [] ↔ s.yStep.isFinite = true ∧ s.yBottom ≤ s.yTop + s.yStep * snapEpsilon
  /-- 初めの目盛りは下端と同じ値。 -/
  head : ∀ t ∈ s.ticks.head?, Float.SameValue t s.yBottom
  /-- 最後の目盛りは、上端の許容の内側で上端より刻みの許容以上は下にない格子の値か、それより
  前のどの目盛りより真に上の上端。 -/
  last : ∀ t ∈ s.ticks.getLast?,
    (t ≤ s.yTop + s.yStep * snapEpsilon ∧ ¬s.yStep * snapEpsilon < s.yTop - t) ∨
      (t = s.yTop ∧ ∀ u ∈ s.ticks.dropLast, u < s.yTop)

/-- 刻みが負でなければ、目盛りは `TicksShape` の形。 -/
theorem ticks_shape (s : YAxisScale) (hs0 : 0 ≤ rankOf s.yStep) : s.TicksShape := by
  have hsorted := s.grid_sorted hs0
  have hlen : s.grid.length ≤ tickIntervalCount s.yBottom s.yTop s.yStep + 1 :=
    length_gridFrom_le _ _ _ _ _
  have hne : s.grid ≠ [] ↔ s.yStep.isFinite = true ∧ s.yBottom ≤ s.yTop + s.yStep * snapEpsilon :=
    gridFrom_zero_ne_nil_iff _ _ _ _
  have hhead : ∀ t ∈ s.grid.head?, Float.SameValue t s.yBottom := gridFrom_zero_head _ _ _ _
  rcases s.ticks_eq_grid_or_append with ⟨hticks, hclose⟩ | ⟨last, hlast, hgap, hticks⟩
  · refine ⟨?_, ?_, ?_, ?_, ?_⟩ <;> rw [hticks]
    · exact hsorted
    · omega
    · exact hne
    · exact hhead
    · intro t ht
      obtain ⟨-, -, -, -, hle⟩ := mem_gridFrom (List.mem_of_getLast? ht)
      exact .inl ⟨hle, hclose t ht⟩
  · have hbelow := s.grid_lt_top hs0 hlast hgap
    obtain ⟨g, gs, hg⟩ :=
      List.exists_cons_of_ne_nil (List.ne_nil_of_mem (List.mem_of_getLast? hlast))
    refine ⟨?_, ?_, ?_, ?_, ?_⟩ <;> rw [hticks]
    · refine List.pairwise_append.mpr ⟨hsorted, List.pairwise_singleton _ _, fun u hu v hv => ?_⟩
      rw [List.mem_singleton.mp hv]
      exact Float.le_of_lt (hbelow u hu)
    · rw [List.length_append, List.length_singleton]
      omega
    · exact ⟨fun _ => hne.mp (by rw [hg]; exact List.cons_ne_nil _ _), fun _ => by simp⟩
    · intro t ht
      apply hhead
      rw [hg] at ht ⊢
      exact ht
    · intro t ht
      rw [List.getLast?_concat] at ht
      cases ht
      exact .inr ⟨rfl, by rw [List.dropLast_concat]; exact hbelow⟩

end YAxisScale

/-- どの系列と設定でも、Y 軸の目盛りは `TicksShape` の形：小さい順、区間の数より二つ多いまで、
空になるのは刻みが有限でないか下端が上端の許容を越えるときだけ、初めは下端と同じ値、最後は上端の
許容の内側の格子の値か、どの格子の値より真に上の上端。 -/
theorem computeYAxis_ticks_shape (series : List Series) (opts : YAxisOptions) :
    (computeYAxis series opts).1.TicksShape :=
  YAxisScale.ticks_shape _ (computeYAxis_step_nonneg series opts)

/-! ## 重なる目盛り、多すぎる目盛り、空の目盛り -/

/-- 値が `7.0` と、その隣の数 `7.000000000000001` の系列。 -/
def adjacentSevens : List Series :=
  [{ name := "s", startTime := 0, stopTime := 60, stepTime := 60, values := #[7.0, 7.000000000000001],
     absent := #[false, false] }]

/-- 下限 7、上限をその隣の数に決め、刻みを値の間隔の半分より細かい `3e-16` にする。 -/
def pinnedSevens : YAxisOptions :=
  { overrides := { min := some 7.0, max := some 7.000000000000001, step := some 3e-16 } }

/-- 刻みだけを `4.8e-18` に上書きする。 -/
def finestSevens : YAxisOptions := { overrides := { step := some 4.8e-18 } }

/-- 値が 0 と `4e-308` の系列。 -/
def tinySpan : List Series :=
  [{ name := "s", startTime := 0, stopTime := 60, stepTime := 60, values := #[0.0, 4e-308],
     absent := #[false, false] }]

/-- 目盛りは真に増えるとも、空でないとも、203 個以下とも限らない。`pinnedSevens` では
`7 + 3e-16` が 7 に丸まり、目盛りは `[7, 7, 7.000000000000001]`。`finestSevens` の刻みは上書きの
判定を通る（警告なし）が、端を刻みに合わせると範囲が一つずつ隣の数に広がり、区間を数え直して
目盛りは 371 個。`tinySpan` では刻みが 0 に潰れ、下端が NaN になって目盛りは空。 -/
theorem ticks_repeat_below_half_ulp :
    (computeYAxis adjacentSevens pinnedSevens).1.ticks.map Float.toBits =
        [(7.0 : Float).toBits, (7.0 : Float).toBits, (7.000000000000001 : Float).toBits] ∧
      (computeYAxis adjacentSevens finestSevens).2 = [] ∧
      203 < (computeYAxis adjacentSevens finestSevens).1.ticks.length ∧
      (computeYAxis tinySpan {}).1.ticks.isEmpty = true := by
  refine ⟨by decide +kernel, by decide +kernel, ?_, by decide +kernel⟩
  -- 371 個を並べるかわりに、番号 203 の格子の値がまだ上端の許容の内側にあることを確かめる
  have hgrid : 203 - 0 < (computeYAxis adjacentSevens finestSevens).1.grid.length :=
    YAxisScale.lt_length_gridFrom (by decide +kernel) (by decide +kernel)
      (computeYAxis_step_nonneg _ _) 203 (by decide +kernel) (by decide +kernel) 0 _ (Nat.zero_le _)
      (by decide +kernel)
  exact Nat.lt_of_lt_of_le hgrid (YAxisScale.length_grid_le_ticks _)

end PlotGeometry
