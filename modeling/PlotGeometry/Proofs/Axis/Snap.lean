import Mathlib
import PlotGeometry.Proofs.Float.Nearest
import PlotGeometry.Proofs.Axis.Ticks
import PlotGeometry.Proofs.Axis.Stacked
import PlotGeometry.Proofs.Axis.Labels
/-!
# 端の合わせは格子を裏返さない

`snapDown v s = ⌊v/s + ε⌋ × s` と `snapUp v s = ⌈v/s − ε⌉ × s`（`ε = 10^-9`）は、刻み `s` の倍数に
格子の端を合わせる。余裕 `ε` は刻みを単位にして両側に付くので、同じ値を切り下げた端が、切り
上げた端を越えることはない。`q + ε` と `q − ε` はどちらも `q` から `2ε` 以内に丸まり（最も近い数
への丸め）、その床と天井は、差が 1 より小さい整数どうしなので、床が天井を越えない。

格子を張る範囲（`gridExtents`）も裏返らない：潰れた範囲を広げる幅は負でないので、広げても
下端は上端以下のまま。したがって下限を上書きしなければ、刻みが正の有限な数である限り、底は
天井を越えない。ただし等号は外せず（非正規数一つでは底 `0`、天井 `−0`）、下限の上書きは格子の
上端より下にありさえすれば底にそのまま使われるので、切り上げた天井より上に出ることがある。

* `floorNum_add_le_ceilNum_sub` — NaN でないどの数 `q` でも `⌊q + ε⌋ ≤ ⌈q − ε⌉`
* `snapDown_le_snapUp` — `lo ≤ hi` なら、正の有限な刻みで合わせた端も `lo` の側が下
* `gridExtents_le` — 格子を張る範囲の下端は上端以下
* `computeYAxis_bottom_le_top` — 下限の上書きがなく刻みが正の有限な数なら、底は天井以下
-/

namespace PlotGeometry

open Float.Model Float.Model.UnpackedFloat

/-! ## 余裕の上での床と天井 -/

/-- 余裕 `10^-9` は有限で正、位置は `2^1045` 以下（`10^-9 < 2^-29`）。 -/
theorem snapEpsilon_bounds :
    snapEpsilon.isFinite = true ∧ 0 < rankOf snapEpsilon ∧ rankOf snapEpsilon ≤ 2 ^ 1045 := by
  decide +kernel

/-- 有限な `q` に ε を足した位置は `q` 以上 `q + 2ε` 以下、引いた位置は `q − 2ε` 以上 `q` 以下。
丸めた結果は、正確な値に `q` 自身より近いので、`q` の反対側へは出ない。 -/
theorem rankOf_shift_snapEpsilon {q : Float} (hq : q.isFinite = true) :
    rankOf q ≤ rankOf (q + snapEpsilon) ∧
      rankOf (q + snapEpsilon) ≤ rankOf q + 2 * rankOf snapEpsilon ∧
      rankOf q - 2 * rankOf snapEpsilon ≤ rankOf (q - snapEpsilon) ∧
      rankOf (q - snapEpsilon) ≤ rankOf q := by
  obtain ⟨hεf, hε0, hεb⟩ := snapEpsilon_bounds
  have hmax := Float.abs_rankOf_le_max hq
  have hbound (t : ℤ) (ht : |t| = rankOf snapEpsilon) :
      |rankOf q + t| + |rankOf q + t - rankOf q| < overflowRank := by
    rw [add_sub_cancel_left, overflowRank]
    have h := abs_add_le (rankOf q) t
    omega
  obtain ⟨-, hAn⟩ := Float.add_nearest hq hεf hq (hbound _ (abs_of_pos hε0))
  obtain ⟨-, hBn⟩ := Float.sub_nearest hq hεf hq
    (by simpa only [← sub_eq_add_neg] using hbound (-rankOf snapEpsilon) (by rw [abs_neg, abs_of_pos hε0]))
  rw [add_sub_cancel_left, abs_of_pos hε0] at hAn
  rw [sub_sub_cancel_left, abs_neg, abs_of_pos hε0] at hBn
  have hA := abs_le.mp hAn
  have hB := abs_le.mp hBn
  omega

/-- NaN でないどの数 `q` でも、`q + ε` の床は `q − ε` の天井を越えない。 -/
theorem floorNum_add_le_ceilNum_sub {q : Float} (hq : q.isNaN = false) :
    floorNum (q + snapEpsilon) ≤ ceilNum (q - snapEpsilon) := by
  obtain ⟨hεf, hε0, hεb⟩ := snapEpsilon_bounds
  have hA := Float.add_isNaN_eq_false_of_isFinite_right hq hεf
  have hB := Float.sub_isNaN_eq_false hq hεf
  have hF : (floorNum (q + snapEpsilon)).isNaN = false := by rw [floorNum, Float.isNaN_toIntegral, hA]
  have hC : (ceilNum (q - snapEpsilon)).isNaN = false := by rw [ceilNum, Float.isNaN_toIntegral, hB]
  have hfl := (rankOf_floorNum_bounds (q + snapEpsilon)).2
  have hcl := (rankOf_ceilNum_bounds (q - snapEpsilon)).1
  rw [Float.le_iff_rank hF hC]
  rcases Float.finite_or_infinite hq with ⟨hqf, -⟩ | hinf
  · -- 和も差も `q` から `2ε` 以内。床と天井は差が `4ε < 1` 以下の整数どうし
    have hshift := rankOf_shift_snapEpsilon hqf
    have hd1 := Float.rankOf_toIntegral_dvd floorRule (q + snapEpsilon)
    have hd2 := Float.rankOf_toIntegral_dvd ceilRule (q - snapEpsilon)
    rw [← floorNum] at hd1
    rw [← ceilNum] at hd2
    rw [Nat.cast_pow, Nat.cast_ofNat] at hd1 hd2
    omega
  · have hqi : rankOf q = infRank ∨ rankOf q = -infRank := hinf.imp (·.2) (·.2)
    have hεs : |rankOf snapEpsilon| < overflowRank := by rw [abs_of_pos hε0, overflowRank]; omega
    have hAr : rankOf (q + snapEpsilon) = rankOf (q - snapEpsilon) := by
      rw [Float.rankOf_add hA, Float.rankOf_sub hB, sub_eq_add_neg, roundRank_infinite_add hqi hεs,
        roundRank_infinite_add hqi (by rwa [abs_neg])]
    omega

/-! ## 刻みに合わせた端 -/

/-- `lo ≤ hi` なら、正の有限な刻みで切り下げた `lo` は、切り上げた `hi` を越えない。商が
あふれて無限大になっても同じ。 -/
theorem snapDown_le_snapUp {lo hi s : Float} (h : lo ≤ hi) (hs : s.isFinite = true)
    (hs0 : 0 < rankOf s) : snapDown lo s ≤ snapUp hi s := by
  obtain ⟨hlo, hhi⟩ := Float.isNaN_eq_false_of_le h
  have hεf := snapEpsilon_bounds.1
  have hloq := Float.div_isNaN_eq_false hlo hs hs0.ne'
  have hhiq := Float.div_isNaN_eq_false hhi hs hs0.ne'
  unfold snapDown snapUp
  apply Float.mul_le_mul_right_of_pos _ hs hs0
  -- `⌊lo/s + ε⌋ ≤ ⌊hi/s + ε⌋ ≤ ⌈hi/s − ε⌉`
  have hq := Float.add_le_add_right (Float.div_le_div_right_of_pos h hs hs0) snapEpsilon
    (Float.add_isNaN_eq_false_of_isFinite_right hloq hεf) (Float.add_isNaN_eq_false_of_isFinite_right hhiq hεf)
  exact Float.le_trans (floorNum_mono hq) (floorNum_add_le_ceilNum_sub hhiq)

/-! ## 格子を張る範囲 -/

/-- 観測した範囲の両端（値がなければ 0）は有限：どちらも欠けておらず有限な値のどれか。 -/
theorem observedExtents_getD_isFinite (series : List Series) :
    ((observedExtents series).getD (0.0, 0.0)).1.isFinite = true ∧
      ((observedExtents series).getD (0.0, 0.0)).2.isFinite = true := by
  cases hvs : series.flatMap Series.presentValues with
  | nil =>
    rw [observedExtents_eq_foldl, hvs]
    exact ⟨rfl, rfl⟩
  | cons v rest =>
    rw [observedExtents_cons hvs]
    have hfin : ∀ x ∈ v :: rest, x.isFinite = true := by
      intro x hx
      rw [← hvs, mem_flatMap_presentValues] at hx
      obtain ⟨-, -, -, -, -, hf⟩ := hx
      exact hf
    exact ⟨hfin _ (foldl_mem_of_choice minNum_eq_or rest v),
      hfin _ (foldl_mem_of_choice maxNum_eq_or rest v)⟩

/-- 絶対値は NaN でない数を NaN でない数に移し、位置は負でない。 -/
theorem Float.abs_isNaN_eq_false {v : Float} (hv : v.isNaN = false) :
    v.abs.isNaN = false ∧ 0 ≤ rankOf v.abs := by
  rw [Float.isNaN_eq_unpack] at hv
  rw [Float.isNaN_eq_unpack, rankOf, Float.unpack_abs]
  cases hu : v.toModel.unpack with
  | notANumber => rw [hu] at hv; cases hv
  | infinity _ => exact ⟨rfl, infRank_pos.le⟩
  | zero _ => exact ⟨rfl, le_rfl⟩
  | finite _ m e _ => exact ⟨rfl, Int.natCast_nonneg _⟩

/-- 潰れた範囲を広げる幅は、NaN でない値に対して NaN でなく負でない。 -/
theorem degeneratePadding_nonneg {v : Float} (hv : v.isNaN = false) :
    (degeneratePadding v).isNaN = false ∧ 0 ≤ rankOf (degeneratePadding v) := by
  obtain ⟨ha, ha0⟩ := Float.abs_isNaN_eq_false hv
  have htenth : (0.1 : Float).isFinite = true ∧ 0 < rankOf 0.1 := by decide +kernel
  unfold degeneratePadding
  split
  · exact ⟨rfl, by rw [rankOf_one]; positivity⟩
  · exact ⟨Float.mul_isNaN_eq_false_of_ne_zero ha htenth.1 htenth.2.ne',
      Float.rankOf_mul_nonneg ha0 htenth.2.le⟩

/-- 格子を張る範囲は裏返らない：下端が有限で上端が NaN でなければ（上端を決めたのが上書きなら
上端も有限なら）、範囲の下端は上端以下。広げる幅は負でないので、広げても順序は変わらない。 -/
theorem gridExtents_le {yMin yMax : Float} (maxExplicit : Bool) (hmin : yMin.isFinite = true)
    (hmax : yMax.isNaN = false) (hexp : maxExplicit = true → yMax.isFinite = true) :
    (gridExtents yMin yMax maxExplicit).1 ≤ (gridExtents yMin yMax maxExplicit).2 := by
  have hminN := Float.isNaN_eq_false_of_isFinite hmin
  have hv : (maxNum yMin yMax).isNaN = false := by
    rcases maxNum_eq_or yMin yMax with h | h <;> rw [h] <;> assumption
  obtain ⟨hp, hp0⟩ := degeneratePadding_nonneg hv
  unfold gridExtents
  split
  · exact Float.le_of_lt ‹_›
  · cases maxExplicit with
    | false => exact Float.le_add_of_nonneg hminN hp0 (Float.add_isNaN_eq_false_of_isFinite_left hmin hp)
    | true =>
      have hsub : (yMax - degeneratePadding (maxNum yMin yMax)).isNaN = false := by
        rw [Float.sub_eq_add_neg]
        exact Float.add_isNaN_eq_false_of_isFinite_left (hexp rfl) (by rw [Float.isNaN_neg]; exact hp)
      exact Float.sub_le_of_nonneg hmax hp0 hsub

/-! ## 底と天井 -/

/-- 下限の上書きがなければ、底は格子の下端を刻みで切り下げた値。天井は格子の上端を切り上げた
値か、底より上にある上限の上書き。格子は裏返っていない（`gridExtents_le`）。 -/
theorem computeYAxis_ends (series : List Series) (opts : YAxisOptions)
    (hmin : opts.overrides.sanitize.1.min = none) :
    ∃ gMin gMax, gMin ≤ gMax ∧
      (computeYAxis series opts).1.yBottom = snapDown gMin (computeYAxis series opts).1.yStep ∧
      ((computeYAxis series opts).1.yTop = snapUp gMax (computeYAxis series opts).1.yStep ∨
        (computeYAxis series opts).1.yBottom < (computeYAxis series opts).1.yTop) := by
  unfold computeYAxis
  dsimp only
  rw [hmin]
  dsimp only
  generalize hg : gridExtents _ _ _ = g
  generalize Option.getD _ (niceStep g.1 g.2) = s
  refine ⟨g.1, g.2, ?_, rfl, ?_⟩
  · rw [← hg]
    obtain ⟨ho1, ho2⟩ := observedExtents_getD_isFinite series
    have hst := stackedMaximum_getD_isNaN series
    have h0 : (0.0 : Float).isFinite = true := by decide
    apply gridExtents_le
    · rw [Option.getD_none]
      split
      · exact h0
      · exact ho1
    · cases hmax : opts.overrides.sanitize.1.max with
      | some m => exact Float.isNaN_eq_false_of_isFinite (AxisOverrides.sanitize_max_eq_some hmax).2.1
      | none =>
        rw [Option.getD_none]
        split <;> split
        all_goals first
          | exact Float.isNaN_eq_false_of_isFinite h0
          | exact hst
          | exact Float.isNaN_eq_false_of_isFinite ho2
    · intro hsome
      obtain ⟨m, hm⟩ := Option.isSome_iff_exists.mp hsome
      rw [hm, Option.getD_some]
      exact (AxisOverrides.sanitize_max_eq_some hm).2.1
  · split
    · split
      · exact .inr ‹_›
      · exact .inl rfl
    · exact .inl rfl

/-- 下限を上書きしなければ、刻みが正の有限な数である限り、底は天井を越えない。 -/
theorem computeYAxis_bottom_le_top (series : List Series) (opts : YAxisOptions)
    (hmin : opts.overrides.sanitize.1.min = none)
    (hs : (computeYAxis series opts).1.yStep.isFinite = true)
    (hs0 : 0 < rankOf (computeYAxis series opts).1.yStep) :
    (computeYAxis series opts).1.yBottom ≤ (computeYAxis series opts).1.yTop := by
  obtain ⟨gMin, gMax, hle, hbot, htop⟩ := computeYAxis_ends series opts hmin
  rcases htop with htop | hlt
  · rw [hbot, htop]
    exact snapDown_le_snapUp hle hs hs0
  · exact Float.le_of_lt hlt

/-- 等号は外せない：値が一つの非正規数なら、底 `0` と天井 `−0` は等しい。 -/
theorem computeYAxis_bottom_le_top_subnormal :
    let opts : YAxisOptions := {}
    opts.overrides.sanitize.1.min = none ∧
      (computeYAxis subnormalSeries opts).1.yStep.isFinite = true ∧
      0 < rankOf (computeYAxis subnormalSeries opts).1.yStep ∧
      (computeYAxis subnormalSeries opts).1.yBottom ≤ (computeYAxis subnormalSeries opts).1.yTop := by
  intro opts
  have hmin : opts.overrides.sanitize.1.min = none := rfl
  have hstep : (computeYAxis subnormalSeries opts).1.yStep.isFinite = true ∧
      0 < rankOf (computeYAxis subnormalSeries opts).1.yStep := by
    decide +kernel
  exact ⟨hmin, hstep.1, hstep.2, computeYAxis_bottom_le_top subnormalSeries opts hmin hstep.1 hstep.2⟩

end PlotGeometry
