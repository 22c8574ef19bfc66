import Mathlib
import PlotGeometry.Proofs.Legend.Grid
import PlotGeometry.Proofs.Float.Error
import PlotGeometry.Proofs.Float.Integral
import PlotGeometry.Proofs.Axis.NiceStep
import PlotGeometry.Proofs.Axis.Stacked
/-!
# 凡例の寸法の大きさ

凡例の寸法は、行の高さ `h`（文字の大きさの 1.2 倍）から決まる：見本の一辺は `h - 1`、行の間隔は
`h + 1`、帯の一行は `h + 1 + 5`、項目の幅は 最も広い名前 + 2 ×（`h - 1` + 5）。ここでは、文字の
大きさと描画面の幅、領域の四辺が `±2^30` の中にあるとき（`LegendScale`）、成功した配置の寸法が
どれだけの大きさに収まり、丸めでどれだけずれるかを見積もる。

行の数に上界があるのは、帯を取った後の領域が空でないからである。帯の高さが `2^32` 以上なら、
下端は `-3 × 2^30` より下になり、領域の上端を越えてしまう。列の数に上界があるのは、列を二つ以上
取るときだけで、そのとき 列 × 項目の幅 は描画面の幅（二列の方式では 描画面の幅 − 左端）をほとんど
越えない。項目の幅が無限大なら商は 0 で、列は一つしか取れない。

* `LegendScale` — 大きさの前提
* `GridScale` — 格子の寸法の見積もり
* `layoutLegend_gridScale` — 成功した配置の格子は、見積もりに収まる
* `LegendLayout.ColumnsFit`、`LegendLayout.columnsFit_of_two_le` — 列を二つ以上取る配置の、
  列 × 項目の幅の上界
* `sidesFit_columns` — 左右の列が並んで収まる配置の、同じ上界
-/

namespace PlotGeometry

/-! ## 大きさの前提 -/

/-- 凡例の大きさの前提：文字の大きさは 1 以上で、それと描画面の幅、領域の四辺はどれも `±2^30`
の中。 -/
structure LegendScale (opts : LegendOptions) (area : Area) : Prop where
  one_le_size : 1.0 ≤ opts.font.size
  bounded : ∀ x ∈ [opts.font.size, opts.canvasWidth, area.xmin, area.xmax, area.ymin, area.ymax],
    -1073741824.0 ≤ x ∧ x ≤ 1073741824.0

/-- 位置がわかっている有限な数。 -/
theorem Float.near_of_rankOf_eq {x : Float} (hx : x.isFinite = true) {v : ℤ} (h : rankOf x = v) :
    Float.Near x v 0 :=
  ⟨hx, by omega, by omega⟩

/-- `±2^30` の中の数は有限で、位置は `±2^1104` の中。 -/
theorem near_zero_of_bounded {x : Float} (h : -1073741824.0 ≤ x ∧ x ≤ 1073741824.0) :
    Float.Near x 0 (2 ^ 1104) := by
  obtain ⟨hlo, hhi⟩ := h
  obtain ⟨hx, -⟩ := Float.isNaN_eq_false_of_le hhi
  have hr1 : rankOf (-1073741824.0 : Float) = -2 ^ 1104 := by decide +kernel
  have hr2 : rankOf (1073741824.0 : Float) = 2 ^ 1104 := by decide +kernel
  rw [Float.le_iff_rank (by decide +kernel) hx, hr1] at hlo
  rw [Float.le_iff_rank hx (by decide +kernel), hr2] at hhi
  refine ⟨Float.isFinite_of_rankOf_lt hx ?_ ?_, by omega, by omega⟩ <;> unfold infRank <;> omega

/-- 前提の六つの数は、位置が `±2^1104` の中の有限な数。 -/
theorem LegendScale.near {opts : LegendOptions} {area : Area} (hs : LegendScale opts area) {x : Float}
    (hx : x ∈ [opts.font.size, opts.canvasWidth, area.xmin, area.xmax, area.ymin, area.ymax]) :
    Float.Near x 0 (2 ^ 1104) :=
  near_zero_of_bounded (hs.bounded x hx)

/-! ## 寸法 -/

section
variable {font : FontSpec}

/-- 文字の大きさが 1 から `2^30` なら、行の高さ（大きさの 1.2 倍）は有限で、位置は
`unitRank + 2^1070`（1 + 1/16 の位置）から `2^1105`。 -/
theorem fontHeight_bounds (h1 : 1.0 ≤ font.size) (h2 : font.size ≤ 1073741824.0) :
    (fontMetrics font).height.isFinite = true ∧
      unitRank + 2 ^ 1070 ≤ rankOf (fontMetrics font).height ∧
      rankOf (fontMetrics font).height ≤ 2 ^ 1105 := by
  have hsize := near_zero_of_bounded ⟨Float.le_trans (by decide +kernel) h1, h2⟩
  have hc : (1.2 : Float).isFinite = true := by decide +kernel
  have hc0 : 0 ≤ rankOf (1.2 : Float) := by decide +kernel
  have hlo := Float.mul_le_mul_of_nonneg_left h1 hc (by decide +kernel) hsize.1 hc0
  have hhi := Float.mul_le_mul_of_nonneg_left h2 hc hsize.1 (by decide +kernel) hc0
  have hn : (fontMetrics font).height.isNaN = false := Float.mul_isNaN_eq_false hc hsize.1
  change (1.2 : Float) * 1.0 ≤ (fontMetrics font).height at hlo
  change (fontMetrics font).height ≤ (1.2 : Float) * 1073741824.0 at hhi
  rw [Float.le_iff_rank (by decide +kernel) hn] at hlo
  rw [Float.le_iff_rank hn (by decide +kernel)] at hhi
  have c1 : unitRank + 2 ^ 1070 ≤ rankOf ((1.2 : Float) * 1.0) := by decide +kernel
  have c2 : rankOf ((1.2 : Float) * 1073741824.0) ≤ 2 ^ 1105 := by decide +kernel
  have hu := unitRank_eq
  refine ⟨Float.isFinite_of_rankOf_lt hn ?_ ?_, by omega, by omega⟩ <;> unfold infRank <;> omega

/-- 行の高さの位置 `H` からの、凡例の寸法の見積もり：見本の一辺は `H - 1`、行の間隔は `H + 1`、
帯の一行は `H + 6`、名前のほかに項目が取る幅は `2 (H + 4)`（どれも位置で、丸めの誤差を除いて）。 -/
structure MetricsNear (font : FontSpec) (H : ℤ) : Prop where
  height : unitRank + 2 ^ 1070 ≤ H ∧ H ≤ 2 ^ 1105
  box : Float.Near ((fontMetrics font).height - 1.0) (H - unitRank) (2 ^ 1058)
  line : Float.Near ((fontMetrics font).height + 1.0) (H + unitRank) (2 ^ 1058)
  band : Float.Near ((fontMetrics font).height + 1.0 + legendPadding) (H + 6 * unitRank) (2 ^ 1059)
  margin : Float.Near (2.0 * ((fontMetrics font).height - 1.0 + legendPadding))
    (2 * H + 8 * unitRank) (2 ^ 1061)

/-- 文字の大きさが 1 から `2^30` なら、凡例の寸法は行の高さの位置 `H` から `MetricsNear` のとおり。 -/
theorem metricsNear (h1 : 1.0 ≤ font.size) (h2 : font.size ≤ 1073741824.0) :
    MetricsNear font (rankOf (fontMetrics font).height) := by
  obtain ⟨hf, hlo, hhi⟩ := fontHeight_bounds h1 h2
  have hH := Float.near_rankOf hf
  have hone : Float.Near 1.0 unitRank 0 := Float.near_of_rankOf_eq (by decide) (by decide +kernel)
  have hpad : Float.Near legendPadding (5 * unitRank) 0 :=
    Float.near_of_rankOf_eq (by decide) (by decide +kernel)
  have hu := unitRank_eq
  generalize rankOf (fontMetrics font).height = H at hH hlo hhi
  have hbox : Float.Near ((fontMetrics font).height - 1.0) (H - unitRank) (2 ^ 1058) :=
    (hH.sub hone (abs_le.mpr ⟨by omega, by omega⟩)).widen (by omega) (by omega)
  have hline : Float.Near ((fontMetrics font).height + 1.0) (H + unitRank) (2 ^ 1058) :=
    (hH.add hone (abs_le.mpr ⟨by omega, by omega⟩)).widen (by omega) (by omega)
  have hsum : Float.Near ((fontMetrics font).height - 1.0 + legendPadding) (H + 4 * unitRank)
      (2 ^ 1059) :=
    (hbox.add hpad (abs_le.mpr ⟨by omega, by omega⟩)).widen (by omega) (by omega)
  obtain ⟨hsf, hs1, hs2⟩ := hsum
  have hmul := Float.near_natMul (n := 2) (by norm_num) hsf
    (by rw [abs_of_nonneg (by omega)]; omega)
  refine ⟨⟨hlo, hhi⟩, hbox, hline, ?_, hmul.widen (by omega) (by omega)⟩
  exact (hline.add hpad (abs_le.mpr ⟨by omega, by omega⟩)).widen (by omega) (by omega)

end

/-- 大きさの前提のもとで、凡例の寸法は行の高さの位置から `MetricsNear` のとおり。 -/
theorem LegendScale.metricsNear {opts : LegendOptions} {area : Area} (hs : LegendScale opts area) :
    MetricsNear opts.font (rankOf (fontMetrics opts.font).height) :=
  PlotGeometry.metricsNear hs.one_le_size (hs.bounded _ (by simp)).2

/-! ## 名前の幅 -/

/-- 文字の送り幅は有限で負でない。 -/
theorem advanceEm_bounds (c : Char) : (advanceEm c).isFinite = true ∧ 0 ≤ rankOf (advanceEm c) := by
  unfold advanceEm
  split_ifs <;> decide +kernel

/-- 文字の大きさが正の有限数なら、文字列の幅は NaN でなく、位置は負でない。 -/
theorem measureText_width_bounds (text : String) {font : FontSpec} (hf : font.size.isFinite = true)
    (h0 : 0 < rankOf font.size) :
    (measureText text font).width.isNaN = false ∧ 0 ≤ rankOf (measureText text font).width := by
  have hadv : ∀ x ∈ text.toList.map advanceEm, x.isFinite = true ∧ 0 ≤ rankOf x := by
    intro x hx
    obtain ⟨c, -, rfl⟩ := List.mem_map.mp hx
    exact advanceEm_bounds c
  have hunits : text.toList.foldl (fun acc c => acc + advanceEm c) 0.0 =
      (text.toList.map advanceEm).foldl (· + ·) 0.0 := by
    rw [List.foldl_map]
  have hn := foldl_add_isNaN_eq_false _ (show (0.0 : Float).isNaN = false from rfl)
    (fun x hx => (hadv x hx).1)
  have hle := le_foldl_add _ (show (0.0 : Float).isNaN = false from rfl) hadv
  rw [Float.le_iff_rank rfl hn, rankOf_zero] at hle
  have hbold : (if font.bold then (1.08 : Float) else 1.0).isFinite = true ∧
      0 < rankOf (if font.bold then (1.08 : Float) else 1.0) := by
    cases font.bold <;> decide +kernel
  unfold measureText
  dsimp only
  rw [hunits]
  generalize (text.toList.map advanceEm).foldl (· + ·) 0.0 = units at hn hle
  have hn' := Float.mul_isNaN_eq_false_of_ne_zero hn hf h0.ne'
  exact ⟨Float.mul_isNaN_eq_false_of_ne_zero hn' hbold.1 hbold.2.ne',
    Float.rankOf_mul_nonneg (Float.rankOf_mul_nonneg hle h0.le) hbold.2.le⟩

/-! ## 配置の寸法 -/

/-- 項目のある、成功した凡例の配置の寸法と項目の置き方：項目の幅は、ある項目の名前の幅に
2 ×（見本の一辺 + 余白）を足したもの。列の数と項目は、方式ごとに `layoutLegend` のとおり。 -/
structure LegendLayout.Placed (tm : TextMeasurer) (l : LegendLayout) (opts : LegendOptions)
    (area : Area) : Prop where
  labelWidth_eq : ∃ e ∈ l.entries, l.labelWidth = (tm.measure e.name opts.font).width +
    2.0 * ((tm.metrics opts.font).height - 1.0 + legendPadding)
  single : l.mode = .singleFlow →
    l.columns = max (toNatSat (floorNum (opts.canvasWidth / l.labelWidth))) 1 ∧
    l.items = singleFlowItems l.entries l.columns l.area
      ⟨(tm.metrics opts.font).height - 1.0, (tm.metrics opts.font).height + 1.0, l.labelWidth⟩
      opts.font
  dual : l.mode = .dualColumn →
    l.columns =
      max (toNatSat (floorNum (floorNum ((opts.canvasWidth - area.xmin) / l.labelWidth) / 2.0))) 1 ∧
    l.items = dualItems l.columns l.area
      ⟨(tm.metrics opts.font).height - 1.0, (tm.metrics opts.font).height + 1.0, l.labelWidth⟩
      opts.font l.entries.zipIdx 0 0

/-- 項目のある配置はどれも `LegendLayout.Placed` のとおりに置かれている。 -/
theorem layoutLegend_placed (tm : TextMeasurer) (series : List Series) (opts : LegendOptions)
    (area : Area) :
    ∀ l, layoutLegend tm series opts area = .ok l → l.entries ≠ [] → l.Placed tm opts area := by
  unfold layoutLegend
  dsimp only
  split
  · rename_i hnone
    intro l hl hne
    cases hl
    exact absurd (by simpa using (widestIndex_eq_none_iff _).mp hnone) hne
  · rename_i widest wi hsome
    obtain ⟨-, he, hw⟩ := widestIndex_entry hsome
    split
    · simp only [bind, Except.bind]
      split
      · intro l hl
        cases hl
      · intro l hl _
        cases hl
        exact ⟨⟨_, List.mem_of_getElem? he, by rw [hw]⟩, (fun h => by cases h), fun _ => ⟨rfl, rfl⟩⟩
    · simp only [bind, Except.bind]
      split
      · intro l hl
        cases hl
      · intro l hl _
        cases hl
        exact ⟨⟨_, List.mem_of_getElem? he, by rw [hw]⟩, fun _ => ⟨rfl, rfl⟩, (fun h => by cases h)⟩

/-! ## 行の数 -/

/-- 帯を取った領域が空でなければ（`ymin < ymax - 行 × 帯の一行`）、行は `2^52` 未満で、
行 × 帯の一行の位置は `2^1106` 未満。新しい上端は `±2^30` の中にとどまる。 -/
theorem rows_bounds {ymin ymax band : Float} {rows : Nat} (hymin : Float.Near ymin 0 (2 ^ 1104))
    (hymax : Float.Near ymax 0 (2 ^ 1104)) (hband : band.isFinite = true)
    (hb : unitRank ≤ rankOf band) (hv : ymin < ymax - rows.toFloat * band) :
    rows < 2 ^ 52 ∧ rows * rankOf band < 2 ^ 1106 ∧
      Float.Near (ymax - rows.toFloat * band) 0 (2 ^ 1104) := by
  rw [unitRank_eq] at hb
  rw [show rows.toFloat = Float.ofNat rows from rfl] at hv ⊢
  obtain ⟨hn1, hn2⟩ := Float.isNaN_eq_false_of_lt hv
  have hlt := (Float.lt_iff_rank hn1 hn2).mp hv
  rw [Float.rankOf_sub hn2] at hlt
  have hr0 : 0 ≤ rankOf (Float.ofNat rows) := Float.rankOf_ofNat_nonneg rows
  have hR0 : 0 ≤ rankOf (Float.ofNat rows * band) := Float.rankOf_mul_nonneg hr0 (by omega)
  obtain ⟨-, hy1, hy2⟩ := hymax
  obtain ⟨-, hm1, -⟩ := hymin
  -- 帯の位置は `2^1106` 未満：さもなくば新しい下端は `-3 × 2^1104` 以下
  have hR : rankOf (Float.ofNat rows * band) < 2 ^ 1106 := by
    by_contra hge
    have hexact : roundRank (-((3 * 2 ^ 30 * 2 ^ 1074 : Nat) : ℤ)) =
        -((3 * 2 ^ 30 * 2 ^ 1074 : Nat) : ℤ) := by
      rw [roundRank_neg, roundRank_natCast_mul_of_lt (by norm_num)]
    have hmono := roundRank_mono (show rankOf ymax - rankOf (Float.ofNat rows * band) ≤
      -((3 * 2 ^ 30 * 2 ^ 1074 : Nat) : ℤ) by
        simp only [Nat.cast_mul, Nat.cast_pow, Nat.cast_ofNat]; omega)
    rw [hexact] at hmono
    simp only [Nat.cast_mul, Nat.cast_pow, Nat.cast_ofNat] at hmono
    omega
  have hrf : (Float.ofNat rows).isFinite = true := by
    rcases Float.finite_or_infinite (Float.isNaN_ofNat rows) with ⟨hf, -⟩ | ⟨-, hi⟩ | ⟨-, hi⟩
    · exact hf
    · have := (Float.infRank_mul hi hband (by omega)).2
      unfold infRank at this
      omega
    · have := infRank_pos
      omega
  have hprod := Float.mul_lt_of_rankOf_lt hrf hband (k := 1106) (by norm_num) (by norm_num) hR
  have hrows : rows < 2 ^ 52 := by
    by_contra hge
    have hmono : Float.ofNat (2 ^ 52) ≤ Float.ofNat rows :=
      Float.ofNat_le_ofNat (Nat.le_of_not_lt hge)
    rw [Float.le_iff_rank (Float.isNaN_ofNat _) (Float.isNaN_ofNat _),
      Float.rankOf_ofNat_of_lt (by norm_num)] at hmono
    have := Int.mul_le_mul hmono hb (by omega) hr0
    simp only [Nat.cast_mul, Nat.cast_pow, Nat.cast_ofNat] at this
    omega
  have hrank : rankOf (Float.ofNat rows) = rows * 2 ^ 1074 := by
    rw [Float.rankOf_ofNat_of_lt (by omega), Nat.cast_mul, Nat.cast_pow, Nat.cast_ofNat]
  rw [hrank, mul_right_comm] at hprod
  refine ⟨hrows, lt_of_mul_lt_mul_right hprod (by omega), ?_⟩
  have hup := roundRank_mono (show rankOf ymax - rankOf (Float.ofNat rows * band) ≤ rankOf ymax by omega)
  rw [Float.roundRank_rankOf, ← Float.rankOf_sub hn2] at hup
  rw [← Float.rankOf_sub hn2] at hlt
  refine ⟨Float.isFinite_of_rankOf_lt hn2 ?_ ?_, by omega, by omega⟩ <;> unfold infRank <;> omega

/-! ## 列の数 -/

/-- 商の位置が `k` の位置以上なら、`k` 倍した割る数は、割られる数を割る数の `2^-19` 倍までしか
越えない。割られる数は `±2^32` の中、割る数は 1 以上の有限数。 -/
theorem natMul_le_of_le_div {x y : Float} (hx : Float.Near x 0 (2 ^ 1106)) (hy : y.isFinite = true)
    (hy1 : unitRank ≤ rankOf y) {k : Nat} (hk : (k : ℤ) * unitRank ≤ rankOf (x / y)) :
    2 ^ 19 * (k * rankOf y - rankOf x) ≤ rankOf y := by
  rw [unitRank_eq] at hy1 hk
  obtain ⟨hxf, hx1, hx2⟩ := hx
  have hA : |rankOf x| * 2 ^ 1074 ≤ 2 ^ 1106 * rankOf y :=
    calc |rankOf x| * 2 ^ 1074 ≤ 2 ^ 1106 * 2 ^ 1074 :=
          Int.mul_le_mul_of_nonneg_right (abs_le.mpr ⟨by omega, by omega⟩) (by positivity)
      _ ≤ 2 ^ 1106 * rankOf y := Int.mul_le_mul_of_nonneg_left hy1 (by positivity)
  obtain ⟨-, herr⟩ := Float.div_error hxf hy (by omega) hA (by omega)
  have hD := le_abs_self (rankOf (x / y) * rankOf y - rankOf x * 2 ^ 1074)
  have hq : 2 ^ 1074 * ((k : ℤ) * rankOf y) ≤ rankOf (x / y) * rankOf y := by
    rw [mul_left_comm, ← mul_assoc]
    exact Int.mul_le_mul_of_nonneg_right hk (by omega)
  omega

/-- 商の位置が正なら、NaN でない正の割る数は有限：無限大で割った商はゼロ。 -/
theorem isFinite_of_rankOf_div_pos {x y : Float} (hx : x.isFinite = true) (hy : y.isNaN = false)
    (hy0 : 0 < rankOf y) (h : 0 < rankOf (x / y)) : y.isFinite = true := by
  rcases Float.finite_or_infinite hy with ⟨hf, -⟩ | ⟨-, hi⟩ | ⟨-, hi⟩
  · exact hf
  · have := (Float.isZero_div_of_isInf hx (Float.isInf_of_rankOf_eq_infRank hi)).rankOf
    omega
  · have := infRank_pos
    omega

/-- 2 で割った商の位置が正なら、割られる数の位置を越えない。 -/
theorem rankOf_div_two_le {s : Float} (hs : s.isFinite = true) (h : 0 < rankOf (s / 2.0)) :
    rankOf (s / 2.0) ≤ rankOf s := by
  have h2 : rankOf (2.0 : Float) = ((2 * 2 ^ 1074 : Nat) : ℤ) := by decide +kernel
  have hS : rankOf s * 2 ^ 1074 = rankOf s * ((2 ^ 1074 : Nat) : ℤ) := by
    rw [Nat.cast_pow, Nat.cast_ofNat]
  rw [Float.rankOf_div hs (by decide +kernel) (by rw [h2]; positivity), h2, Int.toNat_natCast, hS] at h ⊢
  rcases le_or_gt 0 (rankOf s) with hs0 | hs0
  · calc roundRankQuot (rankOf s * ((2 ^ 1074 : Nat) : ℤ)) (2 * 2 ^ 1074)
        ≤ roundRankQuot (rankOf s * ((2 ^ 1074 : Nat) : ℤ)) (2 ^ 1074) :=
          roundRankQuot_anti (Int.mul_nonneg hs0 (by positivity)) (by positivity) (by omega)
      _ = rankOf s := by rw [roundRankQuot_mul_self _ (by positivity), Float.roundRank_rankOf]
  · have hneg : rankOf s * ((2 ^ 1074 : Nat) : ℤ) ≤ 0 :=
      Int.mul_nonpos_of_nonpos_of_nonneg hs0.le (by positivity)
    have := roundRankQuot_mono (B := 2 * 2 ^ 1074) (by positivity) hneg
    rw [roundRankQuot_zero] at this
    omega

/-- 割られる数 `x` が `±2^32` の中で、商の位置が 2 以上の `c` の位置以上なら、割る数 `W` は有限で、
`c W` は `2^33` を越えない：`c W` が `x` を越えるのは `W` の `2^-19` 倍まで。 -/
theorem columns_fit_of_le_div {x W : Float} {c : Nat} (hx : Float.Near x 0 (2 ^ 1106))
    (hW : W.isNaN = false) (hW1 : unitRank ≤ rankOf W) (h2 : 2 ≤ c)
    (hq : (c : ℤ) * unitRank ≤ rankOf (x / W)) : W.isFinite = true ∧ c * rankOf W ≤ 2 ^ 1107 := by
  have h19 (hWf : W.isFinite = true) := natMul_le_of_le_div hx hWf hW1 hq
  rw [unitRank_eq] at hW1 hq
  have hWf := isFinite_of_rankOf_div_pos hx.1 hW (by omega) (by omega)
  specialize h19 hWf
  have h2W : 2 * rankOf W ≤ c * rankOf W :=
    Int.mul_le_mul_of_nonneg_right (by exact_mod_cast h2) (by omega)
  obtain ⟨-, hx1, hx2⟩ := hx
  exact ⟨hWf, by omega⟩

/-- 一続きの方式で列を二つ以上取るなら、項目の幅は有限で、列 × 項目の幅は描画面の幅をほとんど
越えない。 -/
theorem singleColumns_fit {canvas W : Float} {c : Nat} (hcv : Float.Near canvas 0 (2 ^ 1104))
    (hW : W.isNaN = false) (hW1 : unitRank ≤ rankOf W)
    (hc : c = max (toNatSat (floorNum (canvas / W))) 1) (h2 : 2 ≤ c) :
    W.isFinite = true ∧ c * rankOf W ≤ 2 ^ 1107 := by
  have hk : c ≤ toNatSat (floorNum (canvas / W)) := by omega
  have hq := (mul_le_rankOf_of_le_toNatSat (by omega) hk).trans (rankOf_floorNum_bounds _).2
  rw [← unitRank_eq_cast] at hq
  exact columns_fit_of_le_div (hcv.widen (by omega) (by omega)) hW hW1 h2 hq

/-- 二列の方式で列を二つ以上取るなら、項目の幅は有限で、列 × 項目の幅は
描画面の幅 − 左端 をほとんど越えない。 -/
theorem dualColumns_fit {canvas xmin W : Float} {c : Nat} (hcv : Float.Near canvas 0 (2 ^ 1104))
    (hxmin : Float.Near xmin 0 (2 ^ 1104)) (hW : W.isNaN = false) (hW1 : unitRank ≤ rankOf W)
    (hc : c = max (toNatSat (floorNum (floorNum ((canvas - xmin) / W) / 2.0))) 1) (h2 : 2 ≤ c) :
    W.isFinite = true ∧ c * rankOf W ≤ 2 ^ 1107 := by
  have hp : Float.Near (canvas - xmin) 0 (2 ^ 1106) :=
    (hcv.sub hxmin (abs_le.mpr ⟨by omega, by omega⟩)).widen (by omega) (by omega)
  have hqf : ((canvas - xmin) / W).isFinite = true := by
    rcases Float.finite_or_infinite hW with ⟨hf, -⟩ | ⟨-, hi⟩ | ⟨-, hi⟩
    · exact Float.isFinite_div_of_one_le hp.1 hf
        ((Float.le_iff_rank rfl hW).mpr (by rw [rankOf_one, ← unitRank_eq_cast]; exact hW1))
    · exact (Float.isZero_div_of_isInf hp.1 (Float.isInf_of_rankOf_eq_infRank hi)).isFinite
    · have := infRank_pos
      have := unitRank_eq
      omega
  have hs := rankOf_floorNum_bounds ((canvas - xmin) / W)
  have hsf : (floorNum ((canvas - xmin) / W)).isFinite = true := by
    have hb := Float.rankOf_finite_bounds hqf
    rw [← overflowRank_eq_cast] at hb
    have hI : overflowRank + 2 ^ 1074 < infRank := by
      unfold overflowRank infRank
      omega
    have hn : (floorNum ((canvas - xmin) / W)).isNaN = false := by
      rw [floorNum, Float.isNaN_toIntegral]
      exact Float.isNaN_eq_false_of_isFinite hqf
    refine Float.isFinite_of_rankOf_lt hn ?_ ?_ <;> omega
  have hk : c ≤ toNatSat (floorNum (floorNum ((canvas - xmin) / W) / 2.0)) := by omega
  have ht := (mul_le_rankOf_of_le_toNatSat (by omega) hk).trans (rankOf_floorNum_bounds _).2
  simp only [Nat.cast_pow, Nat.cast_ofNat] at ht
  have hts := rankOf_div_two_le hsf (by omega)
  have hq : (c : ℤ) * unitRank ≤ rankOf ((canvas - xmin) / W) := by rw [unitRank_eq]; omega
  exact columns_fit_of_le_div hp hW hW1 h2 hq

/-- 左右の列が並んで収まるなら（2 × 列 × 項目の幅 ≤ 領域の幅）、項目の幅は有限で、列 × 項目の幅は
`2^33` を越えない。 -/
theorem sidesFit_columns {x0 x1 W : Float} {c : Nat} (hx0 : Float.Near x0 0 (2 ^ 1104))
    (hx1 : Float.Near x1 0 (2 ^ 1104)) (hW : W.isNaN = false) (hW0 : 0 ≤ rankOf W) (hc : 1 ≤ c)
    (h : 2 * c * rankOf W ≤ rankOf x1 - rankOf x0) : W.isFinite = true ∧ c * rankOf W ≤ 2 ^ 1107 := by
  rw [mul_assoc] at h
  have hcW : rankOf W ≤ c * rankOf W := le_mul_of_one_le_left hW0 (by exact_mod_cast hc)
  obtain ⟨-, h01, h02⟩ := hx0
  obtain ⟨-, h11, h12⟩ := hx1
  refine ⟨?_, by omega⟩
  rcases Float.finite_or_infinite hW with ⟨hf, -⟩ | ⟨-, hi⟩ | ⟨-, hi⟩
  · exact hf
  · unfold infRank at hi
    omega
  · have := infRank_pos
    omega

/-! ## 格子の見積もり -/

/-- 凡例の格子の寸法の見積もり：領域の左右の端 `x0`、`x1` は `±2^30` の中、帯の最初の行の上端
`top` は `±2^31` の中、見本の一辺 `box` は `2^-5` 以上 `2^32` 以下で、行の間隔 `line` と項目の幅
`width` を越えない。行は `2^52` 未満で、行 × 行の間隔は `2^32` を越えない。 -/
structure GridScale (x0 x1 top box line width : Float) (rows : Nat) : Prop where
  x0_near : Float.Near x0 0 (2 ^ 1104)
  x1_near : Float.Near x1 0 (2 ^ 1104)
  top_near : Float.Near top 0 (2 ^ 1105)
  box_bounds : box.isFinite = true ∧ 2 ^ 1069 ≤ rankOf box ∧ rankOf box ≤ 2 ^ 1106
  box_le_line : line.isFinite = true ∧ rankOf box ≤ rankOf line
  box_le_width : width.isNaN = false ∧ rankOf box ≤ rankOf width
  rows_lt : rows < 2 ^ 52
  rows_line : rows * rankOf line ≤ 2 ^ 1106

/-- 列 × 項目の幅は `2^33` を越えず、項目の幅は有限。 -/
def LegendLayout.ColumnsFit (l : LegendLayout) : Prop :=
  l.labelWidth.isFinite = true ∧ l.columns * rankOf l.labelWidth ≤ 2 ^ 1107

section
variable {series : List Series} {opts : LegendOptions} {area : Area} {l : LegendLayout}

/-- 項目のある配置の、項目の幅の見積もり：NaN でなく、名前のほかに取る幅 `2 (H + 4)` 以上。 -/
theorem LegendLayout.labelWidth_bounds (hs : LegendScale opts area)
    (h : layoutLegend .heuristic series opts area = .ok l) (hne : l.entries ≠ []) :
    l.labelWidth.isNaN = false ∧
      2 * rankOf (fontMetrics opts.font).height + 8 * unitRank - 2 ^ 1061 ≤ rankOf l.labelWidth := by
  have hm := hs.metricsNear
  have hsize := hs.near (x := opts.font.size) (by simp)
  obtain ⟨e, -, hW⟩ := (layoutLegend_placed .heuristic series opts area l h hne).labelWidth_eq
  simp only [TextMeasurer.heuristic_measure, TextMeasurer.heuristic_metrics] at hW
  obtain ⟨hwn, hw0⟩ := measureText_width_bounds e.name hsize.1
    (Float.rankOf_pos_of_one_le hs.one_le_size)
  obtain ⟨hmf, hm1, -⟩ := hm.margin
  have hn := Float.add_isNaN_eq_false_of_isFinite_right hwn hmf
  have hle := Float.add_le_add_right ((Float.le_iff_rank rfl hwn).mpr (by rw [rankOf_zero]; exact hw0))
    _ (Float.add_isNaN_eq_false_of_isFinite_right rfl hmf) hn
  rw [Float.le_iff_rank (Float.add_isNaN_eq_false_of_isFinite_right rfl hmf) hn,
    Float.rankOf_add (Float.add_isNaN_eq_false_of_isFinite_right rfl hmf), rankOf_zero, Int.zero_add,
    Float.roundRank_rankOf] at hle
  rw [hW]
  exact ⟨hn, by omega⟩

/-- 大きさの前提のもとで、項目のある配置の格子は見積もり `GridScale` に収まる。行の数の上界は
帯を取った後の領域が空でないことから出る。 -/
theorem layoutLegend_gridScale (hs : LegendScale opts area)
    (h : layoutLegend .heuristic series opts area = .ok l) (hne : l.entries ≠ []) :
    GridScale l.area.xmin l.area.xmax (legendTop l.area) ((fontMetrics opts.font).height - 1.0)
      ((fontMetrics opts.font).height + 1.0) l.labelWidth l.rows := by
  have hr := layoutLegend_ok_reserves h
  have hm := hs.metricsNear
  have hu := unitRank_eq
  obtain ⟨hWn, hW⟩ := LegendLayout.labelWidth_bounds hs h hne
  obtain ⟨hH1, hH2⟩ := hm.height
  obtain ⟨hbf, hb1, hb2⟩ := hm.box
  obtain ⟨hlf, hl1, hl2⟩ := hm.line
  obtain ⟨hdf, hd1, hd2⟩ := hm.band
  have hvalid := hr.area_valid hne
  rw [hr.area_eq hne, hr.reserved_eq hne, TextMeasurer.heuristic_metrics] at hvalid ⊢
  simp only [Area.valid, Bool.and_eq_true, decide_eq_true_eq] at hvalid
  obtain ⟨hrows, hrl, hy⟩ := rows_bounds (hs.near (x := area.ymin) (by simp))
    (hs.near (x := area.ymax) (by simp)) hdf (by omega) hvalid.2
  have hpad : Float.Near (2.0 * legendPadding) (10 * unitRank) 0 :=
    Float.near_of_rankOf_eq (by decide) (by decide +kernel)
  have hrl' : (l.rows : ℤ) * rankOf ((fontMetrics opts.font).height + 1.0) ≤
      l.rows * rankOf ((fontMetrics opts.font).height + 1.0 + legendPadding) :=
    Int.mul_le_mul_of_nonneg_left (by omega) (Int.natCast_nonneg _)
  refine ⟨hs.near (by simp), hs.near (by simp), ?_, ⟨hbf, by omega, by omega⟩, ⟨hlf, by omega⟩,
    ⟨hWn, by omega⟩, hrows, by omega⟩
  exact (hy.add hpad (abs_le.mpr ⟨by omega, by omega⟩)).widen (by omega) (by omega)

/-- 列を二つ以上取った配置では、列 × 項目の幅は `2^33` を越えない：列の数は 描画面の幅（二列の
方式では 描画面の幅 − 左端）を項目の幅で割って決めたものだから。 -/
theorem LegendLayout.columnsFit_of_two_le (hs : LegendScale opts area)
    (h : layoutLegend .heuristic series opts area = .ok l) (hne : l.entries ≠ [])
    (hc : 2 ≤ l.columns) : l.ColumnsFit := by
  obtain ⟨hWn, hW⟩ := LegendLayout.labelWidth_bounds hs h hne
  have hm := hs.metricsNear
  have hW1 : unitRank ≤ rankOf l.labelWidth := by
    have := hm.height.1
    have := unitRank_eq
    omega
  have hp := layoutLegend_placed .heuristic series opts area l h hne
  cases hmode : l.mode with
  | singleFlow =>
    exact singleColumns_fit (hs.near (by simp)) hWn hW1 (hp.single hmode).1 hc
  | dualColumn =>
    exact dualColumns_fit (hs.near (by simp)) (hs.near (by simp)) hWn hW1 (hp.dual hmode).1 hc

end

end PlotGeometry
