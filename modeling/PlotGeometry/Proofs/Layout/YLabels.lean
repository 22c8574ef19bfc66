import Mathlib
import PlotGeometry.Canvas.Paint
import PlotGeometry.Proofs.Layout.Stages
/-!
# Y のラベルは取っておいた列に収まる

Y 軸のラベルの幅 `w` は、測ったラベルの幅の最大。組み直しは領域の左端（右の軸なら右端）を
キャンバスの端から `余白 + 1.02 w` の所まで内へ寄せ、描くときはラベルを左端から `0.02 w` 左に
右揃えで（右の軸なら右端から右に左揃えで）置く。だからラベルは、余白と領域の端のあいだの
`1.02 w` の列に、領域との間に `0.02 w` の隙間を空けて収まる。

浮動小数点の計算のままで成り立つのは次の三つ（`YAxisLayout.LabelsFit`）。

* どのラベルも `w` より広くない（`maxNum` の畳み込み）
* 揃える点は領域の端を越えない（負でない数を引いても大きくならない）
* 領域の端は `余白 + 1.02 w` より外にない（組み直しの不動点では、狭めはもう端を動かさない）

実数で計算すればここからラベルが `[余白, 左端]`（右の軸なら `[右端, 幅 − 余白]`）に収まる
ことが出る。浮動小数点では、最後の桁の丸めの分だけはみ出しうる。NaN が入ると比べられない
ので、三つとも「より小さくない」の形で書く。

縦の位置は領域に収まるとは限らない（`yLabel_y_escapes_area`）。目盛りは下端に刻みを足して
作り、上端を刻みの `10^-9` 倍まで越えたものも残すので、丸めで上端をわずかに越えた目盛りの
ラベルは領域の上端より上に出る。下端か上端が無限大なら、縦の位置は NaN になる。
-/

namespace PlotGeometry

variable {tk : Toolkit}

/-! ## ラベルの幅 -/

/-- `maxNum` で畳み込んだ結果は、NaN でない初めの値と、NaN でないどの要素より小さくない。 -/
theorem le_foldl_maxNum {α : Type} (f : α → Float) :
    ∀ (xs : List α) {init : Float}, init.isNaN = false →
      init ≤ xs.foldl (fun acc x => maxNum acc (f x)) init ∧
        ∀ x ∈ xs, (f x).isNaN = false → f x ≤ xs.foldl (fun acc x => maxNum acc (f x)) init
  | [], _, h => ⟨Float.le_refl h, fun _ hx => absurd hx List.not_mem_nil⟩
  | y :: ys, init, h => by
    have hstep : init ≤ maxNum init (f y) := le_maxNum_left _ h
    obtain ⟨hinit, hall⟩ := le_foldl_maxNum f ys (Float.isNaN_eq_false_of_le hstep).2
    refine ⟨Float.le_trans hstep hinit, fun x hx hfx => ?_⟩
    rcases List.mem_cons.mp hx with rfl | hx
    · exact Float.le_trans (le_maxNum_right init hfx) hinit
    · exact hall x hx hfx

/-- 軸のラベルの幅は、見積もり `tm` と書体 `font` で測ったラベルの幅を 0 から `maxNum` で
畳み込んだもの。 -/
def YAxisLayout.WidthMeasured (tm : TextMeasurer) (font : FontSpec) (l : YAxisLayout) : Prop :=
  l.labelWidth = l.labels.foldl (fun acc lab => maxNum acc (tm.measure lab.text font).width) 0.0

theorem setupYAxis_widthMeasured (c : ChartConfig) (series : List Series) (flags : DisplayFlags)
    (dualAxis : Bool) (plan : AxisSide × YAxisSide × AxisOverrides) :
    (setupYAxis tk c series flags dualAxis plan).1.WidthMeasured tk.measurer c.font := by
  obtain ⟨axis, side, o⟩ := plan
  rfl

/-- ラベルの縦の位置を決めても、文字と幅は変わらない。 -/
theorem YAxisLayout.WidthMeasured.placeLabels {tm : TextMeasurer} {font : FontSpec} {l : YAxisLayout}
    (h : l.WidthMeasured tm font) (area : Area) : (l.placeLabels area).WidthMeasured tm font := by
  unfold YAxisLayout.WidthMeasured YAxisLayout.placeLabels
  rw [List.foldl_map]
  exact h

section Width

variable {tm : TextMeasurer} {font : FontSpec} {l : YAxisLayout}

theorem YAxisLayout.WidthMeasured.zero_le (h : l.WidthMeasured tm font) : 0.0 ≤ l.labelWidth := by
  rw [h]
  exact (le_foldl_maxNum (fun lab : YAxisLabel => (tm.measure lab.text font).width) l.labels
    (by decide)).1

/-- どのラベルも、軸のラベルの幅より広くない。 -/
theorem YAxisLayout.WidthMeasured.not_lt (h : l.WidthMeasured tm font) {lab : YAxisLabel}
    (hlab : lab ∈ l.labels) : ¬l.labelWidth < (tm.measure lab.text font).width := by
  intro hlt
  have hw := (Float.isNaN_eq_false_of_lt hlt).2
  rw [h] at hlt
  exact Float.not_lt_of_le ((le_foldl_maxNum (fun lab : YAxisLabel => (tm.measure lab.text font).width)
    l.labels (by decide)).2 lab hlab hw) hlt

end Width

/-! ## 組み直しの不動点での端 -/

/-- 辺がどれも違う軸の列による狭めは、そのうちどの軸 `l` についても、`l` の狭めを最後にした
ものと同じ。 -/
theorem foldl_labelInset_of_mem (c : ChartConfig) {axes : List YAxisLayout} {l : YAxisLayout}
    (hp : axes.Pairwise (·.side ≠ ·.side)) (hl : l ∈ axes) (a : Area) :
    ∃ b, axes.foldl (labelInset c) a = labelInset c b l := by
  obtain ⟨pre, post, rfl⟩ := List.append_of_mem hl
  have hpost : ∀ l' ∈ post, l'.side ≠ l.side := by
    intro l' hm
    have htail := (List.pairwise_append.mp hp).2.1
    exact ((List.pairwise_cons.mp htail).1 l' hm).symm
  refine ⟨post.foldl (labelInset c) (pre.foldl (labelInset c) a), ?_⟩
  rw [List.foldl_append, List.foldl_cons, labelInset_foldl_comm c _ hpost]

/-- 狭めの不動点 `a` では、ラベルの幅が正の左の軸について、左端は `余白 + 1.02 w` より
左にない。右の軸なら、右端は `幅 − (余白 + 1.02 w)` より右にない。 -/
theorem labelInset_fixed_reserved {c : ChartConfig} {a : Area} {axes : List YAxisLayout}
    (hp : axes.Pairwise (·.side ≠ ·.side)) (hfix : (applyLabelInsets c a axes).sameValue a = true)
    {l : YAxisLayout} (hl : l ∈ axes) (hw : 0.0 < l.labelWidth) :
    (l.side = .left → ¬a.xmin < c.margin + l.labelWidth * labelInsetFactor) ∧
      (l.side = .right → ¬c.width - (c.margin + l.labelWidth * labelInsetFactor) < a.xmax) := by
  obtain ⟨b, hb⟩ := foldl_labelInset_of_mem c hp hl a
  rw [applyLabelInsets_eq_foldl, hb] at hfix
  obtain ⟨hxmin, hxmax, -, -⟩ := Area.sameValue_eq_true.mp hfix
  unfold labelInset at hxmin hxmax
  rw [if_pos hw] at hxmin hxmax
  cases hs : l.side with
  | left =>
    rw [hs] at hxmin
    refine ⟨fun _ hlt => ?_, fun h => absurd h (by decide)⟩
    have hk := (Float.isNaN_eq_false_of_lt hlt).2
    exact Float.not_lt_of_le_of_beq (le_maxNum_right _ hk) hxmin hlt
  | right =>
    rw [hs] at hxmax
    refine ⟨fun h => absurd h (by decide), fun _ hlt => ?_⟩
    have hk := (Float.isNaN_eq_false_of_lt hlt).1
    exact Float.not_lt_of_ge_of_beq (minNum_le_right _ hk) hxmax hlt

/-! ## 描く位置 -/

/-- 左の軸のラベルは右揃えで、揃える点は領域の左端より右にない。右の軸のラベルは左揃えで、
揃える点は右端より左にない。 -/
theorem yLabelAnchor_outside {p : PlotLayout} {l : YAxisLayout} (hw : 0.0 ≤ l.labelWidth) :
    (l.side = .left → (yLabelAnchor p l).2 = .right ∧ ¬p.area.xmin < (yLabelAnchor p l).1) ∧
      (l.side = .right → (yLabelAnchor p l).2 = .left ∧ ¬(yLabelAnchor p l).1 < p.area.xmax) := by
  have hgap : 0 ≤ rankOf (l.labelWidth * yLabelGap) :=
    Float.rankOf_mul_nonneg (Float.rankOf_of_zero_le hw).2 (by decide)
  unfold yLabelAnchor
  cases hs : l.side with
  | left =>
    refine ⟨fun _ => ⟨rfl, fun hlt => ?_⟩, fun h => absurd h (by decide)⟩
    obtain ⟨hx, hd⟩ := Float.isNaN_eq_false_of_lt hlt
    exact Float.not_lt_of_le (Float.sub_le_of_nonneg hx hgap hd) hlt
  | right =>
    refine ⟨fun h => absurd h (by decide), fun _ => ⟨rfl, fun hlt => ?_⟩⟩
    obtain ⟨hd, hx⟩ := Float.isNaN_eq_false_of_lt hlt
    exact Float.not_lt_of_le (Float.le_add_of_nonneg hx hgap hd) hlt

/-! ## 描けた結果 -/

/-- Y 軸 `l` のラベルが、描くときに取っておいた列に収まる：見積もり `tm` で測ったどのラベルも
軸のラベルの幅 `w` より広くなく、左の軸なら右揃えの点は領域の左端より右になく、左端は `余白 + 1.02 w`
より左にない（右の軸はその鏡映し）。 -/
structure YAxisLayout.LabelsFit (tm : TextMeasurer) (c : ChartConfig) (p : PlotLayout)
    (l : YAxisLayout) : Prop where
  narrow : ∀ lab ∈ l.labels, ¬l.labelWidth < (tm.measure lab.text p.labelFont).width
  left : l.side = .left →
    (yLabelAnchor p l).2 = .right ∧ ¬p.area.xmin < (yLabelAnchor p l).1 ∧
      (0.0 < l.labelWidth → ¬p.area.xmin < c.margin + l.labelWidth * labelInsetFactor)
  right : l.side = .right →
    (yLabelAnchor p l).2 = .left ∧ ¬(yLabelAnchor p l).1 < p.area.xmax ∧
      (0.0 < l.labelWidth → ¬c.width - (c.margin + l.labelWidth * labelInsetFactor) < p.area.xmax)

/-- 描けた結果の Y 軸は、配置の見積もりとラベルの書体で測った幅を持ち、辺がどれも違う。 -/
theorem PlotTrace.yAxes_measured {c : ChartConfig} {input : List Series} {p : PlotLayout}
    (t : PlotTrace tk c input p) :
    (∀ l ∈ p.yAxes, l.WidthMeasured tk.measurer p.labelFont) ∧ p.yAxes.Pairwise (·.side ≠ ·.side) := by
  obtain ⟨q, q', hq⟩ := t.loop_eq
  rw [convergeYAxes_run] at hq
  obtain ⟨haxes, -, -, -⟩ := convergeYAxesRun_ok _ _ _ _ _ hq
  rw [t.yAxes_eq, t.labelFont_eq, haxes]
  constructor
  · intro l hl
    obtain ⟨l₀, hl₀, rfl⟩ := List.mem_map.mp hl
    rw [setupYAxes_fst] at hl₀
    obtain ⟨plan, -, rfl⟩ := List.mem_map.mp hl₀
    exact (setupYAxis_widthMeasured _ _ _ _ plan).placeLabels p.area
  · exact List.pairwise_map.mpr (setupYAxes_sides_pairwise _ _ _ _ _)

/-- どの設定、見積もり、系列でも、描けた結果のどの Y 軸のラベルも、同じ見積もりで測って描けば
取っておいた列に収まる。 -/
theorem yLabels_fit_reserved_columns (cv : Converger) (series : List Series) (p : PlotLayout)
    (h : (cv.converge series).outcome = .ok (.plotted p)) :
    ∀ l ∈ p.yAxes, l.LabelsFit cv.toolkit.measurer cv.config p := by
  obtain ⟨s', hrun⟩ := Converger.converge_run h
  obtain ⟨t⟩ := layoutPass_plotted hrun
  obtain ⟨hmeasured, hsides⟩ := t.yAxes_measured
  have hfix := t.iterations_spec.2.2
  intro l hl
  have hw := (hmeasured l hl).zero_le
  have hanchor := yLabelAnchor_outside (p := p) hw
  have hreserved := fun hpos => labelInset_fixed_reserved hsides hfix hl hpos
  exact ⟨fun lab hlab => (hmeasured l hl).not_lt hlab,
    fun hs => ⟨(hanchor.1 hs).1, (hanchor.1 hs).2, fun hpos => (hreserved hpos).1 hs⟩,
    fun hs => ⟨(hanchor.2 hs).1, (hanchor.2 hs).2, fun hpos => (hreserved hpos).2 hs⟩⟩

/-- 結果を調べる真偽の式が成り立てば、描けた結果がある。閉じた入力で配置を評価するときに使う。 -/
theorem exists_plotted_of_any (r : Except LayoutFailure LayoutOutcome) (P : PlotLayout → Bool)
    (h : ((r.toOption.bind LayoutOutcome.plot?).any P) = true) :
    ∃ p, r = .ok (.plotted p) ∧ P p = true := by
  rcases r with e | o
  · simp [Except.toOption] at h
  · cases o with
    | plotted p => exact ⟨p, rfl, by simpa [Except.toOption, LayoutOutcome.plot?] using h⟩
    | noData n => simp [Except.toOption, LayoutOutcome.plot?] at h

/-- 刻みを 1 に上書きした設定で二点の系列を配置すると描けて、ラベルは取っておいた列に
収まる。 -/
theorem yLabels_fit_reserved_columns_unit_step :
    ∃ p, (Converger.converge ⟨{ y := { step := some 1.0 } }, .standard, {}, .init⟩
        twoSampleSeries).outcome = .ok (.plotted p) ∧
      ∀ l ∈ p.yAxes, l.LabelsFit .heuristic { y := { step := some 1.0 } } p := by
  obtain ⟨p, hp, -⟩ := exists_plotted_of_any
    (Converger.converge ⟨{ y := { step := some 1.0 } }, .standard, {}, .init⟩ twoSampleSeries).outcome
    (fun _ => true) (by decide +kernel)
  exact ⟨p, hp, yLabels_fit_reserved_columns _ _ p hp⟩

/-! ## 縦の位置は領域からはみ出しうる -/

/-- 二点の系列 `-5.0, -4.81`。刻みを 0.1 に上書きすると、上端は `-48 × 0.1 = -4.800000000000001`
で、下端 `-5.0` に刻みを二度足した目盛り `-4.8` は上端をわずかに越える。 -/
def roundedTopSeries : List Series :=
  [{ name := "a", startTime := 0, stopTime := 120, stepTime := 60, values := #[-5.0, -4.81],
     absent := #[false, false] }]

/-- 二点の系列 `-1e308, 1e308`。刻みを `1e-300` に上書きすると、下端 `⌊-1e308 / 1e-300⌋ × 1e-300`
は負の無限大になる。 -/
def farApartSeries : List Series :=
  [{ name := "a", startTime := 0, stopTime := 120, stepTime := 60, values := #[-1e308, 1e308],
     absent := #[false, false] }]

/-- ラベルの縦の位置は領域に収まるとは限らない。`roundedTopSeries` を刻み 0.1 で配置すると、
最上段のラベルは領域の上端より上（`9.99999999999892 < 10`）。`farApartSeries` を刻み `1e-300`
で配置すると、下端が無限大なので最下段のラベルの縦の位置は NaN で、領域の下端にない。 -/
theorem yLabel_y_escapes_area :
    (∃ p, (layoutGraph { y := { step := some 0.1 } } roundedTopSeries .standard).outcome = .ok (.plotted p) ∧
      ∃ l ∈ p.yAxes, ∃ lab ∈ l.labels, lab.y < p.area.ymin) ∧
    (∃ p, (layoutGraph { y := { step := some 1e-300 } } farApartSeries .standard).outcome = .ok (.plotted p) ∧
      ∃ l ∈ p.yAxes, ∃ lab, l.labels.head? = some lab ∧ lab.y.isNaN = true) := by
  constructor
  · obtain ⟨p, hp, hlow⟩ := exists_plotted_of_any
      (layoutGraph { y := { step := some 0.1 } } roundedTopSeries .standard).outcome
      (fun p => p.yAxes.any fun l => l.labels.any fun lab => decide (lab.y < p.area.ymin))
      (by decide +kernel)
    simp only [List.any_eq_true, decide_eq_true_eq] at hlow
    exact ⟨p, hp, hlow⟩
  · obtain ⟨p, hp, hnan⟩ := exists_plotted_of_any
      (layoutGraph { y := { step := some 1e-300 } } farApartSeries .standard).outcome
      (fun p => p.yAxes.any fun l => l.labels.head?.any fun lab => lab.y.isNaN)
      (by decide +kernel)
    simp only [List.any_eq_true, Option.any_eq_true] at hnan
    exact ⟨p, hp, hnan⟩

end PlotGeometry
