import PlotGeometry.Proofs.Layout.Styles
import PlotGeometry.Proofs.Layout.YLabels
/-!
# 主軸は副軸の値を見ない

副軸の系列の値と欠けの印だけが違う（数は同じ）二つの入力を、同じ配置器で配置する。どちらも
描けたなら、主軸の配置（縮尺、ラベルの値・文字・縦の位置、ラベルの幅）は同じで、描画領域の
左端は `==` で、上端と下端はビットまで同じ。

副軸の値は、見た目の割り当て、凡例、右の狭めの幅、X 軸に届きうる。ここでは、その道のどれも
主軸の系列の選び方、縮尺、左の狭め、値の縦の写し方に届かないことを、手順ごとの合同として示す。
入力の違いは `Series.blankSecondary`（副軸の系列の値と欠けの印を、数だけ残して消す）で消える
ものとして述べる。

組み直しは、入った領域をそのまま返すか、一度狭めた領域を返す（`convergeYAxesRun_area_cases`）。
どちらを返すかは右の狭めにもよるので二つの配置で違いうるが、返さなかった方と `==` で等しいときに
だけ入った領域を返すので、左端は `==` で一致する（ゼロの符号までは決まらない）。

* `Assigner.assignFrom_blankSecondary`、`layoutLegend_blankSecondary` — 割り当てと凡例は消した値を見ない
* `filter_primary_eq` — 主軸の系列は同じ
* `setupYAxes_primary_head` — 主軸の配置は軸の並びの先頭で、残りは右の副軸
* `PlotTrace.banded_eq` — Y 軸の組み直しに入る領域は同じ
* `primaryAxis_ignores_secondarySamples` — 主定理
-/

namespace PlotGeometry

variable {tk : Toolkit}

open LayoutPass

/-! ## 副軸の値を消す -/

/-- 副軸の系列の値と欠けの印を、数だけ残して消す。主軸の系列はそのまま。 -/
def Series.blankSecondary (s : Series) : Series :=
  match s.axis with
  | .primary => s
  | .secondary =>
    { s with values := Array.replicate s.values.size 0.0,
             absent := Array.replicate s.absent.size false }

namespace Series

variable (s : Series)

@[simp] theorem axis_blankSecondary : s.blankSecondary.axis = s.axis := by
  unfold blankSecondary
  split <;> simp_all

@[simp] theorem name_blankSecondary : s.blankSecondary.name = s.name := by
  unfold blankSecondary
  split <;> rfl

@[simp] theorem color_blankSecondary : s.blankSecondary.color = s.color := by
  unfold blankSecondary
  split <;> rfl

@[simp] theorem style_blankSecondary : s.blankSecondary.style = s.style := by
  unfold blankSecondary
  split <;> rfl

theorem blankSecondary_of_primary {s : Series} (h : s.axis = .primary) : s.blankSecondary = s := by
  unfold blankSecondary
  rw [h]

theorem blankSecondary_restyle (st : Option SeriesStyle) :
    ({ s with style := st } : Series).blankSecondary = { s.blankSecondary with style := st } := by
  obtain ⟨name, start, stop, step, values, absent, axis, color, style⟩ := s
  cases axis <;> rfl

end Series

/-- 副軸の系列があるかは、値を消しても変わらない。 -/
theorem any_secondary_blankSecondary (xs : List Series) :
    (xs.map Series.blankSecondary).any (·.axis == .secondary) = xs.any (·.axis == .secondary) := by
  simp [List.any_map, Function.comp_def]

theorem any_secondary_congr {xs ys : List Series}
    (h : xs.map Series.blankSecondary = ys.map Series.blankSecondary) :
    xs.any (·.axis == .secondary) = ys.any (·.axis == .secondary) := by
  rw [← any_secondary_blankSecondary xs, h, any_secondary_blankSecondary]

/-! ## 見た目の割り当てと凡例 -/

namespace Assigner

/-- 見た目は系列の色と軸だけで決まる。 -/
theorem styleFor_blankSecondary (a : Assigner) (s : Series) (cursor : Nat) :
    a.styleFor s.blankSecondary cursor = a.styleFor s cursor := by
  unfold styleFor
  rw [Series.axis_blankSecondary, Series.color_blankSecondary]

theorem assignFrom_blankSecondary (a : Assigner) (xs : List Series) (cursor : Nat) :
    (a.assignFrom xs cursor).map Series.blankSecondary = a.assignFrom (xs.map Series.blankSecondary) cursor := by
  induction xs generalizing cursor with
  | nil => rfl
  | cons s rest ih =>
    simp only [assignFrom, List.map_cons, styleFor_blankSecondary, Series.blankSecondary_restyle, ih]

end Assigner

theorem assignStyles_blankSecondary (c : ChartConfig) (dualAxis : Bool) (xs : List Series) :
    (assignStyles c dualAxis xs).map Series.blankSecondary =
      assignStyles c dualAxis (xs.map Series.blankSecondary) :=
  Assigner.assignFrom_blankSecondary _ xs 0

theorem uniqueByName.go_blankSecondary (seen : List String) (xs : List Series) :
    uniqueByName.go seen (xs.map Series.blankSecondary) =
      (uniqueByName.go seen xs).map Series.blankSecondary := by
  induction xs generalizing seen with
  | nil => rfl
  | cons s rest ih =>
    simp only [List.map_cons, uniqueByName.go, Series.name_blankSecondary]
    split <;> simp [ih]

theorem legendEntries_blankSecondary (xs : List Series) (unique : Bool) :
    legendEntries (xs.map Series.blankSecondary) unique = legendEntries xs unique := by
  have hentry : ∀ s : Series, s.blankSecondary.legendEntry = s.legendEntry := fun s => by
    simp only [Series.legendEntry, Series.name_blankSecondary, Series.style_blankSecondary,
      Series.color_blankSecondary, Series.axis_blankSecondary]
  cases unique
  · simp [legendEntries, Function.comp_def, hentry]
  · simp [legendEntries, uniqueByName, uniqueByName.go_blankSecondary, Function.comp_def, hentry]

/-- 凡例は系列の名前、色、軸だけを見る。 -/
theorem layoutLegend_blankSecondary (tm : TextMeasurer) (xs : List Series) (opts : LegendOptions)
    (area : Area) :
    layoutLegend tm (xs.map Series.blankSecondary) opts area = layoutLegend tm xs opts area := by
  unfold layoutLegend
  rw [legendEntries_blankSecondary]

theorem reserveLegend_congr {c : ChartConfig} {xs ys : List Series}
    (h : xs.map Series.blankSecondary = ys.map Series.blankSecondary) (area : Area) (dualAxis : Bool)
    (flags : DisplayFlags) :
    reserveLegend tk c xs area dualAxis flags = reserveLegend tk c ys area dualAxis flags := by
  unfold reserveLegend
  rw [← layoutLegend_blankSecondary tk.measurer xs, h, layoutLegend_blankSecondary]

/-! ## 主軸の系列と主軸の配置 -/

/-- 主軸の系列は、副軸の値を消しても同じ。 -/
theorem filter_primary_blankSecondary (xs : List Series) :
    (xs.map Series.blankSecondary).filter (·.axis == .primary) = xs.filter (·.axis == .primary) := by
  induction xs with
  | nil => rfl
  | cons s rest ih =>
    cases hs : s.axis with
    | primary => simp [hs, Series.blankSecondary_of_primary hs, ih]
    | secondary => simp [hs, ih]

theorem filter_primary_eq {xs ys : List Series}
    (h : xs.map Series.blankSecondary = ys.map Series.blankSecondary) :
    xs.filter (·.axis == .primary) = ys.filter (·.axis == .primary) := by
  rw [← filter_primary_blankSecondary xs, h, filter_primary_blankSecondary]

/-- 二軸でなければ、どの系列も主軸に載る。 -/
def AllPrimaryUnlessDual (dualAxis : Bool) (series : List Series) : Prop :=
  dualAxis = false → ∀ s ∈ series, s.axis = .primary

theorem allPrimaryUnlessDual_any (series : List Series) :
    AllPrimaryUnlessDual (series.any (·.axis == .secondary)) series := by
  intro h s hs
  have hs' : (s.axis == .secondary) = false := by
    rw [List.any_eq_false] at h
    simpa using h s hs
  cases ha : s.axis
  · rfl
  · simp [ha] at hs'

/-- 割り当ては軸を変えないので、二軸でなければ割り当てた系列もすべて主軸。 -/
theorem allPrimaryUnlessDual_assignStyles (c : ChartConfig) (xs : List Series) :
    AllPrimaryUnlessDual (xs.any (·.axis == .secondary))
      (assignStyles c (xs.any (·.axis == .secondary)) xs) := by
  intro hd s hs
  obtain ⟨s', hs', st, rfl⟩ := Assigner.mem_assignFrom hs
  exact allPrimaryUnlessDual_any xs hd s' hs'

/-- 主軸の縮尺に使う系列は、二軸でもそうでなくても主軸の系列。 -/
theorem members_primary {dualAxis : Bool} {series : List Series}
    (h : AllPrimaryUnlessDual dualAxis series) :
    series.filter (fun s => !dualAxis || s.axis == .primary) = series.filter (·.axis == .primary) := by
  cases dualAxis with
  | true => simp
  | false =>
    simp only [Bool.not_false, Bool.true_or, List.filter_true]
    symm
    rw [List.filter_eq_self]
    intro s hs
    simp [h rfl s hs]

/-- 主軸の配置は、主軸の系列が同じなら同じ。 -/
theorem setupYAxis_primary_congr (c : ChartConfig) {xs ys : List Series} (flags : DisplayFlags)
    {dualAxis : Bool} (hx : AllPrimaryUnlessDual dualAxis xs) (hy : AllPrimaryUnlessDual dualAxis ys)
    (h : xs.map Series.blankSecondary = ys.map Series.blankSecondary) (side : YAxisSide)
    (o : AxisOverrides) :
    setupYAxis tk c xs flags dualAxis (.primary, side, o) = setupYAxis tk c ys flags dualAxis (.primary, side, o) := by
  unfold setupYAxis
  simp only
  rw [members_primary hx, members_primary hy, filter_primary_eq h]

/-- 主軸の辺：二軸なら左、そうでなければ設定の辺。 -/
def primarySide (c : ChartConfig) (dualAxis : Bool) : YAxisSide :=
  if dualAxis then .left else c.yAxisSide

/-- 軸の並びの先頭は主軸の配置で、残りはどれも右の副軸。 -/
theorem setupYAxes_primary_head (c : ChartConfig) (series : List Series) (flags : DisplayFlags)
    (dualAxis : Bool) :
    ∃ rest, (setupYAxes tk c series flags dualAxis).1 =
        (setupYAxis tk c series flags dualAxis (.primary, primarySide c dualAxis, c.y)).1 :: rest ∧
      ∀ l ∈ rest, l.side = .right := by
  rw [setupYAxes_fst]
  cases dualAxis with
  | false => exact ⟨[], rfl, by simp⟩
  | true => exact ⟨_, rfl, by simp [setupYAxis_side]⟩

theorem setupYAxis_axis (c : ChartConfig) (series : List Series) (flags : DisplayFlags)
    (dualAxis : Bool) (p : AxisSide × YAxisSide × AxisOverrides) :
    (setupYAxis tk c series flags dualAxis p).1.axis = p.1 := by
  obtain ⟨axis, side, o⟩ := p
  rfl

/-! ## 狭めが動かす端 -/

section Insets

variable (c : ChartConfig)

@[simp] theorem labelInset_ymin (a : Area) (l : YAxisLayout) : (labelInset c a l).ymin = a.ymin := by
  unfold labelInset
  split
  · cases l.side <;> rfl
  · rfl

@[simp] theorem labelInset_ymax (a : Area) (l : YAxisLayout) : (labelInset c a l).ymax = a.ymax := by
  unfold labelInset
  split
  · cases l.side <;> rfl
  · rfl

theorem labelInset_xmin_of_right (a : Area) {l : YAxisLayout} (h : l.side = .right) :
    (labelInset c a l).xmin = a.xmin := by
  unfold labelInset
  split
  · rw [h]
  · rfl

theorem foldl_labelInset_ymin (axes : List YAxisLayout) (a : Area) :
    (axes.foldl (labelInset c) a).ymin = a.ymin := by
  induction axes generalizing a with
  | nil => rfl
  | cons l rest ih => rw [List.foldl_cons, ih, labelInset_ymin]

theorem foldl_labelInset_ymax (axes : List YAxisLayout) (a : Area) :
    (axes.foldl (labelInset c) a).ymax = a.ymax := by
  induction axes generalizing a with
  | nil => rfl
  | cons l rest ih => rw [List.foldl_cons, ih, labelInset_ymax]

/-- 右の軸だけの狭めは左端を動かさない。 -/
theorem foldl_labelInset_xmin_of_right {axes : List YAxisLayout} (h : ∀ l ∈ axes, l.side = .right)
    (a : Area) : (axes.foldl (labelInset c) a).xmin = a.xmin := by
  induction axes generalizing a with
  | nil => rfl
  | cons l rest ih =>
    rw [List.foldl_cons, ih (fun l' hl' => h l' (List.mem_cons_of_mem _ hl')),
      labelInset_xmin_of_right c a (h l List.mem_cons_self)]

end Insets

/-- 値の縦の位置は、領域の上端と下端だけで決まる。 -/
theorem YAxisLayout.placeLabels_congr (l : YAxisLayout) {a b : Area} (hmin : a.ymin = b.ymin)
    (hmax : a.ymax = b.ymax) : l.placeLabels a = l.placeLabels b := by
  unfold placeLabels valueToPixel Area.height
  rw [hmin, hmax]

/-! ## 組み直しの結果の領域 -/

/-- 組み直しが終われば、結果の領域は入った領域（一度狭めても `==` で動かないとき）か、
一度狭めた空でない領域。 -/
theorem convergeYAxesRun_area_cases {c : ChartConfig} {series : List Series} {flags : DisplayFlags}
    {dualAxis : Bool} {area a : Area} {axes : List YAxisLayout} {i : Nat} {s s' : Progress}
    (h : convergeYAxesRun tk c series flags dualAxis area s = (.ok (a, axes, i), s')) :
    axes = (setupYAxes tk c series flags dualAxis).1 ∧
      ((a = area ∧ (applyLabelInsets c area axes).sameValue area = true) ∨
        (a = applyLabelInsets c area axes ∧ a.valid = true)) := by
  obtain ⟨rfl, hv, ⟨rfl, -, hs⟩ | ⟨rfl, -, -⟩⟩ :=
    convergeYAxesRun_ok_cases tk c series flags dualAxis h
  · exact ⟨rfl, .inl ⟨rfl, hs⟩⟩
  · exact ⟨rfl, .inr ⟨rfl, hv⟩⟩

/-- 主軸の配置 `P` を先頭に、右の軸 `rest` を後に狭めるとき、組み直しの結果の領域は、入った
領域と上端・下端が同じで、左端は入った領域を `P` だけで狭めた左端と `==`。 -/
theorem area_of_primary_head {c : ChartConfig} {area a : Area} {P : YAxisLayout}
    {rest : List YAxisLayout} (hright : ∀ l ∈ rest, l.side = .right)
    (h : (a = area ∧ (applyLabelInsets c area (P :: rest)).sameValue area = true) ∨
      (a = applyLabelInsets c area (P :: rest) ∧ a.valid = true)) :
    a.ymin = area.ymin ∧ a.ymax = area.ymax ∧ (a.xmin == (labelInset c area P).xmin) = true := by
  have hnext : (applyLabelInsets c area (P :: rest)).xmin = (labelInset c area P).xmin := by
    rw [applyLabelInsets_eq_foldl, List.foldl_cons, foldl_labelInset_xmin_of_right c hright]
  have hymin : (applyLabelInsets c area (P :: rest)).ymin = area.ymin := by
    rw [applyLabelInsets_eq_foldl, foldl_labelInset_ymin]
  have hymax : (applyLabelInsets c area (P :: rest)).ymax = area.ymax := by
    rw [applyLabelInsets_eq_foldl, foldl_labelInset_ymax]
  rcases h with ⟨rfl, hsame⟩ | ⟨rfl, hvalid⟩
  · -- 狭めても動かなかった：入った領域の左端は、狭めた左端と `==`
    simp only [Area.sameValue, Bool.and_eq_true] at hsame
    rw [← hnext]
    exact ⟨rfl, rfl, Float.beq_symm hsame.1.1.1⟩
  · simp only [Area.valid, Bool.and_eq_true, decide_eq_true_eq] at hvalid
    rw [hnext] at hvalid ⊢
    exact ⟨hymin, hymax, Float.beq_self (Float.isNaN_eq_false_of_lt hvalid.1).1⟩

/-- 主軸の配置：二軸なら左に、そうでなければ設定の辺に、主軸の系列から。 -/
def primaryLayout (tk : Toolkit) (c : ChartConfig) (input : List Series) : YAxisLayout :=
  let d := input.any (·.axis == .secondary)
  (setupYAxis tk c (assignStyles c d input) (c.displayFlags input.length) d
    (.primary, primarySide c d, c.y)).1

/-- 副軸の値だけが違う入力の主軸の配置は同じ。 -/
theorem primaryLayout_congr (c : ChartConfig) {in₁ in₂ : List Series}
    (hsame : in₁.map Series.blankSecondary = in₂.map Series.blankSecondary) :
    primaryLayout tk c in₁ = primaryLayout tk c in₂ := by
  have hdual := any_secondary_congr hsame
  have hlen : in₁.length = in₂.length := by simpa using congrArg List.length hsame
  have hall₁ := allPrimaryUnlessDual_assignStyles c in₁
  have hall₂ := allPrimaryUnlessDual_assignStyles c in₂
  rw [← hdual] at hall₂
  have hstyled : (assignStyles c (in₁.any (·.axis == .secondary)) in₁).map Series.blankSecondary =
      (assignStyles c (in₁.any (·.axis == .secondary)) in₂).map Series.blankSecondary := by
    rw [assignStyles_blankSecondary, assignStyles_blankSecondary, hsame]
  unfold primaryLayout
  simp only
  rw [← hdual, ← hlen, setupYAxis_primary_congr c _ hall₁ hall₂ hstyled]

/-- 描けた結果の主軸は、主軸の配置にラベルの縦の位置を入れたもの。結果の領域は組み直しに
入った領域と上端・下端が同じで、左端はそれを主軸の配置だけで狭めた左端と `==`。 -/
theorem PlotTrace.primary_spec {c : ChartConfig} {input : List Series} {p : PlotLayout}
    (t : PlotTrace tk c input p) :
    p.yAxis .primary = some ((primaryLayout tk c input).placeLabels p.area) ∧
      p.area.ymin = t.banded.ymin ∧ p.area.ymax = t.banded.ymax ∧
      (p.area.xmin == (labelInset c t.banded (primaryLayout tk c input)).xmin) = true := by
  obtain ⟨q, q', hq⟩ := t.loop_eq
  rw [convergeYAxes_run] at hq
  obtain ⟨hax, harea⟩ := convergeYAxesRun_area_cases hq
  obtain ⟨rest, hhead, hright⟩ := setupYAxes_primary_head c
    (assignStyles c (input.any (·.axis == .secondary)) input) (c.displayFlags input.length)
    (input.any (·.axis == .secondary))
  rw [hhead] at hax
  rw [hax] at harea
  obtain ⟨hymin, hymax, hxmin⟩ := area_of_primary_head hright harea
  refine ⟨?_, hymin, hymax, hxmin⟩
  have haxis : (primaryLayout tk c input).axis = .primary := setupYAxis_axis _ _ _ _ _
  rw [PlotLayout.yAxis, t.yAxes_eq, hax, List.map_cons, List.find?_cons]
  simp [primaryLayout, YAxisLayout.placeLabels] at haxis ⊢
  simp [haxis]

/-! ## 組み直しに入る領域 -/

/-- 副軸の値だけが違う入力の配置では、Y 軸の組み直しに入る領域と凡例は同じ。 -/
theorem PlotTrace.banded_eq {c : ChartConfig} {in₁ in₂ : List Series} {p₁ p₂ : PlotLayout}
    (t₁ : PlotTrace tk c in₁ p₁) (t₂ : PlotTrace tk c in₂ p₂)
    (hsame : in₁.map Series.blankSecondary = in₂.map Series.blankSecondary) :
    t₁.banded = t₂.banded := by
  have hdual := any_secondary_congr hsame
  have hlen : in₁.length = in₂.length := by simpa using congrArg List.length hsame
  have hstyled : (assignStyles c (in₁.any (·.axis == .secondary)) in₁).map Series.blankSecondary =
      (assignStyles c (in₂.any (·.axis == .secondary)) in₂).map Series.blankSecondary := by
    rw [assignStyles_blankSecondary, assignStyles_blankSecondary, hsame, hdual]
  -- 手順を一つずつ：同じ関数に同じ領域を渡すので、結果も同じ
  have hcanvas : t₁.canvas = t₂.canvas := by
    have h := t₁.canvas_eq
    rw [t₂.canvas_eq] at h
    exact (Except.ok.inj h).symm
  have htitled : t₁.titled = t₂.titled := by
    have h := t₁.title_eq
    rw [hcanvas, t₂.title_eq] at h
    exact (Prod.mk.inj (Except.ok.inj h)).1.symm
  have hvtitled : t₁.vtitled = t₂.vtitled := by
    have h := t₁.vtitle_eq
    rw [htitled, hdual, t₂.vtitle_eq] at h
    exact (Prod.mk.inj (Except.ok.inj h)).1.symm
  have hlegended : t₁.legended = t₂.legended := by
    have h := t₁.legend_eq
    rw [reserveLegend_congr hstyled, hvtitled, hdual, hlen, t₂.legend_eq] at h
    exact (Prod.mk.inj (Except.ok.inj h)).1.symm
  have h := t₁.band_eq
  rw [hlegended, hlen, t₂.band_eq] at h
  exact (Except.ok.inj h).symm

/-! ## 主定理 -/

/-- 主軸の配置と領域の左端・上端・下端は、副軸の系列の値と欠けの印に関わらない。

副軸の系列の値と欠けの印だけが違う（数は同じ）二つの入力を、同じ配置器で配置して、どちらも
描けたとする。このとき主軸の配置（縮尺、ラベルの値・文字・縦の位置、ラベルの幅）は一つに
決まって両方に現れ、描画領域の左端は `==` で、上端と下端はビットまで等しい。副軸の系列がない
入力では二つの入力は同じものになる。 -/
theorem primaryAxis_ignores_secondarySamples {cv : Converger} {in₁ in₂ : List Series}
    {p₁ p₂ : PlotLayout}
    (hsame : in₁.map Series.blankSecondary = in₂.map Series.blankSecondary)
    (h₁ : (cv.converge in₁).outcome = .ok (.plotted p₁))
    (h₂ : (cv.converge in₂).outcome = .ok (.plotted p₂)) :
    (∃ l, p₁.yAxis .primary = some l ∧ p₂.yAxis .primary = some l) ∧
      (p₁.area.xmin == p₂.area.xmin) = true ∧ p₁.area.ymin = p₂.area.ymin ∧
      p₁.area.ymax = p₂.area.ymax := by
  obtain ⟨_, hrun₁⟩ := Converger.converge_run h₁
  obtain ⟨_, hrun₂⟩ := Converger.converge_run h₂
  obtain ⟨t₁⟩ := layoutPass_plotted hrun₁
  obtain ⟨t₂⟩ := layoutPass_plotted hrun₂
  obtain ⟨hl₁, hymin₁, hymax₁, hxmin₁⟩ := t₁.primary_spec
  obtain ⟨hl₂, hymin₂, hymax₂, hxmin₂⟩ := t₂.primary_spec
  have hband := t₁.banded_eq t₂ hsame
  have hP := @primaryLayout_congr cv.toolkit cv.config _ _ hsame
  rw [← hband, ← hP] at hxmin₂
  rw [← hband] at hymin₂ hymax₂
  have hymin : p₁.area.ymin = p₂.area.ymin := hymin₁.trans hymin₂.symm
  have hymax : p₁.area.ymax = p₂.area.ymax := hymax₁.trans hymax₂.symm
  refine ⟨⟨_, hl₁, ?_⟩, Float.beq_trans hxmin₁ (Float.beq_symm hxmin₂), hymin, hymax⟩
  rw [hl₂, ← hP, YAxisLayout.placeLabels_congr _ hymin hymax]

/-- 主軸に一本、副軸に一本の、30 秒おきの二点の系列。副軸の値は `secondary`。 -/
def dualSampleSeries (secondary : Array Float) : List Series :=
  [{ name := "a", startTime := 0, stopTime := 60, stepTime := 30, values := #[1.0, 2.0],
     absent := #[false, false] },
   { name := "b", startTime := 0, stopTime := 60, stepTime := 30, values := secondary,
     absent := #[false, false], axis := .secondary }]

theorem dualSampleSeries_blankSecondary {a b : Array Float} (h : a.size = b.size) :
    (dualSampleSeries a).map Series.blankSecondary = (dualSampleSeries b).map Series.blankSecondary := by
  simp [dualSampleSeries, Series.blankSecondary, h]

/-- 両軸に刻みの上書きを与えた配置器。 -/
def dualStepConverger : Converger :=
  ⟨{ y := { step := some 1.0 }, yRight := { step := some 1000.0 } }, .standard, {}, .init⟩

/-- 副軸の値を 10、20 から 300、5000 に変えても、どちらも描け、主軸の配置と左端・上端・下端は
変わらない。 -/
theorem primaryAxis_ignores_secondarySamples_resampled :
    (dualSampleSeries #[10.0, 20.0]).map Series.blankSecondary =
        (dualSampleSeries #[300.0, 5000.0]).map Series.blankSecondary ∧
      ∃ p₁ p₂, (dualStepConverger.converge (dualSampleSeries #[10.0, 20.0])).outcome = .ok (.plotted p₁) ∧
        (dualStepConverger.converge (dualSampleSeries #[300.0, 5000.0])).outcome = .ok (.plotted p₂) ∧
        (∃ l, p₁.yAxis .primary = some l ∧ p₂.yAxis .primary = some l) ∧
        (p₁.area.xmin == p₂.area.xmin) = true ∧ p₁.area.ymin = p₂.area.ymin ∧
        p₁.area.ymax = p₂.area.ymax := by
  have hsame := dualSampleSeries_blankSecondary (a := #[10.0, 20.0]) (b := #[300.0, 5000.0]) (by simp)
  obtain ⟨p₁, hp₁, -⟩ := exists_plotted_of_any
    (dualStepConverger.converge (dualSampleSeries #[10.0, 20.0])).outcome (fun _ => true)
    (by decide +kernel)
  obtain ⟨p₂, hp₂, -⟩ := exists_plotted_of_any
    (dualStepConverger.converge (dualSampleSeries #[300.0, 5000.0])).outcome (fun _ => true)
    (by decide +kernel)
  exact ⟨hsame, p₁, p₂, hp₁, hp₂, primaryAxis_ignores_secondarySamples hsame hp₁ hp₂⟩

end PlotGeometry
