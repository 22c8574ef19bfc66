import PlotGeometry.Layout.Converge
/-!
# 配置の計算を開く

配置の計算 `LayoutPass`（状態を残す、止まりうる計算）を一手ずつ読むための補題と、
グラフを描けたときの途中の値。

* `LayoutPass.bind_ok`、`LayoutPass.bind_error` — つないだ計算の成功と失敗を、前後の計算に分ける
* `LayoutPass.Raises` — 計算が止まる理由の性質。つなぎ方ごとに保たれる
* `PlotTrace` — 描けた結果に至る、各手順の領域と置いた題
* `layoutPass_plotted` — 描けた結果には必ず `PlotTrace` がある
-/

namespace PlotGeometry

variable {tk : Toolkit}

namespace LayoutPass

variable {α β : Type} {s s' s'' : Progress}

/-! ## 一手の計算 -/

theorem run_bind (x : LayoutPass α) (f : α → LayoutPass β) (s : Progress) :
    (x >>= f).run.run s =
      match x.run.run s with
      | (.ok a, s') => (f a).run.run s'
      | (.error e, s') => (.error e, s') := by
  show (match x s with | (a, s) => ExceptT.bindCont f a s) = _
  rcases hx : x s with ⟨r, s'⟩
  have hrun : x.run.run s = (r, s') := hx
  rw [hrun]
  cases r <;> rfl

@[simp] theorem run_pure (a : α) (s : Progress) :
    (pure a : LayoutPass α).run.run s = (.ok a, s) := rfl

@[simp] theorem run_throw (e : LayoutFailure) (s : Progress) :
    (throw e : LayoutPass α).run.run s = (.error e, s) := rfl

@[simp] theorem run_modify (f : Progress → Progress) (s : Progress) :
    (modify f : LayoutPass Unit).run.run s = (.ok (), f s) := rfl

@[simp] theorem run_warn (ws : List Warning) (s : Progress) :
    (warn ws).run.run s = (.ok (), { s with warnings := s.warnings ++ ws }) := rfl

@[simp] theorem run_advance (stage : LayoutStage) (s : Progress) :
    (advance stage).run.run s = (.ok (), { s with stage, entered := s.entered ++ [stage] }) := rfl

theorem run_fromChart (r : Except ChartError α) (s : Progress) :
    (fromChart r).run.run s = (match r with | .ok a => .ok a | .error e => .error (.chart e), s) := by
  cases r <;> rfl

/-! ## 成功と失敗を分ける -/

/-- つないだ計算が成功したなら、前の計算も成功し、その値から後の計算が成功した。 -/
theorem bind_ok {x : LayoutPass α} {f : α → LayoutPass β} {b : β}
    (h : (x >>= f).run.run s = (.ok b, s'')) :
    ∃ a s', x.run.run s = (.ok a, s') ∧ (f a).run.run s' = (.ok b, s'') := by
  rw [run_bind] at h
  rcases hx : x.run.run s with ⟨r, s'⟩
  rw [hx] at h
  cases r with
  | error e => cases h
  | ok a => exact ⟨a, s', rfl, h⟩

/-- つないだ計算が止まったなら、前の計算で止まったか、前の計算の値から後の計算で止まった。 -/
theorem bind_error {x : LayoutPass α} {f : α → LayoutPass β} {e : LayoutFailure}
    (h : (x >>= f).run.run s = (.error e, s'')) :
    (∃ s', x.run.run s = (.error e, s')) ∨
      ∃ a s', x.run.run s = (.ok a, s') ∧ (f a).run.run s' = (.error e, s'') := by
  rw [run_bind] at h
  rcases hx : x.run.run s with ⟨r, s'⟩
  rw [hx] at h
  cases r with
  | error e' =>
    cases h
    exact .inl ⟨_, rfl⟩
  | ok a => exact .inr ⟨a, s', rfl, h⟩

theorem fromChart_ok {r : Except ChartError α} {a : α}
    (h : (fromChart r).run.run s = (.ok a, s')) : r = .ok a ∧ s' = s := by
  cases r with
  | error e => cases h
  | ok b =>
    cases h
    exact ⟨rfl, rfl⟩

/-! ## 止まる理由 -/

/-- `x` が止まるときの理由はいつも `P` を満たす。 -/
def Raises (x : LayoutPass α) (P : LayoutFailure → Prop) : Prop :=
  ∀ s e s', x.run.run s = (.error e, s') → P e

variable {P : LayoutFailure → Prop}

theorem Raises.bind {x : LayoutPass α} {f : α → LayoutPass β} (hx : x.Raises P)
    (hf : ∀ a, (f a).Raises P) : (x >>= f).Raises P := by
  intro s e s'' h
  rcases bind_error h with ⟨s', he⟩ | ⟨a, s', -, he⟩
  · exact hx s e s' he
  · exact hf a s' e s'' he

theorem raises_ite {c : Prop} [Decidable c] {x y : LayoutPass α} (hx : x.Raises P)
    (hy : y.Raises P) : (if c then x else y).Raises P := by
  split
  · exact hx
  · exact hy

theorem raises_pure (a : α) : (pure a : LayoutPass α).Raises P := by
  intro s e s' h
  cases h

theorem raises_modify (f : Progress → Progress) : (modify f : LayoutPass Unit).Raises P := by
  intro s e s' h
  cases h

theorem raises_warn (ws : List Warning) : (warn ws).Raises P := by
  intro s e s' h
  cases h

theorem raises_advance (stage : LayoutStage) : (advance stage).Raises P := by
  intro s e s' h
  cases h

theorem raises_throw {e : LayoutFailure} (he : P e) : (throw e : LayoutPass α).Raises P := by
  intro s e' s' h
  cases h
  exact he

theorem raises_fromChart {r : Except ChartError α} (hr : ∀ e, r = .error e → P (.chart e)) :
    (fromChart r).Raises P := by
  intro s e s' h
  cases r with
  | ok a => cases h
  | error e' =>
    cases h
    exact hr e' rfl

theorem raises_ofExcept {r : Except LayoutFailure α} (hr : ∀ e, r = .error e → P e) :
    (MonadExcept.ofExcept r : LayoutPass α).Raises P := by
  intro s e s' h
  cases r with
  | ok a => cases h
  | error e' =>
    cases h
    exact hr _ rfl

theorem Raises.mono {x : LayoutPass α} {Q : LayoutFailure → Prop} (hx : x.Raises P)
    (hPQ : ∀ e, P e → Q e) : x.Raises Q :=
  fun s e s' h => hPQ e (hx s e s' h)

end LayoutPass

open LayoutPass

/-! ## 手順ごとの失敗

領域を狭める手順は、狭めた結果が空になったときだけ止まり、その理由は手順の名前を持つ
`areaCollapsed`。 -/

section Failures

variable {c : ChartConfig} {area : Area} {e : ChartError}

theorem Area.ensureValid_error {a : Area} {st : String} (h : a.ensureValid st = .error e) :
    e = .areaCollapsed st a := by
  unfold Area.ensureValid at h
  split at h
  · cases h
  · cases h
    rfl

/-- 確かめた領域に何かを添えても、止まる理由は変わらない。 -/
theorem Area.ensureValid_map_error {β : Type} {a : Area} {st : String} {f : Area → β}
    (h : (a.ensureValid st).map f = .error e) : e = .areaCollapsed st a := by
  cases hv : a.ensureValid st with
  | ok b =>
    rw [hv] at h
    cases h
  | error e' =>
    rw [hv] at h
    cases h
    exact Area.ensureValid_error hv

theorem reserveTitle_error (h : reserveTitle tk c area = .error e) :
    ∃ a, e = .areaCollapsed "title" a := by
  unfold reserveTitle at h
  split at h
  · cases h
  · exact ⟨_, Area.ensureValid_map_error h⟩

theorem reserveLeftTitle_error (h : reserveLeftTitle tk c area = .error e) :
    ∃ a, e = .areaCollapsed "vertical title" a := by
  unfold reserveLeftTitle at h
  split at h
  · cases h
  · exact ⟨_, Area.ensureValid_map_error h⟩

theorem reserveRightTitle_error {dualAxis : Bool} (h : reserveRightTitle tk c area dualAxis = .error e) :
    ∃ a, e = .areaCollapsed "right vertical title" a := by
  unfold reserveRightTitle at h
  split at h
  · exact ⟨_, Area.ensureValid_map_error h⟩
  · cases h

theorem reserveVerticalTitles_error {dualAxis : Bool}
    (h : reserveVerticalTitles tk c area dualAxis = .error e) :
    ∃ a, e = .areaCollapsed "vertical title" a ∨ e = .areaCollapsed "right vertical title" a := by
  unfold reserveVerticalTitles at h
  cases hl : reserveLeftTitle tk c area with
  | error e' =>
    rw [hl] at h
    cases h
    obtain ⟨a, rfl⟩ := reserveLeftTitle_error hl
    exact ⟨a, .inl rfl⟩
  | ok r =>
    obtain ⟨a₁, left⟩ := r
    rw [hl] at h
    dsimp only [bind, Except.bind] at h
    cases hr : reserveRightTitle tk c a₁ dualAxis with
    | error e' =>
      rw [hr] at h
      cases h
      obtain ⟨a, rfl⟩ := reserveRightTitle_error hr
      exact ⟨a, .inr rfl⟩
    | ok r' =>
      rw [hr] at h
      cases h

theorem layoutLegend_error {tm : TextMeasurer} {series : List Series} {opts : LegendOptions}
    (h : layoutLegend tm series opts area = .error e) : ∃ a, e = .areaCollapsed "legend" a := by
  unfold layoutLegend at h
  dsimp only at h
  split at h
  · cases h
  · simp only [bind, Except.bind] at h
    split at h
    · rename_i err hv
      cases h
      exact ⟨_, Area.ensureValid_error hv⟩
    · cases h

theorem reserveLegend_error {series : List Series} {dualAxis : Bool} {flags : DisplayFlags}
    (h : reserveLegend tk c series area dualAxis flags = .error e) :
    ∃ a, e = .areaCollapsed "legend" a := by
  unfold reserveLegend at h
  split at h
  · cases hl : layoutLegend tk.measurer series ⟨c.width, c.font, c.uniqueLegend, dualAxis⟩ area with
    | ok l =>
      rw [hl] at h
      cases h
    | error e' =>
      rw [hl] at h
      cases h
      exact layoutLegend_error hl
  · cases h

theorem reserveXLabelBand_error {flags : DisplayFlags} (h : reserveXLabelBand tk c area flags = .error e) :
    ∃ a, e = .areaCollapsed "x axis labels" a := by
  unfold reserveXLabelBand at h
  split at h
  · cases h
  · exact ⟨_, Area.ensureValid_error h⟩

theorem checkSupported_error (h : checkSupported c = .error e) : ∃ m, e = .unsupported m := by
  unfold checkSupported at h
  split at h
  · cases h
    exact ⟨_, rfl⟩
  · split at h
    · split at h
      · cases h
        exact ⟨_, rfl⟩
      · cases h
    · cases h

theorem firstFault_some {series : List Series} {check : Series → Option SeriesFault}
    (h : firstFault series check = some e) : ∃ name f, e = .inconsistentSeries name f := by
  obtain ⟨s, -, hs⟩ := List.exists_of_findSome?_eq_some h
  cases hc : check s with
  | none =>
    rw [hc] at hs
    cases hs
  | some f =>
    rw [hc] at hs
    cases hs
    exact ⟨s.name, f, rfl⟩

/-- 時刻の範囲が止まるのは、64 ビットを越えたか、最後の点が全体の始まりより前のとき。 -/
theorem drawnEndTime_error_cases {series : List Series} {mode : LineMode} {ms mt : Int}
    {e : LayoutFailure} (h : drawnEndTime series mode ms mt = .error e) :
    (∃ o, e = .overflow o) ∨ ∃ name l st, e = .chart (.inconsistentSeries name (.lastBeforeStart l st)) := by
  unfold drawnEndTime at h
  split at h
  · split at h
    · cases h
      exact .inl ⟨_, rfl⟩
    · split at h
      · cases h
      · split at h
        · cases h
          exact .inr ⟨_, _, _, rfl⟩
        · cases h
  · cases h

end Failures

/-! ## 手順ごとの成功 -/

theorem rejectFault_ok {series : List Series} {check : Series → Option SeriesFault}
    {u : Unit} {s s' : Progress} (h : (rejectFault series check).run.run s = (.ok u, s')) :
    firstFault series check = none ∧ s' = s := by
  unfold rejectFault at h
  cases hf : firstFault series check with
  | some e =>
    rw [hf] at h
    cases h
  | none =>
    rw [hf] at h
    cases h
    exact ⟨rfl, rfl⟩

/-- 帯を取る手順が成功したなら、題、縦の題、凡例、X のラベルの帯がこの順に成功した。 -/
theorem reserveBands_ok {c : ChartConfig} {series : List Series} {flags : DisplayFlags}
    {dualAxis : Bool} {area area' : Area} {titles : List PlacedText} {legend : Option LegendLayout}
    {s s' : Progress}
    (h : (reserveBands tk c series flags dualAxis area).run.run s = (.ok (area', titles, legend), s')) :
    ∃ a₁ t₁ a₂ t₂ a₃, reserveTitle tk c area = .ok (a₁, t₁) ∧
      reserveVerticalTitles tk c a₁ dualAxis = .ok (a₂, t₂) ∧
      reserveLegend tk c series a₂ dualAxis flags = .ok (a₃, legend) ∧
      reserveXLabelBand tk c a₃ flags = .ok area' ∧ titles = t₁ ++ t₂ := by
  unfold reserveBands at h
  obtain ⟨⟨a₁, t₁⟩, s₁, h₁, h⟩ := bind_ok h
  obtain ⟨_, s₂, -, h⟩ := bind_ok h
  obtain ⟨⟨a₂, t₂⟩, s₃, h₃, h⟩ := bind_ok h
  obtain ⟨_, s₄, -, h⟩ := bind_ok h
  obtain ⟨⟨a₃, l₃⟩, s₅, h₅, h⟩ := bind_ok h
  obtain ⟨_, s₆, -, h⟩ := bind_ok h
  obtain ⟨a₄, s₇, h₇, h⟩ := bind_ok h
  rw [run_pure] at h
  cases h
  exact ⟨a₁, t₁, a₂, t₂, a₃, (fromChart_ok h₁).1, (fromChart_ok h₃).1, (fromChart_ok h₅).1,
    (fromChart_ok h₇).1, rfl⟩

/-! ## 手順ごとの止まる理由 -/

/-- 領域が空になって止まる。 -/
def Collapses (e : LayoutFailure) : Prop := ∃ st a, e = .chart (.areaCollapsed st a)

/-- 系列の誤りで止まる。 -/
def SeriesRejected (e : LayoutFailure) : Prop := ∃ name f, e = .chart (.inconsistentSeries name f)

theorem rejectFault_raises (series : List Series) (check : Series → Option SeriesFault) :
    (rejectFault series check).Raises SeriesRejected := by
  unfold rejectFault
  split
  · rename_i e he
    obtain ⟨name, f, rfl⟩ := firstFault_some he
    exact raises_throw ⟨name, f, rfl⟩
  · exact raises_pure ()

theorem ensure_raises (a : Area) (st : String) : (ensure a st).Raises Collapses :=
  raises_fromChart fun _ he => ⟨st, a, by rw [Area.ensureValid_error he]⟩

theorem reserveBands_raises (c : ChartConfig) (series : List Series) (flags : DisplayFlags)
    (dualAxis : Bool) (area : Area) : (reserveBands tk c series flags dualAxis area).Raises Collapses := by
  unfold reserveBands
  refine Raises.bind (raises_fromChart fun e he => ?_) fun ⟨a₁, t₁⟩ => ?_
  · obtain ⟨a, rfl⟩ := reserveTitle_error he
    exact ⟨_, a, rfl⟩
  refine Raises.bind (raises_advance _) fun _ => ?_
  refine Raises.bind (raises_fromChart fun e he => ?_) fun ⟨a₂, t₂⟩ => ?_
  · obtain ⟨a, rfl | rfl⟩ := reserveVerticalTitles_error he
    · exact ⟨_, a, rfl⟩
    · exact ⟨_, a, rfl⟩
  refine Raises.bind (raises_advance _) fun _ => ?_
  refine Raises.bind (raises_fromChart fun e he => ?_) fun ⟨a₃, l₃⟩ => ?_
  · obtain ⟨a, rfl⟩ := reserveLegend_error he
    exact ⟨_, a, rfl⟩
  refine Raises.bind (raises_advance _) fun _ => ?_
  refine Raises.bind (raises_fromChart fun e he => ?_) fun a₄ => raises_pure _
  obtain ⟨a, rfl⟩ := reserveXLabelBand_error he
  exact ⟨_, a, rfl⟩

/-- 描く時刻の範囲は、線の終わりの時刻の計算でしか止まらない。 -/
theorem drawableTimeRange_raises_of {xo : AxisOverrides} {series : List Series} {mode : LineMode}
    {ms mt : Int} {P : LayoutFailure → Prop} (hd : ∀ e, drawnEndTime series mode ms mt = .error e → P e) :
    (drawableTimeRange tk xo series mode ms mt).Raises P := by
  unfold drawableTimeRange
  refine Raises.bind (raises_ofExcept hd) fun endTime => ?_
  refine Raises.bind (raises_warn _) fun _ => ?_
  exact raises_ite (Raises.bind (raises_warn _) fun _ => raises_pure _) (raises_pure _)

theorem drawableTimeRange_raises (xo : AxisOverrides) (series : List Series) (mode : LineMode)
    (ms mt : Int) :
    (drawableTimeRange tk xo series mode ms mt).Raises fun e => (∃ o, e = .overflow o) ∨ SeriesRejected e :=
  drawableTimeRange_raises_of fun _ he => (drawnEndTime_error_cases he).imp_right
    fun ⟨name, _, _, he⟩ => ⟨name, _, he⟩

/-! ## 描けた結果の途中の値 -/

/-- 描けた結果 `p` に至る配置の途中の値。`series` は見た目を割り当てた系列、`banded` は
Y 軸の組み直しに入る領域。 -/
structure PlotTrace (tk : Toolkit) (c : ChartConfig) (input : List Series) (p : PlotLayout) where
  canvas : Area
  titled : Area
  titles : List PlacedText
  vtitled : Area
  vtitles : List PlacedText
  legended : Area
  banded : Area
  axes : List YAxisLayout
  canvas_eq : (Area.insetCanvas c.width c.height c.margin).ensureValid "canvas margins" = .ok canvas
  title_eq : reserveTitle tk c canvas = .ok (titled, titles)
  vtitle_eq :
    reserveVerticalTitles tk c titled (input.any (·.axis == .secondary)) = .ok (vtitled, vtitles)
  legend_eq : reserveLegend tk c (assignStyles c (input.any (·.axis == .secondary)) input) vtitled
    (input.any (·.axis == .secondary)) (c.displayFlags input.length) = .ok (legended, p.legend)
  band_eq : reserveXLabelBand tk c legended (c.displayFlags input.length) = .ok banded
  loop_eq : ∃ q q', (convergeYAxes tk c (assignStyles c (input.any (·.axis == .secondary)) input)
    banded (c.displayFlags input.length) (input.any (·.axis == .secondary))).run.run q =
      (.ok (p.area, axes, p.iterations), q')
  titles_eq : p.titles = titles ++ vtitles
  yAxes_eq : p.yAxes = axes.map (·.placeLabels p.area)
  width_eq : p.width = c.width
  height_eq : p.height = c.height
  labelFont_eq : p.labelFont = c.font
  series_eq : p.series = (assignStyles c (input.any (·.axis == .secondary)) input).filterMap
    fun s => s.style.map fun st => ⟨s.name, s.axis, st⟩

/-- 時刻の範囲が空でない系列の配置で描けたなら、その途中の値がある。 -/
theorem plotPass_plotted {c : ChartConfig} {xo : AxisOverrides} {input : List Series}
    {ms mt : Int} {s s' : Progress} {p : PlotLayout}
    (h : (plotPass tk c xo input ms mt).run.run s = (.ok (.plotted p), s')) :
    Nonempty (PlotTrace tk c input p) := by
  unfold plotPass at h
  obtain ⟨_, s₀, -, h⟩ := bind_ok h
  obtain ⟨a₀, s₁, h₁, h⟩ := bind_ok h
  obtain ⟨_, s₂, -, h⟩ := bind_ok h
  obtain ⟨⟨a₄, ts, lg⟩, s₃, h₃, h⟩ := bind_ok h
  obtain ⟨⟨st, sp⟩, s₄, -, h⟩ := bind_ok h
  obtain ⟨⟨ar, axes, its⟩, s₅, h₅, h⟩ := bind_ok h
  obtain ⟨a₁, t₁, a₂, t₂, a₃, h₁₁, h₁₂, h₁₃, h₁₄, rfl⟩ := reserveBands_ok h₃
  obtain ⟨_, s₆, -, h⟩ := bind_ok h
  obtain ⟨_, s₇, -, h⟩ := bind_ok h
  obtain ⟨_, s₈, -, h⟩ := bind_ok h
  rw [run_pure] at h
  cases h
  exact ⟨⟨a₀, a₁, t₁, a₂, t₂, a₃, a₄, axes, (fromChart_ok h₁).1, h₁₁, h₁₂, h₁₃, h₁₄,
    ⟨s₄, s₅, h₅⟩, rfl, rfl, rfl, rfl, rfl, rfl⟩⟩

/-- 一度の配置で描けたなら、全体の時刻の範囲は空でなく、描けたのはその範囲の配置。 -/
theorem layoutPass_plotted_plotPass {c : ChartConfig} {xo : AxisOverrides} {input : List Series}
    {s s' : Progress} {p : PlotLayout}
    (h : (layoutPass tk c xo input).run.run s = (.ok (.plotted p), s')) :
    ∃ ms mt s₀, ms < mt ∧ (plotPass tk c xo input ms mt).run.run s₀ = (.ok (.plotted p), s') := by
  unfold layoutPass at h
  obtain ⟨_, s₀, -, h⟩ := bind_ok h
  obtain ⟨_, s₁, -, h⟩ := bind_ok h
  obtain ⟨_, s₂, -, h⟩ := bind_ok h
  cases hm : mergedTimeRange input with
  | none =>
    rw [hm] at h
    cases h
  | some r =>
    obtain ⟨ms, mt⟩ := r
    rw [hm] at h
    dsimp only at h
    split at h
    · cases h
    · rename_i hle
      exact ⟨ms, mt, s₂, by omega, h⟩

/-- 一度の配置で描けたなら、その途中の値がある。 -/
theorem layoutPass_plotted {c : ChartConfig} {xo : AxisOverrides} {input : List Series}
    {s s' : Progress} {p : PlotLayout}
    (h : (layoutPass tk c xo input).run.run s = (.ok (.plotted p), s')) :
    Nonempty (PlotTrace tk c input p) := by
  obtain ⟨ms, mt, s₀, -, hplot⟩ := layoutPass_plotted_plotPass h
  exact plotPass_plotted hplot

/-- 配置器の結果は、一度の配置の計算の結果。 -/
theorem Converger.converge_run {cv : Converger} {series : List Series}
    {r : Except LayoutFailure LayoutOutcome} (h : (cv.converge series).outcome = r) :
    ∃ s', (layoutPass cv.toolkit cv.config cv.xOverrides series).run.run ⟨cv.stage, series, [], []⟩ = (r, s') := by
  unfold Converger.converge at h
  rcases hx : (layoutPass cv.toolkit cv.config cv.xOverrides series).run.run ⟨cv.stage, series, [], []⟩ with ⟨r', s'⟩
  rw [hx] at h
  dsimp only at h
  exact ⟨s', by rw [h]⟩

end PlotGeometry
