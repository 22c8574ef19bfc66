import PlotGeometry.Proofs.Layout.Overflow
import PlotGeometry.Proofs.Layout.YLabels
import PlotGeometry.Proofs.Layout.XLabels
/-!
# X 軸

描けた結果の X 軸は、空でない時刻の範囲 `[startTime, endTime]` を覆う。ラベルの間隔は、
刻みの上書きがラベルを 500 以下にするならその刻み、そうでなければ範囲と描画領域の幅で選んだ
表の行の間隔か、その整数倍に広げたもの。軸を出さなければラベルはない。

ラベルの時刻は間隔の倍数を丸めた整数なので、1 秒より細かい間隔では同じ時刻が並び、
64 ビットを越える範囲ではラベルは 500 を越え、`2^53` より大きい時刻は倍精度の丸めで範囲の
外に出る（`xLabels_break_documented_bounds`）。

* `drawableTimeRange_lt` — 描く時刻の範囲は空でない
* `buildXAxis_spec` — X 軸の作り方
* `xAxis_of_plotted` — 描けた結果の X 軸
-/

namespace PlotGeometry

variable {tk : Toolkit}

open LayoutPass

/-! ## 描く時刻の範囲 -/

theorem run_ofExcept_ok {α : Type} {r : Except LayoutFailure α} {a : α} {s s' : Progress}
    (h : (MonadExcept.ofExcept r : LayoutPass α).run.run s = (.ok a, s')) : r = .ok a ∧ s' = s := by
  cases r with
  | error e => cases h
  | ok b =>
    cases h
    exact ⟨rfl, rfl⟩

/-- 描く線の終わりの時刻は、全体の始まりより後。 -/
theorem drawnEndTime_gt {series : List Series} {mode : LineMode} {ms mt e : Int} (hlt : ms < mt)
    (h : drawnEndTime series mode ms mt = .ok e) : ms < e := by
  unfold drawnEndTime at h
  split at h
  · split at h
    · cases h
    · split at h
      · cases h
        exact hlt
      · split at h
        · cases h
        · cases h
          split <;> omega
  · cases h
    exact hlt

/-- 全体の時刻の範囲が空でなければ、描く時刻の範囲も空でない。上書きで空になるなら、上書きは
使わない。 -/
theorem drawableTimeRange_lt {xo : AxisOverrides} {series : List Series} {mode : LineMode}
    {ms mt start stop : Int} {s s' : Progress} (hlt : ms < mt)
    (h : (drawableTimeRange tk xo series mode ms mt).run.run s = (.ok (start, stop), s')) :
    start < stop := by
  unfold drawableTimeRange at h
  obtain ⟨endTime, s₀, h₀, h⟩ := bind_ok h
  have hend := drawnEndTime_gt hlt (run_ofExcept_ok h₀).1
  rcases hlo : timeOverride tk xo.min with ⟨lo, w₁⟩
  rcases hhi : timeOverride tk xo.max with ⟨hi, w₂⟩
  rw [hlo, hhi] at h
  obtain ⟨_, s₁, -, h⟩ := bind_ok h
  dsimp only at h
  split at h
  · obtain ⟨_, s₂, -, h⟩ := bind_ok h
    cases h
    exact hend
  · rename_i hne
    cases h
    omega

/-! ## 描けた結果の X 軸 -/

/-- 描けた結果の X 軸は、描く時刻の範囲と最後の描画領域で作ったもの。 -/
theorem plotPass_xAxis {c : ChartConfig} {xo : AxisOverrides} {input : List Series}
    {ms mt : Int} {s s' : Progress} {p : PlotLayout} (hlt : ms < mt)
    (h : (plotPass tk c xo input ms mt).run.run s = (.ok (.plotted p), s')) :
    ∃ start stop, start < stop ∧
      p.xAxis = (buildXAxis tk c xo start stop p.area (c.displayFlags input.length)).1 := by
  unfold plotPass at h
  obtain ⟨_, s₀, -, h⟩ := bind_ok h
  obtain ⟨_, s₁, -, h⟩ := bind_ok h
  obtain ⟨_, s₂, -, h⟩ := bind_ok h
  obtain ⟨⟨a₄, ts, lg⟩, s₃, -, h⟩ := bind_ok h
  obtain ⟨⟨st, sp⟩, s₄, h₄, h⟩ := bind_ok h
  obtain ⟨⟨ar, axes, its⟩, s₅, -, h⟩ := bind_ok h
  obtain ⟨_, s₆, -, h⟩ := bind_ok h
  obtain ⟨_, s₇, -, h⟩ := bind_ok h
  obtain ⟨_, s₈, -, h⟩ := bind_ok h
  rw [run_pure] at h
  cases h
  exact ⟨st, sp, drawableTimeRange_lt hlt h₄, rfl⟩

/-- X 軸の作り方：範囲、範囲と幅で選んだ表の行、刻みの上書きを使う条件、広げた間隔、
ラベル。 -/
theorem buildXAxis_spec (c : ChartConfig) (xo : AxisOverrides) (start stop : Int) (area : Area)
    (flags : DisplayFlags) :
    let l := (buildXAxis tk c xo start stop area flags).1
    let range := Float.ofInt (clampI64 (stop - start))
    l.startTime = start ∧ l.endTime = stop ∧ l.spec = Time.selectTickSpec range area.width ∧
      (∀ step, xo.step = some step → ¬(range / step > maxXLabels) → l.labelInterval = step) ∧
      (l.labelInterval = l.spec.labelInterval ∨ (∃ step, xo.step = some step ∧ l.labelInterval = step) ∨
        l.labelInterval = l.spec.labelInterval * ceilNum (range / (l.spec.labelInterval * maxXLabels))) ∧
      l.labels = if flags.axes then
        (Time.alignedTimes start stop l.labelInterval).map fun ts =>
          { timestamp := ts,
            text := (Time.formatTimestamp tk.calendar ts l.spec.format (c.fixedOffset tk.calendar).1).getD "",
            x := l.timeToPixel ts area }
      else [] := by
  intro l range
  refine ⟨rfl, rfl, rfl, ?_, ?_, rfl⟩
  · -- 上書きが通れば、広げる条件も同じ式なので通る
    intro step hstep hfew
    have hfew' : ¬Float.ofInt (clampI64 (stop - start)) / step > maxXLabels := hfew
    simp only [l, buildXAxis, hstep]
    rw [if_neg hfew', if_neg hfew']
  · simp only [l, buildXAxis]
    cases xo.step with
    | none =>
      dsimp only
      split
      · exact .inr (.inr rfl)
      · exact .inl rfl
    | some step =>
      dsimp only
      split
      · dsimp only
        split
        · exact .inr (.inr rfl)
        · exact .inl rfl
      · exact .inr (.inl ⟨step, rfl, rfl⟩)

/-- 時刻の範囲が空でなく刻みの上書きが正なら、ラベルの間隔は正で、ラベルの時刻は減らず、
各ラベルの横の位置はその時刻の位置。 -/
theorem buildXAxis_labels (c : ChartConfig) (xo : AxisOverrides) {start stop : Int} (area : Area)
    (flags : DisplayFlags) (hlt : start < stop) (hstep : ∀ s, xo.step = some s → 0.0 < s) :
    let l := (buildXAxis tk c xo start stop area flags).1
    0.0 < l.labelInterval ∧ (l.labels.map (·.timestamp)).Pairwise (· ≤ ·) ∧
      ∀ lab ∈ l.labels, lab.x = l.timeToPixel lab.timestamp area := by
  intro l
  obtain ⟨hs, he, hspec, -, hint, hlabels⟩ := buildXAxis_spec c xo start stop area flags
  refine ⟨?_, ?_, ?_⟩
  · have hmem := selectTickSpec_mem (Float.ofInt (clampI64 (stop - start))) area.width
    rw [← hspec] at hmem
    rcases hint with h | ⟨step, hst, h⟩ | h
    · rw [h]
      exact Float.lt_of_lt_of_le (by decide) (tickTable_labelInterval _ hmem).1
    · rw [h]
      exact hstep step hst
    · rw [h]
      exact widenedInterval_pos hmem (Float.isFinite_ofInt_clampI64 _)
        (Float.one_le_ofInt_clampI64 (by omega))
  · rw [hlabels]
    split
    · exact List.pairwise_map.mpr (List.pairwise_map.mpr (alignedTimes_sorted start stop l.labelInterval))
    · exact List.Pairwise.nil
  · intro lab hlab
    rw [hlabels] at hlab
    split at hlab
    · obtain ⟨ts, -, rfl⟩ := List.mem_map.mp hlab
      rfl
    · cases hlab

/-- 新しい配置器で描けた結果の X 軸は、空でない時刻の範囲を覆う。表の行は範囲と描画領域の幅で
選ばれ、ラベルの間隔は、整えた刻みの上書きがラベルを 500 以下にするならその刻み、そうでなければ
表の行の間隔か、それを `ceilNum` 倍に広げたもので、どれでも正。ラベルは軸を出すときだけ、範囲の
中の間隔の倍数を丸めた時刻に置かれ、時刻は減らない。各ラベルの横の位置はその時刻の位置で、
描画領域の幅が有限なら、時刻について減らない。 -/
theorem xAxis_of_plotted (c : ChartConfig) (input : List Series) (p : PlotLayout)
    (h : ((Converger.new c tk).1.converge input).outcome = .ok (.plotted p)) :
    let x := p.xAxis
    let range := Float.ofInt (clampI64 (x.endTime - x.startTime))
    x.startTime < x.endTime ∧ x.spec = Time.selectTickSpec range p.area.width ∧
      (∀ step, c.x.sanitize.1.step = some step → ¬(range / step > maxXLabels) →
        x.labelInterval = step) ∧
      (x.labelInterval = x.spec.labelInterval ∨
        (∃ step, c.x.sanitize.1.step = some step ∧ x.labelInterval = step) ∨
        x.labelInterval = x.spec.labelInterval * ceilNum (range / (x.spec.labelInterval * maxXLabels))) ∧
      0.0 < x.labelInterval ∧
      x.labels.map (·.timestamp) =
        (if (c.displayFlags input.length).axes then Time.alignedTimes x.startTime x.endTime x.labelInterval
        else []) ∧
      (x.labels.map (·.timestamp)).Pairwise (· ≤ ·) ∧
      (∀ l ∈ x.labels, l.x = x.timeToPixel l.timestamp p.area) ∧
      (p.area.width.isFinite = true →
        ∀ l₁ ∈ x.labels, ∀ l₂ ∈ x.labels, l₁.timestamp ≤ l₂.timestamp → l₁.x ≤ l₂.x) := by
  intro x range
  obtain ⟨s', hrun⟩ := Converger.converge_run h
  obtain ⟨ms, mt, s₀, hlt, hplot⟩ := layoutPass_plotted_plotPass hrun
  obtain ⟨start, stop, hss, hx⟩ := plotPass_xAxis hlt hplot
  have hcfg : (Converger.new c tk).1.config = c := rfl
  rw [hcfg] at hx
  obtain ⟨hs, he, hspec, hkeep, hint, hlabels⟩ :=
    buildXAxis_spec c (Converger.new c tk).1.xOverrides start stop p.area
      (c.displayFlags input.length)
  obtain ⟨hpos, hsorted, hxeq⟩ := buildXAxis_labels c (Converger.new c tk).1.xOverrides p.area
    (c.displayFlags input.length) hss (fun s hs => (AxisOverrides.sanitize_step hs).2)
  rw [← hx] at hs he hspec hkeep hint hlabels hpos hsorted hxeq
  have hrange : range = Float.ofInt (clampI64 (stop - start)) := by
    simp only [range, x, hs, he]
  have hss' : x.startTime < x.endTime := by simp only [x, hs, he]; exact hss
  refine ⟨hss', by rw [hrange]; exact hspec, ?_, ?_, hpos, ?_, hsorted, hxeq, ?_⟩
  · rw [hrange]
    exact hkeep
  · rw [hrange]
    exact hint
  · rw [hlabels]
    split
    · simp only [x, hs, he, List.map_map]
      exact List.map_id _
    · rfl
  · intro hw l₁ h₁ l₂ h₂ hts
    obtain ⟨t⟩ := layoutPass_plotted hrun
    rw [hxeq l₁ h₁, hxeq l₂ h₂]
    exact XAxisLayout.timeToPixel_mono x hss' (Area.valid_iff.mp t.area_valid).1 hw hts

/-- 3 点の系列、時刻 0 から 1 秒ごと。 -/
def secondsSeries : List Series :=
  [{ name := "a", startTime := 0, stopTime := 3, stepTime := 1, values := #[1.0, 2.0, 3.0],
     absent := #[false, false, false] }]

/-- Y の刻みを 1 に上書きした設定で `secondsSeries` を描くと、X 軸は `xAxis_of_plotted` のとおり。 -/
theorem xAxis_of_plotted_seconds :
    ∃ p, ((Converger.new { y := { step := some 1.0 } } .standard).1.converge secondsSeries).outcome =
        .ok (.plotted p) ∧
      let c : ChartConfig := { y := { step := some 1.0 } }
      let x := p.xAxis
      let range := Float.ofInt (clampI64 (x.endTime - x.startTime))
      x.startTime < x.endTime ∧ x.spec = Time.selectTickSpec range p.area.width ∧
        (∀ step, c.x.sanitize.1.step = some step → ¬(range / step > maxXLabels) →
          x.labelInterval = step) ∧
        (x.labelInterval = x.spec.labelInterval ∨
          (∃ step, c.x.sanitize.1.step = some step ∧ x.labelInterval = step) ∨
          x.labelInterval = x.spec.labelInterval * ceilNum (range / (x.spec.labelInterval * maxXLabels))) ∧
        0.0 < x.labelInterval ∧
        x.labels.map (·.timestamp) =
          (if (c.displayFlags secondsSeries.length).axes then
            Time.alignedTimes x.startTime x.endTime x.labelInterval
          else []) ∧
        (x.labels.map (·.timestamp)).Pairwise (· ≤ ·) ∧
        (∀ l ∈ x.labels, l.x = x.timeToPixel l.timestamp p.area) ∧
        (p.area.width.isFinite = true →
          ∀ l₁ ∈ x.labels, ∀ l₂ ∈ x.labels, l₁.timestamp ≤ l₂.timestamp → l₁.x ≤ l₂.x) := by
  obtain ⟨p, hp, -⟩ := exists_plotted_of_any
    ((Converger.new { y := { step := some 1.0 } } .standard).1.converge secondsSeries).outcome
    (fun _ => true)
    (by decide +kernel)
  exact ⟨p, hp, xAxis_of_plotted _ _ p hp⟩

/-! ## ラベルの時刻の丸め -/

/-- 2 点の系列。始まりは 64 ビットの最小、終わりは最大。 -/
def fullRangeSeries : List Series :=
  [{ name := "a", startTime := i64Min, stopTime := i64Max, stepTime := 1, values := #[1.0, 2.0],
     absent := #[false, false] }]

/-- 3 点の系列。始まりは `2^62 + 1`（倍精度では `2^62` に丸まる）、1 秒ごと。 -/
def lateSeries : List Series :=
  [{ name := "a", startTime := 4611686018427387905, stopTime := 4611686018427387908, stepTime := 1,
     values := #[1.0, 2.0, 3.0], absent := #[false, false, false] }]

/-- ラベルの時刻は増え続けるとは限らず、数は 501 を越えることがあり、範囲の外に出ることもある。
`0.3` 秒の間隔で 0 秒から 2 秒までのラベルの時刻は `0, 0, 1, 1, 1, 2, 2`。64 ビットの全体を
覆う範囲では、間隔は飽和した範囲 `2^63 - 1` で選ばれ、ラベルは 501 を越える。始まりが `2^62 + 1`
で間隔が 1 秒なら、最初のラベルは倍精度に丸めた `2^62` で、始まりより前、描画領域の左に出る。 -/
theorem xLabels_break_documented_bounds :
    (∃ p, (layoutGraph { x := { step := some 0.3 }, y := { step := some 1.0 } } secondsSeries
          .standard).outcome = .ok (.plotted p) ∧
        p.xAxis.labels.map (·.timestamp) = [0, 0, 1, 1, 1, 2, 2]) ∧
      (∃ p, (layoutGraph { y := { step := some 1.0 } } fullRangeSeries .standard).outcome =
        .ok (.plotted p) ∧ 501 < p.xAxis.labels.length) ∧
      (∃ p, (layoutGraph { x := { step := some 1.0 }, y := { step := some 1.0 } } lateSeries
          .standard).outcome = .ok (.plotted p) ∧
        ∃ l ∈ p.xAxis.labels, l.timestamp < p.xAxis.startTime ∧ l.x < p.area.xmin) := by
  refine ⟨?_, ?_, ?_⟩
  · obtain ⟨p, hp, hts⟩ := exists_plotted_of_any
      (layoutGraph { x := { step := some 0.3 }, y := { step := some 1.0 } } secondsSeries
        .standard).outcome
      (fun p => p.xAxis.labels.map (·.timestamp) == [0, 0, 1, 1, 1, 2, 2]) (by decide +kernel)
    exact ⟨p, hp, beq_iff_eq.mp hts⟩
  · obtain ⟨p, hp, hlen⟩ := exists_plotted_of_any
      (layoutGraph { y := { step := some 1.0 } } fullRangeSeries .standard).outcome
      (fun p => decide (501 < p.xAxis.labels.length)) (by decide +kernel)
    exact ⟨p, hp, of_decide_eq_true hlen⟩
  · obtain ⟨p, hp, hout⟩ := exists_plotted_of_any
      (layoutGraph { x := { step := some 1.0 }, y := { step := some 1.0 } } lateSeries
        .standard).outcome
      (fun p => p.xAxis.labels.any fun l =>
        decide (l.timestamp < p.xAxis.startTime) && decide (l.x < p.area.xmin)) (by decide +kernel)
    simp only [List.any_eq_true, Bool.and_eq_true, decide_eq_true_eq] at hout
    exact ⟨p, hp, hout⟩

end PlotGeometry
