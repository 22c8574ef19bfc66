import PlotGeometry.Proofs.Layout.AxisLoop
/-!
# 配置の計算は状態を読まない

配置の計算 `LayoutPass` は状態を持つが、それを読むことはない。状態に対してするのは、
警告を足すこと、入った手順を記して進み具合をその手順にすること、見た目を割り当てた系列を
置くこと、の三つだけで、その中身も状態によらない。これを「書くもの」`Writes` として一つに
まとめ、計算ごとに「どの状態から走らせても同じ結果で同じものを書く」（`Oblivious`）ことを、
つなぎ方ごとに組み立てて示す。

* `Writes.apply_append` — 続けて書くことは、つないだものを一度に書くこと
* `Oblivious.bind`、`Quiet.bind` — 状態を読まないこと、警告しか書かないことは、つないでも保たれる
* `quiet_convergeYAxes` — Y 軸の組み直しは、何度回っても警告しか書かない
* `oblivious_layoutPass` — 一度の配置は状態を読まない
* `Converger.converge_writes` — 配置器の結果は、それまでの進み具合によらない。進み具合は、
  この配置で最後に入った手順（入らなければ前のまま）
-/

namespace PlotGeometry

variable {tk : Toolkit}

open LayoutPass

/-- 一度の配置が状態に書くもの：足す警告、入った手順、置く系列（置かなければ `none`）。 -/
structure Writes where
  warnings : List Warning
  entered : List LayoutStage
  series : Option (List Series)

namespace Writes

/-- 書いたものを状態に当てる。進み具合は最後に入った手順、入らなければもとのまま。 -/
def apply (w : Writes) (s : Progress) : Progress where
  stage := w.entered.getLast?.getD s.stage
  series := w.series.getD s.series
  warnings := s.warnings ++ w.warnings
  entered := s.entered ++ w.entered

/-- `w₁` を書いた後に `w₂` を書く。系列は後に置いたものが残る。 -/
def append (w₁ w₂ : Writes) : Writes :=
  ⟨w₁.warnings ++ w₂.warnings, w₁.entered ++ w₂.entered, w₂.series <|> w₁.series⟩

/-- 警告だけを書く。 -/
def warnOnly (ws : List Warning) : Writes := ⟨ws, [], none⟩

theorem apply_append (w₁ w₂ : Writes) (s : Progress) :
    (w₁.append w₂).apply s = w₂.apply (w₁.apply s) := by
  obtain ⟨ws₁, l₁, σ₁⟩ := w₁
  obtain ⟨ws₂, l₂, σ₂⟩ := w₂
  simp only [apply, append, List.append_assoc, List.getLast?_append]
  congr 1
  · cases l₂.getLast? <;> rfl
  · cases σ₂ <;> rfl

@[simp] theorem apply_warnOnly (ws : List Warning) (s : Progress) :
    (warnOnly ws).apply s = { s with warnings := s.warnings ++ ws } := by
  simp [apply, warnOnly]

theorem warnOnly_append (ws₁ ws₂ : List Warning) :
    (warnOnly ws₁).append (warnOnly ws₂) = warnOnly (ws₁ ++ ws₂) := rfl

end Writes

namespace LayoutPass

variable {α β : Type}

/-- どの状態から走らせても、結果 `r` で終わり、状態に `w` を書く。 -/
def Acts (x : LayoutPass α) (r : Except LayoutFailure α) (w : Writes) : Prop :=
  ∀ s, x.run.run s = (r, w.apply s)

/-- 状態を読まない計算：結果も書くものも、始めの状態によらない。 -/
def Oblivious (x : LayoutPass α) : Prop := ∃ r w, Acts x r w

/-- 警告しか書かない、状態を読まない計算。 -/
def Quiet (x : LayoutPass α) : Prop := ∃ r ws, Acts x r (.warnOnly ws)

variable {x : LayoutPass α} {f : α → LayoutPass β}

theorem Acts.bind_ok {a : α} {r : Except LayoutFailure β} {w₁ w₂ : Writes} (hx : Acts x (.ok a) w₁)
    (hf : Acts (f a) r w₂) : Acts (x >>= f) r (w₁.append w₂) := by
  intro s
  rw [run_bind, hx s, Writes.apply_append]
  exact hf _

theorem Acts.bind_error {e : LayoutFailure} {w : Writes} (hx : Acts x (.error e) w) :
    Acts (x >>= f) (.error e) w := by
  intro s
  rw [run_bind, hx s]

theorem Oblivious.bind (hx : Oblivious x) (hf : ∀ a, Oblivious (f a)) : Oblivious (x >>= f) := by
  obtain ⟨r, w, hw⟩ := hx
  cases r with
  | ok a =>
    obtain ⟨r', w', hw'⟩ := hf a
    exact ⟨r', w.append w', hw.bind_ok hw'⟩
  | error e => exact ⟨.error e, w, hw.bind_error⟩

theorem Quiet.bind (hx : Quiet x) (hf : ∀ a, Quiet (f a)) : Quiet (x >>= f) := by
  obtain ⟨r, ws, hw⟩ := hx
  cases r with
  | ok a =>
    obtain ⟨r', ws', hw'⟩ := hf a
    exact ⟨r', ws ++ ws', Writes.warnOnly_append ws ws' ▸ hw.bind_ok hw'⟩
  | error e => exact ⟨.error e, ws, hw.bind_error⟩

theorem Quiet.ite {c : Prop} [Decidable c] {y : LayoutPass α} (hx : Quiet x) (hy : Quiet y) :
    Quiet (if c then x else y) := by
  split
  · exact hx
  · exact hy

theorem Quiet.oblivious (h : Quiet x) : Oblivious x := by
  obtain ⟨r, ws, hw⟩ := h
  exact ⟨r, _, hw⟩

/-! ## 一手ずつ -/

theorem quiet_pure (a : α) : Quiet (pure a : LayoutPass α) :=
  ⟨.ok a, [], fun s => by rw [Writes.apply_warnOnly, List.append_nil]; rfl⟩

theorem quiet_throw (e : LayoutFailure) : Quiet (throw e : LayoutPass α) :=
  ⟨.error e, [], fun s => by rw [Writes.apply_warnOnly, List.append_nil]; rfl⟩

theorem quiet_warn (ws : List Warning) : Quiet (warn ws) :=
  ⟨.ok (), ws, fun s => by simp⟩

theorem quiet_fromChart (r : Except ChartError α) : Quiet (fromChart r) := by
  cases r with
  | ok a => exact quiet_pure a
  | error e => exact quiet_throw _

theorem quiet_ofExcept (r : Except LayoutFailure α) : Quiet (MonadExcept.ofExcept r : LayoutPass α) := by
  cases r with
  | ok a => exact quiet_pure a
  | error e => exact quiet_throw e

theorem oblivious_advance (stage : LayoutStage) : Oblivious (advance stage) :=
  ⟨.ok (), ⟨[], [stage], none⟩, fun s => by simp [Writes.apply]⟩

/-- 系列を置き換える。 -/
theorem oblivious_setSeries (series : List Series) :
    Oblivious (modify fun p => { p with series } : LayoutPass Unit) :=
  ⟨.ok (), ⟨[], [], some series⟩, fun s => by simp [Writes.apply]⟩

end LayoutPass

open LayoutPass

/-! ## 配置の手順 -/

theorem quiet_rejectFault (series : List Series) (check : Series → Option SeriesFault) :
    Quiet (rejectFault series check) := by
  unfold rejectFault
  split
  · exact quiet_throw _
  · exact quiet_pure ()

theorem quiet_drawableTimeRange (xo : AxisOverrides) (series : List Series) (mode : LineMode)
    (ms mt : Int) : Quiet (drawableTimeRange tk xo series mode ms mt) := by
  unfold drawableTimeRange
  refine (quiet_ofExcept _).bind fun endTime => ?_
  refine (quiet_warn _).bind fun _ => ?_
  exact Quiet.ite ((quiet_warn _).bind fun _ => quiet_pure _) (quiet_pure _)

section Loop

variable (c : ChartConfig) (series : List Series) (flags : DisplayFlags) (dualAxis : Bool)

/-- Y 軸の組み直しは、一度回っても二度回っても、組み直しの警告しか書かない。 -/
theorem quiet_convergeYAxes (area : Area) :
    Quiet (convergeYAxes tk c series area flags dualAxis) := by
  have hwarn : ∀ s, warnedOnce tk c series flags dualAxis s =
      (Writes.warnOnly (setupYAxes tk c series flags dualAxis).2).apply s := fun s => by
    simp [warnedOnce]
  -- 閉じた形 `convergeYAxesRun` の四つの枝は、どれも状態によらない結果で終わる
  have hrun := convergeYAxes_run tk c series flags dualAxis area
  unfold convergeYAxesRun at hrun
  by_cases hv : (applyLabelInsets c area (setupYAxes tk c series flags dualAxis).1).valid
  · by_cases hs : (applyLabelInsets c area (setupYAxes tk c series flags dualAxis).1).sameValue area
    · simp only [hv, hs, Bool.not_true, Bool.false_eq_true, if_false, if_true] at hrun
      exact ⟨_, _, fun s => by rw [hrun, hwarn]⟩
    · by_cases hcap : c.maxLayoutIterations ≤ 1
      · simp only [hv, hs, hcap, Bool.not_true, Bool.false_eq_true, if_false, if_true] at hrun
        exact ⟨_, _, fun s => by rw [hrun, hwarn]⟩
      · simp only [hv, hs, hcap, Bool.not_true, Bool.false_eq_true, if_false] at hrun
        have htwice : ∀ s, warnedOnce tk c series flags dualAxis (warnedOnce tk c series flags dualAxis s) =
            (Writes.warnOnly ((setupYAxes tk c series flags dualAxis).2 ++
              (setupYAxes tk c series flags dualAxis).2)).apply s := fun s => by
          rw [hwarn, hwarn, ← Writes.apply_append, Writes.warnOnly_append]
        exact ⟨_, _, fun s => by rw [hrun, htwice]⟩
  · simp only [hv, Bool.not_false, if_true] at hrun
    exact ⟨_, _, fun s => by rw [hrun, hwarn]⟩

end Loop

theorem oblivious_reserveBands (c : ChartConfig) (series : List Series) (flags : DisplayFlags)
    (dualAxis : Bool) (area : Area) : Oblivious (reserveBands tk c series flags dualAxis area) := by
  unfold reserveBands
  refine (quiet_fromChart _).oblivious.bind fun ⟨a₁, t₁⟩ => ?_
  refine (oblivious_advance _).bind fun _ => ?_
  refine (quiet_fromChart _).oblivious.bind fun ⟨a₂, t₂⟩ => ?_
  refine (oblivious_advance _).bind fun _ => ?_
  refine (quiet_fromChart _).oblivious.bind fun ⟨a₃, l₃⟩ => ?_
  refine (oblivious_advance _).bind fun _ => ?_
  exact (quiet_fromChart _).oblivious.bind fun _ => (quiet_pure _).oblivious

theorem oblivious_plotPass (c : ChartConfig) (xo : AxisOverrides) (input : List Series)
    (ms mt : Int) : Oblivious (plotPass tk c xo input ms mt) := by
  unfold plotPass
  refine (quiet_rejectFault _ _).oblivious.bind fun _ => ?_
  refine (quiet_fromChart _).oblivious.bind fun area => ?_
  refine (oblivious_setSeries _).bind fun _ => ?_
  refine (oblivious_reserveBands _ _ _ _ _).bind fun ⟨a₁, titles, legend⟩ => ?_
  refine (quiet_drawableTimeRange _ _ _ _ _).oblivious.bind fun ⟨start, stop⟩ => ?_
  refine (quiet_convergeYAxes _ _ _ _ _).oblivious.bind fun ⟨a₂, axes, iterations⟩ => ?_
  refine (quiet_warn _).oblivious.bind fun _ => ?_
  refine (oblivious_advance _).bind fun _ => ?_
  exact (oblivious_advance _).bind fun _ => (quiet_pure _).oblivious

theorem oblivious_noDataPass (c : ChartConfig) : Oblivious (noDataPass c) :=
  (oblivious_advance _).bind fun _ => (quiet_pure _).oblivious

/-- 一度の配置は状態を読まない。 -/
theorem oblivious_layoutPass (c : ChartConfig) (xo : AxisOverrides) (input : List Series) :
    Oblivious (layoutPass tk c xo input) := by
  unfold layoutPass
  refine (quiet_fromChart _).oblivious.bind fun ws => ?_
  refine (quiet_warn _).oblivious.bind fun _ => ?_
  refine (quiet_rejectFault _ _).oblivious.bind fun _ => ?_
  split
  · exact oblivious_noDataPass c
  · split
    · exact oblivious_noDataPass c
    · exact oblivious_plotPass c xo input _ _

/-- 配置器の結果（止まる理由、系列、警告、入った手順）は、それまでの進み具合によらない。
配置の後の進み具合は、この配置で最後に入った手順、入らなければ前のまま。 -/
theorem Converger.converge_writes (cv : Converger) (series : List Series) :
    ∃ (r : Except LayoutFailure LayoutOutcome) (w : Writes), ∀ stage, ({ cv with stage }).converge series =
      { converger := { cv with stage := w.entered.getLast?.getD stage },
        series := w.series.getD series, outcome := r, warnings := w.warnings,
        entered := w.entered } := by
  obtain ⟨r, w, hw⟩ := @oblivious_layoutPass cv.toolkit cv.config cv.xOverrides series
  refine ⟨r, w, fun stage => ?_⟩
  unfold Converger.converge
  rw [hw ⟨stage, series, [], []⟩]
  simp only [Writes.apply, List.nil_append]

end PlotGeometry
