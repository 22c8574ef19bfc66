import PlotGeometry.Proofs.Layout.Styles
/-!
# 64 ビットの越え

配置の中の検査付きの 64 ビットの計算は、描く線の終わりの時刻を求める引き算「終わり − 刻み」
（最後の点の時刻）だけである。配置が 64 ビットの越えで止まるなら、それはこの引き算で、
結び方は階段でなく、2 点でない系列があり、ある系列の終わり − 刻みが 64 ビットの外にある。
形と時刻の範囲の検査はこの引き算を抑えない。検査に通った系列でも、始まりが 64 ビットの
最小に近ければ越える（`lastSample_overflows_after_validation`）。

* `drawnEndTime_overflow` — 描く線の終わりの時刻の越えは、終わり − 刻みの引き算
* `Converger.converge_overflow_lastSample` — 配置の越えはこの引き算だけ
-/

namespace PlotGeometry

variable {tk : Toolkit}

open LayoutPass

/-! ## 検査付きの引き算 -/

theorem inI64?_eq_none_iff (x : Int) : inI64? x = none ↔ x < i64Min ∨ i64Max < x := by
  unfold inI64?
  split
  · rename_i hin
    simp only [reduceCtorEq, false_iff, not_or, not_lt]
    exact hin
  · rename_i hout
    simp only [true_iff]
    omega

theorem subI64_error {a b : Int} {o : Overflow} (h : subI64 a b = .error o) :
    o = .sub ∧ (a - b < i64Min ∨ i64Max < a - b) := by
  unfold subI64 at h
  split at h
  · cases h
  · rename_i hnone
    cases h
    exact ⟨rfl, (inI64?_eq_none_iff _).mp hnone⟩

/-- 並びの計算が止まったなら、ある要素の計算がその理由で止まった。 -/
theorem mapM_error {α β ε : Type} {f : α → Except ε β} {xs : List α} {e : ε}
    (h : xs.mapM f = .error e) : ∃ x ∈ xs, f x = .error e := by
  induction xs with
  | nil => cases h
  | cons x rest ih =>
    rw [List.mapM_cons] at h
    cases hx : f x with
    | error e' =>
      simp only [hx, bind, Except.bind] at h
      cases h
      exact ⟨x, List.mem_cons_self .., hx⟩
    | ok y =>
      cases hr : rest.mapM f with
      | error e' =>
        simp only [hx, hr, bind, Except.bind] at h
        cases h
        obtain ⟨z, hz, hfz⟩ := ih hr
        exact ⟨z, List.mem_cons_of_mem _ hz, hfz⟩
      | ok ys =>
        simp only [hx, hr, bind, Except.bind, pure, Except.pure] at h
        cases h

/-- 越え `o` が、系列 `series` と結び方 `mode` での最後の点の時刻の引き算のものであること：
引き算の越えで、結び方は階段でなく、2 点でない系列があり、ある系列の終わり − 刻みが
64 ビットの外にある。 -/
def LastSampleOverflow (series : List Series) (mode : LineMode) (o : Overflow) : Prop :=
  o = .sub ∧ mode ≠ .staircase ∧ (∃ s ∈ series, s.pointCount ≠ 2) ∧
    ∃ s ∈ series, s.stopTime - s.stepTime < i64Min ∨ i64Max < s.stopTime - s.stepTime

/-- 見た目を割り当てても、時刻、刻み、点の数は変わらない。 -/
theorem LastSampleOverflow.of_styled {c : ChartConfig} {input : List Series} {mode : LineMode}
    {o : Overflow} (h : LastSampleOverflow (styledSeries c input) mode o) :
    LastSampleOverflow input mode o := by
  obtain ⟨ho, hmode, ⟨t₁, ht₁, hpoints⟩, t₂, ht₂, hout⟩ := h
  obtain ⟨s₁, hs₁, st₁, rfl⟩ := Assigner.mem_assignFrom ht₁
  obtain ⟨s₂, hs₂, st₂, rfl⟩ := Assigner.mem_assignFrom ht₂
  exact ⟨ho, hmode, ⟨s₁, hs₁, hpoints⟩, s₂, hs₂, hout⟩

/-- 描く線の終わりの時刻が 64 ビットを越えて止まるのは、最後の点の時刻の引き算。 -/
theorem drawnEndTime_overflow {series : List Series} {mode : LineMode} {ms mt : Int} {o : Overflow}
    (h : drawnEndTime series mode ms mt = .error (.overflow o)) :
    LastSampleOverflow series mode o := by
  unfold drawnEndTime at h
  split at h
  · rename_i hslope
    simp only [Bool.and_eq_true, bne_iff_ne, ne_eq, Bool.not_eq_true', List.all_eq_false,
      beq_iff_eq] at hslope
    obtain ⟨hmode, s₂, hs₂, hpoints⟩ := hslope
    split at h
    · rename_i o' hmap
      cases h
      obtain ⟨s, hs, hsub⟩ := mapM_error hmap
      cases hs' : subI64 s.stopTime s.stepTime with
      | ok v =>
        rw [hs'] at hsub
        cases hsub
      | error o'' =>
        rw [hs'] at hsub
        cases hsub
        obtain ⟨rfl, hout⟩ := subI64_error hs'
        exact ⟨rfl, hmode, ⟨s₂, hs₂, hpoints⟩, s, hs, hout⟩
    · split at h
      · cases h
      · split at h <;> cases h
  · cases h

/-! ## 配置の越え -/

/-- 止まる理由が 64 ビットの越えなら、その越えが `Q` を満たす。 -/
def OverflowOnly (Q : Overflow → Prop) (e : LayoutFailure) : Prop := ∀ o, e = .overflow o → Q o

variable {Q : Overflow → Prop}

theorem overflowOnly_chart (e : ChartError) : OverflowOnly Q (.chart e) := by
  intro o h
  cases h

theorem overflowOnly_of_collapses {e : LayoutFailure} (he : Collapses e) : OverflowOnly Q e := by
  obtain ⟨st, a, rfl⟩ := he
  exact overflowOnly_chart _

theorem overflowOnly_of_seriesRejected {e : LayoutFailure} (he : SeriesRejected e) :
    OverflowOnly Q e := by
  obtain ⟨name, f, rfl⟩ := he
  exact overflowOnly_chart _

namespace LayoutPass

variable {α β : Type} {P : LayoutFailure → Prop}

/-- つないだ計算の止まる理由を、前の計算が成功したときに分かることを使って組み立てる。 -/
theorem Raises.bind_of_ok {x : LayoutPass α} {f : α → LayoutPass β} (hx : x.Raises P)
    (hf : ∀ a s s', x.run.run s = (.ok a, s') → (f a).Raises P) : (x >>= f).Raises P := by
  intro s e s'' h
  rcases bind_error h with ⟨s', he⟩ | ⟨a, s', ha, he⟩
  · exact hx s e s' he
  · exact hf a s s' ha s' e s'' he

end LayoutPass

theorem drawableTimeRange_raises_overflow (xo : AxisOverrides) (series : List Series)
    (mode : LineMode) (ms mt : Int) :
    (drawableTimeRange tk xo series mode ms mt).Raises (OverflowOnly (LastSampleOverflow series mode)) := by
  refine drawableTimeRange_raises_of fun e he o ho => ?_
  subst ho
  exact drawnEndTime_overflow he

/-- 時刻の範囲が空でない系列の配置が越えで止まるなら、どの系列も時刻の範囲の検査に通り、
越えは最後の点の時刻の引き算。 -/
theorem plotPass_raises_overflow (c : ChartConfig) (xo : AxisOverrides) (input : List Series)
    (ms mt : Int) :
    (plotPass tk c xo input ms mt).Raises (OverflowOnly fun o => (∀ s ∈ input, s.rangeFault? = none) ∧
      LastSampleOverflow input (resolveLineMode input c.lineMode) o) := by
  unfold plotPass
  refine Raises.bind_of_ok ((rejectFault_raises _ _).mono fun e he =>
    overflowOnly_of_seriesRejected he) fun _ s s' hok => ?_
  have hrange := firstFault_eq_none_iff.mp (rejectFault_ok hok).1
  refine Raises.bind ((ensure_raises _ _).mono fun e he => overflowOnly_of_collapses he)
    fun area => ?_
  refine Raises.bind (raises_modify _) fun _ => ?_
  refine Raises.bind ((reserveBands_raises _ _ _ _ _).mono fun e he =>
    overflowOnly_of_collapses he) fun ⟨area, titles, legend⟩ => ?_
  refine Raises.bind ((drawableTimeRange_raises_overflow _ _ _ _ _).mono fun e he o ho =>
    ⟨hrange, (he o ho).of_styled⟩) fun ⟨start, stop⟩ => ?_
  refine Raises.bind ((convergeYAxes_raises_cases _ _ _ _ _).mono fun e he => ?_)
    fun ⟨area, axes, iterations⟩ => ?_
  · rcases he with ⟨a, rfl⟩ | ⟨n, rfl⟩ <;> exact overflowOnly_chart _
  refine Raises.bind (raises_warn _) fun _ => ?_
  refine Raises.bind (raises_advance _) fun _ => ?_
  exact Raises.bind (raises_advance _) fun _ => raises_pure _

/-- 一度の配置が越えで止まるなら、どの系列も形と時刻の範囲の検査に通り、越えは最後の点の
時刻の引き算。 -/
theorem layoutPass_raises_overflow (c : ChartConfig) (xo : AxisOverrides) (input : List Series) :
    (layoutPass tk c xo input).Raises (OverflowOnly fun o =>
      (∀ s ∈ input, s.shapeFault? = none ∧ s.rangeFault? = none) ∧
        LastSampleOverflow input (resolveLineMode input c.lineMode) o) := by
  unfold layoutPass noDataPass
  refine Raises.bind (raises_fromChart fun e _ => overflowOnly_chart e) fun ws => ?_
  refine Raises.bind (raises_warn _) fun _ => ?_
  refine Raises.bind_of_ok ((rejectFault_raises _ _).mono fun e he =>
    overflowOnly_of_seriesRejected he) fun _ s s' hok => ?_
  have hshape := firstFault_eq_none_iff.mp (rejectFault_ok hok).1
  have hplot : ∀ ms mt, (plotPass tk c xo input ms mt).Raises (OverflowOnly fun o =>
      (∀ s ∈ input, s.shapeFault? = none ∧ s.rangeFault? = none) ∧
        LastSampleOverflow input (resolveLineMode input c.lineMode) o) := fun ms mt =>
    (plotPass_raises_overflow c xo input ms mt).mono fun e he o ho =>
      ⟨fun s hs => ⟨hshape s hs, (he o ho).1 s hs⟩, (he o ho).2⟩
  split
  · exact Raises.bind (raises_advance _) fun _ => raises_pure _
  · exact raises_ite (Raises.bind (raises_advance _) fun _ => raises_pure _) (hplot _ _)

/-- 配置が 64 ビットの越えで止まるのは、描く線の終わりの時刻を求める引き算「終わり − 刻み」
だけである。そのとき、どの系列も形と時刻の範囲の検査に通っていて、結び方は階段でなく、
2 点でない系列があり、ある系列の終わり − 刻みが 64 ビットの外にある。 -/
theorem Converger.converge_overflow_lastSample (cv : Converger) (input : List Series) (o : Overflow)
    (h : (cv.converge input).outcome = .error (.overflow o)) :
    o = .sub ∧ (∀ s ∈ input, s.shapeFault? = none ∧ s.rangeFault? = none) ∧
      resolveLineMode input cv.config.lineMode ≠ .staircase ∧ (∃ s ∈ input, s.pointCount ≠ 2) ∧
      ∃ s ∈ input, s.stopTime - s.stepTime < i64Min ∨ i64Max < s.stopTime - s.stepTime := by
  obtain ⟨s', hrun⟩ := Converger.converge_run h
  obtain ⟨hvalid, ho, hmode, hpoints, hout⟩ :=
    layoutPass_raises_overflow cv.config cv.xOverrides input _ _ _ hrun o rfl
  exact ⟨ho, hvalid, hmode, hpoints, hout⟩

/-! ## 検査に通っても越える -/

/-- 3 点の系列。始まりは 64 ビットの最小、終わりはその次、刻みは 2。形と時刻の範囲の検査に
通るが、終わり − 刻みは 64 ビットの最小より 1 小さい。 -/
def earliestSeries : List Series :=
  [{ name := "a", startTime := i64Min, stopTime := i64Min + 1, stepTime := 2,
     values := #[1.0, 2.0, 3.0], absent := #[false, false, false] }]

/-- 新しい配置器での配置の結果は、設定から作った配置器の結果。 -/
theorem layoutGraph_outcome (c : ChartConfig) (series : List Series) (tk : Toolkit) :
    (layoutGraph c series tk).outcome = ((Converger.new c tk).1.converge series).outcome := rfl

theorem earliestSeries_overflows :
    ((Converger.new {} .standard).1.converge earliestSeries).outcome = .error (.overflow .sub) := by
  have h : (match ((Converger.new {} .standard).1.converge earliestSeries).outcome with
      | .error (.overflow .sub) => true
      | _ => false) = true := by
    decide +kernel
  split at h
  · rename_i heq
    exact heq
  · cases h

/-- 既定の設定で `earliestSeries` を配置すると、最後の点の時刻の引き算で越える。 -/
theorem converge_overflow_lastSample_earliest :
    ((Converger.new {} .standard).1.converge earliestSeries).outcome = .error (.overflow .sub) ∧
      (∀ s ∈ earliestSeries, s.shapeFault? = none ∧ s.rangeFault? = none) ∧
      resolveLineMode earliestSeries (Converger.new {} .standard).1.config.lineMode ≠ .staircase ∧
      (∃ s ∈ earliestSeries, s.pointCount ≠ 2) ∧
      ∃ s ∈ earliestSeries, s.stopTime - s.stepTime < i64Min ∨ i64Max < s.stopTime - s.stepTime :=
  ⟨earliestSeries_overflows,
    (Converger.converge_overflow_lastSample _ _ _ earliestSeries_overflows).2⟩

/-- 形と時刻の範囲の検査に通る系列でも、既定の設定での配置は、最後の点の時刻の引き算で
64 ビットを越えて止まる。 -/
theorem lastSample_overflows_after_validation :
    (∀ s ∈ earliestSeries, s.shapeFault? = none ∧ s.rangeFault? = none) ∧
      (layoutGraph {} earliestSeries .standard).outcome = .error (.overflow .sub) := by
  refine ⟨?_, (layoutGraph_outcome _ _ _).trans earliestSeries_overflows⟩
  intro s hs
  rw [earliestSeries, List.mem_singleton] at hs
  subst hs
  exact ⟨rfl, rfl⟩

end PlotGeometry
