import PlotGeometry.Proofs.Layout.Writes
/-!
# 配置の終わり方

一度の配置がどこで終わったかは、その結果から読める。止まる理由ごとに、止まった手順は
一つに決まるからである（「題」で潰れたなら題の手順、最後の点の誤りなら時刻の範囲、…）。
ここでは、終わり方 `r` ごとに

* その配置で入った手順の並び `enteredFor r`
* 系列に見た目を割り当てた後か前か `endsBeforeStyles r`

を決め、配置がそのとおりの状態で終わることを示す（`layoutPass_exits`）。

証明は前後の条件の組 `Triple` を、つなぎ方ごとに組み立てる。途中の状態は「入った手順が
`ℓ`、系列が `σ`」（`At ℓ σ`）の形で、警告しか書かない手順はそれを保ち、止まるときは
その理由の終わり方がちょうど `At ℓ σ` を言う。
-/

namespace PlotGeometry

variable {tk : Toolkit}

open LayoutPass

/-! ## 終わり方ごとの状態 -/

/-- 名前の段階で領域が潰れたとき、その配置で入っていた手順。 -/
def collapsedEntered : String → List LayoutStage
  | "vertical title" => [.titleReserved]
  | "right vertical title" => [.titleReserved]
  | "legend" => [.titleReserved, .vTitleReserved]
  | "x axis labels" => [.titleReserved, .vTitleReserved, .legendReserved]
  | "y axis labels" => [.titleReserved, .vTitleReserved, .legendReserved]
  | _ => []

/-- 配置の終わり方ごとに、その配置で入った手順。 -/
def enteredFor : Except LayoutFailure LayoutOutcome → List LayoutStage
  | .ok (.plotted _) => [.titleReserved, .vTitleReserved, .legendReserved, .axisConverged, .done]
  | .ok (.noData _) => [.noData]
  | .error (.chart (.areaCollapsed stage _)) => collapsedEntered stage
  | .error (.chart (.inconsistentSeries _ (.lastBeforeStart ..))) =>
    [.titleReserved, .vTitleReserved, .legendReserved]
  | .error (.chart (.nonConvergence _)) => [.titleReserved, .vTitleReserved, .legendReserved]
  | .error (.overflow _) => [.titleReserved, .vTitleReserved, .legendReserved]
  | .error (.chart _) => []

/-- 見た目を割り当てる前に終わったか：データがない、扱えない描き方、形か時刻の範囲の誤り、
余白で潰れた。 -/
def endsBeforeStyles : Except LayoutFailure LayoutOutcome → Bool
  | .ok (.noData _) => true
  | .error (.chart (.unsupported _)) => true
  | .error (.chart (.inconsistentSeries _ (.lastBeforeStart ..))) => false
  | .error (.chart (.inconsistentSeries ..)) => true
  | .error (.chart (.areaCollapsed stage _)) => stage == "canvas margins"
  | _ => false

/-- 配置が割り当てる見た目。二軸かどうかは副軸の系列があるかで決まる。 -/
def styledSeries (c : ChartConfig) (input : List Series) : List Series :=
  assignStyles c (input.any (·.axis == .secondary)) input

/-- 配置が `r` で終わった状態：入った手順は `enteredFor r`、系列は、割り当ての前に終わったなら
入力のまま、そうでなければ割り当てたもの。 -/
def ExitState (c : ChartConfig) (input : List Series) (r : Except LayoutFailure LayoutOutcome)
    (s : Progress) : Prop :=
  s.entered = enteredFor r ∧ s.series = if endsBeforeStyles r then input else styledSeries c input

/-- 入った手順が `ℓ`、系列が `σ` の状態。 -/
def At (ℓ : List LayoutStage) (σ : List Series) (s : Progress) : Prop := s.entered = ℓ ∧ s.series = σ

/-! ## 前後の条件 -/

namespace LayoutPass

variable {α β : Type} {x : LayoutPass α} {f : α → LayoutPass β} {P : Progress → Prop}

/-- `P` を満たす状態から走らせると、結果と終わりの状態が `Q` を満たす。 -/
def Triple (x : LayoutPass α) (P : Progress → Prop)
    (Q : Except LayoutFailure α → Progress → Prop) : Prop :=
  ∀ s, P s → Q (x.run.run s).1 (x.run.run s).2

/-- 成功すれば値ごとの `R`、止まれば続きの終わり方の `Q`。 -/
def Then (R : α → Progress → Prop) (Q : Except LayoutFailure β → Progress → Prop) :
    Except LayoutFailure α → Progress → Prop
  | .ok a, s => R a s
  | .error e, s => Q (.error e) s

variable {R : α → Progress → Prop} {Q : Except LayoutFailure β → Progress → Prop}

theorem Triple.bind (hx : Triple x P (Then R Q)) (hf : ∀ a, Triple (f a) (R a) Q) :
    Triple (x >>= f) P Q := by
  intro s hs
  have h := hx s hs
  rw [run_bind]
  rcases hrun : x.run.run s with ⟨r, s'⟩
  rw [hrun] at h
  cases r with
  | ok a => exact hf a s' h
  | error e => exact h

theorem Triple.pure {b : β} (h : ∀ s, P s → Q (.ok b) s) : Triple (pure b) P Q := h

theorem Triple.ite {c : Prop} [Decidable c] {y : LayoutPass β} {z : LayoutPass β}
    (hy : Triple y P Q) (hz : Triple z P Q) : Triple (if c then y else z) P Q := by
  split
  · exact hy
  · exact hz

/-- 警告しか書かない手順は入った手順と系列を変えず、止まるならその理由が `C` を満たす。 -/
theorem Triple.quiet {C : LayoutFailure → Prop} {ℓ : List LayoutStage} {σ : List Series}
    (hq : Quiet x) (hr : x.Raises C) (hC : ∀ e s, C e → At ℓ σ s → Q (.error e) s) :
    Triple x (At ℓ σ) (Then (fun _ => At ℓ σ) Q) := by
  obtain ⟨r, ws, hw⟩ := hq
  intro s hs
  have hat : At ℓ σ ((Writes.warnOnly ws).apply s) := by
    simpa [At] using hs
  rw [hw s]
  cases r with
  | ok a => exact hat
  | error e => exact hC e _ (hr s e _ (hw s)) hat

/-- 止まりうるグラフの計算は、成功すれば状態を変えず、止まればその誤りで終わる。 -/
theorem Triple.fromChart {r : Except ChartError α} {ℓ : List LayoutStage} {σ : List Series}
    (hC : ∀ e s, r = .error e → At ℓ σ s → Q (.error (.chart e)) s) :
    Triple (fromChart r) (At ℓ σ) (Then (fun _ => At ℓ σ) Q) := by
  intro s hs
  cases r with
  | ok a => exact hs
  | error e => exact hC e s rfl hs

theorem Triple.advance {ℓ : List LayoutStage} {σ : List Series} (stage : LayoutStage) :
    Triple (advance stage) (At ℓ σ) (Then (fun _ => At (ℓ ++ [stage]) σ) Q) := by
  rintro s ⟨hℓ, hσ⟩
  exact ⟨by simp [hℓ], hσ⟩

theorem Triple.setSeries {ℓ : List LayoutStage} {σ : List Series} (σ' : List Series) :
    Triple (modify fun p => { p with series := σ' } : LayoutPass Unit) (At ℓ σ)
      (Then (fun _ => At ℓ σ') Q) := by
  rintro s ⟨hℓ, -⟩
  exact ⟨hℓ, rfl⟩

end LayoutPass

/-! ## 止まる理由の細部 -/

theorem rejectFault_raises_fault (series : List Series) (check : Series → Option SeriesFault) :
    (rejectFault series check).Raises fun e =>
      ∃ s ∈ series, ∃ f, check s = some f ∧ e = .chart (.inconsistentSeries s.name f) := by
  unfold rejectFault
  split
  · rename_i e he
    obtain ⟨s, hs, hmap⟩ := List.exists_of_findSome?_eq_some he
    cases hc : check s with
    | none =>
      rw [hc] at hmap
      cases hmap
    | some f =>
      rw [hc] at hmap
      cases hmap
      exact raises_throw ⟨s, hs, f, hc, rfl⟩
  · exact raises_pure ()

theorem Series.shapeFault?_ne_lastBeforeStart {s : Series} {f : SeriesFault}
    (h : s.shapeFault? = some f) (l st : Int) : f ≠ .lastBeforeStart l st := by
  unfold Series.shapeFault? at h
  split at h
  · cases h
    simp
  · split at h
    · cases h
      simp
    · cases h

theorem Series.rangeFault?_ne_lastBeforeStart {s : Series} {f : SeriesFault}
    (h : s.rangeFault? = some f) (l st : Int) : f ≠ .lastBeforeStart l st := by
  unfold Series.rangeFault? at h
  split at h
  · cases h
    simp
  · cases h

theorem drawableTimeRange_raises_cases (xo : AxisOverrides) (series : List Series) (mode : LineMode)
    (ms mt : Int) :
    (drawableTimeRange tk xo series mode ms mt).Raises fun e =>
      (∃ o, e = .overflow o) ∨ ∃ name l st, e = .chart (.inconsistentSeries name (.lastBeforeStart l st)) :=
  drawableTimeRange_raises_of fun _ he => drawnEndTime_error_cases he

/-- Y 軸の組み直しが止まるのは、ラベルの幅で領域が潰れたか、決まらなかったとき。 -/
theorem convergeYAxes_raises_cases (c : ChartConfig) (series : List Series) (flags : DisplayFlags)
    (dualAxis : Bool) (area : Area) :
    (convergeYAxes tk c series area flags dualAxis).Raises fun e =>
      (∃ a, e = .chart (.areaCollapsed "y axis labels" a)) ∨ ∃ n, e = .chart (.nonConvergence n) := by
  intro s e s' h
  rw [convergeYAxes_run] at h
  rcases convergeYAxesRun_error tk c series flags dualAxis h with he | ⟨he, -⟩
  · exact .inl ⟨_, he⟩
  · exact .inr ⟨_, he⟩

/-! ## 手順ごとの終わり方 -/

section Exits

variable (c : ChartConfig) (input : List Series)

theorem exitState_styled {e : LayoutFailure} {ℓ : List LayoutStage} {s : Progress}
    (hℓ : enteredFor (.error e) = ℓ) (hb : endsBeforeStyles (.error e) = false)
    (hs : At ℓ (styledSeries c input) s) : ExitState c input (.error e) s :=
  ⟨hs.1.trans hℓ.symm, by rw [hb, if_neg Bool.false_ne_true]; exact hs.2⟩

theorem exitState_unstyled {e : LayoutFailure} {s : Progress} (hℓ : enteredFor (.error e) = [])
    (hb : endsBeforeStyles (.error e) = true) (hs : At [] input s) : ExitState c input (.error e) s :=
  ⟨hs.1.trans hℓ.symm, by rw [hb, if_pos rfl]; exact hs.2⟩

theorem collapsedEntered_canvas (a : Area) :
    enteredFor (.error (.chart (.areaCollapsed "canvas margins" a))) = [] := by
  show collapsedEntered "canvas margins" = []
  decide

/-- 割り当ての後に名前の段階で潰れたときの終わりの状態。 -/
theorem exitState_collapsed {stage : String} {a : Area} {ℓ : List LayoutStage} {s : Progress}
    (hℓ : collapsedEntered stage = ℓ) (hb : (stage == "canvas margins") = false)
    (hs : At ℓ (styledSeries c input) s) : ExitState c input (.error (.chart (.areaCollapsed stage a))) s :=
  exitState_styled c input hℓ hb hs

/-- 形や時刻の範囲の誤りは、何も入らず、見た目を割り当てる前に止まる。 -/
theorem exitState_fault {name : String} {f : SeriesFault} {s : Progress}
    (hf : ∀ l st, f ≠ .lastBeforeStart l st) (hs : At [] input s) :
    ExitState c input (.error (.chart (.inconsistentSeries name f))) s := by
  refine exitState_unstyled c input ?_ ?_ hs <;> cases f <;> simp_all [enteredFor, endsBeforeStyles]

variable {c input}

/-- 題、縦の題、凡例、X のラベルの帯を取る手順は、止まればその手順の名前で潰れている。 -/
theorem reserveBands_exits (flags : DisplayFlags) (dualAxis : Bool) (area : Area) :
    Triple (reserveBands tk c (styledSeries c input) flags dualAxis area) (At [] (styledSeries c input))
      (Then (fun _ => At [.titleReserved, .vTitleReserved, .legendReserved] (styledSeries c input))
        (ExitState c input)) := by
  unfold reserveBands
  refine (Triple.fromChart fun e s he hs => ?_).bind fun ⟨a₁, t₁⟩ => ?_
  · obtain ⟨a, rfl⟩ := reserveTitle_error he
    exact exitState_collapsed c input (by decide) (by decide) hs
  refine (Triple.advance _).bind fun _ => ?_
  refine (Triple.fromChart fun e s he hs => ?_).bind fun ⟨a₂, t₂⟩ => ?_
  · obtain ⟨a, rfl | rfl⟩ := reserveVerticalTitles_error he
    · exact exitState_collapsed c input (by decide) (by decide) hs
    · exact exitState_collapsed c input (by decide) (by decide) hs
  refine (Triple.advance _).bind fun _ => ?_
  refine (Triple.fromChart fun e s he hs => ?_).bind fun ⟨a₃, l₃⟩ => ?_
  · obtain ⟨a, rfl⟩ := reserveLegend_error he
    exact exitState_collapsed c input (by decide) (by decide) hs
  refine (Triple.advance _).bind fun _ => ?_
  refine (Triple.fromChart fun e s he hs => ?_).bind fun a₄ => Triple.pure fun s hs => hs
  obtain ⟨a, rfl⟩ := reserveXLabelBand_error he
  exact exitState_collapsed c input (by decide) (by decide) hs

/-- 時刻の範囲が空でない系列の配置の終わり方。 -/
theorem plotPass_exits (xo : AxisOverrides) (ms mt : Int) :
    Triple (plotPass tk c xo input ms mt) (At [] input) (ExitState c input) := by
  unfold plotPass
  refine (Triple.quiet (quiet_rejectFault _ _) (rejectFault_raises_fault _ _)
    fun e s hC hs => ?_).bind fun _ => ?_
  · obtain ⟨t, -, f, hf, rfl⟩ := hC
    exact exitState_fault c input (Series.rangeFault?_ne_lastBeforeStart hf) hs
  refine (Triple.fromChart fun e s he hs => ?_).bind fun area => ?_
  · rw [Area.ensureValid_error he]
    exact exitState_unstyled c input (collapsedEntered_canvas _) rfl hs
  refine (Triple.setSeries (styledSeries c input)).bind fun _ => ?_
  refine (reserveBands_exits _ _ _).bind fun ⟨a₁, titles, legend⟩ => ?_
  refine (Triple.quiet (quiet_drawableTimeRange _ _ _ _ _) (drawableTimeRange_raises_cases _ _ _ _ _)
    fun e s hC hs => ?_).bind fun ⟨start, stop⟩ => ?_
  · rcases hC with ⟨o, rfl⟩ | ⟨name, l, st, rfl⟩
    · exact exitState_styled c input rfl rfl hs
    · exact exitState_styled c input rfl rfl hs
  refine (Triple.quiet (quiet_convergeYAxes _ _ _ _ _) (convergeYAxes_raises_cases _ _ _ _ _)
    fun e s hC hs => ?_).bind fun ⟨a₂, axes, iterations⟩ => ?_
  · rcases hC with ⟨a, rfl⟩ | ⟨n, rfl⟩
    · exact exitState_collapsed c input (by decide) (by decide) hs
    · exact exitState_styled c input rfl rfl hs
  refine (Triple.quiet (C := fun _ => False) (quiet_warn _) (raises_warn _)
    fun e s he hs => he.elim).bind fun _ => ?_
  refine (Triple.advance _).bind fun _ => ?_
  refine (Triple.advance _).bind fun _ => Triple.pure fun s hs => ?_
  exact ⟨hs.1, by simpa [endsBeforeStyles] using hs.2⟩

theorem noDataPass_exits : Triple (noDataPass c) (At [] input) (ExitState c input) := by
  unfold noDataPass
  exact (Triple.advance _).bind fun _ => Triple.pure fun s hs =>
    ⟨hs.1, by simpa [endsBeforeStyles] using hs.2⟩

/-- 一度の配置は、終わり方 `r` の言うとおりの状態で終わる：入った手順は `enteredFor r`、
系列は割り当ての前に終わればもとのまま、そうでなければ割り当てたもの。 -/
theorem layoutPass_exits (xo : AxisOverrides) :
    Triple (layoutPass tk c xo input) (At [] input) (ExitState c input) := by
  unfold layoutPass
  refine (Triple.fromChart fun e s he hs => ?_).bind fun ws => ?_
  · obtain ⟨m, rfl⟩ := checkSupported_error he
    exact exitState_unstyled c input rfl rfl hs
  refine (Triple.quiet (C := fun _ => False) (quiet_warn _) (raises_warn _)
    fun e s he hs => he.elim).bind fun _ => ?_
  refine (Triple.quiet (quiet_rejectFault _ _) (rejectFault_raises_fault _ _)
    fun e s hC hs => ?_).bind fun _ => ?_
  · obtain ⟨t, -, f, hf, rfl⟩ := hC
    exact exitState_fault c input (Series.shapeFault?_ne_lastBeforeStart hf) hs
  split
  · exact noDataPass_exits
  · split
    · exact noDataPass_exits
    · exact plotPass_exits xo _ _

end Exits

/-- 配置器の一度の配置が入った手順は、その終わり方の `enteredFor`。系列は、割り当ての前に
終わればもとのまま、そうでなければ割り当てたもの。 -/
theorem Converger.converge_exits (cv : Converger) (series : List Series) :
    (cv.converge series).entered = enteredFor (cv.converge series).outcome ∧
      (cv.converge series).series =
        if endsBeforeStyles (cv.converge series).outcome then series
        else styledSeries cv.config series := by
  have h := @layoutPass_exits cv.toolkit cv.config series cv.xOverrides ⟨cv.stage, series, [], []⟩ ⟨rfl, rfl⟩
  unfold Converger.converge
  rcases hrun : (layoutPass cv.toolkit cv.config cv.xOverrides series).run.run ⟨cv.stage, series, [], []⟩
    with ⟨r, p⟩
  rw [hrun] at h
  exact h

end PlotGeometry
