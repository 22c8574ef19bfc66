import PlotGeometry.Proofs.Layout.Exits
/-!
# 配置が系列に書くもの

配置が系列に書くのは線の見た目だけで、それも見た目を割り当てた後に終わった配置に限る。

* `Assigner.assignFrom_restyles` — 割り当ては系列ごとに見た目だけを書く
* `mergedTimeRange_empty_iff` — 全体の時刻の範囲が空なのは、どの終わりもどの始まりより後でないとき
* `layoutPass_noData_iff` — 「データなし」で終わるのは、描き方が扱え、形の誤りがなく、
  時刻の範囲が空のときだけ
* `Converger.converge_restyles` — 配置の後の系列、「データなし」の条件、描けた結果の系列と
  凡例の色
-/

namespace PlotGeometry

variable {tk : Toolkit}

open LayoutPass

/-! ## 見た目の割り当て -/

namespace Assigner

/-- 割り当ては、系列の並びと順を保ち、系列ごとに見た目だけを書く。 -/
theorem assignFrom_restyles (a : Assigner) (series : List Series) (cursor : Nat) :
    List.Forall₂ (fun t s => ∃ st, t = { s with style := some st }) (a.assignFrom series cursor)
      series := by
  induction series generalizing cursor with
  | nil => exact .nil
  | cons s rest ih => exact .cons ⟨_, rfl⟩ (ih _)

/-- 割り当てた系列は、どれも入力のある系列に見た目を書いたもの。 -/
theorem mem_assignFrom {a : Assigner} {series : List Series} {cursor : Nat} {t : Series}
    (ht : t ∈ a.assignFrom series cursor) : ∃ s ∈ series, ∃ st, t = { s with style := some st } := by
  induction series generalizing cursor with
  | nil => cases ht
  | cons s rest ih =>
    rcases List.mem_cons.mp ht with rfl | ht
    · exact ⟨s, List.mem_cons_self .., _, rfl⟩
    · obtain ⟨s', hs', st, rfl⟩ := ih ht
      exact ⟨s', List.mem_cons_of_mem _ hs', st, rfl⟩

/-- 割り当てた系列にはどれも見た目がある。 -/
theorem style_of_mem_assignFrom {a : Assigner} {series : List Series} {cursor : Nat} {t : Series}
    (ht : t ∈ a.assignFrom series cursor) : ∃ st, t.style = some st := by
  obtain ⟨s, -, st, rfl⟩ := mem_assignFrom ht
  exact ⟨st, rfl⟩

end Assigner

theorem styledSeries_restyles (c : ChartConfig) (input : List Series) :
    List.Forall₂ (fun t s => ∃ st, t = { s with style := some st }) (styledSeries c input) input :=
  Assigner.assignFrom_restyles _ input 0

theorem style_of_mem_styledSeries {c : ChartConfig} {input : List Series} {t : Series}
    (ht : t ∈ styledSeries c input) : ∃ st, t.style = some st :=
  Assigner.style_of_mem_assignFrom ht

/-! ## 全体の時刻の範囲 -/

theorem le_foldl_min_iff (f : Series → Int) (bound first : Int) (rest : List Series) :
    bound ≤ rest.foldl (fun acc t => min acc (f t)) first ↔ bound ≤ first ∧ ∀ t ∈ rest, bound ≤ f t := by
  induction rest generalizing first with
  | nil => simp
  | cons next rest ih =>
    simp only [List.foldl_cons, ih, le_min_iff, List.mem_cons, forall_eq_or_imp]
    tauto

theorem foldl_max_le_iff (f : Series → Int) (bound first : Int) (rest : List Series) :
    rest.foldl (fun acc t => max acc (f t)) first ≤ bound ↔ first ≤ bound ∧ ∀ t ∈ rest, f t ≤ bound := by
  induction rest generalizing first with
  | nil => simp
  | cons next rest ih =>
    simp only [List.foldl_cons, ih, max_le_iff, List.mem_cons, forall_eq_or_imp]
    tauto

/-- 全体の時刻の範囲が空（系列がないか、最も遅い終わりが最も早い始まりより後でない）なのは、
どの系列の終わりもどの系列の始まりより後でないとき。 -/
theorem mergedTimeRange_empty_iff (input : List Series) :
    (∀ a b, mergedTimeRange input = some (a, b) → b ≤ a) ↔
      ∀ s ∈ input, ∀ t ∈ input, s.stopTime ≤ t.startTime := by
  cases input with
  | nil => simp [mergedTimeRange]
  | cons first rest =>
    have hrange : (∀ a b, mergedTimeRange (first :: rest) = some (a, b) → b ≤ a) ↔
        rest.foldl (fun acc t => max acc t.stopTime) first.stopTime ≤
          rest.foldl (fun acc t => min acc t.startTime) first.startTime := by
      simp [mergedTimeRange]
    rw [hrange, foldl_max_le_iff Series.stopTime, le_foldl_min_iff Series.startTime]
    simp only [le_foldl_min_iff Series.startTime, List.mem_cons, forall_eq_or_imp]

/-! ## 「データなし」で終わるとき -/

/-- 描き方が扱えるのは、円グラフでなく、対数の底が有限で正の 1 でない数でないとき。 -/
theorem checkSupported_ok_iff (c : ChartConfig) :
    (∃ ws, checkSupported c = .ok ws) ↔ c.graphType ≠ .pie ∧
      ∀ b, c.logBase = some b → ¬(b.isFinite = true ∧ 0.0 < b ∧ (b != 1.0) = true) := by
  unfold checkSupported
  by_cases hpie : c.graphType = .pie
  · simp [hpie]
  · cases hb : c.logBase with
    | none => simp [hpie]
    | some b =>
      by_cases hlog : b.isFinite = true ∧ 0.0 < b ∧ (b != 1.0) = true
      · simp [hpie, hlog]
      · have hbool : (b.isFinite && decide (0.0 < b) && b != 1.0) = false := by
          rw [Bool.eq_false_iff]
          intro h
          simp only [Bool.and_eq_true, decide_eq_true_eq] at h
          exact hlog ⟨h.1.1, h.1.2, h.2⟩
        refine ⟨fun _ => ⟨hpie, fun b' hb' => ?_⟩, fun _ => ⟨[.invalidLogBase], by simp [hpie, hbool]⟩⟩
        cases hb'
        exact hlog

theorem firstFault_eq_none_iff {series : List Series} {check : Series → Option SeriesFault} :
    firstFault series check = none ↔ ∀ s ∈ series, check s = none := by
  simp [firstFault, List.findSome?_eq_none_iff]

/-- 時刻の範囲が空でない系列の配置は、成功すれば描けた結果を返す。 -/
theorem plotPass_ok {c : ChartConfig} {xo : AxisOverrides} {input : List Series} {ms mt : Int}
    {s s' : Progress} {o : LayoutOutcome} (h : (plotPass tk c xo input ms mt).run.run s = (.ok o, s')) :
    ∃ p, o = .plotted p := by
  unfold plotPass at h
  obtain ⟨_, s₀, -, h⟩ := bind_ok h
  obtain ⟨_, s₁, -, h⟩ := bind_ok h
  obtain ⟨_, s₂, -, h⟩ := bind_ok h
  obtain ⟨_, s₃, -, h⟩ := bind_ok h
  obtain ⟨_, s₄, -, h⟩ := bind_ok h
  obtain ⟨_, s₅, -, h⟩ := bind_ok h
  obtain ⟨_, s₆, -, h⟩ := bind_ok h
  obtain ⟨_, s₇, -, h⟩ := bind_ok h
  obtain ⟨_, s₈, -, h⟩ := bind_ok h
  rw [run_pure] at h
  cases h
  exact ⟨_, rfl⟩

/-- 一度の配置が「データなし」で終わるのは、描き方が扱え、どの系列にも形の誤りがなく、
全体の時刻の範囲が空のときだけ。 -/
theorem layoutPass_noData_iff (c : ChartConfig) (xo : AxisOverrides) (input : List Series)
    (s : Progress) :
    (∃ ph, ((layoutPass tk c xo input).run.run s).1 = .ok (.noData ph)) ↔
      (∃ ws, checkSupported c = .ok ws) ∧ (∀ t ∈ input, t.shapeFault? = none) ∧
        ∀ a b, mergedTimeRange input = some (a, b) → b ≤ a := by
  constructor
  · rintro ⟨ph, h⟩
    rcases hrun : (layoutPass tk c xo input).run.run s with ⟨r, s'⟩
    rw [hrun] at h
    subst h
    unfold layoutPass at hrun
    obtain ⟨ws, s₀, h₀, hrun⟩ := bind_ok hrun
    obtain ⟨_, s₁, -, hrun⟩ := bind_ok hrun
    obtain ⟨_, s₂, h₂, hrun⟩ := bind_ok hrun
    refine ⟨⟨ws, (fromChart_ok h₀).1⟩, firstFault_eq_none_iff.mp (rejectFault_ok h₂).1, ?_⟩
    intro a b hm
    rw [hm] at hrun
    dsimp only at hrun
    by_contra hlt
    rw [if_neg hlt] at hrun
    obtain ⟨p, hp⟩ := plotPass_ok hrun
    cases hp
  · rintro ⟨⟨ws, hws⟩, hshape, hrange⟩
    have hfault : firstFault input Series.shapeFault? = none := firstFault_eq_none_iff.mpr hshape
    unfold layoutPass
    rw [run_bind, run_fromChart, hws]
    dsimp only
    rw [run_bind, run_warn]
    dsimp only
    rw [run_bind]
    unfold rejectFault
    rw [hfault, run_pure]
    dsimp only
    cases hm : mergedTimeRange input with
    | none => exact ⟨_, rfl⟩
    | some r =>
      obtain ⟨a, b⟩ := r
      dsimp only
      rw [if_pos (hrange a b hm)]
      exact ⟨_, rfl⟩

/-! ## 描けた結果の系列と凡例 -/

/-- 見た目のある系列の並びから作った描く系列は、名前、軸、見た目を順に写す。 -/
theorem visuals_forall₂ {series : List Series} (h : ∀ t ∈ series, ∃ st, t.style = some st) :
    List.Forall₂ (fun v t => v.name = t.name ∧ v.axis = t.axis ∧ t.style = some v.style)
      (series.filterMap fun t => t.style.map fun st => (⟨t.name, t.axis, st⟩ : SeriesVisual))
      series := by
  induction series with
  | nil => exact .nil
  | cons t rest ih =>
    obtain ⟨st, hst⟩ := h t (List.mem_cons_self ..)
    simp only [List.filterMap_cons, hst, Option.map_some]
    exact .cons ⟨rfl, rfl, hst⟩ (ih fun u hu => h u (List.mem_cons_of_mem _ hu))

theorem uniqueByName.go_sublist (seen : List String) (series : List Series) :
    (uniqueByName.go seen series).Sublist series := by
  induction series generalizing seen with
  | nil => exact .slnil
  | cons s rest ih =>
    unfold uniqueByName.go
    split
    · exact (ih seen).cons s
    · exact (ih _).cons_cons s

/-- 凡例の項目は、どれもいずれかの系列の項目。 -/
theorem exists_of_mem_legendEntries {series : List Series} {unique : Bool} {e : LegendEntry}
    (he : e ∈ legendEntries series unique) : ∃ s ∈ series, s.legendEntry = e := by
  obtain ⟨s, hs, rfl⟩ := List.mem_map.mp he
  refine ⟨s, ?_, rfl⟩
  split at hs
  · exact (uniqueByName.go_sublist [] series).subset hs
  · exact hs

theorem layoutLegend_entries {tm : TextMeasurer} {series : List Series} {opts : LegendOptions}
    {area : Area} {l : LegendLayout} (h : layoutLegend tm series opts area = .ok l) :
    l.entries = legendEntries series opts.unique := by
  unfold layoutLegend at h
  dsimp only at h
  split at h
  · cases h
    rfl
  · simp only [bind, Except.bind] at h
    split at h
    · cases h
    · cases h
      rfl

theorem reserveLegend_entries {c : ChartConfig} {series : List Series} {area a : Area}
    {dualAxis : Bool} {flags : DisplayFlags} {l : LegendLayout}
    (h : reserveLegend tk c series area dualAxis flags = .ok (a, some l)) :
    l.entries = legendEntries series c.uniqueLegend := by
  unfold reserveLegend at h
  split at h
  · cases hl : layoutLegend tk.measurer series ⟨c.width, c.font, c.uniqueLegend, dualAxis⟩ area with
    | ok l' =>
      rw [hl] at h
      cases h
      exact layoutLegend_entries hl
    | error e =>
      rw [hl] at h
      cases h
  · cases h

/-! ## 配置器の結果 -/

namespace Converger

/-- 配置が系列に書くのは見た目だけである。見た目を割り当てる前に終わった配置（扱えない描き方、
形か時刻の範囲の誤り、余白で潰れた、データなし）では系列は入力のまま、そうでなければ配置の
割り当てた見た目（二軸なら軸ごとの見た目を加えたもの）を持つ。「データなし」で終わるのは、
円グラフでなく、使える対数の底もなく、どの系列にも形の誤りがなく、どの終わりもどの始まりより
後でないときだけ。描けた結果の系列は、割り当てた系列の名前、軸、見た目を順に写し、凡例の
項目はそれらの色を持つ。 -/
theorem converge_restyles (cv : Converger) (input : List Series) :
    let run := cv.converge input
    List.Forall₂ (fun t s => t = { s with style := t.style }) run.series input ∧
      run.series = (if endsBeforeStyles run.outcome then input else styledSeries cv.config input) ∧
      ((∃ ph, run.outcome = .ok (.noData ph)) ↔
        cv.config.graphType ≠ .pie ∧
          (∀ b, cv.config.logBase = some b → ¬(b.isFinite = true ∧ 0.0 < b ∧ (b != 1.0) = true)) ∧
          (∀ s ∈ input, s.shapeFault? = none) ∧
          ∀ s ∈ input, ∀ t ∈ input, s.stopTime ≤ t.startTime) ∧
      ∀ p, run.outcome = .ok (.plotted p) →
        List.Forall₂ (fun v t => v.name = t.name ∧ v.axis = t.axis ∧ t.style = some v.style)
          p.series run.series ∧
        ∀ l, p.legend = some l → ∀ e ∈ l.entries,
          ∃ v ∈ p.series, v.name = e.name ∧ v.axis = e.axis ∧ v.style.color = e.color := by
  intro run
  have hexit : run.series = _ := (converge_exits cv input).2
  refine ⟨?_, hexit, ?_, fun p hp => ?_⟩
  · rw [hexit]
    split
    · exact List.forall₂_same.mpr fun s _ => rfl
    · exact (styledSeries_restyles cv.config input).imp fun t s ⟨st, ht⟩ => by rw [ht]
  · have h := @layoutPass_noData_iff cv.toolkit cv.config cv.xOverrides input ⟨cv.stage, input, [], []⟩
    rw [checkSupported_ok_iff, mergedTimeRange_empty_iff] at h
    exact h.trans and_assoc
  · obtain ⟨s', hrun⟩ := converge_run hp
    obtain ⟨tr⟩ := layoutPass_plotted hrun
    have hstyled : run.series = styledSeries cv.config input := by
      rw [hexit, hp]
      rfl
    refine ⟨?_, fun l hl e he => ?_⟩
    · rw [tr.series_eq, hstyled]
      exact visuals_forall₂ fun t ht => style_of_mem_styledSeries ht
    · have hentries := reserveLegend_entries (hl ▸ tr.legend_eq)
      rw [hentries] at he
      obtain ⟨t, ht, rfl⟩ := exists_of_mem_legendEntries he
      obtain ⟨st, hst⟩ := style_of_mem_styledSeries ht
      refine ⟨⟨t.name, t.axis, st⟩, ?_, rfl, rfl, ?_⟩
      · rw [tr.series_eq]
        exact List.mem_filterMap.mpr ⟨t, ht, by rw [hst]; rfl⟩
      · simp [Series.legendEntry, hst]

end Converger

end PlotGeometry
