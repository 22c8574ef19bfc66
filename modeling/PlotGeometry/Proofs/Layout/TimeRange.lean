import PlotGeometry.Proofs.Layout.XAxis
/-!
# 描く時刻の範囲

X 軸が覆う時刻の範囲 `(start, stop)` は、配置の軸の手順で `drawableTimeRange` が決める。
線の終わりの時刻は、階段の線か、どの系列も 2 点なら全体の終わり。そうでなければ各系列の
「終わり − 刻み」（最後の点の時刻）の最大で、それが全体の始まりと等しければ全体の終わり。
X の範囲の上書きは、時刻にならなければ捨て、使うと範囲が空になるなら使わない。

上書きを使わなければ、範囲は最も早い始まりから始まる。終わりは全体の終わりか、最も遅い
「終わり − 刻み」で、どの系列の刻みも負でなければ全体の終わりを越えない。形の検査は 1 点以下の
系列の刻みを調べないので、刻みが負の空の系列が一つあると、X 軸はどの系列の終わりよりも先まで
伸びる（`xAxis_runs_past_data`）。

* `drawnEndTime_spec` — 線の終わりの時刻は全体の終わりか、最も遅い「終わり − 刻み」
* `drawableTimeRange_ok` — 上書きを使うか、使わずに全体の始まりと線の終わりの時刻を返すか
* `drawableTimeRange_within_data` — 上書きを使わないときの範囲
* `xAxis_runs_past_data` — 刻みが負の空の系列で、X 軸がデータの先まで伸びる
-/

namespace PlotGeometry

variable {tk : Toolkit}

open LayoutPass

/-! ## 最後の点の時刻 -/

theorem subI64_ok {a b x : Int} (h : subI64 a b = .ok x) : x = a - b := by
  unfold subI64 at h
  split at h
  · rename_i y hin
    cases h
    unfold inI64? at hin
    split at hin
    · cases hin
      rfl
    · cases hin
  · cases h

/-- 並びの計算が成功し、成功した要素の値がいつも `g` なら、結果は `g` を写した並び。 -/
theorem mapM_ok_eq_map {α β ε : Type} {f : α → Except ε β} {g : α → β} {xs : List α} {ys : List β}
    (hf : ∀ x y, f x = .ok y → y = g x) (h : xs.mapM f = .ok ys) : ys = xs.map g := by
  induction xs generalizing ys with
  | nil =>
    cases h
    rfl
  | cons x rest ih =>
    rw [List.mapM_cons] at h
    cases hx : f x with
    | error e => simp only [hx, bind, Except.bind] at h; cases h
    | ok y =>
      cases hr : rest.mapM f with
      | error e => simp only [hx, hr, bind, Except.bind] at h; cases h
      | ok zs =>
        simp only [hx, hr, bind, Except.bind, pure, Except.pure] at h
        cases h
        rw [hf x y hx, ih hr, List.map_cons]

/-- 最後の点の時刻の並びが求まったなら、それは各系列の名前と「終わり − 刻み」。 -/
theorem mapM_lastSample_ok {series : List Series} {lasts : List (String × Int)}
    (h : series.mapM (fun s => (subI64 s.stopTime s.stepTime).map (s.name, ·)) = .ok lasts) :
    lasts = series.map fun s => (s.name, s.stopTime - s.stepTime) := by
  refine mapM_ok_eq_map (fun s y hy => ?_) h
  cases hs : subI64 s.stopTime s.stepTime with
  | error o => rw [hs] at hy; cases hy
  | ok x =>
    rw [hs] at hy
    cases hy
    rw [subI64_ok hs]

/-- `lastMaximal` の畳み込みの不変条件：結果は種か並びの要素で、種と並びのどの値もそれ以下。 -/
theorem foldl_lastMaximal_spec (xs : List (String × Int)) (acc : Option (String × Int))
    {b : String × Int}
    (h : xs.foldl (fun acc x => match acc with
      | none => some x
      | some best => if best.2 ≤ x.2 then some x else some best) acc = some b) :
    (acc = some b ∨ b ∈ xs) ∧ (∀ a, acc = some a → a.2 ≤ b.2) ∧ ∀ x ∈ xs, x.2 ≤ b.2 := by
  induction xs generalizing acc with
  | nil =>
    cases h
    exact ⟨.inl rfl, fun a ha => by cases ha; exact le_rfl, fun x hx => by cases hx⟩
  | cons x rest ih =>
    rw [List.foldl_cons] at h
    obtain ⟨hmem, hacc, hrest⟩ := ih _ h
    -- 一歩進めた種は `x` か前の種で、どちらの値も前の種と `x` の値以上
    have hstep : ∃ a', (match acc with
        | none => some x
        | some best => if best.2 ≤ x.2 then some x else some best) = some a' ∧
        (a' = x ∨ acc = some a') ∧ x.2 ≤ a'.2 ∧ ∀ a, acc = some a → a.2 ≤ a'.2 := by
      cases acc with
      | none => exact ⟨x, rfl, .inl rfl, le_rfl, fun a ha => by cases ha⟩
      | some best =>
        by_cases hle : best.2 ≤ x.2
        · exact ⟨x, if_pos hle, .inl rfl, le_rfl, fun a ha => by cases ha; exact hle⟩
        · exact ⟨best, if_neg hle, .inr rfl, by omega, fun a ha => by cases ha; exact le_rfl⟩
    obtain ⟨a', ha', hwhich, hx, hprev⟩ := hstep
    have hb := hacc a' ha'
    refine ⟨?_, fun a ha => le_trans (hprev a ha) hb, ?_⟩
    · rcases hmem with hmem | hmem
      · rw [ha'] at hmem
        cases hmem
        rcases hwhich with rfl | hwhich
        · exact .inr (List.mem_cons_self ..)
        · exact .inl hwhich
      · exact .inr (List.mem_cons_of_mem _ hmem)
    · intro y hy
      rcases List.mem_cons.mp hy with rfl | hy
      · exact le_trans hx hb
      · exact hrest y hy

/-- 最大の値を持つ最後の組は並びの要素で、どの要素の値もそれ以下。 -/
theorem lastMaximal_spec {xs : List (String × Int)} {b : String × Int} (h : lastMaximal xs = some b) :
    b ∈ xs ∧ ∀ x ∈ xs, x.2 ≤ b.2 := by
  obtain ⟨hmem, -, hle⟩ := foldl_lastMaximal_spec xs none h
  refine ⟨?_, hle⟩
  rcases hmem with hmem | hmem
  · cases hmem
  · exact hmem

/-- 線の終わりの時刻。階段の線か、どの系列も 2 点なら全体の終わり。そうでなければ全体の
終わりか、ある系列の「終わり − 刻み」で、どの系列の「終わり − 刻み」もそれ以下。 -/
theorem drawnEndTime_spec {series : List Series} {mode : LineMode} {ms mt e : Int}
    (h : drawnEndTime series mode ms mt = .ok e) :
    ((mode = .staircase ∨ ∀ s ∈ series, s.pointCount = 2) → e = mt) ∧
      (e = mt ∨ (∃ s ∈ series, e = s.stopTime - s.stepTime) ∧
        ∀ s ∈ series, s.stopTime - s.stepTime ≤ e) := by
  unfold drawnEndTime at h
  split at h
  · rename_i hslope
    simp only [Bool.and_eq_true, bne_iff_ne, ne_eq, Bool.not_eq_true', List.all_eq_false,
      beq_iff_eq] at hslope
    obtain ⟨hmode, s₂, hs₂, hpoints⟩ := hslope
    have hflat : ¬(mode = .staircase ∨ ∀ s ∈ series, s.pointCount = 2) := by
      rintro (hst | hall)
      · exact hmode hst
      · exact hpoints (hall s₂ hs₂)
    split at h
    · cases h
    · rename_i lasts hmap
      rw [mapM_lastSample_ok hmap] at h
      split at h
      · cases h
        exact ⟨fun hc => absurd hc hflat, .inl rfl⟩
      · rename_i name last hmax
        obtain ⟨hmem, hle⟩ := lastMaximal_spec hmax
        split at h
        · cases h
        · cases h
          refine ⟨fun hc => absurd hc hflat, ?_⟩
          split
          · obtain ⟨s, hs, hseq⟩ := List.mem_map.mp hmem
            refine .inr ⟨⟨s, hs, (Prod.mk.inj hseq).2.symm⟩, fun t ht => ?_⟩
            exact hle (t.name, t.stopTime - t.stepTime) (List.mem_map_of_mem ht)
          · exact .inl rfl
  · rename_i hstair
    simp only [Bool.and_eq_true, bne_iff_ne, ne_eq, Bool.not_eq_true', List.all_eq_false,
      beq_iff_eq, not_and, not_exists, Classical.not_not] at hstair
    cases h
    exact ⟨fun _ => rfl, .inl rfl⟩

/-! ## 全体の時刻の範囲 -/

/-- 全体の時刻の範囲は、最も早い始まりと最も遅い終わり。 -/
theorem mergedTimeRange_spec {series : List Series} {ms mt : Int}
    (h : mergedTimeRange series = some (ms, mt)) :
    (∀ s ∈ series, ms ≤ s.startTime) ∧ ∀ s ∈ series, s.stopTime ≤ mt := by
  cases series with
  | nil => cases h
  | cons first rest =>
    simp only [mergedTimeRange, Option.some.injEq, Prod.mk.injEq] at h
    obtain ⟨rfl, rfl⟩ := h
    have hmin := (le_foldl_min_iff Series.startTime _ first.startTime rest).mp le_rfl
    have hmax := (foldl_max_le_iff Series.stopTime _ first.stopTime rest).mp le_rfl
    simp only [List.mem_cons, forall_eq_or_imp]
    exact ⟨hmin, hmax⟩

/-! ## 上書きを使うか -/

/-- 描く時刻の範囲は、上書きを使うと空になるなら全体の始まりと線の終わりの時刻、そうでなければ
上書き（ないほうは全体の始まりか線の終わりの時刻）。 -/
theorem drawableTimeRange_ok {xo : AxisOverrides} {series : List Series} {mode : LineMode}
    {ms mt start stop : Int} {s s' : Progress}
    (h : (drawableTimeRange tk xo series mode ms mt).run.run s = (.ok (start, stop), s')) :
    ∃ e, drawnEndTime series mode ms mt = .ok e ∧
      (start, stop) = if (timeOverride tk xo.max).1.getD e ≤ (timeOverride tk xo.min).1.getD ms then (ms, e)
        else ((timeOverride tk xo.min).1.getD ms, (timeOverride tk xo.max).1.getD e) := by
  unfold drawableTimeRange at h
  obtain ⟨e, s₀, h₀, h⟩ := bind_ok h
  refine ⟨e, (run_ofExcept_ok h₀).1, ?_⟩
  rcases hlo : timeOverride tk xo.min with ⟨lo, w₁⟩
  rcases hhi : timeOverride tk xo.max with ⟨hi, w₂⟩
  rw [hlo, hhi] at h
  obtain ⟨_, s₁, -, h⟩ := bind_ok h
  dsimp only at h ⊢
  split at h
  · rename_i hdrop
    obtain ⟨_, s₂, -, h⟩ := bind_ok h
    cases h
    rw [if_pos hdrop]
  · rename_i hkeep
    cases h
    rw [if_neg hkeep]

/-- X の範囲の上書きを使っていない：どちらも時刻にならない（ないか、表せない時刻）か、使えば
終わりが始まり以前になるので捨てた。`stop` は描く範囲の終わり。 -/
def TimeOverridesUnused (tk : Toolkit) (xo : AxisOverrides) (ms stop : Int) : Prop :=
  ((timeOverride tk xo.min).1 = none ∧ (timeOverride tk xo.max).1 = none) ∨
    (timeOverride tk xo.max).1.getD stop ≤ (timeOverride tk xo.min).1.getD ms

/-- 上書きを使わなければ、描く範囲は全体の始まりと線の終わりの時刻。 -/
theorem drawableTimeRange_of_unused {xo : AxisOverrides} {series : List Series} {mode : LineMode}
    {ms mt start stop : Int} {s s' : Progress} (hlt : ms < mt)
    (h : (drawableTimeRange tk xo series mode ms mt).run.run s = (.ok (start, stop), s'))
    (hunused : TimeOverridesUnused tk xo ms stop) :
    start = ms ∧ drawnEndTime series mode ms mt = .ok stop := by
  obtain ⟨e, he, hrange⟩ := drawableTimeRange_ok h
  have hgt := drawnEndTime_gt hlt he
  split at hrange
  · obtain ⟨rfl, rfl⟩ := Prod.mk.inj hrange
    exact ⟨rfl, he⟩
  · rename_i hkeep
    obtain ⟨rfl, rfl⟩ := Prod.mk.inj hrange
    rcases hunused with ⟨hlo, hhi⟩ | hdrop
    · simp only [hlo, hhi, Option.getD_none, true_and]
      exact he
    · exfalso
      rcases hhi : (timeOverride tk xo.max).1 with _ | hi
      · simp only [hhi, Option.getD_none] at hdrop hkeep
        exact hkeep hdrop
      · simp only [hhi, Option.getD_some] at hdrop hkeep
        exact hkeep hdrop

/-- 描く時刻の範囲は空でない。X の範囲の上書きを使わなければ、範囲は全体の始まり（最も早い
始まり）から始まり、終わりは全体の終わり（最も遅い終わり）か、最も遅い「終わり − 刻み」。
階段の線か、どの系列も 2 点なら終わりは全体の終わり。どの系列の刻みも負でなければ、終わりは
全体の終わりを越えない。 -/
theorem drawableTimeRange_within_data {xo : AxisOverrides} {series : List Series} {mode : LineMode}
    {ms mt start stop : Int} {s s' : Progress}
    (hm : mergedTimeRange series = some (ms, mt)) (hlt : ms < mt)
    (h : (drawableTimeRange tk xo series mode ms mt).run.run s = (.ok (start, stop), s')) :
    start < stop ∧
      (TimeOverridesUnused tk xo ms stop →
        start = ms ∧
        ((mode = .staircase ∨ ∀ t ∈ series, t.pointCount = 2) → stop = mt) ∧
        (stop = mt ∨ (∃ t ∈ series, stop = t.stopTime - t.stepTime) ∧
          ∀ t ∈ series, t.stopTime - t.stepTime ≤ stop) ∧
        ((∀ t ∈ series, 0 ≤ t.stepTime) → stop ≤ mt)) := by
  refine ⟨drawableTimeRange_lt hlt h, fun hunused => ?_⟩
  obtain ⟨rfl, he⟩ := drawableTimeRange_of_unused hlt h hunused
  obtain ⟨hflat, hend⟩ := drawnEndTime_spec he
  refine ⟨rfl, hflat, hend, fun hsteps => ?_⟩
  rcases hend with rfl | ⟨⟨t, ht, rfl⟩, -⟩
  · exact le_rfl
  · have hstop := (mergedTimeRange_spec hm).2 t ht
    have hstep := hsteps t ht
    omega

/-- 3 点の系列と、刻み 60 の 2 点の系列。 -/
def slopePairSeries : List Series :=
  [{ name := "a", startTime := 0, stopTime := 180, stepTime := 60, values := #[1.0, 2.0, 3.0],
     absent := #[false, false, false] },
   { name := "b", startTime := 60, stopTime := 120, stepTime := 30, values := #[4.0, 5.0],
     absent := #[false, false] }]

/-- 上書きなしで傾きの線を描くと、範囲は 0 から最も遅い最後の点 120 まで。 -/
theorem drawableTimeRange_within_data_slopes :
    mergedTimeRange slopePairSeries = some (0, 180) ∧ (0 : Int) < 180 ∧
      (drawableTimeRange .standard {} slopePairSeries .slope 0 180).run.run ⟨.legendReserved, [], [], []⟩ =
        (.ok (0, 120), ⟨.legendReserved, [], [], []⟩) ∧
      ((0 : Int) < 120 ∧
        (TimeOverridesUnused .standard {} 0 120 →
          (0 : Int) = 0 ∧
          ((LineMode.slope = .staircase ∨ ∀ t ∈ slopePairSeries, t.pointCount = 2) → (120 : Int) = 180) ∧
          ((120 : Int) = 180 ∨ (∃ t ∈ slopePairSeries, 120 = t.stopTime - t.stepTime) ∧
            ∀ t ∈ slopePairSeries, t.stopTime - t.stepTime ≤ 120) ∧
          ((∀ t ∈ slopePairSeries, 0 ≤ t.stepTime) → (120 : Int) ≤ 180))) := by
  have hm : mergedTimeRange slopePairSeries = some (0, 180) := by decide
  have hrun : (drawableTimeRange .standard {} slopePairSeries .slope 0 180).run.run ⟨.legendReserved, [], [], []⟩ =
      (.ok (0, 120), ⟨.legendReserved, [], [], []⟩) := rfl
  exact ⟨hm, by decide, hrun, drawableTimeRange_within_data hm (by decide) hrun⟩

/-! ## データの先まで伸びる X 軸 -/

/-- 3 点の系列と、刻みが負の空の系列（形と時刻の範囲の検査に通る）。 -/
def negativeStepSeries : List Series :=
  [{ name := "a", startTime := 0, stopTime := 180, stepTime := 60, values := #[1.0, 2.0, 3.0],
     absent := #[false, false, false] },
   { name := "b", startTime := 0, stopTime := 0, stepTime := -1000, values := #[], absent := #[] }]

/-- 上書きなしでも、X 軸はどの系列の終わりよりも先まで伸びうる。空の系列 `b` の「終わり − 刻み」
は 1000 で、どの系列の終わり（180 以下）よりも後。 -/
theorem xAxis_runs_past_data :
    (∀ t ∈ negativeStepSeries, t.stopTime ≤ 180) ∧
      ∃ p, (layoutGraph { y := { step := some 1.0 } } negativeStepSeries .standard).outcome = .ok (.plotted p) ∧
        p.xAxis.startTime = 0 ∧ p.xAxis.endTime = 1000 := by
  refine ⟨by decide, ?_⟩
  obtain ⟨p, hp, hx⟩ := exists_plotted_of_any
    (layoutGraph { y := { step := some 1.0 } } negativeStepSeries .standard).outcome
    (fun p => p.xAxis.startTime == 0 && p.xAxis.endTime == 1000) (by decide +kernel)
  simp only [Bool.and_eq_true, beq_iff_eq] at hx
  exact ⟨p, hp, hx⟩

end PlotGeometry
