import PlotGeometry.Proofs.Layout.Pass
import PlotGeometry.Proofs.Float.Order
/-!
# Y 軸の組み直しは二度で終わる

`convergeYAxes` は、ラベルの幅だけ領域を狭めては Y 軸を組み直し、領域が `==` で動かなく
なるまで繰り返す。ここでは、この繰り返しが二度目で必ず止まることを示す。

理由は二つ。

1. `setupYAxes` は領域を読まない。だから毎回同じ軸、同じラベルの幅になる。
2. 狭め `applyLabelInsets` は一度で決まる（冪等）。一本の軸の狭めは `maxNum` か `minNum` で、
   同じ相手とのそれは二度しても同じ（`maxNum_maxNum_self`）。軸どうしは辺が違うので、
   狭める端も違い、順序を入れ替えられる。

狭めた結果が空でなければ端はどれも NaN でないので、二度目の狭めの結果は一度目のものと `==`。

* `convergeYAxes_run` — 繰り返しの閉じた形 `convergeYAxesRun`
* `layoutPass_raises` — 組み直しの上限に届いて止まるのは、上限が 1 以下のときだけ
* `convergeYAxes_two_passes` — 配置全体について、上の二つと描けた結果の回数と不動点
-/

namespace PlotGeometry

variable {tk : Toolkit}

open LayoutPass

/-! ## 一本の軸の狭め -/

/-- 一本の軸のラベルの幅による狭め。`applyLabelInsets` はこれを軸の順に畳み込む。 -/
def labelInset (c : ChartConfig) (a : Area) (l : YAxisLayout) : Area :=
  if 0.0 < l.labelWidth then
    let inset := c.margin + l.labelWidth * labelInsetFactor
    match l.side with
    | .left => { a with xmin := maxNum a.xmin inset }
    | .right => { a with xmax := minNum a.xmax (c.width - inset) }
  else a

theorem applyLabelInsets_eq_foldl (c : ChartConfig) (area : Area) (axes : List YAxisLayout) :
    applyLabelInsets c area axes = axes.foldl (labelInset c) area := rfl

/-- ラベルの縦の位置は狭めに関わらない。 -/
theorem applyLabelInsets_placeLabels (c : ChartConfig) (a b : Area) (axes : List YAxisLayout) :
    applyLabelInsets c a (axes.map (·.placeLabels b)) = applyLabelInsets c a axes := by
  rw [applyLabelInsets_eq_foldl, applyLabelInsets_eq_foldl, List.foldl_map]
  rfl

theorem labelInset_labelInset_self (c : ChartConfig) (a : Area) (l : YAxisLayout) :
    labelInset c (labelInset c a l) l = labelInset c a l := by
  unfold labelInset
  by_cases hw : 0.0 < l.labelWidth
  · cases hs : l.side <;> simp [hw, maxNum_maxNum_self, minNum_minNum_self]
  · simp [hw]

/-- 辺の違う二本の軸の狭めは、動かす端が違うので入れ替えられる。 -/
theorem labelInset_comm (c : ChartConfig) (a : Area) {l l' : YAxisLayout}
    (h : l.side ≠ l'.side) :
    labelInset c (labelInset c a l) l' = labelInset c (labelInset c a l') l := by
  unfold labelInset
  by_cases hw : 0.0 < l.labelWidth <;> by_cases hw' : 0.0 < l'.labelWidth <;>
    cases hs : l.side <;> cases hs' : l'.side <;> simp_all

/-! ## 辺の違う軸の列 -/

theorem labelInset_foldl_comm (c : ChartConfig) {l : YAxisLayout} :
    ∀ {axes : List YAxisLayout} (a : Area), (∀ l' ∈ axes, l'.side ≠ l.side) →
      labelInset c (axes.foldl (labelInset c) a) l = axes.foldl (labelInset c) (labelInset c a l)
  | [], _, _ => rfl
  | l' :: axes, a, h => by
    have hl' : l'.side ≠ l.side := h l' List.mem_cons_self
    have hrest : ∀ l'' ∈ axes, l''.side ≠ l.side := fun l'' hm => h l'' (List.mem_cons_of_mem _ hm)
    rw [List.foldl_cons, List.foldl_cons, labelInset_foldl_comm c (labelInset c a l') hrest,
      labelInset_comm c a hl']

/-- 辺がどれも違う軸の列による狭めは冪等。 -/
theorem foldl_labelInset_idem (c : ChartConfig) :
    ∀ {axes : List YAxisLayout} (a : Area), axes.Pairwise (·.side ≠ ·.side) →
      axes.foldl (labelInset c) (axes.foldl (labelInset c) a) = axes.foldl (labelInset c) a
  | [], _, _ => rfl
  | l :: axes, a, h => by
    obtain ⟨hl, hrest⟩ := List.pairwise_cons.mp h
    have hother : ∀ l' ∈ axes, l'.side ≠ l.side := fun l' hm => (hl l' hm).symm
    -- 先頭の軸の狭めを残りの軸の後ろへ送ると、同じ狭めが二つ並ぶ
    rw [List.foldl_cons, List.foldl_cons, labelInset_foldl_comm c _ hother,
      labelInset_labelInset_self, foldl_labelInset_idem c _ hrest]

/-! ## 組み直しで作る軸 -/

section Axes

variable (tk) (c : ChartConfig) (series : List Series) (flags : DisplayFlags) (dualAxis : Bool)

theorem setupYAxis_side (p : AxisSide × YAxisSide × AxisOverrides) :
    (setupYAxis tk c series flags dualAxis p).1.side = p.2.1 := by
  obtain ⟨axis, side, o⟩ := p
  rfl

theorem setupYAxes_fst :
    (setupYAxes tk c series flags dualAxis).1 =
      (axisPlan c dualAxis).map fun p => (setupYAxis tk c series flags dualAxis p).1 := by
  cases dualAxis <;> rfl

/-- 軸は一本か、左と右の二本。 -/
theorem setupYAxes_sides_pairwise :
    (setupYAxes tk c series flags dualAxis).1.Pairwise (·.side ≠ ·.side) := by
  rw [setupYAxes_fst]
  cases dualAxis <;> simp [axisPlan, setupYAxis_side]

theorem applyLabelInsets_idem (a : Area) :
    applyLabelInsets c (applyLabelInsets c a (setupYAxes tk c series flags dualAxis).1)
        (setupYAxes tk c series flags dualAxis).1 =
      applyLabelInsets c a (setupYAxes tk c series flags dualAxis).1 :=
  foldl_labelInset_idem c a (setupYAxes_sides_pairwise tk c series flags dualAxis)

end Axes

/-- 空でない領域の端は NaN でないので、領域は自分と `==`。 -/
theorem Area.sameValue_self_of_valid {a : Area} (h : a.valid = true) : a.sameValue a = true := by
  have hx : a.xmin < a.xmax := by simp_all [Area.valid]
  have hy : a.ymin < a.ymax := by simp_all [Area.valid]
  obtain ⟨hxmin, hxmax⟩ := Float.isNaN_eq_false_of_lt hx
  obtain ⟨hymin, hymax⟩ := Float.isNaN_eq_false_of_lt hy
  simp only [Area.sameValue, Float.beq_self hxmin, Float.beq_self hxmax, Float.beq_self hymin,
    Float.beq_self hymax, Bool.and_self]

/-! ## 繰り返しの閉じた形 -/

section Loop

variable (tk) (c : ChartConfig) (series : List Series) (flags : DisplayFlags) (dualAxis : Bool)

/-- 一度組み直して、その警告を足した状態。 -/
def warnedOnce (s : Progress) : Progress :=
  { s with warnings := s.warnings ++ (setupYAxes tk c series flags dualAxis).2 }

/-- 組み直しの結果。一度目の狭めで領域が空になれば止まり、動かなければ 1 回で終わる。
動いたなら、上限が 1 以下なら止まり、そうでなければ二度目は動かずに 2 回で終わる。 -/
def convergeYAxesRun (area : Area) (s : Progress) :
    Except LayoutFailure (Area × List YAxisLayout × Nat) × Progress :=
  let axes := (setupYAxes tk c series flags dualAxis).1
  let next := applyLabelInsets c area axes
  if !next.valid then
    (.error (.chart (.areaCollapsed "y axis labels" next)), warnedOnce tk c series flags dualAxis s)
  else if next.sameValue area then (.ok (area, axes, 1), warnedOnce tk c series flags dualAxis s)
  else if c.maxLayoutIterations ≤ 1 then
    (.error (.chart (.nonConvergence 1)), warnedOnce tk c series flags dualAxis s)
  else (.ok (next, axes, 2), warnedOnce tk c series flags dualAxis (warnedOnce tk c series flags dualAxis s))

theorem go_zero (i : Nat) (area : Area) (s : Progress) :
    (convergeYAxes.go tk c series flags dualAxis 0 i area).run.run s =
      (.error (.chart (.nonConvergence (max 1 c.maxLayoutIterations))), s) := by
  rw [convergeYAxes.go]
  rfl

/-- 一度の組み直し。 -/
theorem go_succ (fuel i : Nat) (area : Area) (s : Progress) :
    (convergeYAxes.go tk c series flags dualAxis (fuel + 1) i area).run.run s =
      let axes := (setupYAxes tk c series flags dualAxis).1
      let next := applyLabelInsets c area axes
      if next.valid then
        if next.sameValue area then (.ok (area, axes, i), warnedOnce tk c series flags dualAxis s)
        else (convergeYAxes.go tk c series flags dualAxis fuel (i + 1) next).run.run
          (warnedOnce tk c series flags dualAxis s)
      else (.error (.chart (.areaCollapsed "y axis labels" next)), warnedOnce tk c series flags dualAxis s) := by
  rw [convergeYAxes.go]
  simp only
  rw [run_bind, run_warn]
  simp only
  rw [run_bind]
  by_cases hv : (applyLabelInsets c area (setupYAxes tk c series flags dualAxis).1).valid
  · simp only [ensure, Area.ensureValid, hv, if_true, run_fromChart]
    by_cases hs : (applyLabelInsets c area (setupYAxes tk c series flags dualAxis).1).sameValue area
    · simp only [hs, if_true]
      rfl
    · simp [hs, warnedOnce]
  · simp [ensure, Area.ensureValid, hv, run_fromChart, warnedOnce]

/-- 一度目の狭めで出た空でない領域から組み直すと、領域は動かない。 -/
theorem go_succ_applied (fuel i : Nat) (area : Area) (s : Progress)
    (hv : (applyLabelInsets c area (setupYAxes tk c series flags dualAxis).1).valid = true) :
    (convergeYAxes.go tk c series flags dualAxis (fuel + 1) i
        (applyLabelInsets c area (setupYAxes tk c series flags dualAxis).1)).run.run s =
      (.ok (applyLabelInsets c area (setupYAxes tk c series flags dualAxis).1,
        (setupYAxes tk c series flags dualAxis).1, i), warnedOnce tk c series flags dualAxis s) := by
  rw [go_succ]
  simp only [applyLabelInsets_idem, hv, if_true, Area.sameValue_self_of_valid hv]

/-- 繰り返しは閉じた形 `convergeYAxesRun` に等しい。 -/
theorem convergeYAxes_run (area : Area) (s : Progress) :
    (convergeYAxes tk c series area flags dualAxis).run.run s =
      convergeYAxesRun tk c series flags dualAxis area s := by
  unfold convergeYAxes convergeYAxesRun
  -- 上限 `max 1 c.maxLayoutIterations` が 1 か 2 以上かで、二度目の組み直しに入れるかが決まる
  by_cases hcap : c.maxLayoutIterations ≤ 1
  · have hone : max 1 c.maxLayoutIterations = 0 + 1 := by omega
    rw [hone, go_succ]
    by_cases hv : (applyLabelInsets c area (setupYAxes tk c series flags dualAxis).1).valid
    · by_cases hs : (applyLabelInsets c area (setupYAxes tk c series flags dualAxis).1).sameValue area
      · simp [hv, hs]
      · simp only [hv, hs, hcap, if_true, if_false, Bool.not_true, Bool.false_eq_true]
        rw [go_zero, hone]
    · simp [hv]
  · obtain ⟨k, hk⟩ : ∃ k, max 1 c.maxLayoutIterations = k + 1 + 1 :=
      ⟨c.maxLayoutIterations - 2, by omega⟩
    rw [hk, go_succ]
    by_cases hv : (applyLabelInsets c area (setupYAxes tk c series flags dualAxis).1).valid
    · by_cases hs : (applyLabelInsets c area (setupYAxes tk c series flags dualAxis).1).sameValue area
      · simp [hv, hs]
      · simp only [hv, hs, hcap, if_true, if_false, Bool.not_true, Bool.false_eq_true]
        exact go_succ_applied tk c series flags dualAxis k 2 area _ hv
    · simp [hv]

/-- 組み直しが終わるのは二通り。どちらでも一度目の狭めは空でなく、それが入った領域と `==` なら
入った領域で 1 回、そうでなければ（上限が 2 以上で）一度目の狭めで 2 回。 -/
theorem convergeYAxesRun_ok_cases {area a : Area} {axes : List YAxisLayout} {i : Nat}
    {s s' : Progress} (h : convergeYAxesRun tk c series flags dualAxis area s = (.ok (a, axes, i), s')) :
    axes = (setupYAxes tk c series flags dualAxis).1 ∧ (applyLabelInsets c area axes).valid = true ∧
      ((a = area ∧ i = 1 ∧ (applyLabelInsets c area axes).sameValue area = true) ∨
        (a = applyLabelInsets c area axes ∧ i = 2 ∧
          (applyLabelInsets c area axes).sameValue area = false)) := by
  unfold convergeYAxesRun at h
  by_cases hv : (applyLabelInsets c area (setupYAxes tk c series flags dualAxis).1).valid
  · by_cases hs : (applyLabelInsets c area (setupYAxes tk c series flags dualAxis).1).sameValue area
    · simp only [hv, hs, Bool.not_true, Bool.false_eq_true, if_false, if_true] at h
      cases h
      exact ⟨rfl, hv, .inl ⟨rfl, rfl, hs⟩⟩
    · by_cases hcap : c.maxLayoutIterations ≤ 1
      · simp [hv, hs, hcap] at h
      · simp only [hv, hs, hcap, Bool.not_true, Bool.false_eq_true, if_false] at h
        cases h
        exact ⟨rfl, hv, .inr ⟨rfl, rfl, Bool.eq_false_iff.mpr hs⟩⟩
  · simp [hv] at h

/-- 組み直しが領域 `a` と回数 `i` で終われば、回数は 1 か 2、1 なのは入った領域が狭めで
動かないときだけ、そして `a` は狭めの不動点。 -/
theorem convergeYAxesRun_ok {area a : Area} {axes : List YAxisLayout} {i : Nat}
    {s s' : Progress} (h : convergeYAxesRun tk c series flags dualAxis area s = (.ok (a, axes, i), s')) :
    axes = (setupYAxes tk c series flags dualAxis).1 ∧ (i = 1 ∨ i = 2) ∧
      (i = 1 ↔ (applyLabelInsets c area axes).sameValue area = true) ∧
      (applyLabelInsets c a axes).sameValue a = true := by
  obtain ⟨rfl, hv, ⟨rfl, rfl, hs⟩ | ⟨rfl, rfl, hs⟩⟩ :=
    convergeYAxesRun_ok_cases tk c series flags dualAxis h
  · exact ⟨rfl, .inl rfl, iff_of_true rfl hs, hs⟩
  · refine ⟨rfl, .inr rfl, iff_of_false (by decide) (by rw [hs]; decide), ?_⟩
    rw [applyLabelInsets_idem]
    exact Area.sameValue_self_of_valid hv

/-- 閉じた形で止まるのは、一度目の狭めで領域が空になるか、上限が 1 以下で一度目に動いたとき。 -/
theorem convergeYAxesRun_error {area : Area} {s s' : Progress} {e : LayoutFailure}
    (h : convergeYAxesRun tk c series flags dualAxis area s = (.error e, s')) :
    e = .chart (.areaCollapsed "y axis labels"
        (applyLabelInsets c area (setupYAxes tk c series flags dualAxis).1)) ∨
      (e = .chart (.nonConvergence 1) ∧ c.maxLayoutIterations ≤ 1) := by
  unfold convergeYAxesRun at h
  by_cases hv : (applyLabelInsets c area (setupYAxes tk c series flags dualAxis).1).valid
  · by_cases hs : (applyLabelInsets c area (setupYAxes tk c series flags dualAxis).1).sameValue area
    · simp only [hv, hs, Bool.not_true, Bool.false_eq_true, if_false, if_true] at h
      cases h
    · by_cases hcap : c.maxLayoutIterations ≤ 1
      · simp only [hv, hs, hcap, Bool.not_true, Bool.false_eq_true, if_false, if_true] at h
        cases h
        exact .inr ⟨rfl, hcap⟩
      · simp only [hv, hs, hcap, Bool.not_true, Bool.false_eq_true, if_false] at h
        cases h
  · simp only [hv, Bool.not_false, if_true] at h
    cases h
    exact .inl rfl

/-- 組み直しが止まるのは、狭めで領域が空になるか、上限が 1 以下で一度目に動いたとき。 -/
theorem convergeYAxes_raises (area : Area) :
    (convergeYAxes tk c series area flags dualAxis).Raises fun e =>
      Collapses e ∨ (e = .chart (.nonConvergence 1) ∧ c.maxLayoutIterations ≤ 1) := by
  intro s e s' h
  rw [convergeYAxes_run] at h
  rcases convergeYAxesRun_error tk c series flags dualAxis h with he | he
  · exact .inl ⟨_, _, he⟩
  · exact .inr he

end Loop

/-- 描けた結果の回数は 1 か 2 で、1 なのは組み直しに入った領域が狭めで動かないときだけ。
結果の領域は結果の軸による狭めの不動点。 -/
theorem PlotTrace.iterations_spec {c : ChartConfig} {input : List Series} {p : PlotLayout}
    (t : PlotTrace tk c input p) :
    (p.iterations = 1 ∨ p.iterations = 2) ∧
      (p.iterations = 1 ↔ (applyLabelInsets c t.banded p.yAxes).sameValue t.banded = true) ∧
      (applyLabelInsets c p.area p.yAxes).sameValue p.area = true := by
  obtain ⟨q, q', hq⟩ := t.loop_eq
  rw [convergeYAxes_run] at hq
  obtain ⟨-, hcount, hone, hfix⟩ := convergeYAxesRun_ok _ _ _ _ _ hq
  rw [t.yAxes_eq, applyLabelInsets_placeLabels, applyLabelInsets_placeLabels]
  exact ⟨hcount, hone, hfix⟩

/-! ## 配置全体 -/

/-- 止まる理由が組み直しの上限なら、上限は 1 以下で、報告する回数は 1。 -/
def NonConvergenceBound (c : ChartConfig) (e : LayoutFailure) : Prop :=
  ∀ n, e = .chart (.nonConvergence n) → c.maxLayoutIterations ≤ 1 ∧ n = 1

theorem nonConvergenceBound_of_collapses {c : ChartConfig} {e : LayoutFailure}
    (h : Collapses e) : NonConvergenceBound c e := by
  obtain ⟨st, a, rfl⟩ := h
  intro n hn
  cases hn

theorem nonConvergenceBound_of_seriesRejected {c : ChartConfig} {e : LayoutFailure}
    (h : SeriesRejected e) : NonConvergenceBound c e := by
  obtain ⟨name, f, rfl⟩ := h
  intro n hn
  cases hn

theorem plotPass_raises (c : ChartConfig) (xo : AxisOverrides) (input : List Series) (ms mt : Int) :
    (plotPass tk c xo input ms mt).Raises (NonConvergenceBound c) := by
  unfold plotPass
  refine Raises.bind ((rejectFault_raises _ _).mono fun e he =>
    nonConvergenceBound_of_seriesRejected he) fun _ => ?_
  refine Raises.bind ((ensure_raises _ _).mono fun e he =>
    nonConvergenceBound_of_collapses he) fun area => ?_
  refine Raises.bind (raises_modify _) fun _ => ?_
  refine Raises.bind ((reserveBands_raises _ _ _ _ _).mono fun e he =>
    nonConvergenceBound_of_collapses he) fun ⟨area, titles, legend⟩ => ?_
  refine Raises.bind ((drawableTimeRange_raises _ _ _ _ _).mono fun e he => ?_)
    fun ⟨start, stop⟩ => ?_
  · rcases he with ⟨o, rfl⟩ | he
    · intro n hn
      cases hn
    · exact nonConvergenceBound_of_seriesRejected he
  refine Raises.bind ((convergeYAxes_raises _ _ _ _ _ _).mono fun e he => ?_)
    fun ⟨area, axes, iterations⟩ => ?_
  · rcases he with he | ⟨rfl, hcap⟩
    · exact nonConvergenceBound_of_collapses he
    · intro n hn
      cases hn
      exact ⟨hcap, rfl⟩
  refine Raises.bind (raises_warn _) fun _ => ?_
  refine Raises.bind (raises_advance _) fun _ => ?_
  exact Raises.bind (raises_advance _) fun _ => raises_pure _

/-- 配置が組み直しの上限に届いて止まるのは、上限が 1 以下のときだけ。 -/
theorem layoutPass_raises (c : ChartConfig) (xo : AxisOverrides) (input : List Series) :
    (layoutPass tk c xo input).Raises (NonConvergenceBound c) := by
  unfold layoutPass noDataPass
  refine Raises.bind (raises_fromChart fun e he => ?_) fun ws => ?_
  · obtain ⟨m, rfl⟩ := checkSupported_error he
    intro n hn
    cases hn
  refine Raises.bind (raises_warn _) fun _ => ?_
  refine Raises.bind ((rejectFault_raises _ _).mono fun e he =>
    nonConvergenceBound_of_seriesRejected he) fun _ => ?_
  split
  · exact Raises.bind (raises_advance _) fun _ => raises_pure _
  · exact raises_ite (Raises.bind (raises_advance _) fun _ => raises_pure _)
      (plotPass_raises c xo input _ _)

/-- Y 軸の組み直しは二度で終わる。

* 繰り返しは閉じた形 `convergeYAxesRun` に等しい：一度目の狭めで領域が空になれば止まり、
  動かなければ 1 回、動いたなら上限が 1 以下で `nonConvergence 1`、そうでなければ 2 回。
* 配置全体が組み直しの上限で止まるのは、上限が 1 以下のときだけで、回数は 1。
* 描けた結果の回数は 1 か 2。組み直しに入った領域（`PlotTrace.banded`）が狭めで動かない
  ときだけ 1 で、結果の領域は結果の軸による狭めの不動点。 -/
theorem convergeYAxes_two_passes :
    (∀ (tk : Toolkit) (c : ChartConfig) (series : List Series) (area : Area) (flags : DisplayFlags)
        (dualAxis : Bool) (s : Progress),
        (convergeYAxes tk c series area flags dualAxis).run.run s =
          convergeYAxesRun tk c series flags dualAxis area s) ∧
    (∀ (cv : Converger) (series : List Series) (n : Nat),
        (cv.converge series).outcome = .error (.chart (.nonConvergence n)) →
          cv.config.maxLayoutIterations ≤ 1 ∧ n = 1) ∧
    (∀ (cv : Converger) (series : List Series) (p : PlotLayout),
        (cv.converge series).outcome = .ok (.plotted p) →
          (p.iterations = 1 ∨ p.iterations = 2) ∧
          (applyLabelInsets cv.config p.area p.yAxes).sameValue p.area = true ∧
          ∀ t : PlotTrace cv.toolkit cv.config series p,
            (p.iterations = 1 ↔
              (applyLabelInsets cv.config t.banded p.yAxes).sameValue t.banded = true)) := by
  refine ⟨fun tk c series area flags dualAxis s => convergeYAxes_run tk c series flags dualAxis area s,
    ?_, ?_⟩
  · intro cv series n h
    obtain ⟨s', hrun⟩ := Converger.converge_run h
    exact layoutPass_raises cv.config cv.xOverrides series _ _ _ hrun n rfl
  · intro cv series p h
    obtain ⟨s', hrun⟩ := Converger.converge_run h
    obtain ⟨t⟩ := layoutPass_plotted hrun
    obtain ⟨hcount, -, hfix⟩ := t.iterations_spec
    exact ⟨hcount, hfix, fun t' => t'.iterations_spec.2.1⟩

/-- 30 秒おきの二点の系列。 -/
def twoSampleSeries : List Series :=
  [{ name := "a", startTime := 0, stopTime := 60, stepTime := 30, values := #[1.0, 2.0],
     absent := #[false, false] }]

set_option maxRecDepth 100000 in
/-- 既定の設定ではラベルの幅だけ左の端が動いて描け、上限を 1 にすると止まる。 -/
theorem convergeYAxes_two_passes_default :
    (∃ p, (Converger.converge ⟨{ y := { step := some 1.0 } }, .standard, {}, .init⟩ twoSampleSeries).outcome =
        .ok (.plotted p) ∧ (p.iterations = 1 ∨ p.iterations = 2)) ∧
    ((Converger.converge ⟨{ y := { step := some 1.0 }, maxLayoutIterations := 1 }, .standard, {}, .init⟩
        twoSampleSeries).outcome = .error (.chart (.nonConvergence 1)) ∧
      ({ y := { step := some 1.0 }, maxLayoutIterations := 1 } : ChartConfig).maxLayoutIterations ≤ 1) := by
  refine ⟨⟨_, rfl, ?_⟩, rfl, ?_⟩
  · exact (convergeYAxes_two_passes.2.2 ⟨{ y := { step := some 1.0 } }, .standard, {}, .init⟩
      twoSampleSeries _ rfl).1
  · exact (convergeYAxes_two_passes.2.1
      ⟨{ y := { step := some 1.0 }, maxLayoutIterations := 1 }, .standard, {}, .init⟩ twoSampleSeries 1 rfl).1

end PlotGeometry
