import PlotGeometry.Proofs.Layout.YLabels
import PlotGeometry.Proofs.Float.Product
/-!
# Y 軸の縮尺：観測した範囲と格子

`computeYAxis` が決める値の範囲（`yMin`、`yMax`）と格子（`yBottom` から `yTop` まで `yStep`
刻み）について。

範囲は、欠けておらず有限な値（`PresentValue`）を `minNum`、`maxNum` で畳み込んだもの。値は
どれも NaN でないので、畳み込みは最小と最大で、どちらも値のどれかになる。

格子は範囲を刻みの倍数に切り下げ・切り上げて作るが、切り下げ `⌊v/s + 1e-9⌋ × s` の余裕
`1e-9` は刻みを単位にしているので、商 `v/s` の丸めの誤差（`v/s` の大きさに比例する）を吸収
しきれない。刻みが値の ulp に近いと下端が最小の値より上に出る。また潰れた範囲を広げる幅
`|v| × 0.1` は非正規数では 0 に丸まり、格子の高さが正にならない。

* `Series.mem_presentValues` — 値として数えるのは、欠けておらず有限な値だけ
* `observedExtents_cons` — 観測した範囲は二つの畳み込みの組
* `computeYAxis_observed_range` — 下限・上限の上書きがなく積み上げでなければ、`yMin` は最小の値、
  `yMax` は最大の値（欠けを 0 として描き、欠けがあり、最大が負なら 0）
* `grid_misses_lowest_value` — 格子の下端が最小の値より上に出る例
* `flat_subnormal_grid_collapses` — 格子の高さが正でない例
-/

namespace PlotGeometry

/-! ## 値として数えるもの -/

namespace Series

theorem valueAt_eq_some {s : Series} {i : Nat} {v : Float} :
    s.valueAt i = some v ↔ s.absent[i]? = some false ∧ s.values[i]? = some v ∧ v.isFinite = true := by
  unfold valueAt
  cases ha : s.absent[i]? with
  | none => simp
  | some b =>
    cases b with
    | true => simp
    | false =>
      cases hv : s.values[i]? with
      | none => simp
      | some w =>
        by_cases hf : w.isFinite = true
        · simp only [hf, if_true, Option.some.injEq, true_and]
          constructor
          · rintro rfl
            exact ⟨rfl, hf⟩
          · rintro ⟨rfl, -⟩
            rfl
        · simp only [hf, Bool.false_eq_true, if_false, reduceCtorEq, Option.some.injEq, true_and,
            false_iff, not_and]
          rintro rfl
          exact hf

theorem mem_presentValues {s : Series} {v : Float} :
    v ∈ s.presentValues ↔
      ∃ i : Nat, s.absent[i]? = some false ∧ s.values[i]? = some v ∧ v.isFinite = true := by
  unfold presentValues
  simp only [List.mem_filterMap, List.mem_range, valueAt_eq_some]
  constructor
  · rintro ⟨i, -, h⟩
    exact ⟨i, h⟩
  · rintro ⟨i, h⟩
    exact ⟨i, (Array.getElem?_eq_some_iff.mp h.2.1).1, h⟩

end Series

/-- 欠けておらず有限な、どれかの系列の値。 -/
def PresentValue (series : List Series) (v : Float) : Prop :=
  ∃ s ∈ series, ∃ i : Nat, s.absent[i]? = some false ∧ s.values[i]? = some v ∧ v.isFinite = true

theorem mem_flatMap_presentValues {series : List Series} {v : Float} :
    v ∈ series.flatMap Series.presentValues ↔ PresentValue series v := by
  simp only [List.mem_flatMap, Series.mem_presentValues, PresentValue]

theorem PresentValue.isNaN {series : List Series} {v : Float} (h : PresentValue series v) :
    v.isNaN = false := by
  obtain ⟨-, -, -, -, -, hf⟩ := h
  exact Float.isNaN_eq_false_of_isFinite hf

/-- 値を並べた列が `v :: rest` なら、`v` と `rest` の要素について言えることは、値のどれについても
言える。 -/
theorem PresentValue.forall_of_cons {series : List Series} {v : Float} {rest : List Float}
    (hvs : series.flatMap Series.presentValues = v :: rest) {P : Float → Prop} (hv : P v)
    (hrest : ∀ x ∈ rest, P x) : ∀ x, PresentValue series x → P x := by
  intro x hx
  rw [← mem_flatMap_presentValues, hvs] at hx
  rcases List.mem_cons.mp hx with rfl | hx
  · exact hv
  · exact hrest x hx

/-! ## 観測した範囲 -/

/-- 観測した範囲の畳み込みの一手。 -/
def extentsStep (acc : Option (Float × Float)) (v : Float) : Option (Float × Float) :=
  match acc with
  | none => some (v, v)
  | some (lo, hi) => some (minNum lo v, maxNum hi v)

theorem observedExtents_eq_foldl (series : List Series) :
    observedExtents series = (series.flatMap Series.presentValues).foldl extentsStep none := rfl

theorem foldl_extentsStep_some (xs : List Float) (lo hi : Float) :
    xs.foldl extentsStep (some (lo, hi)) = some (xs.foldl minNum lo, xs.foldl maxNum hi) := by
  induction xs generalizing lo hi with
  | nil => rfl
  | cons v rest ih => exact ih _ _

theorem observedExtents_cons {series : List Series} {v : Float} {rest : List Float}
    (h : series.flatMap Series.presentValues = v :: rest) :
    observedExtents series = some (rest.foldl minNum v, rest.foldl maxNum v) := by
  rw [observedExtents_eq_foldl, h, List.foldl_cons]
  exact foldl_extentsStep_some rest v v

/-! ## 下限と上限の上書きがないとき -/

theorem AxisOverrides.sanitize_min_none {o : AxisOverrides} (h : o.min = none) :
    o.sanitize.1.min = none := by
  unfold AxisOverrides.sanitize keepFinite
  simp [h]

theorem AxisOverrides.sanitize_max_none {o : AxisOverrides} (h : o.max = none) :
    o.sanitize.1.max = none := by
  unfold AxisOverrides.sanitize keepFinite
  simp [h]

/-- 下限と上限の上書きがなければ、`yMin` は観測した（または積み上げの）範囲の下端、`yMax` は
その上端で、欠けを 0 として描き、欠けた点があり、上端が負なら 0。 -/
theorem computeYAxis_range_of_auto (series : List Series) (opts : YAxisOptions)
    (hmin : opts.overrides.min = none) (hmax : opts.overrides.max = none) :
    let base := if opts.areaMode == .stacked && 1 < series.length then
        (0.0, (stackedMaximum series).getD 0.0) else (observedExtents series).getD (0.0, 0.0)
    (computeYAxis series opts).1.yMin = base.1 ∧
      (computeYAxis series opts).1.yMax =
        if opts.drawNullAsZero && base.2 < 0.0 && series.any Series.hasAbsent then 0.0 else base.2 := by
  have hmin' := AxisOverrides.sanitize_min_none hmin
  have hmax' := AxisOverrides.sanitize_max_none hmax
  unfold computeYAxis
  split <;> simp [hmin', hmax']

/-! ## 最小と最大 -/

/-- 二つの引数のどちらかを返す演算の畳み込みは、初めの値か要素のどれか。 -/
theorem foldl_mem_of_choice {g : Float → Float → Float} (hg : ∀ a b, g a b = a ∨ g a b = b) :
    ∀ (xs : List Float) (x : Float), xs.foldl g x ∈ x :: xs
  | [], x => List.mem_singleton_self x
  | y :: ys, x => by
    rw [List.foldl_cons]
    rcases List.mem_cons.mp (foldl_mem_of_choice hg ys (g x y)) with h | h
    · rcases hg x y with hx | hy
      · rw [h, hx]
        exact List.mem_cons_self
      · rw [h, hy]
        exact List.mem_cons_of_mem _ List.mem_cons_self
    · exact List.mem_cons_of_mem _ (List.mem_cons_of_mem _ h)

/-- `minNum` で畳み込んだ結果は、NaN でない初めの値と、NaN でないどの要素より大きくない。 -/
theorem foldl_minNum_le :
    ∀ (xs : List Float) {init : Float}, init.isNaN = false →
      xs.foldl minNum init ≤ init ∧ ∀ x ∈ xs, x.isNaN = false → xs.foldl minNum init ≤ x
  | [], _, h => ⟨Float.le_refl h, fun _ hx => absurd hx List.not_mem_nil⟩
  | y :: ys, init, h => by
    have hstep : minNum init y ≤ init := minNum_le_left _ h
    obtain ⟨hinit, hall⟩ := foldl_minNum_le ys (Float.isNaN_eq_false_of_le hstep).1
    refine ⟨Float.le_trans hinit hstep, fun x hx hfx => ?_⟩
    rcases List.mem_cons.mp hx with rfl | hx
    · exact Float.le_trans hinit (minNum_le_right init hfx)
    · exact hall x hx hfx

/-- 積み上げでなく（または系列が一つで）、下限と上限の上書きがなければ、`yMin` は欠けておらず
有限な値の最小、`yMax` はその最大で、欠けを 0 として描き、欠けた点のある系列があり、最大が負
なら 0。欠けた点と有限でない値は数えない。 -/
theorem computeYAxis_observed_range (series : List Series) (opts : YAxisOptions)
    (hdata : ∃ v, PresentValue series v) (hmode : opts.areaMode ≠ .stacked ∨ series.length ≤ 1)
    (hmin : opts.overrides.min = none) (hmax : opts.overrides.max = none) :
    (PresentValue series (computeYAxis series opts).1.yMin ∧
      ∀ v, PresentValue series v → (computeYAxis series opts).1.yMin ≤ v) ∧
    ∃ hi, PresentValue series hi ∧ (∀ v, PresentValue series v → v ≤ hi) ∧
      (computeYAxis series opts).1.yMax =
        if opts.drawNullAsZero && hi < 0.0 && series.any Series.hasAbsent then 0.0 else hi := by
  obtain ⟨v₀, hv₀⟩ := hdata
  obtain ⟨v, rest, hvs⟩ : ∃ v rest, series.flatMap Series.presentValues = v :: rest := by
    rw [← mem_flatMap_presentValues] at hv₀
    exact List.exists_cons_of_ne_nil (List.ne_nil_of_mem hv₀)
  have hpresent : ∀ x ∈ v :: rest, PresentValue series x := fun x hx =>
    mem_flatMap_presentValues.mp (hvs ▸ hx)
  have hv : v.isNaN = false := (hpresent v List.mem_cons_self).isNaN
  have hrest : ∀ x ∈ rest, x.isNaN = false := fun x hx =>
    (hpresent x (List.mem_cons_of_mem _ hx)).isNaN
  obtain ⟨hlo_v, hlo_rest⟩ := foldl_minNum_le rest hv
  obtain ⟨hhi_v, hhi_rest⟩ := le_foldl_maxNum id rest hv
  have hlo_le : ∀ x, PresentValue series x → rest.foldl minNum v ≤ x :=
    PresentValue.forall_of_cons hvs hlo_v fun x hx => hlo_rest x hx (hrest x hx)
  have hhi_ge : ∀ x, PresentValue series x → x ≤ rest.foldl maxNum v :=
    PresentValue.forall_of_cons hvs hhi_v fun x hx => hhi_rest x hx (hrest x hx)
  have hstack : (opts.areaMode == .stacked && 1 < series.length) = false := by
    rcases hmode with h | h
    · simp [h]
    · simp only [Bool.and_eq_false_iff, decide_eq_false_iff_not, not_lt]
      exact .inr h
  obtain ⟨hyMin, hyMax⟩ := computeYAxis_range_of_auto series opts hmin hmax
  simp only [hstack, Bool.false_eq_true, if_false, observedExtents_cons hvs, Option.getD_some]
    at hyMin hyMax
  refine ⟨⟨?_, ?_⟩, rest.foldl maxNum v, hpresent _ (foldl_mem_of_choice maxNum_eq_or rest v),
    hhi_ge, hyMax⟩
  · rw [hyMin]
    exact hpresent _ (foldl_mem_of_choice minNum_eq_or rest v)
  · rw [hyMin]
    exact hlo_le

/-- 欠けた点と NaN を含む系列：`-5.0`、欠け、NaN、`-2.0`。 -/
def gappySeries : List Series :=
  [{ name := "g", startTime := 0, stopTime := 240, stepTime := 60,
     values := #[-5.0, 0.0, 0.0 / 0.0, -2.0], absent := #[false, true, false, false] }]

/-- 欠けを 0 として描く設定で `gappySeries` の範囲を求めると、仮定は成り立ち、`yMin` は最小の
値で、最大の値は負なので `yMax` は 0 に上がる。 -/
theorem computeYAxis_observed_range_gappy :
    let opts : YAxisOptions := { drawNullAsZero := true }
    (∃ v, PresentValue gappySeries v) ∧ (opts.areaMode ≠ .stacked ∨ gappySeries.length ≤ 1) ∧
      opts.overrides.min = none ∧ opts.overrides.max = none ∧
      (PresentValue gappySeries (computeYAxis gappySeries opts).1.yMin ∧
        ∀ v, PresentValue gappySeries v → (computeYAxis gappySeries opts).1.yMin ≤ v) ∧
      ∃ hi, PresentValue gappySeries hi ∧ (∀ v, PresentValue gappySeries v → v ≤ hi) ∧
        (computeYAxis gappySeries opts).1.yMax =
          if opts.drawNullAsZero && hi < 0.0 && gappySeries.any Series.hasAbsent then 0.0 else hi := by
  intro opts
  have hdata : ∃ v, PresentValue gappySeries v :=
    ⟨-5.0, _, List.mem_singleton_self _, 0, rfl, rfl, by decide⟩
  have hmode : opts.areaMode ≠ .stacked ∨ gappySeries.length ≤ 1 := .inl (by decide)
  exact ⟨hdata, hmode, rfl, rfl, computeYAxis_observed_range gappySeries opts hdata hmode rfl rfl⟩

/-! ## 格子が範囲を覆わない例 -/

/-- 二点の系列 `3.0, 3.000000000000002`。二つの値の差は ulp の 4 倍。 -/
def nearlyFlatSeries : List Series :=
  [{ name := "s", startTime := 0, stopTime := 120, stepTime := 60,
     values := #[3.0, 3.000000000000002], absent := #[false, false] }]

/-- 格子の下端は最小の値を覆うとは限らない。`nearlyFlatSeries` を刻み `5e-16`（上書きがなくても
自動の刻みがこれになる）で測ると、`3.0 / 5e-16` は丸めで `6e15` ちょうどに上がり、下端は
`6e15 × 5e-16 = 3.0000000000000004` で、最小の値 `3.0` に刻みの百万分の一を足したものより上。 -/
theorem grid_misses_lowest_value :
    let s := (computeYAxis nearlyFlatSeries { overrides := { step := some 5e-16 } }).1
    (s.yMin == 3.0) = true ∧ (s.yStep == 5e-16) = true ∧ (s.yBottom == 3.0000000000000004) = true ∧
      ¬(s.yBottom ≤ s.yMin + s.yStep * 1e-6) := by
  decide +kernel

/-- 最小の非正規数一つの系列。 -/
def subnormalSeries : List Series :=
  [{ name := "s", startTime := 0, stopTime := 60, stepTime := 60, values := #[5e-324],
     absent := #[false] }]

/-- 格子の高さは正とは限らない。値が一つの非正規数 `5e-324` なら、潰れた範囲を広げる幅
`5e-324 × 0.1` は 0 に丸まり、刻みは 1、下端は `⌊5e-324 + 1e-9⌋ = 0`、上端は
`⌈5e-324 − 1e-9⌉ = −0` で、下端は上端より下になく、高さ `−0 − 0` は正でない。 -/
theorem flat_subnormal_grid_collapses :
    let s := (computeYAxis subnormalSeries {}).1
    (s.yBottom == 0.0) = true ∧ s.yTop.toBits = 0x8000000000000000 ∧ ¬(s.yBottom < s.yTop) ∧
      ¬(0.0 < s.span) := by
  decide +kernel

end PlotGeometry
