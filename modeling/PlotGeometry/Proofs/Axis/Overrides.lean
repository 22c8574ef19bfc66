import Mathlib
import PlotGeometry.Proofs.Axis.Extents
import PlotGeometry.Proofs.Layout.XLabels
/-!
# 軸の上書きの優先

`computeYAxis` は上書きを初めに `sanitize` で整え、その後は整えた上書きしか見ない。整えた上書きは
正規形（`AxisOverrides.Sanitized`）：境界は有限、刻みは有限で正、下限と上限がともにあれば
下限 < 上限。正規形の上書きは `sanitize` で変わらないので、整えることは冪等。

使えない上書きは、ないのと同じに働く。有限でない下限や上限、有限でないか正でない刻み、
ともに有限で下限 ≥ 上限の組（両方を捨てる）。捨てたものごとに警告を一つ出すが、縮尺は同じ。

整えた上書きが下限と上限をともに持てば、その二つがそのまま範囲と格子の端になる。範囲は
上書きで置き換わり、下限 < 上限なので潰れた範囲を広げることもなく、下端の条件
（下限 < 格子の上端 = 上限）と上端の条件（下端 = 下限 < 上限）がどちらも成り立つ。系列と
刻みの上書きは、刻みにしか効かない。

* `AxisOverrides.sanitize_of_sanitized` — 正規形の上書きは `sanitize` で変わらず、警告もない
* `AxisOverrides.sanitized_sanitize` — 整えた上書きは正規形
* `computeYAxis_congr` — 縮尺は整えた上書きだけで決まる
* `computeYAxis_overrides_precedence` — 整えた上書きで同じ縮尺、使えない上書きはないのと同じ、
  下限と上限がともにあればそれが範囲と格子の端
-/

namespace PlotGeometry

/-! ## 比較の補い -/

/-- `<` なら、逆向きの `≤` は成り立たない。 -/
theorem Float.not_le_of_lt {x y : Float} (h : x < y) : ¬y ≤ x := by
  obtain ⟨hx, hy⟩ := Float.isNaN_eq_false_of_lt h
  rw [Float.lt_iff_rank hx hy] at h
  rw [Float.le_iff_rank hy hx]
  omega

/-- NaN でない二つの数では、逆向きの `≤` が成り立たなければ `<`。 -/
theorem Float.lt_of_not_le {x y : Float} (hx : x.isNaN = false) (hy : y.isNaN = false)
    (h : ¬y ≤ x) : x < y := by
  rw [Float.le_iff_rank hy hx] at h
  rw [Float.lt_iff_rank hx hy]
  omega

/-! ## 有限でない値を捨てる -/

@[simp] theorem keepFinite_none : keepFinite none = (none, []) := rfl

@[simp] theorem keepFinite_some_of_isFinite {x : Float} (h : x.isFinite = true) :
    keepFinite (some x) = (some x, []) := by
  simp [keepFinite, h]

@[simp] theorem keepFinite_some_of_not_isFinite {x : Float} (h : x.isFinite = false) :
    keepFinite (some x) = (none, [.nonFiniteOverride]) := by
  simp [keepFinite, h]

/-! ## 正規形 -/

/-- 整えた上書きの形：境界は有限、刻みは有限で正、下限と上限がともにあれば下限 < 上限。 -/
structure AxisOverrides.Sanitized (o : AxisOverrides) : Prop where
  min_finite : ∀ lo, o.min = some lo → lo.isFinite = true
  max_finite : ∀ hi, o.max = some hi → hi.isFinite = true
  step_pos : ∀ s, o.step = some s → s.isFinite = true ∧ 0.0 < s
  min_lt_max : ∀ lo hi, o.min = some lo → o.max = some hi → lo < hi

namespace AxisOverrides

/-- 正規形の上書きは `sanitize` で変わらず、警告もない。 -/
theorem sanitize_of_sanitized {o : AxisOverrides} (h : o.Sanitized) : o.sanitize = (o, []) := by
  obtain ⟨lo?, hi?, st?⟩ := o
  have hstep : ∀ s, st? = some s → keepFinite (some s) = (some s, []) ∧ 0.0 < s := fun s hs =>
    ⟨keepFinite_some_of_isFinite (h.step_pos s hs).1, (h.step_pos s hs).2⟩
  cases lo? with
  | none =>
    cases hi? with
    | none => cases st? <;> simp_all [sanitize]
    | some hi =>
      have hhi := keepFinite_some_of_isFinite (h.max_finite hi rfl)
      cases st? <;> simp_all [sanitize]
  | some lo =>
    have hlo := keepFinite_some_of_isFinite (h.min_finite lo rfl)
    cases hi? with
    | none => cases st? <;> simp_all [sanitize]
    | some hi =>
      have hhi := keepFinite_some_of_isFinite (h.max_finite hi rfl)
      have hpair : ¬hi ≤ lo := Float.not_le_of_lt (h.min_lt_max lo hi rfl rfl)
      cases st? <;> simp_all [sanitize]

/-- 整えた下限は、有限な下限の上書きで、上限の上書きが有限ならそれより小さい。 -/
theorem sanitize_min_eq_some {o : AxisOverrides} {lo : Float} (h : o.sanitize.1.min = some lo) :
    o.min = some lo ∧ lo.isFinite = true ∧ ∀ hi, o.max = some hi → hi.isFinite = true → ¬hi ≤ lo := by
  obtain ⟨lo?, hi?, st?⟩ := o
  cases lo? with
  | none => cases hi? <;> simp_all [sanitize, keepFinite]
  | some x =>
    by_cases hx : x.isFinite = true
    · cases hi? with
      | none => simp_all [sanitize]
      | some y =>
        by_cases hy : y.isFinite = true
        · by_cases hxy : y ≤ x <;> simp_all [sanitize]
        · simp_all [sanitize]
    · cases hi? <;> simp_all [sanitize]

/-- 整えた上限は、有限な上限の上書きで、下限の上書きが有限ならそれより大きい。 -/
theorem sanitize_max_eq_some {o : AxisOverrides} {hi : Float} (h : o.sanitize.1.max = some hi) :
    o.max = some hi ∧ hi.isFinite = true ∧ ∀ lo, o.min = some lo → lo.isFinite = true → ¬hi ≤ lo := by
  obtain ⟨lo?, hi?, st?⟩ := o
  cases hi? with
  | none => cases lo? <;> simp_all [sanitize, keepFinite]
  | some y =>
    by_cases hy : y.isFinite = true
    · cases lo? with
      | none => simp_all [sanitize]
      | some x =>
        by_cases hx : x.isFinite = true
        · by_cases hxy : y ≤ x <;> simp_all [sanitize]
        · simp_all [sanitize]
    · cases lo? <;> simp_all [sanitize]

/-- 整えた上書きは正規形。 -/
theorem sanitized_sanitize (o : AxisOverrides) : o.sanitize.1.Sanitized where
  min_finite _ h := (sanitize_min_eq_some h).2.1
  max_finite _ h := (sanitize_max_eq_some h).2.1
  step_pos _ h := sanitize_step h
  min_lt_max lo hi hlo hhi := by
    obtain ⟨hmin, hlof, -⟩ := sanitize_min_eq_some hlo
    obtain ⟨hmax, hhif, hnot⟩ := sanitize_max_eq_some hhi
    exact Float.lt_of_not_le (Float.isNaN_eq_false_of_isFinite hlof)
      (Float.isNaN_eq_false_of_isFinite hhif) (hnot lo hmin hlof)

/-- 整えることは冪等。 -/
theorem sanitize_sanitize (o : AxisOverrides) : o.sanitize.1.sanitize.1 = o.sanitize.1 := by
  rw [sanitize_of_sanitized (sanitized_sanitize o)]

/-! ## 使えない上書きを捨てる -/

/-- 有限でない下限は、ないのと同じ。 -/
theorem sanitize_min_of_not_isFinite (o : AxisOverrides) {x : Float} (hx : x.isFinite = false) :
    ({ o with min := some x } : AxisOverrides).sanitize.1 = ({ o with min := none } : AxisOverrides).sanitize.1 := by
  simp [sanitize, hx]

/-- 有限でない上限は、ないのと同じ。 -/
theorem sanitize_max_of_not_isFinite (o : AxisOverrides) {x : Float} (hx : x.isFinite = false) :
    ({ o with max := some x } : AxisOverrides).sanitize.1 = ({ o with max := none } : AxisOverrides).sanitize.1 := by
  simp [sanitize, hx]

/-- 有限でないか正でない刻みは、ないのと同じ。 -/
theorem sanitize_step_of_not_pos (o : AxisOverrides) {s : Float} (hs : ¬(s.isFinite = true ∧ 0.0 < s)) :
    ({ o with step := some s } : AxisOverrides).sanitize.1 = ({ o with step := none } : AxisOverrides).sanitize.1 := by
  by_cases hf : s.isFinite = true
  · have hp : ¬0.0 < s := fun hp => hs ⟨hf, hp⟩
    simp [sanitize, hf, hp]
  · simp [sanitize, Bool.eq_false_iff.mpr hf]

/-- ともに有限で下限 ≥ 上限の組は、両方がないのと同じ。 -/
theorem sanitize_inverted (o : AxisOverrides) {lo hi : Float} (hlo : lo.isFinite = true)
    (hhi : hi.isFinite = true) (h : hi ≤ lo) :
    ({ o with min := some lo, max := some hi } : AxisOverrides).sanitize.1 =
      ({ o with min := none, max := none } : AxisOverrides).sanitize.1 := by
  simp [sanitize, hlo, hhi, h]

end AxisOverrides

/-! ## 縮尺は整えた上書きだけで決まる -/

/-- 整えた上書き、塗りの方式、欠けの扱いが同じなら、縮尺は同じ（警告は違いうる）。 -/
theorem computeYAxis_congr (series : List Series) {opts opts' : YAxisOptions}
    (hs : opts.overrides.sanitize.1 = opts'.overrides.sanitize.1) (hm : opts.areaMode = opts'.areaMode)
    (hn : opts.drawNullAsZero = opts'.drawNullAsZero) :
    (computeYAxis series opts).1 = (computeYAxis series opts').1 := by
  obtain ⟨o, m, n⟩ := opts
  obtain ⟨o', m', n'⟩ := opts'
  dsimp only at hs hm hn
  subst hm hn
  unfold computeYAxis
  rcases h : o.sanitize with ⟨ov, w⟩
  rcases h' : o'.sanitize with ⟨ov', w'⟩
  rw [h, h'] at hs
  dsimp only at hs
  subst hs
  rfl

/-- 下限と上限の上書きがともに整えた上書きに残れば、範囲と格子の端はその二つ。系列と刻みは
刻みにしか効かない。 -/
theorem computeYAxis_pinned (series : List Series) (opts : YAxisOptions) {lo hi : Float}
    (hlo : opts.overrides.sanitize.1.min = some lo) (hhi : opts.overrides.sanitize.1.max = some hi) :
    let s := (computeYAxis series opts).1
    s.yMin = lo ∧ s.yBottom = lo ∧ s.yMax = hi ∧ s.yTop = hi := by
  have hlt := (AxisOverrides.sanitized_sanitize opts.overrides).min_lt_max lo hi hlo hhi
  unfold computeYAxis
  rcases h : opts.overrides.sanitize with ⟨ov, w⟩
  rw [h] at hlo hhi
  dsimp only at hlo hhi
  have hgrid : gridExtents lo hi true = (lo, hi) := if_pos hlt
  simp only [hlo, hhi, Option.getD_some, Option.isSome_some, hgrid, if_pos hlt, and_self]

/-- 縮尺は、整えた上書きで同じ。整えることは冪等で、整えた上書きは正規形。使えない上書き
（有限でない境界、有限でないか正でない刻み、ともに有限で下限 ≥ 上限の組）はないのと同じに働く。
整えた上書きが下限 `lo` と上限 `hi` をともに持てば、系列と刻みの上書きによらず
`yMin = yBottom = lo`、`yMax = yTop = hi`。 -/
theorem computeYAxis_overrides_precedence (series : List Series) (opts : YAxisOptions) :
    let scale (o : AxisOverrides) := (computeYAxis series { opts with overrides := o }).1
    let o := opts.overrides
    scale o.sanitize.1 = scale o ∧ o.sanitize.1.sanitize.1 = o.sanitize.1 ∧ o.sanitize.1.Sanitized ∧
      (∀ x, x.isFinite = false →
        scale { o with min := some x } = scale { o with min := none } ∧
          scale { o with max := some x } = scale { o with max := none }) ∧
      (∀ s, ¬(s.isFinite = true ∧ 0.0 < s) → scale { o with step := some s } = scale { o with step := none }) ∧
      (∀ lo hi, lo.isFinite = true → hi.isFinite = true → hi ≤ lo →
        scale { o with min := some lo, max := some hi } = scale { o with min := none, max := none }) ∧
      ∀ lo hi, o.sanitize.1.min = some lo → o.sanitize.1.max = some hi →
        (scale o).yMin = lo ∧ (scale o).yBottom = lo ∧ (scale o).yMax = hi ∧ (scale o).yTop = hi := by
  intro scale o
  have hcongr : ∀ o₁ o₂ : AxisOverrides, o₁.sanitize.1 = o₂.sanitize.1 → scale o₁ = scale o₂ :=
    fun o₁ o₂ h => computeYAxis_congr series h rfl rfl
  refine ⟨hcongr _ _ (AxisOverrides.sanitize_sanitize o), AxisOverrides.sanitize_sanitize o,
    AxisOverrides.sanitized_sanitize o, fun x hx => ⟨?_, ?_⟩, fun s hs => ?_,
    fun lo hi hlo hhi h => ?_, fun lo hi hlo hhi => computeYAxis_pinned series opts hlo hhi⟩
  · exact hcongr _ _ (AxisOverrides.sanitize_min_of_not_isFinite o hx)
  · exact hcongr _ _ (AxisOverrides.sanitize_max_of_not_isFinite o hx)
  · exact hcongr _ _ (AxisOverrides.sanitize_step_of_not_pos o hs)
  · exact hcongr _ _ (AxisOverrides.sanitize_inverted o hlo hhi h)

/-- 下限 `-10` と上限 `10` を上書きすれば、`gappySeries` の値によらず縮尺の両端はその値。 -/
theorem computeYAxis_overrides_precedence_pinned :
    let opts : YAxisOptions := { overrides := { min := some (-10.0), max := some 10.0 } }
    opts.overrides.sanitize.1.min = some (-10.0) ∧ opts.overrides.sanitize.1.max = some 10.0 ∧
      (computeYAxis gappySeries opts).1.yMin = -10.0 ∧
      (computeYAxis gappySeries opts).1.yBottom = -10.0 ∧
      (computeYAxis gappySeries opts).1.yMax = 10.0 ∧ (computeYAxis gappySeries opts).1.yTop = 10.0 := by
  intro opts
  have hlo : opts.overrides.sanitize.1.min = some (-10.0) := by decide +kernel
  have hhi : opts.overrides.sanitize.1.max = some 10.0 := by decide +kernel
  exact ⟨hlo, hhi, (computeYAxis_overrides_precedence gappySeries opts).2.2.2.2.2.2 _ _ hlo hhi⟩

end PlotGeometry
