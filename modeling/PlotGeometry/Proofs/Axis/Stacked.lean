import Mathlib
import PlotGeometry.Proofs.Axis.Extents
import PlotGeometry.Proofs.Float.Bounds
/-!
# 積み上げた高さと縦軸の範囲

積み上げ（`AreaMode.stacked`、系列が二つ以上）では、縦軸の範囲は 0 から `stackedMaximum` まで。
`stackedMaximum` は、添字ごとに系列の値を系列の順に左から足した和の最大で、欠けた点、有限でない
値、系列の終わりより先の点は 0 と数える。どの系列にも点がないときに限って `none`。

項はどれも有限なので、和は NaN にならない。だから `maxNum` の畳み込みは本当の最大で、和のどれか
になる。値がどれも 0 以上なら、一つ足すごとに和は小さくならない（丸めは順序を保つ）ので、初めの
`k` 本を積んだ高さ（`stackHeight`）は、全部を積んだ高さを越えない。

格子の上端 `yTop` が `yMax` から刻みの `10^-6` 倍までに届くとは限らない。`yMax` が正規数の下限に
近いと `niceStep` の `10^k` が 0 に潰れ、刻み 0 で切り上げた上端は NaN になる
（`stacked_top_nan_near_subnormal`）。

* `stackedMaximum_eq_none_iff` — 点のある系列がないときに限って `none`
* `stackedMaximum_spec` — そうでなければ、点のある添字で全部を積んだ高さの最大
* `computeYAxis_stacked_range` — 上書きがなく値がどれも 0 以上なら、`yMin = 0` で、`yMax` は
  どの積み上げた高さも下回らない
-/

namespace PlotGeometry

/-! ## 有限な数の和 -/

/-- NaN でない数に有限な数を足しても NaN にならない。 -/
theorem Float.add_isNaN_eq_false_of_isFinite_right {x y : Float} (hx : x.isNaN = false)
    (hy : y.isFinite = true) : (x + y).isNaN = false := by
  have hb := Float.rankOf_finite_bounds hy
  have hI := overflow_lt_infRank
  cases h : (x + y).isNaN
  · rfl
  · rcases (Float.add_isNaN_iff hx (Float.isNaN_eq_false_of_isFinite hy)).mp h with
      ⟨-, h1⟩ | ⟨-, h1⟩ <;> omega

/-- NaN でない数に有限な数を順に足していっても NaN にならない。 -/
theorem foldl_add_isNaN_eq_false :
    ∀ (xs : List Float) {acc : Float}, acc.isNaN = false → (∀ x ∈ xs, x.isFinite = true) →
      (xs.foldl (· + ·) acc).isNaN = false
  | [], _, hacc, _ => hacc
  | x :: xs, _, hacc, hxs =>
    foldl_add_isNaN_eq_false xs
      (Float.add_isNaN_eq_false_of_isFinite_right hacc (hxs x List.mem_cons_self))
      fun y hy => hxs y (List.mem_cons_of_mem _ hy)

/-- 有限で 0 以上の数を順に足していっても小さくならない。 -/
theorem le_foldl_add :
    ∀ (xs : List Float) {acc : Float}, acc.isNaN = false →
      (∀ x ∈ xs, x.isFinite = true ∧ 0 ≤ rankOf x) → acc ≤ xs.foldl (· + ·) acc
  | [], _, hacc, _ => Float.le_refl hacc
  | x :: xs, acc, hacc, hxs => by
    obtain ⟨hfin, hnonneg⟩ := hxs x List.mem_cons_self
    have hsum := Float.add_isNaN_eq_false_of_isFinite_right hacc hfin
    have hstep : acc ≤ acc + x := Float.le_add_of_nonneg hacc hnonneg hsum
    exact Float.le_trans hstep (le_foldl_add xs hsum fun y hy => hxs y (List.mem_cons_of_mem _ hy))

/-- 有限で 0 以上の数の和は、初めのいくつかの和を下回らない。 -/
theorem sum_take_le (xs : List Float) (k : Nat)
    (hxs : ∀ x ∈ xs, x.isFinite = true ∧ 0 ≤ rankOf x) : sum (xs.take k) ≤ sum xs := by
  have hnan : (sum (xs.take k)).isNaN = false :=
    foldl_add_isNaN_eq_false _ rfl fun x hx => (hxs x (List.mem_of_mem_take hx)).1
  calc sum (xs.take k) ≤ (xs.drop k).foldl (· + ·) (sum (xs.take k)) :=
        le_foldl_add _ hnan fun x hx => hxs x (List.mem_of_mem_drop hx)
    _ = sum xs := by rw [sum, sum, ← List.foldl_append, List.take_append_drop]

/-- 0 だけを足していくと、位置 0 の数は位置 0 のまま。 -/
theorem rankOf_foldl_add_zero :
    ∀ (xs : List Float) {acc : Float}, acc.isNaN = false → rankOf acc = 0 →
      (∀ x ∈ xs, x = 0.0) → rankOf (xs.foldl (· + ·) acc) = 0
  | [], _, _, h, _ => h
  | x :: xs, acc, hacc, h, hxs => by
    obtain rfl : x = 0.0 := hxs x List.mem_cons_self
    have hsum := Float.add_isNaN_eq_false_of_isFinite_right hacc (rfl : (0.0 : Float).isFinite = true)
    refine rankOf_foldl_add_zero xs hsum ?_ fun y hy => hxs y (List.mem_cons_of_mem _ hy)
    rw [Float.rankOf_add hsum, h, rankOf_zero, Int.add_zero, roundRank_zero]

theorem rankOf_negZero : rankOf (-0.0) = 0 := by
  decide

/-! ## 積み上げた高さ -/

/-- 積み上げで `i` 番目の点として足す数は有限。 -/
theorem Series.valueAt_getD_isFinite (s : Series) (i : Nat) :
    ((s.valueAt i).getD 0.0).isFinite = true := by
  cases h : s.valueAt i with
  | none => rfl
  | some v => exact (Series.valueAt_eq_some.mp h).2.2

/-- 系列の終わりより先の点は 0 として足す。 -/
theorem Series.valueAt_getD_of_le {s : Series} {i : Nat} (h : s.pointCount ≤ i) :
    (s.valueAt i).getD 0.0 = 0.0 := by
  cases hv : s.valueAt i with
  | none => rfl
  | some v =>
    have hval := (Series.valueAt_eq_some.mp hv).2.1
    rw [Array.getElem?_eq_none h] at hval
    cases hval

/-- `i` 番目の点で、初めの `k` 本の系列を積んだ高さ。系列の順に左から足し、欠けた点、有限で
ない値、系列の終わりより先の点は 0 と数える。 -/
def stackHeight (series : List Series) (k i : Nat) : Float :=
  sum ((series.take k).map fun s => (s.valueAt i).getD 0.0)

theorem stackHeight_length (series : List Series) (i : Nat) :
    stackHeight series series.length i = sum (series.map fun s => (s.valueAt i).getD 0.0) := by
  rw [stackHeight, List.take_length]

theorem stackHeight_isNaN (series : List Series) (k i : Nat) :
    (stackHeight series k i).isNaN = false := by
  refine foldl_add_isNaN_eq_false _ rfl fun x hx => ?_
  obtain ⟨s, -, rfl⟩ := List.mem_map.mp hx
  exact Series.valueAt_getD_isFinite s i

/-- 点のない添字では、積んだ高さは 0。 -/
theorem rankOf_stackHeight_of_le {series : List Series} {i : Nat}
    (h : ∀ s ∈ series, s.pointCount ≤ i) (k : Nat) : rankOf (stackHeight series k i) = 0 := by
  refine rankOf_foldl_add_zero _ rfl rankOf_negZero fun x hx => ?_
  obtain ⟨s, hs, rfl⟩ := List.mem_map.mp hx
  exact Series.valueAt_getD_of_le (h s (List.mem_of_mem_take hs))

section Nonneg

variable {series : List Series}

/-- 値がどれも 0 以上なら、積み上げで足す数はどれも有限で 0 以上。 -/
theorem stackTerms_nonneg (hnonneg : ∀ v, PresentValue series v → 0.0 ≤ v) (k i : Nat) :
    ∀ x ∈ (series.take k).map fun s => (s.valueAt i).getD 0.0,
      x.isFinite = true ∧ 0 ≤ rankOf x := by
  intro x hx
  obtain ⟨s, hs, rfl⟩ := List.mem_map.mp hx
  refine ⟨Series.valueAt_getD_isFinite s i, ?_⟩
  cases h : s.valueAt i with
  | none => exact rankOf_zero.ge
  | some v =>
    obtain ⟨ha, hv, hf⟩ := Series.valueAt_eq_some.mp h
    exact (Float.rankOf_of_zero_le (hnonneg v ⟨s, List.mem_of_mem_take hs, i, ha, hv, hf⟩)).2

theorem stackHeight_nonneg (hnonneg : ∀ v, PresentValue series v → 0.0 ≤ v) (k i : Nat) :
    0 ≤ rankOf (stackHeight series k i) := by
  have hle : (-0.0 : Float) ≤ stackHeight series k i :=
    le_foldl_add _ rfl (stackTerms_nonneg hnonneg k i)
  rw [Float.le_iff_rank rfl (stackHeight_isNaN series k i), rankOf_negZero] at hle
  exact hle

/-- 値がどれも 0 以上なら、初めの `k` 本を積んだ高さは、全部を積んだ高さを越えない。 -/
theorem stackHeight_le_length (hnonneg : ∀ v, PresentValue series v → 0.0 ≤ v) (k i : Nat) :
    stackHeight series k i ≤ stackHeight series series.length i := by
  rw [stackHeight, stackHeight_length, List.map_take]
  have hterms := stackTerms_nonneg hnonneg series.length i
  rw [List.take_length] at hterms
  exact sum_take_le _ k hterms

end Nonneg

/-! ## 添字ごとの和の最大 -/

/-- 点の数の最大より小さい添字は、点のある系列のある添字。 -/
theorem lt_max?_pointCount {series : List Series} {L : Nat}
    (h : (series.map Series.pointCount).max? = some L) (i : Nat) :
    i < L ↔ ∃ s ∈ series, i < s.pointCount := by
  obtain ⟨hmem, hle⟩ := List.max?_eq_some_iff.mp h
  constructor
  · intro hi
    obtain ⟨s, hs, rfl⟩ := List.mem_map.mp hmem
    exact ⟨s, hs, hi⟩
  · rintro ⟨s, hs, hi⟩
    exact Nat.lt_of_lt_of_le hi (hle _ (List.mem_map_of_mem hs))

/-- NaN でない数の列を先頭から `maxNum` で畳み込むと、列の最大：列のどれかで、どれも下回らない。 -/
theorem foldl_maxNum_greatest {first : Float} {rest : List Float}
    (h : ∀ x ∈ first :: rest, x.isNaN = false) :
    rest.foldl maxNum first ∈ first :: rest ∧ ∀ x ∈ first :: rest, x ≤ rest.foldl maxNum first := by
  obtain ⟨hfirst, hrest⟩ := le_foldl_maxNum id rest (h first List.mem_cons_self)
  refine ⟨foldl_mem_of_choice maxNum_eq_or rest first, fun x hx => ?_⟩
  rcases List.mem_cons.mp hx with rfl | hx
  · exact hfirst
  · exact hrest x hx (h x (List.mem_cons_of_mem _ hx))

/-- 点のある系列がないときに限って、`stackedMaximum` は `none`。 -/
theorem stackedMaximum_eq_none_iff (series : List Series) :
    stackedMaximum series = none ↔ ∀ s ∈ series, s.pointCount = 0 := by
  unfold stackedMaximum
  rcases hL : (series.map Series.pointCount).max? with _ | L
  · obtain rfl : series = [] := by simpa using hL
    simp
  · have hrange := lt_max?_pointCount hL
    dsimp only
    split
    · next heq =>
      obtain rfl : L = 0 := by simpa using heq
      simp only [true_iff]
      intro s hs
      by_contra hne
      exact Nat.lt_irrefl 0 ((hrange 0).mpr ⟨s, hs, Nat.pos_of_ne_zero hne⟩)
    · next first rest heq =>
      have hL0 : 0 < L := by
        rcases Nat.eq_zero_or_pos L with rfl | hpos
        · simp at heq
        · exact hpos
      obtain ⟨s, hs, hi⟩ := (hrange 0).mp hL0
      simp only [reduceCtorEq, false_iff, not_forall]
      exact ⟨s, hs, Nat.pos_iff_ne_zero.mp hi⟩

/-- `m` は、点のある添字で全部を積んだ高さの最大：その高さのどれかで、どれも下回らない。 -/
structure IsStackedPeak (series : List Series) (m : Float) : Prop where
  attained : ∃ i, (∃ s ∈ series, i < s.pointCount) ∧ m = stackHeight series series.length i
  greatest : ∀ i, (∃ s ∈ series, i < s.pointCount) → stackHeight series series.length i ≤ m

/-- `stackedMaximum` が値を返せば、それは点のある添字で全部を積んだ高さの最大。 -/
theorem stackedMaximum_spec {series : List Series} {m : Float} (h : stackedMaximum series = some m) :
    IsStackedPeak series m := by
  unfold stackedMaximum at h
  rcases hL : (series.map Series.pointCount).max? with _ | L <;> rw [hL] at h
  · cases h
  · have hrange := lt_max?_pointCount hL
    dsimp only at h
    split at h
    · cases h
    · next first rest heq =>
      obtain rfl := Option.some.inj h
      have hnan : ∀ x ∈ first :: rest, x.isNaN = false := by
        rw [← heq]
        intro x hx
        obtain ⟨i, -, rfl⟩ := List.mem_map.mp hx
        rw [← stackHeight_length]
        exact stackHeight_isNaN _ _ _
      obtain ⟨hmem, hle⟩ := foldl_maxNum_greatest hnan
      constructor
      · rw [← heq] at hmem
        obtain ⟨i, hi, hm⟩ := List.mem_map.mp hmem
        exact ⟨i, (hrange i).mp (List.mem_range.mp hi), by rw [← hm, stackHeight_length]⟩
      · intro i hi
        rw [stackHeight_length]
        apply hle
        rw [← heq]
        exact List.mem_map_of_mem (List.mem_range.mpr ((hrange i).mpr hi))

theorem stackedMaximum_getD_isNaN (series : List Series) :
    ((stackedMaximum series).getD 0.0).isNaN = false := by
  cases h : stackedMaximum series with
  | none => rfl
  | some m =>
    obtain ⟨i, -, rfl⟩ := (stackedMaximum_spec h).attained
    exact stackHeight_isNaN _ _ _

/-! ## 積み上げの縦軸 -/

section Nonneg

variable {series : List Series}

/-- 値がどれも 0 以上なら、積み上げの上端（系列に点がなければ 0）は 0 以上。 -/
theorem stackedMaximum_getD_nonneg (hnonneg : ∀ v, PresentValue series v → 0.0 ≤ v) :
    0 ≤ rankOf ((stackedMaximum series).getD 0.0) := by
  cases h : stackedMaximum series with
  | none => exact rankOf_zero.ge
  | some m =>
    obtain ⟨i, -, rfl⟩ := (stackedMaximum_spec h).attained
    exact stackHeight_nonneg hnonneg _ _

/-- 値がどれも 0 以上なら、積み上げの上端は、どの添字で何本を積んだ高さも下回らない。 -/
theorem stackHeight_le_stackedMaximum (hnonneg : ∀ v, PresentValue series v → 0.0 ≤ v)
    (k i : Nat) : stackHeight series k i ≤ (stackedMaximum series).getD 0.0 := by
  by_cases hi : ∃ s ∈ series, i < s.pointCount
  · obtain ⟨m, hm⟩ : ∃ m, stackedMaximum series = some m := by
      refine Option.ne_none_iff_exists'.mp fun hnone => ?_
      obtain ⟨s, hs, hlt⟩ := hi
      have hzero := (stackedMaximum_eq_none_iff series).mp hnone s hs
      omega
    rw [hm, Option.getD_some]
    exact Float.le_trans (stackHeight_le_length hnonneg k i) ((stackedMaximum_spec hm).greatest i hi)
  · have hall : ∀ s ∈ series, s.pointCount ≤ i := fun s hs =>
      Nat.le_of_not_lt fun hlt => hi ⟨s, hs, hlt⟩
    rw [Float.le_iff_rank (stackHeight_isNaN series k i) (stackedMaximum_getD_isNaN series),
      rankOf_stackHeight_of_le hall]
    exact stackedMaximum_getD_nonneg hnonneg

/-- 積み上げで、下限と上限の上書きがなく、値がどれも 0 以上なら、`yMin` は 0、`yMax` は積み上げの
上端で、どの添字で何本を積んだ高さも下回らない。 -/
theorem computeYAxis_stacked_range (opts : YAxisOptions) (hmode : opts.areaMode = .stacked)
    (hlen : 2 ≤ series.length) (hmin : opts.overrides.min = none) (hmax : opts.overrides.max = none)
    (hnonneg : ∀ v, PresentValue series v → 0.0 ≤ v) :
    (computeYAxis series opts).1.yMin = 0.0 ∧
      (computeYAxis series opts).1.yMax = (stackedMaximum series).getD 0.0 ∧
      ∀ k i, stackHeight series k i ≤ (computeYAxis series opts).1.yMax := by
  obtain ⟨hlo, hhi⟩ := computeYAxis_range_of_auto series opts hmin hmax
  have hstacked : (opts.areaMode == .stacked && 1 < series.length) = true := by
    simp only [hmode, beq_self_eq_true, Bool.true_and, decide_eq_true_eq]
    omega
  have hneg : ¬(stackedMaximum series).getD 0.0 < 0.0 := by
    rw [Float.lt_iff_rank (stackedMaximum_getD_isNaN series) rfl, rankOf_zero]
    exact Int.not_lt.mpr (stackedMaximum_getD_nonneg hnonneg)
  simp only [hstacked, if_true, hneg, decide_false, Bool.and_false, Bool.false_and,
    Bool.false_eq_true, if_false] at hlo hhi
  exact ⟨hlo, hhi, fun k i => hhi ▸ stackHeight_le_stackedMaximum hnonneg k i⟩

end Nonneg

/-- `stackedMaximum` は点のある系列がないときに限って `none` で、そうでなければ点のある添字で全部を
積んだ高さの最大。積み上げで二本以上、下限と上限の上書きがなく、値がどれも 0 以上なら、`yMin` は
0、`yMax` は積み上げの上端で、どの添字で何本を積んだ高さも下回らない。 -/
theorem stackedMaximum_bounds_stacks (series : List Series) (opts : YAxisOptions) :
    (stackedMaximum series = none ↔ ∀ s ∈ series, s.pointCount = 0) ∧
      (∀ m, stackedMaximum series = some m → IsStackedPeak series m) ∧
      (opts.areaMode = .stacked → 2 ≤ series.length → opts.overrides.min = none →
        opts.overrides.max = none → (∀ v, PresentValue series v → 0.0 ≤ v) →
        (computeYAxis series opts).1.yMin = 0.0 ∧
          (computeYAxis series opts).1.yMax = (stackedMaximum series).getD 0.0 ∧
          ∀ k i, stackHeight series k i ≤ (computeYAxis series opts).1.yMax) :=
  ⟨stackedMaximum_eq_none_iff series, fun _ h => stackedMaximum_spec h,
    fun hmode hlen hmin hmax hnonneg =>
      computeYAxis_stacked_range opts hmode hlen hmin hmax hnonneg⟩

/-- 長さの違う二本の系列。二本目は初めの点が欠けている。 -/
def raggedPair : List Series :=
  [{ name := "a", startTime := 0, stopTime := 180, stepTime := 60, values := #[1.0, 2.5, 0.5],
     absent := #[false, false, false] },
   { name := "b", startTime := 0, stopTime := 120, stepTime := 60, values := #[0.0, 4.0],
     absent := #[true, false] }]

theorem stackedMaximum_bounds_stacks_ragged :
    (∀ v, PresentValue raggedPair v → 0.0 ≤ v) ∧
      (computeYAxis raggedPair { areaMode := .stacked }).1.yMin = 0.0 ∧
      (computeYAxis raggedPair { areaMode := .stacked }).1.yMax = (stackedMaximum raggedPair).getD 0.0 ∧
      ∀ k i, stackHeight raggedPair k i ≤ (computeYAxis raggedPair { areaMode := .stacked }).1.yMax := by
  have hnonneg : ∀ v, PresentValue raggedPair v → 0.0 ≤ v := by
    have hall : ∀ v ∈ raggedPair.flatMap Series.presentValues, 0.0 ≤ v := by decide +kernel
    exact fun v hv => hall v (mem_flatMap_presentValues.mpr hv)
  exact ⟨hnonneg, (stackedMaximum_bounds_stacks raggedPair { areaMode := .stacked }).2.2 rfl
    (by decide) rfl rfl hnonneg⟩

/-- 二本の系列 `[4e-308]` と `[0.0]`。積み上げの上端は正規数の下限 `2.2e-308` に近い。 -/
def nearSubnormalStack : List Series :=
  [{ name := "a", startTime := 0, stopTime := 60, stepTime := 60, values := #[4e-308],
     absent := #[false] },
   { name := "b", startTime := 0, stopTime := 60, stepTime := 60, values := #[0.0],
     absent := #[false] }]

/-- 上端 `4e-308` の刻みを探す `niceStep` は `10^-309` から始め、それは 0 に潰れる。刻み 0 で
切り上げた格子の上端は NaN で、`yMax - yStep × 10^-6` を下回らない。 -/
theorem stacked_top_nan_near_subnormal :
    let s := (computeYAxis nearSubnormalStack { areaMode := .stacked }).1
    (s.yMin == 0.0) = true ∧ (s.yMax == 4e-308) = true ∧ (s.yStep == 0.0) = true ∧
      s.yTop.isNaN = true ∧ ¬(s.yMax - s.yStep * 1e-6 ≤ s.yTop) := by
  decide +kernel

end PlotGeometry
