import Mathlib
import PlotGeometry.Proofs.Float.Elementary
import PlotGeometry.Proofs.Layout.AxisLoop
/-!
# 帯を取る手順は領域を狭める

配置は、キャンバスから余白を除いた領域から始め、題、縦の題（左と右）、凡例、X のラベルの帯、
Y のラベルの幅の順に帯を取る。余白が 0 以上で文字の大きさが 1 以上、文字の寸法の見積もりが
負でない行の高さと上の高さを返す（`TextMeasurer.HeightsNonneg`）なら、どの手順も

* 成功すれば、幅と高さが正で、受け取った領域の内側の領域を返し（左端と上端は小さく
  ならず、右端と下端は大きくならない）、
* 失敗すれば、その手順の名前と、空になった候補の領域を持つ `areaCollapsed` で止まる
  （`Shrinks`）。

浮動小数点の丸めがあっても内側に収まるのは、負でない数を足せば小さくならず、引けば
大きくならないから（`Float.le_add_of_nonneg`、`Float.sub_le_of_nonneg`）。帯の幅は、余白、
文字の高さ（`1.2 × 大きさ`）、題の文字の大きさ（`大きさ + ⌊ln 大きさ⌋`）、凡例の行数から
作られ、どれも負でない。
-/

namespace PlotGeometry

variable {tk : Toolkit}

/-! ## 領域の包含 -/

/-- 四つの辺がどれも NaN でない。 -/
structure Area.Defined (a : Area) : Prop where
  xmin : a.xmin.isNaN = false
  xmax : a.xmax.isNaN = false
  ymin : a.ymin.isNaN = false
  ymax : a.ymax.isNaN = false

/-- `inner` が `outer` の内側にある：左端と上端は小さくならず、右端と下端は大きくならない。 -/
def Area.Within (inner outer : Area) : Prop :=
  outer.xmin ≤ inner.xmin ∧ outer.ymin ≤ inner.ymin ∧ inner.xmax ≤ outer.xmax ∧
    inner.ymax ≤ outer.ymax

theorem Area.valid_iff {a : Area} : a.valid = true ↔ a.xmin < a.xmax ∧ a.ymin < a.ymax := by
  simp [Area.valid]

theorem Area.sameValue_eq_true {a b : Area} :
    a.sameValue b = true ↔
      (a.xmin == b.xmin) = true ∧ (a.xmax == b.xmax) = true ∧ (a.ymin == b.ymin) = true ∧
        (a.ymax == b.ymax) = true := by
  simp [Area.sameValue, Bool.and_eq_true, and_assoc]

/-- `==` で一致する領域の一方が空でなければ、もう一方も空でない。 -/
theorem Area.valid_of_sameValue {a b : Area} (hs : a.sameValue b = true) (h : a.valid = true) :
    b.valid = true := by
  obtain ⟨hx₀, hx₁, hy₀, hy₁⟩ := Area.sameValue_eq_true.mp hs
  obtain ⟨hx, hy⟩ := Area.valid_iff.mp h
  exact Area.valid_iff.mpr ⟨Float.lt_of_beq_of_lt hx₀ hx₁ hx, Float.lt_of_beq_of_lt hy₀ hy₁ hy⟩

theorem Area.Defined.of_valid {a : Area} (h : a.valid = true) : a.Defined := by
  obtain ⟨hx, hy⟩ := Area.valid_iff.mp h
  exact ⟨(Float.isNaN_eq_false_of_lt hx).1, (Float.isNaN_eq_false_of_lt hx).2,
    (Float.isNaN_eq_false_of_lt hy).1, (Float.isNaN_eq_false_of_lt hy).2⟩

theorem Area.Within.refl {a : Area} (h : a.Defined) : a.Within a :=
  ⟨Float.le_refl h.xmin, Float.le_refl h.ymin, Float.le_refl h.xmax, Float.le_refl h.ymax⟩

theorem Area.Within.trans {a b c : Area} (hab : a.Within b) (hbc : b.Within c) : a.Within c :=
  ⟨Float.le_trans hbc.1 hab.1, Float.le_trans hbc.2.1 hab.2.1, Float.le_trans hab.2.2.1 hbc.2.2.1,
    Float.le_trans hab.2.2.2 hbc.2.2.2⟩

/-- 一つの辺だけを内へ動かした領域は、元の領域の内側。 -/
theorem Area.within_xmin {a : Area} (h : a.Defined) {x : Float} (hx : a.xmin ≤ x) :
    ({ a with xmin := x } : Area).Within a :=
  ⟨hx, Float.le_refl h.ymin, Float.le_refl h.xmax, Float.le_refl h.ymax⟩

theorem Area.within_ymin {a : Area} (h : a.Defined) {y : Float} (hy : a.ymin ≤ y) :
    ({ a with ymin := y } : Area).Within a :=
  ⟨Float.le_refl h.xmin, hy, Float.le_refl h.xmax, Float.le_refl h.ymax⟩

theorem Area.within_xmax {a : Area} (h : a.Defined) {x : Float} (hx : x ≤ a.xmax) :
    ({ a with xmax := x } : Area).Within a :=
  ⟨Float.le_refl h.xmin, Float.le_refl h.ymin, hx, Float.le_refl h.ymax⟩

theorem Area.within_ymax {a : Area} (h : a.Defined) {y : Float} (hy : y ≤ a.ymax) :
    ({ a with ymax := y } : Area).Within a :=
  ⟨Float.le_refl h.xmin, Float.le_refl h.ymin, Float.le_refl h.xmax, hy⟩

/-- 内側にあれば、両方の辺はどれも NaN でない。 -/
theorem Area.Within.defined_left {a b : Area} (h : a.Within b) : a.Defined :=
  ⟨(Float.isNaN_eq_false_of_le h.1).2, (Float.isNaN_eq_false_of_le h.2.2.1).1,
    (Float.isNaN_eq_false_of_le h.2.1).2, (Float.isNaN_eq_false_of_le h.2.2.2).1⟩

/-- 下端から負でない幅を引いた領域は、幅と高さが正なら元の内側。 -/
theorem Area.within_lower_ymax {a : Area} (h : a.Defined) {r : Float} (hr : 0 ≤ rankOf r)
    (hv : ({ a with ymax := a.ymax - r } : Area).valid = true) :
    ({ a with ymax := a.ymax - r } : Area).Within a :=
  Area.within_ymax h (Float.sub_le_of_nonneg h.ymax hr (Area.Defined.of_valid hv).ymax)

/-! ## 手順の約束 -/

/-- 帯を取る手順 `stage` が領域 `area` から作った結果の約束：成功なら幅と高さが正で `area` の
内側、失敗なら `stage` の名前と空になった候補を持つ `areaCollapsed`。 -/
def Shrinks (stage : String) (area : Area) : Except ChartError Area → Prop
  | .ok a => a.valid = true ∧ a.Within area
  | .error e => ∃ a, e = .areaCollapsed stage a ∧ a.valid = false

theorem Shrinks.of_self {st : String} {area : Area} (h : area.valid = true) :
    Shrinks st area (.ok area) :=
  ⟨h, Area.Within.refl (Area.Defined.of_valid h)⟩

/-- 候補が幅と高さが正なら内側にあれば、確かめた結果は約束を守る。 -/
theorem Shrinks.ensureValid {st : String} {area cand : Area}
    (h : cand.valid = true → cand.Within area) : Shrinks st area (cand.ensureValid st) := by
  unfold Area.ensureValid
  split
  · rename_i hv
    exact ⟨hv, h hv⟩
  · rename_i hv
    exact ⟨cand, rfl, by simpa using hv⟩

theorem Shrinks.of_ensureValid {st : String} {area cand : Area} {r : Except ChartError Area}
    (h : cand.valid = true → cand.Within area) (hr : cand.ensureValid st = r) :
    Shrinks st area r :=
  hr ▸ Shrinks.ensureValid h

theorem Area.ensureValid_map_fst {β : Type} (a : Area) (st : String) (b : β) :
    ((a.ensureValid st).map (·, b)).map Prod.fst = a.ensureValid st := by
  unfold Area.ensureValid
  split <;> rfl

theorem Shrinks.ok {st : String} {area a : Area} {β : Type} {r : Except ChartError (Area × β)}
    {b : β} (hs : Shrinks st area (r.map Prod.fst)) (h : r = .ok (a, b)) :
    a.valid = true ∧ a.Within area := by
  rw [h] at hs
  exact hs

/-! ## 行を積む -/

theorem stackLines_snd (lines : List String) (start : Float) (next : Float → Float)
    (place : String → Float → PlacedText) :
    (stackLines lines start next place).2 = next^[lines.length] start := by
  unfold stackLines
  -- 置いた文字の並びは位置に関わらないので、畳み込みの初期値ごと一般化する
  suffices h : ∀ (acc : List PlacedText) (pos : Float),
      (lines.foldl (fun x line => (x.1 ++ [place line x.2], next x.2)) (acc, pos)).2 =
        next^[lines.length] pos from h [] start
  induction lines with
  | nil => intro acc pos; rfl
  | cons l ls ih =>
    intro acc pos
    rw [List.foldl_cons]
    dsimp only
    rw [ih, List.length_cons, Function.iterate_succ_apply]

/-- 負でない数を何度足しても小さくならない（結果が NaN でなければ）。 -/
theorem Float.le_iterate_add {d : Float} (hd : 0 ≤ rankOf d) (n : Nat) {x : Float}
    (h : ((· + d)^[n] x).isNaN = false) : x ≤ (· + d)^[n] x := by
  induction n with
  | zero => exact Float.le_refl h
  | succ n ih =>
    rw [Function.iterate_succ_apply'] at h ⊢
    have hprev := (Float.isNaN_of_add h).1
    exact Float.le_trans (ih hprev) (Float.le_add_of_nonneg hprev hd h)

/-- 負でない数を何度引いても大きくならない（結果が NaN でなければ）。 -/
theorem Float.iterate_sub_le {d : Float} (hd : 0 ≤ rankOf d) (n : Nat) {x : Float}
    (h : ((· - d)^[n] x).isNaN = false) : (· - d)^[n] x ≤ x := by
  induction n with
  | zero => exact Float.le_refl h
  | succ n ih =>
    rw [Function.iterate_succ_apply'] at h ⊢
    have hprev := (Float.isNaN_of_sub h).1
    exact Float.le_trans (Float.sub_le_of_nonneg hprev hd h) (ih hprev)

/-! ## 文字の寸法 -/

/-- 見積もりが、大きさが負でない書体に、負でない行の高さと上の高さを返す。 -/
structure TextMeasurer.HeightsNonneg (tm : TextMeasurer) : Prop where
  height : ∀ f : FontSpec, 0 ≤ rankOf f.size → 0 ≤ rankOf (tm.metrics f).height
  ascent : ∀ f : FontSpec, 0 ≤ rankOf f.size → 0 ≤ rankOf (tm.metrics f).ascent

theorem fontMetrics_height_nonneg {f : FontSpec} (h : 0 ≤ rankOf f.size) :
    0 ≤ rankOf (fontMetrics f).height :=
  Float.rankOf_mul_nonneg (by decide) h

theorem fontMetrics_ascent_nonneg {f : FontSpec} (h : 0 ≤ rankOf f.size) :
    0 ≤ rankOf (fontMetrics f).ascent :=
  Float.rankOf_mul_nonneg (by decide) h

@[simp] theorem TextMeasurer.heuristic_measure (text : String) (font : FontSpec) :
    TextMeasurer.heuristic.measure text font = measureText text font := rfl

@[simp] theorem TextMeasurer.heuristic_metrics (font : FontSpec) :
    TextMeasurer.heuristic.metrics font = fontMetrics font := rfl

/-- 決まった規則の見積もりの高さは大きさの 1.2 倍と 0.8 倍。 -/
theorem TextMeasurer.heuristic_heightsNonneg : TextMeasurer.heuristic.HeightsNonneg :=
  ⟨fun _ h => fontMetrics_height_nonneg h, fun _ h => fontMetrics_ascent_nonneg h⟩

/-- 題の文字の大きさ `大きさ + ⌊ln 大きさ⌋` は、大きさが 1 以上なら負でない。 -/
theorem titleFont_size_nonneg {c : ChartConfig} (hf : 1.0 ≤ c.font.size) :
    0 ≤ rankOf c.titleFont.size := by
  have hsize : 0 ≤ rankOf c.font.size := by
    have := (Float.rankOf_of_one_le hf).2
    omega
  exact Float.rankOf_add_nonneg hsize (floorNum_nonneg (lnNum_nonneg hf))


/-! ## 手順ごとの約束 -/

section Stages

variable {c : ChartConfig} {area : Area}

/-- キャンバスから四辺の余白を除く。 -/
theorem insetCanvas_shrinks (hm : 0.0 ≤ c.margin) :
    Shrinks "canvas margins" ⟨0.0, c.width, 0.0, c.height⟩
      ((Area.insetCanvas c.width c.height c.margin).ensureValid "canvas margins") := by
  have hmr := (Float.rankOf_of_zero_le hm).2
  apply Shrinks.ensureValid
  intro hv
  have hd := Area.Defined.of_valid hv
  have hw := (Float.isNaN_of_sub hd.xmax).1
  have hh := (Float.isNaN_of_sub hd.ymax).1
  exact ⟨hm, hm, Float.sub_le_of_nonneg hw hmr hd.xmax, Float.sub_le_of_nonneg hh hmr hd.ymax⟩

/-- 題の行を上端から積み、その下に余白を取る。 -/
theorem reserveTitle_shrinks (hh : tk.measurer.HeightsNonneg) (hm : 0.0 ≤ c.margin)
    (hf : 1.0 ≤ c.font.size) (harea : area.valid = true) : Shrinks "title" area ((reserveTitle tk c area).map Prod.fst) := by
  have hd := Area.Defined.of_valid harea
  have hmr := (Float.rankOf_of_zero_le hm).2
  have hlh := hh.height _ (titleFont_size_nonneg hf)
  unfold reserveTitle
  split
  · exact Shrinks.of_self harea
  · dsimp only
    rw [Area.ensureValid_map_fst]
    apply Shrinks.ensureValid
    intro hv
    have hsum := (Area.Defined.of_valid hv).ymin
    have hy := (Float.isNaN_of_add hsum).1
    refine Area.within_ymin hd (Float.le_trans ?_ (Float.le_add_of_nonneg hy hmr hsum))
    rw [stackLines_snd] at hy ⊢
    exact Float.le_iterate_add hlh _ hy

/-- 左の縦の題の行を左端から右へ積み、その右に余白を取る。 -/
theorem reserveLeftTitle_shrinks (hh : tk.measurer.HeightsNonneg) (hm : 0.0 ≤ c.margin)
    (hf : 1.0 ≤ c.font.size) (harea : area.valid = true) :
    Shrinks "vertical title" area ((reserveLeftTitle tk c area).map Prod.fst) := by
  have hd := Area.Defined.of_valid harea
  have hmr := (Float.rankOf_of_zero_le hm).2
  have hlh := hh.height _ (titleFont_size_nonneg hf)
  unfold reserveLeftTitle
  split
  · exact Shrinks.of_self harea
  · dsimp only
    rw [Area.ensureValid_map_fst]
    apply Shrinks.ensureValid
    intro hv
    have hsum := (Area.Defined.of_valid hv).xmin
    have hx := (Float.isNaN_of_add hsum).1
    refine Area.within_xmin hd (Float.le_trans ?_ (Float.le_add_of_nonneg hx hmr hsum))
    rw [stackLines_snd] at hx ⊢
    have hit := Float.le_iterate_add hlh _ hx
    have hstart := (Float.isNaN_eq_false_of_le hit).1
    exact Float.le_trans (Float.le_add_of_nonneg hd.xmin hlh hstart) hit

/-- 二軸なら、右の縦の題の行を右端から左へ積み、その左に余白を取る。 -/
theorem reserveRightTitle_shrinks (hh : tk.measurer.HeightsNonneg) (hm : 0.0 ≤ c.margin)
    (hf : 1.0 ≤ c.font.size) (harea : area.valid = true) (dualAxis : Bool) :
    Shrinks "right vertical title" area ((reserveRightTitle tk c area dualAxis).map Prod.fst) := by
  have hd := Area.Defined.of_valid harea
  have hmr := (Float.rankOf_of_zero_le hm).2
  have hlh := hh.height _ (titleFont_size_nonneg hf)
  unfold reserveRightTitle
  split
  · dsimp only
    rw [Area.ensureValid_map_fst]
    apply Shrinks.ensureValid
    intro hv
    have hdiff := (Area.Defined.of_valid hv).xmax
    have hx := (Float.isNaN_of_sub hdiff).1
    refine Area.within_xmax hd (Float.le_trans (Float.sub_le_of_nonneg hx hmr hdiff) ?_)
    rw [stackLines_snd] at hx ⊢
    have hit := Float.iterate_sub_le hlh _ hx
    have hstart := (Float.isNaN_eq_false_of_le hit).2
    exact Float.le_trans hit (Float.sub_le_of_nonneg hd.xmax hlh hstart)
  · exact Shrinks.of_self harea

/-- 凡例の行の高さの合計だけ下端を上げる。項目がなければ何もしない。 -/
theorem layoutLegend_shrinks {tm : TextMeasurer} (hh : tm.HeightsNonneg) (series : List Series)
    (opts : LegendOptions) (hf : 0 ≤ rankOf opts.font.size) (harea : area.valid = true) :
    Shrinks "legend" area ((layoutLegend tm series opts area).map LegendLayout.area) := by
  have hd := Area.Defined.of_valid harea
  unfold layoutLegend
  dsimp only
  split
  · exact Shrinks.of_self harea
  · simp only [bind, Except.bind]
    split
    · rename_i err hv
      refine Shrinks.of_ensureValid (Area.within_lower_ymax hd ?_) hv
      exact Float.rankOf_mul_nonneg (Float.rankOf_ofNat_nonneg _) (Float.rankOf_add_nonneg
        (Float.rankOf_add_nonneg (hh.height _ hf) (by decide)) (by decide))
    · rename_i a hv
      refine Shrinks.of_ensureValid (Area.within_lower_ymax hd ?_) hv
      exact Float.rankOf_mul_nonneg (Float.rankOf_ofNat_nonneg _) (Float.rankOf_add_nonneg
        (Float.rankOf_add_nonneg (hh.height _ hf) (by decide)) (by decide))

/-- 凡例を出すなら、凡例の帯を取る。 -/
theorem reserveLegend_shrinks (hh : tk.measurer.HeightsNonneg) (hf : 1.0 ≤ c.font.size)
    (harea : area.valid = true) (series : List Series) (dualAxis : Bool) (flags : DisplayFlags) :
    Shrinks "legend" area ((reserveLegend tk c series area dualAxis flags).map Prod.fst) := by
  have hsize : 0 ≤ rankOf c.font.size := by
    have := (Float.rankOf_of_one_le hf).2
    omega
  unfold reserveLegend
  split
  · have hs :=
      layoutLegend_shrinks hh series ⟨c.width, c.font, c.uniqueLegend, dualAxis⟩ hsize harea
    cases hl : layoutLegend tk.measurer series ⟨c.width, c.font, c.uniqueLegend, dualAxis⟩ area with
    | ok l =>
      rw [hl] at hs
      exact hs
    | error e =>
      rw [hl] at hs
      exact hs
  · exact Shrinks.of_self harea

/-- 軸を出すなら、文字の上の高さの 2 倍の帯を下に取る。 -/
theorem reserveXLabelBand_shrinks (hh : tk.measurer.HeightsNonneg) (hf : 1.0 ≤ c.font.size)
    (harea : area.valid = true) (flags : DisplayFlags) : Shrinks "x axis labels" area (reserveXLabelBand tk c area flags) := by
  have hsize : 0 ≤ rankOf c.font.size := by
    have := (Float.rankOf_of_one_le hf).2
    omega
  unfold reserveXLabelBand
  split
  · exact Shrinks.of_self harea
  · exact Shrinks.ensureValid (Area.within_lower_ymax (Area.Defined.of_valid harea)
      (Float.rankOf_mul_nonneg (by decide) (hh.ascent _ hsize)))

/-- 一つの軸のラベルの幅だけの狭めは、`maxNum`、`minNum` で辺を内へ動かすだけ。 -/
theorem labelInset_within (c : ChartConfig) {a : Area} (ha : a.Defined) (l : YAxisLayout) :
    (labelInset c a l).Within a := by
  unfold labelInset
  split
  · dsimp only
    split
    · exact Area.within_xmin ha (le_maxNum_left _ ha.xmin)
    · exact Area.within_xmax ha (minNum_le_left _ ha.xmax)
  · exact Area.Within.refl ha

theorem applyLabelInsets_within (c : ChartConfig) (axes : List YAxisLayout) {a : Area}
    (ha : a.Defined) : (applyLabelInsets c a axes).Within a := by
  rw [applyLabelInsets_eq_foldl]
  -- 軸ごとの狭めは内側へ動かし、辺を NaN にしない：畳み込みについての帰納法
  induction axes generalizing a with
  | nil => exact Area.Within.refl ha
  | cons l ls ih =>
    have hstep := labelInset_within c ha l
    rw [List.foldl_cons]
    exact (ih hstep.defined_left).trans hstep

/-- Y のラベルの幅だけ左右を狭める。 -/
theorem applyLabelInsets_shrinks (c : ChartConfig) (axes : List YAxisLayout)
    (harea : area.valid = true) :
    Shrinks "y axis labels" area ((applyLabelInsets c area axes).ensureValid "y axis labels") :=
  Shrinks.ensureValid fun _ => applyLabelInsets_within c axes (Area.Defined.of_valid harea)

end Stages

/-! ## 描けた結果の領域 -/

theorem Area.ensureValid_ok {a b : Area} {st : String} (h : a.ensureValid st = .ok b) :
    b = a ∧ a.valid = true := by
  unfold Area.ensureValid at h
  split at h
  · rename_i hv
    cases h
    exact ⟨rfl, hv⟩
  · cases h

theorem reserveVerticalTitles_ok {c : ChartConfig} {area a : Area} {dualAxis : Bool}
    {ts : List PlacedText} (h : reserveVerticalTitles tk c area dualAxis = .ok (a, ts)) :
    ∃ mid l r, reserveLeftTitle tk c area = .ok (mid, l) ∧
      reserveRightTitle tk c mid dualAxis = .ok (a, r) ∧ ts = l ++ r := by
  unfold reserveVerticalTitles at h
  cases hl : reserveLeftTitle tk c area with
  | error e =>
    rw [hl] at h
    cases h
  | ok q =>
    obtain ⟨mid, l⟩ := q
    rw [hl] at h
    dsimp only [bind, Except.bind] at h
    cases hr : reserveRightTitle tk c mid dualAxis with
    | error e =>
      rw [hr] at h
      cases h
    | ok q' =>
      obtain ⟨a', r⟩ := q'
      rw [hr] at h
      cases h
      exact ⟨mid, l, r, rfl, hr, rfl⟩

/-- 左と右の縦の題を続けて取っても、結果は受け取った領域の内側。 -/
theorem reserveVerticalTitles_within {c : ChartConfig} {area a : Area} {dualAxis : Bool}
    {ts : List PlacedText} (hh : tk.measurer.HeightsNonneg) (hm : 0.0 ≤ c.margin)
    (hf : 1.0 ≤ c.font.size) (harea : area.valid = true)
    (h : reserveVerticalTitles tk c area dualAxis = .ok (a, ts)) : a.valid = true ∧ a.Within area := by
  obtain ⟨mid, l, r, hl, hr, -⟩ := reserveVerticalTitles_ok h
  obtain ⟨hmid, hwmid⟩ := (reserveLeftTitle_shrinks hh hm hf harea).ok hl
  obtain ⟨ha, hwa⟩ := (reserveRightTitle_shrinks hh hm hf hmid dualAxis).ok hr
  exact ⟨ha, hwa.trans hwmid⟩

/-- Y 軸の組み直しが返す領域は、幅と高さが正で、組み直しに入った領域の内側。 -/
theorem convergeYAxesRun_within (c : ChartConfig) (series : List Series) (flags : DisplayFlags)
    (dualAxis : Bool) {area a : Area} {axes : List YAxisLayout} {i : Nat} {s s' : Progress}
    (harea : area.valid = true)
    (h : convergeYAxesRun tk c series flags dualAxis area s = (.ok (a, axes, i), s')) :
    a.valid = true ∧ a.Within area := by
  obtain ⟨rfl, hv, ⟨rfl, -, -⟩ | ⟨rfl, -, -⟩⟩ :=
    convergeYAxesRun_ok_cases tk c series flags dualAxis h
  · exact ⟨harea, Area.Within.refl (Area.Defined.of_valid harea)⟩
  · exact ⟨hv, applyLabelInsets_within c _ (Area.Defined.of_valid harea)⟩

/-- 組み直しの結果の領域は、入った領域によらず空でない：動かなければ、空でない一度目の狭めと
`==` の領域。 -/
theorem convergeYAxesRun_valid {c : ChartConfig} {series : List Series} {flags : DisplayFlags}
    {dualAxis : Bool} {area a : Area} {axes : List YAxisLayout} {i : Nat} {s s' : Progress}
    (h : convergeYAxesRun tk c series flags dualAxis area s = (.ok (a, axes, i), s')) :
    a.valid = true := by
  obtain ⟨rfl, hv, ⟨rfl, -, hs⟩ | ⟨rfl, -, -⟩⟩ :=
    convergeYAxesRun_ok_cases tk c series flags dualAxis h
  · exact Area.valid_of_sameValue hs hv
  · exact hv

/-- 描けた結果の描画領域は空でない。 -/
theorem PlotTrace.area_valid {c : ChartConfig} {input : List Series} {p : PlotLayout}
    (t : PlotTrace tk c input p) : p.area.valid = true := by
  obtain ⟨q, q', hq⟩ := t.loop_eq
  rw [convergeYAxes_run] at hq
  exact convergeYAxesRun_valid hq

/-- 描けた結果に至る途中の領域は、手順ごとに幅と高さが正で、一つ前の領域の内側。 -/
theorem PlotTrace.nested {c : ChartConfig} {input : List Series} {p : PlotLayout}
    (hh : tk.measurer.HeightsNonneg) (hm : 0.0 ≤ c.margin) (hf : 1.0 ≤ c.font.size)
    (t : PlotTrace tk c input p) :
    t.canvas = Area.insetCanvas c.width c.height c.margin ∧
      t.canvas.valid = true ∧ t.titled.valid = true ∧ t.vtitled.valid = true ∧
      t.legended.valid = true ∧ t.banded.valid = true ∧ p.area.valid = true ∧
      t.titled.Within t.canvas ∧ t.vtitled.Within t.titled ∧ t.legended.Within t.vtitled ∧
      t.banded.Within t.legended ∧ p.area.Within t.banded := by
  obtain ⟨hcanvas, hcv⟩ := Area.ensureValid_ok t.canvas_eq
  rw [← hcanvas] at hcv
  obtain ⟨htv, htw⟩ := (reserveTitle_shrinks hh hm hf hcv).ok t.title_eq
  obtain ⟨hvv, hvw⟩ := reserveVerticalTitles_within hh hm hf htv t.vtitle_eq
  obtain ⟨hlv, hlw⟩ := (reserveLegend_shrinks hh hf hvv _ _ _).ok t.legend_eq
  have hband := reserveXLabelBand_shrinks hh hf hlv (c.displayFlags input.length)
  rw [t.band_eq] at hband
  obtain ⟨hbv, hbw⟩ := hband
  obtain ⟨q, q', hq⟩ := t.loop_eq
  rw [convergeYAxes_run] at hq
  obtain ⟨hpv, hpw⟩ := convergeYAxesRun_within _ _ _ _ hbv hq
  exact ⟨hcanvas, hcv, htv, hvv, hlv, hbv, hpv, htw, hvw, hlw, hbw, hpw⟩


/-- 余白が 0 以上で文字の大きさが 1 以上、見積もりの行の高さと上の高さが負でないなら、帯を
取るどの手順も、受け取った（幅と高さが正の）領域の内側の、幅と高さが正の領域を返すか、その手順の名前と空になった候補を持つ
`areaCollapsed` で止まる。描けた結果の領域は、手順ごとに狭まった領域の列の最後で、
キャンバスから余白を除いた矩形の内側にある。 -/
theorem reservation_stages_nested :
    (∀ c : ChartConfig, 0.0 ≤ c.margin →
      Shrinks "canvas margins" ⟨0.0, c.width, 0.0, c.height⟩
        ((Area.insetCanvas c.width c.height c.margin).ensureValid "canvas margins")) ∧
    (∀ (tk : Toolkit) (c : ChartConfig) (area : Area), tk.measurer.HeightsNonneg →
      0.0 ≤ c.margin → 1.0 ≤ c.font.size → area.valid = true →
        Shrinks "title" area ((reserveTitle tk c area).map Prod.fst) ∧
        Shrinks "vertical title" area ((reserveLeftTitle tk c area).map Prod.fst) ∧
        (∀ dualAxis, Shrinks "right vertical title" area
          ((reserveRightTitle tk c area dualAxis).map Prod.fst)) ∧
        (∀ series dualAxis flags, Shrinks "legend" area
          ((reserveLegend tk c series area dualAxis flags).map Prod.fst)) ∧
        (∀ flags, Shrinks "x axis labels" area (reserveXLabelBand tk c area flags)) ∧
        (∀ axes, Shrinks "y axis labels" area
          ((applyLabelInsets c area axes).ensureValid "y axis labels"))) ∧
    (∀ (cv : Converger) (series : List Series) (p : PlotLayout),
      cv.toolkit.measurer.HeightsNonneg → 0.0 ≤ cv.config.margin → 1.0 ≤ cv.config.font.size →
      (cv.converge series).outcome = .ok (.plotted p) →
        p.area.valid = true ∧
        p.area.Within (Area.insetCanvas cv.config.width cv.config.height cv.config.margin) ∧
        ∀ t : PlotTrace cv.toolkit cv.config series p,
          t.canvas.valid = true ∧ t.titled.valid = true ∧ t.vtitled.valid = true ∧
          t.legended.valid = true ∧ t.banded.valid = true ∧
          t.titled.Within t.canvas ∧ t.vtitled.Within t.titled ∧ t.legended.Within t.vtitled ∧
          t.banded.Within t.legended ∧ p.area.Within t.banded) := by
  refine ⟨fun c hm => insetCanvas_shrinks hm, ?_, ?_⟩
  · intro tk c area hh hm hf harea
    exact ⟨reserveTitle_shrinks hh hm hf harea, reserveLeftTitle_shrinks hh hm hf harea,
      reserveRightTitle_shrinks hh hm hf harea, reserveLegend_shrinks hh hf harea,
      reserveXLabelBand_shrinks hh hf harea, fun axes => applyLabelInsets_shrinks c axes harea⟩
  · intro cv series p hh hm hf h
    obtain ⟨s', hrun⟩ := Converger.converge_run h
    obtain ⟨t⟩ := layoutPass_plotted hrun
    obtain ⟨hcanvas, -, -, -, -, -, hpv, htw, hvw, hlw, hbw, hpw⟩ := PlotTrace.nested hh hm hf t
    have hinset : p.area.Within t.canvas := (((hpw.trans hbw).trans hlw).trans hvw).trans htw
    refine ⟨hpv, hcanvas ▸ hinset, fun t' => ?_⟩
    obtain ⟨-, hcv, htv, hvv, hlv, hbv, -, htw', hvw', hlw', hbw', hpw'⟩ := PlotTrace.nested hh hm hf t'
    exact ⟨hcv, htv, hvv, hlv, hbv, htw', hvw', hlw', hbw', hpw'⟩

-- 二行の題を置いた結果の型を照合するときに題の配置が評価され、再帰が深くなる
set_option maxRecDepth 20000 in
/-- 既定の設定（余白 10、文字の大きさ 10）での例：キャンバスの余白と二行の題の手順の約束、
二点の系列の描けた結果の領域。 -/
theorem reservation_stages_nested_default :
    Shrinks "canvas margins" ⟨0.0, 600.0, 0.0, 300.0⟩
        ((Area.insetCanvas 600.0 300.0 10.0).ensureValid "canvas margins") ∧
      Shrinks "title" ⟨10.0, 590.0, 10.0, 290.0⟩
        ((reserveTitle .standard { title := "Load\nper host" } ⟨10.0, 590.0, 10.0, 290.0⟩).map Prod.fst) ∧
      ∃ p, (Converger.converge ⟨{ y := { step := some 1.0 } }, .standard, {}, .init⟩ twoSampleSeries).outcome =
          .ok (.plotted p) ∧ p.area.valid = true ∧ p.area.Within (Area.insetCanvas 600.0 300.0 10.0) := by
  have hcanvas := reservation_stages_nested.1 {} (by decide)
  have htitle := (reservation_stages_nested.2.1 .standard { title := "Load\nper host" }
    ⟨10.0, 590.0, 10.0, 290.0⟩ TextMeasurer.heuristic_heightsNonneg (by decide) (by decide)
    (by decide)).1
  obtain ⟨p, hp⟩ : ∃ p, (Converger.converge ⟨{ y := { step := some 1.0 } }, .standard, {}, .init⟩
      twoSampleSeries).outcome = .ok (.plotted p) := by
    set_option maxRecDepth 100000 in
    exact ⟨_, rfl⟩
  have hplot := reservation_stages_nested.2.2 ⟨{ y := { step := some 1.0 } }, .standard, {}, .init⟩
    twoSampleSeries p TextMeasurer.heuristic_heightsNonneg (by decide) (by decide) hp
  exact ⟨hcanvas, htitle, p, hp, hplot.1, hplot.2.1⟩

end PlotGeometry
