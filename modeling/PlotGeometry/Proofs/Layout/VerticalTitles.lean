import Mathlib
import PlotGeometry.Proofs.Layout.YLabels
/-!
# 縦の題は描画領域から離れ、Y のラベルとは重なりうる

縦の題の行は、左なら領域の左端から行の高さずつ右へ、右なら右端から左へ、270 度（右は 90 度）
回して高さの中ほどに置かれ、その外側に余白を取って領域の端が動く。だから

* 左の縦の題のどの行も、その基準線から `行の高さ + 余白` より内側に領域の左端はない
  （右の題はその鏡映し、`verticalTitles_clear_plot_area`）。

一方、Y のラベルのための狭めはキャンバスの端から測った `余白 + 1.02 w` との `maxNum` で、
題の取った列とは別に測る。題の列が領域の端を十分内へ寄せていればラベルの狭めは何もせず、
ラベルは題の列の上に描かれうる。`yLabel_overlaps_vertical_title` はその入力の一つで、
ラベル `100002` の文字の矩形が縦の題 `Load` の文字の矩形と重なる。

文字の矩形（`PlacedText.box`）は、`placeText` の揃えのずれとペンの位置に、回転が 0、90、
270 度のときの正弦と余弦（0 と ±1）を入れて、基準線に沿った幅と上下の ascent と descent の
覆う矩形を回したもの。
-/

namespace PlotGeometry

variable {tk : Toolkit}

/-! ## 文字の矩形 -/

/-- `tm` で測った、描いた文字の覆う矩形。回転が 0、90、270 度のときだけ。270 度では文字は
上へ進み、文字の上側が左に来る。90 度では下へ進み、上側が右に来る。 -/
def PlacedText.box (tm : TextMeasurer) (t : PlacedText) : Option Area :=
  let width := (tm.measure t.text t.font).width
  let fe := tm.metrics t.font
  let h := horizontalOffset (tm.measure t.text t.font) t.align
  let v := verticalOffset fe t.valign
  if t.rotationDegrees == 0.0 then
    some ⟨t.x - h, t.x - h + width, t.y + v - fe.ascent, t.y + v + fe.descent⟩
  else if t.rotationDegrees == 270.0 then
    some ⟨t.x + v - fe.ascent, t.x + v + fe.descent, t.y + h - width, t.y + h⟩
  else if t.rotationDegrees == 90.0 then
    some ⟨t.x - v - fe.descent, t.x - v + fe.ascent, t.y - h, t.y - h + width⟩
  else none

/-- 二つの矩形が正の面積で重なる。 -/
def Area.Overlaps (a b : Area) : Prop :=
  a.xmin < b.xmax ∧ b.xmin < a.xmax ∧ a.ymin < b.ymax ∧ b.ymin < a.ymax

instance (a b : Area) : Decidable (a.Overlaps b) :=
  inferInstanceAs (Decidable (_ ∧ _ ∧ _ ∧ _))

/-! ## 積んだ行 -/

/-- 積んだ行はどれも、何行目かの位置に置いた一行。 -/
theorem mem_stackLines {lines : List String} {start : Float} {next : Float → Float}
    {place : String → Float → PlacedText} {t : PlacedText}
    (h : t ∈ (stackLines lines start next place).1) :
    ∃ line ∈ lines, ∃ k < lines.length, t = place line (next^[k] start) := by
  unfold stackLines at h
  -- 畳み込みの途中の並びと位置ごと一般化する：行は、前からあったものか、この先で置くもの
  suffices hgen : ∀ (acc : List PlacedText) (pos : Float),
      t ∈ (lines.foldl (fun x line => (x.1 ++ [place line x.2], next x.2)) (acc, pos)).1 →
        t ∈ acc ∨ ∃ line ∈ lines, ∃ k < lines.length, t = place line (next^[k] pos) by
    rcases hgen [] start h with hnil | hline
    · exact absurd hnil List.not_mem_nil
    · exact hline
  clear h
  induction lines with
  | nil => exact fun acc pos h => .inl h
  | cons l ls ih =>
    intro acc pos h
    rw [List.foldl_cons] at h
    rcases ih _ _ h with hacc | ⟨line, hline, k, hk, rfl⟩
    · rcases List.mem_append.mp hacc with hacc | hlast
      · exact .inl hacc
      · rw [List.mem_singleton.mp hlast]
        exact .inr ⟨l, List.mem_cons_self, 0, by simp, rfl⟩
    · refine .inr ⟨line, List.mem_cons_of_mem _ hline, k + 1, by simp [hk], ?_⟩
      rw [Function.iterate_succ_apply]

/-- `k` 行目を置いた後の位置から、残りの行の数だけ進めると、積み終えた位置。 -/
theorem stackLines_snd_of_lt (lines : List String) (start : Float) (next : Float → Float)
    (place : String → Float → PlacedText) {k : Nat} (hk : k < lines.length) :
    (stackLines lines start next place).2 = next^[lines.length - (k + 1)] (next (next^[k] start)) := by
  rw [stackLines_snd, ← Function.iterate_succ_apply' next k start, ← Function.iterate_add_apply]
  congr 1
  omega

/-- 確かめた候補に文字の並びを添えた結果が成功なら、領域は候補そのもので、幅と高さが正。 -/
theorem Area.ensureValid_map_pair {β : Type} {cand a : Area} {st : String} {b b' : β}
    (h : (cand.ensureValid st).map (·, b) = .ok (a, b')) : a = cand ∧ b' = b ∧ cand.valid = true := by
  unfold Area.ensureValid at h
  split at h
  · rename_i hv
    cases h
    exact ⟨rfl, rfl, hv⟩
  · cases h

/-! ## 題の行の置き場所 -/

section Titles

variable {c : ChartConfig} {area a : Area} {ts : List PlacedText}

/-- 上の題の行は回さない。 -/
theorem reserveTitle_rotation (h : reserveTitle tk c area = .ok (a, ts)) :
    ∀ t ∈ ts, t.rotationDegrees = 0.0 := by
  unfold reserveTitle at h
  split at h
  · cases h
    exact fun t ht => absurd ht List.not_mem_nil
  · dsimp only at h
    obtain ⟨-, rfl, -⟩ := Area.ensureValid_map_pair h
    intro t ht
    obtain ⟨line, -, k, -, rfl⟩ := mem_stackLines ht
    rfl

/-- 左の縦の題の行は 270 度回し、その基準線から `行の高さ + 余白` より内側に新しい左端はない。 -/
theorem reserveLeftTitle_lines (hh : tk.measurer.HeightsNonneg) (hf : 1.0 ≤ c.font.size)
    (h : reserveLeftTitle tk c area = .ok (a, ts)) :
    ∀ t ∈ ts, t.rotationDegrees = 270.0 ∧
      ¬a.xmin < t.x + (tk.measurer.metrics c.titleFont).height + c.margin := by
  have hlh := hh.height _ (titleFont_size_nonneg hf)
  unfold reserveLeftTitle at h
  split at h
  · cases h
    exact fun t ht => absurd ht List.not_mem_nil
  · dsimp only at h
    obtain ⟨rfl, rfl, hv⟩ := Area.ensureValid_map_pair h
    intro t ht
    obtain ⟨line, -, k, hk, rfl⟩ := mem_stackLines ht
    refine ⟨rfl, fun hlt => ?_⟩
    have hsum := (Area.Defined.of_valid hv).xmin
    dsimp only at hsum hlt
    rw [stackLines_snd_of_lt _ _ _ _ hk] at hsum hlt
    have hnext := Float.le_iterate_add hlh _ (Float.isNaN_of_add hsum).1
    exact Float.not_lt_of_le
      (Float.add_le_add_right hnext c.margin (Float.isNaN_eq_false_of_lt hlt).2 hsum) hlt

/-- 右の縦の題の行は 90 度回し、その基準線から `行の高さ + 余白` より内側に新しい右端はない。 -/
theorem reserveRightTitle_lines (hh : tk.measurer.HeightsNonneg) (hf : 1.0 ≤ c.font.size)
    {dualAxis : Bool} (h : reserveRightTitle tk c area dualAxis = .ok (a, ts)) :
    ∀ t ∈ ts, t.rotationDegrees = 90.0 ∧
      ¬t.x - (tk.measurer.metrics c.titleFont).height - c.margin < a.xmax := by
  have hlh := hh.height _ (titleFont_size_nonneg hf)
  unfold reserveRightTitle at h
  split at h
  · dsimp only at h
    obtain ⟨rfl, rfl, hv⟩ := Area.ensureValid_map_pair h
    intro t ht
    obtain ⟨line, -, k, hk, rfl⟩ := mem_stackLines ht
    refine ⟨rfl, fun hlt => ?_⟩
    have hdiff := (Area.Defined.of_valid hv).xmax
    dsimp only at hdiff hlt
    rw [stackLines_snd_of_lt _ _ _ _ hk] at hdiff hlt
    have hnext := Float.iterate_sub_le hlh _ (Float.isNaN_of_sub hdiff).1
    exact Float.not_lt_of_le
      (Float.sub_le_sub_right hnext c.margin hdiff (Float.isNaN_eq_false_of_lt hlt).1) hlt
  · cases h
    exact fun t ht => absurd ht List.not_mem_nil

end Titles

/-! ## 描けた結果 -/

/-- 見積もりの行の高さと上の高さが負でなく、余白が 0 以上で文字の大きさが 1 以上なら、描けた
結果の題のうち 270 度回した行（左の縦の題）の基準線から `行の高さ + 余白` より内側に領域の左端は
なく、90 度回した行（右の縦の題）からその分より内側に右端はない。 -/
theorem verticalTitles_clear_plot_area (cv : Converger) (series : List Series) (p : PlotLayout)
    (hh : cv.toolkit.measurer.HeightsNonneg) (hm : 0.0 ≤ cv.config.margin)
    (hf : 1.0 ≤ cv.config.font.size) (h : (cv.converge series).outcome = .ok (.plotted p)) :
    ∀ t ∈ p.titles,
      ((t.rotationDegrees == 270.0) = true →
        ¬p.area.xmin < t.x + (cv.toolkit.measurer.metrics cv.config.titleFont).height +
          cv.config.margin) ∧
      ((t.rotationDegrees == 90.0) = true →
        ¬t.x - (cv.toolkit.measurer.metrics cv.config.titleFont).height - cv.config.margin <
          p.area.xmax) := by
  obtain ⟨s', hrun⟩ := Converger.converge_run h
  obtain ⟨t⟩ := layoutPass_plotted hrun
  obtain ⟨-, -, htv, -, -, -, -, -, hvw, hlw, hbw, hpw⟩ := t.nested hh hm hf
  obtain ⟨mid, left, right, hl, hr, hvt⟩ := reserveVerticalTitles_ok t.vtitle_eq
  obtain ⟨hmid, -⟩ := (reserveLeftTitle_shrinks hh hm hf htv).ok hl
  obtain ⟨-, hrw⟩ := (reserveRightTitle_shrinks hh hm hf hmid _).ok hr
  have hpv : p.area.Within t.vtitled := (hpw.trans hbw).trans hlw
  have hpm : p.area.Within mid := hpv.trans hrw
  rw [t.titles_eq, hvt]
  intro x hx
  rcases List.mem_append.mp hx with htop | hside
  · have hrot := reserveTitle_rotation t.title_eq x htop
    rw [hrot]
    exact ⟨fun h => absurd h (by decide), fun h => absurd h (by decide)⟩
  rcases List.mem_append.mp hside with hleft | hright
  · obtain ⟨hrot, hclear⟩ := reserveLeftTitle_lines hh hf hl x hleft
    rw [hrot]
    exact ⟨fun _ hlt => hclear (Float.lt_of_le_of_lt hpm.1 hlt), fun h => absurd h (by decide)⟩
  · obtain ⟨hrot, hclear⟩ := reserveRightTitle_lines hh hf hr x hright
    rw [hrot]
    exact ⟨fun h => absurd h (by decide), fun _ hlt => hclear (Float.lt_of_lt_of_le hlt hpv.2.2.1)⟩

/-- 縦の題 `Load`、刻み 1 の設定。 -/
def loadTitleConfig : ChartConfig := { vtitle := "Load", y := { step := some 1.0 } }

/-- 六桁の値の二点の系列。ラベルは `100000` から `100004` で、幅は 37.2。 -/
def sixDigitSeries : List Series :=
  [{ name := "a", startTime := 0, stopTime := 120, stepTime := 60, values := #[100000.0, 100004.0],
     absent := #[false, false] }]

/-- 縦の題 `Load` のある設定で六桁の系列を配置すると描けて、縦の題は描画領域から離れる。 -/
theorem verticalTitles_clear_plot_area_load :
    ∃ p, (Converger.converge ⟨loadTitleConfig, .standard, {}, .init⟩ sixDigitSeries).outcome =
        .ok (.plotted p) ∧ Toolkit.standard.measurer.HeightsNonneg ∧
      0.0 ≤ loadTitleConfig.margin ∧ 1.0 ≤ loadTitleConfig.font.size ∧
      ∀ t ∈ p.titles,
        ((t.rotationDegrees == 270.0) = true →
          ¬p.area.xmin < t.x + (Toolkit.standard.measurer.metrics loadTitleConfig.titleFont).height +
            loadTitleConfig.margin) ∧
        ((t.rotationDegrees == 90.0) = true →
          ¬t.x - (Toolkit.standard.measurer.metrics loadTitleConfig.titleFont).height -
            loadTitleConfig.margin < p.area.xmax) := by
  obtain ⟨p, hp, -⟩ := exists_plotted_of_any
    (Converger.converge ⟨loadTitleConfig, .standard, {}, .init⟩ sixDigitSeries).outcome
    (fun _ => true) (by decide +kernel)
  have hm : 0.0 ≤ loadTitleConfig.margin := by decide
  have hf : 1.0 ≤ loadTitleConfig.font.size := by decide
  exact ⟨p, hp, TextMeasurer.heuristic_heightsNonneg, hm, hf,
    verticalTitles_clear_plot_area ⟨loadTitleConfig, .standard, {}, .init⟩ sixDigitSeries p
      TextMeasurer.heuristic_heightsNonneg hm hf hp⟩

/-! ## Y のラベルは縦の題に重なりうる -/

/-- 縦の題 `Load` のある設定で六桁の系列を配置すると描けるが、左の縦の題の行の矩形と、
あるラベルの矩形が重なる。題の行は横に `[14.8, 26.8]`、縦に `[136.08, 163.92]` を覆い、
ラベル `100002` は横に `[10.856, 48.056]`、縦に `[130, 140]` を覆う。 -/
theorem yLabel_overlaps_vertical_title :
    ∃ p, (layoutGraph loadTitleConfig sixDigitSeries .standard).outcome = .ok (.plotted p) ∧
      ∃ t ∈ p.titles, (t.rotationDegrees == 270.0) = true ∧
        ∃ l ∈ p.yAxes, ∃ lab ∈ l.labels, ∃ bt bl,
          t.box .heuristic = some bt ∧ (yLabelText p l lab).box .heuristic = some bl ∧
            bt.Overlaps bl := by
  obtain ⟨p, hp, hover⟩ := exists_plotted_of_any
    (layoutGraph loadTitleConfig sixDigitSeries .standard).outcome
    (fun p => p.titles.any fun t => (t.rotationDegrees == 270.0) && p.yAxes.any fun l =>
      l.labels.any fun lab => (t.box .heuristic).any fun (bt : Area) =>
        ((yLabelText p l lab).box .heuristic).any
        fun (bl : Area) => decide (bt.Overlaps bl))
    (by decide +kernel)
  simp only [List.any_eq_true, Bool.and_eq_true, Option.any_eq_true, decide_eq_true_eq] at hover
  obtain ⟨t, ht, hrot, l, hl, lab, hlab, bt, hbt, bl, hbl, hov⟩ := hover
  exact ⟨p, hp, t, ht, hrot, l, hl, lab, hlab, bt, bl, hbt, hbl, hov⟩

end PlotGeometry
