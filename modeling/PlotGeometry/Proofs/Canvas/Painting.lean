import Mathlib
import PlotGeometry.Proofs.Float.SameValue
import PlotGeometry.Proofs.Layout.Styles
import PlotGeometry.Proofs.Layout.YLabels
/-!
# 描いた命令

配置の結果を記録するキャンバスに描くと、何が記録されるか。

`LayoutOutcome.commands` は、配置の結果から直接に書いた命令の並び：背景の塗り、データなしなら
置き換えの色の文字、描けたなら前景色の題、凡例の項目ごとに見本の塗り（項目の色）と灰色の
太さ 1 の枠と前景色の名前、軸の順に Y のラベル、X のラベル。文字の命令の位置と回転は、
`placeText` の塗り始めの点と回転そのもの。描く側は色を決めてから描き、文字は筆の位置へ
移して回した座標に置くので、この二つは計算の道筋が違う。

主な結果：

* `placeText_anchor_sameValue` — 筆の位置へ移して回した座標で `(-h_offset, 0)` に置いた点は、
  塗り始めの点と同じ値（ゼロの符号だけが変わりうる）
* `paintLayout_extends` — 変換の積み重ねが空の記録に描くと、`commands` と同じ絵を描く命令
  だけが描き足され、積み重ねは空に戻る
* `converge_paintable` — 配置器の結果では、凡例の項目はどれも凡例の項目の並びの中を指し、
  データなしの文字は `noDataText`
* `paintLayout_records_commands` — 配置器の結果を描いたときの、二つを合わせた記述
-/

namespace PlotGeometry

variable {tk : Toolkit}

open LayoutPass

/-! ## 同じ絵を描く命令 -/

/-- 二つの命令が同じ絵を描く：矩形の命令は等しく、文字の命令は文字列、大きさ、色が等しく、
位置と回転が同じ値。 -/
inductive DrawCommand.Agrees : DrawCommand → DrawCommand → Prop
  | fillRect (rect : Rect) (color : Color) :
      DrawCommand.Agrees (.fillRect rect color) (.fillRect rect color)
  | strokeRect (rect : Rect) (lineWidth : Float) (color : Color) :
      DrawCommand.Agrees (.strokeRect rect lineWidth color) (.strokeRect rect lineWidth color)
  | text (s : String) (fontSize : Float) (color : Color) {x x' y y' r r' : Float}
      (hx : Float.SameValue x x') (hy : Float.SameValue y y') (hr : Float.SameValue r r') :
      DrawCommand.Agrees (.text s fontSize x y r color) (.text s fontSize x' y' r' color)

/-- 一行の文字を描く命令：`placeText` の塗り始めの点に、その回転で。 -/
def PlacedText.command (tm : TextMeasurer) (p : PlacedText) (color : Color) : DrawCommand :=
  let placement := placeText p.x p.y (tm.measure p.text p.font) (tm.metrics p.font) p.align
    p.valign p.rotationDegrees
  .text p.text p.font.size placement.fillX placement.fillY placement.rotation color

/-- 背景の塗り。 -/
def backgroundCommand (width height : Float) (color : Color) : DrawCommand :=
  .fillRect ⟨0.0, 0.0, width, height⟩ color

/-- 凡例の一項目の命令：見本の塗り（項目の色）、灰色の太さ 1 の枠、前景色の名前。指す項目が
なければ何も描かない。 -/
def LegendItem.commands (tm : TextMeasurer) (legend : LegendLayout) (foreground : Color)
    (item : LegendItem) : List DrawCommand :=
  match legend.entries[item.entry]? with
  | none => []
  | some entry =>
    [.fillRect item.swatch entry.color, .strokeRect item.swatch 1.0 Color.darkGray,
      item.label.command tm foreground]

/-- 描くグラフの命令：背景、題、凡例の項目、軸の順に Y のラベル、X のラベル。 -/
def PlotLayout.commands (tm : TextMeasurer) (p : PlotLayout) : List DrawCommand :=
  backgroundCommand p.width p.height p.background ::
    (p.titles.map (·.command tm p.foreground) ++
      (match p.legend with
        | some legend => legend.items.flatMap (·.commands tm legend p.foreground)
        | none => []) ++
      p.yAxes.flatMap (fun axis => axis.labels.map fun label =>
        (yLabelText p axis label).command tm p.foreground) ++
      p.xAxis.labels.map fun label => (xLabelText p label).command tm p.foreground)

/-- 配置の結果を描く命令。データなしなら背景と置き換えの色の文字。 -/
def LayoutOutcome.commands (tm : TextMeasurer) : LayoutOutcome → List DrawCommand
  | .plotted p => p.commands tm
  | .noData n => [backgroundCommand n.width n.height n.background, n.text.command tm n.color]

/-! ## 筆の位置から置いた文字 -/

/-- 筆の位置へ移して回した座標で `(-h_offset, 0)` に置いた点は、塗り始めの点と同じ値。
正弦や余弦が NaN なら、それは筆の位置にも入っているので、両方とも NaN。 -/
theorem placeText_anchor_sameValue (x y : Float) (extents : TextExtents) (font : FontExtents)
    (align : HAlign) (valign : VAlign) (rotationDegrees : Float) :
    let pl := placeText x y extents font align valign rotationDegrees
    Float.SameValue (pl.penX + -pl.hOffset * cosNum pl.rotation - 0.0 * sinNum pl.rotation)
        pl.fillX ∧
      Float.SameValue (pl.penY + -pl.hOffset * sinNum pl.rotation + 0.0 * cosNum pl.rotation)
        pl.fillY := by
  intro pl
  have hpx : pl.penX = x + sinNum pl.rotation * -pl.vOffset := rfl
  have hpy : pl.penY = y + cosNum pl.rotation * pl.vOffset := rfl
  have hfx : pl.fillX = pl.penX - pl.hOffset * cosNum pl.rotation := rfl
  have hfy : pl.fillY = pl.penY - pl.hOffset * sinNum pl.rotation := rfl
  constructor
  · rw [hfx]
    cases hs : (sinNum pl.rotation).isNaN
    · obtain ⟨hz, hz0⟩ := Float.zero_mul_of_isFinite (sinNum_isFinite hs)
      exact (Float.sameValue_sub_of_rankOf_eq_zero _ hz hz0).trans
        (Float.sameValue_add_neg_mul _ _ _)
    · have hp : pl.penX.isNaN = true := by
        rw [hpx]
        exact Float.add_isNaN_of_right x (Float.mul_isNaN_of_left _ hs)
      exact .of_isNaN (Float.sub_isNaN_of_left _ (Float.add_isNaN_of_left _ hp))
        (Float.sub_isNaN_of_left _ hp)
  · rw [hfy]
    cases hc : (cosNum pl.rotation).isNaN
    · obtain ⟨hz, hz0⟩ := Float.zero_mul_of_isFinite (cosNum_isFinite hc)
      exact (Float.sameValue_add_of_rankOf_eq_zero _ hz hz0).trans
        (Float.sameValue_add_neg_mul _ _ _)
    · have hp : pl.penY.isNaN = true := by
        rw [hpy]
        exact Float.add_isNaN_of_right y (Float.mul_isNaN_of_left _ hc)
      exact .of_isNaN (Float.add_isNaN_of_left _ (Float.add_isNaN_of_left _ hp))
        (Float.sub_isNaN_of_left _ hp)

/-! ## 描き足した記録 -/

/-- `r'` は `r` に `cmds` と同じ絵を描く命令を描き足したもので、変換の積み重ねは空。 -/
def Recording.Extends (r r' : Recording) (cmds : List DrawCommand) : Prop :=
  r'.transforms = [] ∧ ∃ drawn, r'.commands.toList = r.commands.toList ++ drawn ∧
    List.Forall₂ DrawCommand.Agrees drawn cmds

namespace Recording.Extends

theorem refl {r : Recording} (hr : r.transforms = []) : Recording.Extends r r [] :=
  ⟨hr, [], by simp, .nil⟩

theorem trans {r₁ r₂ r₃ : Recording} {a b : List DrawCommand} (h₁ : Recording.Extends r₁ r₂ a)
    (h₂ : Recording.Extends r₂ r₃ b) : Recording.Extends r₁ r₃ (a ++ b) := by
  obtain ⟨-, d₁, hd₁, hf₁⟩ := h₁
  obtain ⟨ht, d₂, hd₂, hf₂⟩ := h₂
  exact ⟨ht, d₁ ++ d₂, by rw [hd₂, hd₁, List.append_assoc], List.rel_append hf₁ hf₂⟩

/-- 命令を一つ加えた記録。 -/
theorem of_push {r r' : Recording} {c c' : DrawCommand} (ht : r'.transforms = [])
    (hc : r'.commands = r.commands.push c) (h : DrawCommand.Agrees c c') :
    Recording.Extends r r' [c'] :=
  ⟨ht, [c], by rw [hc, Array.toList_push], .cons h .nil⟩

/-- 色を決めても描いたものは変わらない。 -/
theorem setColor {r r' : Recording} {cmds : List DrawCommand} (h : Recording.Extends r r' cmds)
    (c : Color) : Recording.Extends r (r'.setColor c) cmds :=
  h

end Recording.Extends

/-- 一歩 `step` は色 `c` で `cmds` を描く：変換の積み重ねが空で色が `c` の記録に、`cmds` と
同じ絵を描く命令を描き足し、色は `c` のまま。 -/
def Recording.Draws (c : Color) (step : Recording → Recording) (cmds : List DrawCommand) : Prop :=
  ∀ r, r.transforms = [] → r.color = c →
    Recording.Extends r (step r) cmds ∧ (step r).color = c

namespace Recording.Draws

theorem comp {c : Color} {f g : Recording → Recording} {a b : List DrawCommand}
    (hf : Recording.Draws c f a) (hg : Recording.Draws c g b) :
    Recording.Draws c (fun r => g (f r)) (a ++ b) := by
  intro r hr hc
  obtain ⟨h₁, hc₁⟩ := hf r hr hc
  obtain ⟨h₂, hc₂⟩ := hg (f r) h₁.1 hc₁
  exact ⟨h₁.trans h₂, hc₂⟩

/-- 何もしない一歩は何も描かない。 -/
theorem idle (c : Color) : Recording.Draws c (fun r => r) [] :=
  fun _ hr hc => ⟨Recording.Extends.refl hr, hc⟩

/-- 今の色に決め直しても何も描かない。 -/
theorem setColor (c : Color) : Recording.Draws c (·.setColor c) [] :=
  fun _ hr _ => ⟨Recording.Extends.refl hr, rfl⟩

/-- 並びを畳み込んで描くと、要素ごとの命令を順に描き足す。 -/
theorem foldl {α : Type} {c : Color} {f : Recording → α → Recording} {g : α → List DrawCommand}
    (l : List α) (h : ∀ a ∈ l, Recording.Draws c (f · a) (g a)) :
    Recording.Draws c (l.foldl f ·) (l.flatMap g) := by
  induction l with
  | nil => exact idle c
  | cons a rest ih =>
    rw [List.flatMap_cons]
    exact (h a (List.mem_cons_self ..)).comp (ih fun b hb => h b (List.mem_cons_of_mem _ hb))

/-- 並びの要素ごとに命令を一つ描く。 -/
theorem foldl_map {α : Type} {c : Color} {f : Recording → α → Recording} {g : α → DrawCommand}
    (l : List α) (h : ∀ a ∈ l, Recording.Draws c (f · a) [g a]) :
    Recording.Draws c (l.foldl f ·) (l.map g) := by
  rw [List.map_eq_flatMap]
  exact foldl l h

end Recording.Draws

/-! ## 描く手順ごとの命令 -/

/-- 変換の積み重ねが空の記録に一行を描くと、文字の命令が一つ加わる。位置は、筆の位置へ移して
回した座標で `(-h_offset, 0)` に置いた点。 -/
theorem drawPlacedText_of_transforms_nil (tm : TextMeasurer) {r : Recording}
    (hr : r.transforms = []) (p : PlacedText) :
    let pl := placeText p.x p.y (tm.measure p.text p.font) (tm.metrics p.font) p.align p.valign
      p.rotationDegrees
    drawPlacedText tm r p = { r with commands := r.commands.push (.text p.text p.font.size
      (pl.penX + -pl.hOffset * cosNum pl.rotation - 0.0 * sinNum pl.rotation)
      (pl.penY + -pl.hOffset * sinNum pl.rotation + 0.0 * cosNum pl.rotation)
      (0.0 + pl.rotation) r.color) } := by
  obtain ⟨commands, color, transforms⟩ := r
  cases hr
  rfl

/-- 一行の文字は、今の色で `placeText` の塗り始めの点に描いた命令と同じ絵。 -/
theorem drawPlacedText_draws (tm : TextMeasurer) (c : Color) (p : PlacedText) :
    Recording.Draws c (drawPlacedText tm · p) [p.command tm c] := by
  intro r hr hc
  have hanchor := placeText_anchor_sameValue p.x p.y (tm.measure p.text p.font)
    (tm.metrics p.font) p.align p.valign p.rotationDegrees
  dsimp only
  rw [drawPlacedText_of_transforms_nil tm hr]
  refine ⟨Recording.Extends.of_push hr rfl ?_, hc⟩
  rw [hc]
  exact .text _ _ _ hanchor.1 hanchor.2 (Float.sameValue_zero_add _)

theorem paintBackground_extends {r : Recording} (hr : r.transforms = []) (width height : Float)
    (color : Color) :
    Recording.Extends r (paintBackground r width height color)
      [backgroundCommand width height color] ∧
      (paintBackground r width height color).color = color :=
  ⟨Recording.Extends.of_push hr rfl (.fillRect _ _), rfl⟩

/-- 凡例の一項目は、前景色の記録に項目の命令を描き、前景色に戻す。 -/
theorem paintLegendItem_draws (tm : TextMeasurer) (foreground : Color) (legend : LegendLayout)
    (item : LegendItem) :
    Recording.Draws foreground (paintLegendItem tm foreground legend · item)
      (item.commands tm legend foreground) := by
  intro r hr hc
  unfold paintLegendItem LegendItem.commands
  cases he : legend.entries[item.entry]? with
  | none => exact ⟨Recording.Extends.refl hr, hc⟩
  | some entry =>
    have hfill : Recording.Extends r ((r.setColor entry.color).fillRect item.swatch)
        [.fillRect item.swatch entry.color] :=
      Recording.Extends.of_push hr rfl (.fillRect _ _)
    have hstroke : Recording.Extends ((r.setColor entry.color).fillRect item.swatch)
        ((((r.setColor entry.color).fillRect item.swatch).setColor Color.darkGray).strokeRect
          item.swatch swatchOutlineWidth) [.strokeRect item.swatch 1.0 Color.darkGray] :=
      Recording.Extends.of_push hr rfl (.strokeRect _ _ _)
    obtain ⟨hlabel, hcl⟩ := drawPlacedText_draws tm foreground item.label
      ((((r.setColor entry.color).fillRect item.swatch).setColor Color.darkGray).strokeRect
        item.swatch swatchOutlineWidth |>.setColor foreground) hr rfl
    exact ⟨(hfill.trans hstroke).trans hlabel, hcl⟩

theorem paintYLabels_draws (tm : TextMeasurer) (p : PlotLayout) (axis : YAxisLayout) :
    Recording.Draws p.foreground (paintYLabels tm p · axis)
      (axis.labels.map fun label => (yLabelText p axis label).command tm p.foreground) :=
  Recording.Draws.foldl_map axis.labels fun label _ =>
    drawPlacedText_draws tm p.foreground (yLabelText p axis label)

/-- グラフを描くと、背景を塗り、前景色に決めてから題、凡例、Y のラベル、X のラベルを描き足す。 -/
theorem paintPlot_extends (tm : TextMeasurer) {r : Recording} (hr : r.transforms = [])
    (p : PlotLayout) : Recording.Extends r (paintPlot tm r p) (p.commands tm) := by
  obtain ⟨hbg, -⟩ := paintBackground_extends hr p.width p.height p.background
  have htitles := Recording.Draws.foldl_map p.titles fun t _ =>
    drawPlacedText_draws tm p.foreground t
  have haxes := Recording.Draws.foldl p.yAxes fun axis _ => paintYLabels_draws tm p axis
  have hx := Recording.Draws.foldl_map p.xAxis.labels fun label _ =>
    drawPlacedText_draws tm p.foreground (xLabelText p label)
  have hlegend : Recording.Draws p.foreground
      (fun r => match p.legend with
        | some legend => legend.items.foldl (paintLegendItem tm p.foreground legend) r
        | none => r)
      (match p.legend with
        | some legend => legend.items.flatMap (·.commands tm legend p.foreground)
        | none => []) := by
    cases p.legend with
    | none => exact Recording.Draws.idle p.foreground
    | some legend =>
      exact Recording.Draws.foldl legend.items fun item _ =>
        paintLegendItem_draws tm p.foreground legend item
  have hfg := hbg.setColor p.foreground
  have hrest :=
    (((htitles.comp hlegend).comp (Recording.Draws.setColor p.foreground)).comp haxes).comp hx
  obtain ⟨h, -⟩ := hrest _ hfg.1 rfl
  have hall := hfg.trans h
  unfold paintPlot PlotLayout.commands
  simp only [List.singleton_append, List.append_nil, List.append_assoc] at hall ⊢
  exact hall

/-- 変換の積み重ねが空の記録に配置の結果を描くと、`commands` と同じ絵を描く命令だけが描き足され、
積み重ねは空に戻る。 -/
theorem paintLayout_extends (tm : TextMeasurer) {r : Recording} (hr : r.transforms = [])
    (o : LayoutOutcome) : Recording.Extends r (paintLayout tm r o) (o.commands tm) := by
  cases o with
  | plotted p => exact paintPlot_extends tm hr p
  | noData n =>
    obtain ⟨hbg, -⟩ := paintBackground_extends hr n.width n.height n.background
    obtain ⟨htext, -⟩ := drawPlacedText_draws tm n.color n.text
      ((paintBackground r n.width n.height n.background).setColor n.color) hbg.1 rfl
    exact (hbg.setColor n.color).trans htext

/-! ## 配置器の結果は描ける -/

/-- 描ける配置の結果：凡例の項目はどれも凡例の項目の並びの中を指し、データなしの文字は
`noDataText`。 -/
def LayoutOutcome.Paintable : LayoutOutcome → Prop
  | .plotted p => ∀ legend ∈ p.legend, ∀ item ∈ legend.items, item.entry < legend.entries.length
  | .noData n => n.text.text = noDataText

theorem singleFlowItems_entry_lt {entries : List LegendEntry} {columns : Nat} {area : Area}
    {m : LegendMetrics} {font : FontSpec} {item : LegendItem}
    (h : item ∈ singleFlowItems entries columns area m font) : item.entry < entries.length := by
  unfold singleFlowItems at h
  obtain ⟨⟨e, i⟩, hmem, rfl⟩ := List.mem_map.mp h
  have hi : i < entries.length := by simpa using (List.mem_zipIdx hmem).2.1
  cases he : e.axis <;> simpa [he, leftItem, rightItem] using hi

theorem dualItems_entry_mem {columns : Nat} {area : Area} {m : LegendMetrics} {font : FontSpec}
    (pairs : List (LegendEntry × Nat)) (left right : Nat) {item : LegendItem}
    (h : item ∈ dualItems columns area m font pairs left right) : ∃ e, (e, item.entry) ∈ pairs := by
  induction pairs generalizing left right with
  | nil => simp [dualItems] at h
  | cons pair rest ih =>
    obtain ⟨e, i⟩ := pair
    unfold dualItems at h
    cases he : e.axis <;> simp only [he, List.mem_cons] at h <;> rcases h with rfl | h
    · exact ⟨e, List.mem_cons_self ..⟩
    · obtain ⟨e', h'⟩ := ih _ _ h
      exact ⟨e', List.mem_cons_of_mem _ h'⟩
    · exact ⟨e, List.mem_cons_self ..⟩
    · obtain ⟨e', h'⟩ := ih _ _ h
      exact ⟨e', List.mem_cons_of_mem _ h'⟩

/-- 並べた凡例の項目は、どれも凡例の項目の並びの中を指す。 -/
theorem layoutLegend_items_entry_lt {tm : TextMeasurer} {series : List Series}
    {opts : LegendOptions} {area : Area} {l : LegendLayout}
    (h : layoutLegend tm series opts area = .ok l) :
    ∀ item ∈ l.items, item.entry < l.entries.length := by
  have hentries := layoutLegend_entries h
  unfold layoutLegend at h
  dsimp only at h
  split at h
  · cases h
    simp
  · simp only [bind, Except.bind] at h
    split at h
    · cases h
    · cases h
      intro item hitem
      rw [hentries]
      split at hitem <;> dsimp only at hitem
      · obtain ⟨e, he⟩ := dualItems_entry_mem _ 0 0 hitem
        simpa using (List.mem_zipIdx he).2.1
      · exact singleFlowItems_entry_lt hitem

theorem reserveLegend_layoutLegend {c : ChartConfig} {series : List Series} {area a : Area}
    {dualAxis : Bool} {flags : DisplayFlags} {l : LegendLayout}
    (h : reserveLegend tk c series area dualAxis flags = .ok (a, some l)) :
    layoutLegend tk.measurer series ⟨c.width, c.font, c.uniqueLegend, dualAxis⟩ area = .ok l := by
  unfold reserveLegend at h
  split at h
  · cases hl : layoutLegend tk.measurer series ⟨c.width, c.font, c.uniqueLegend, dualAxis⟩ area with
    | ok l' =>
      rw [hl] at h
      cases h
      rfl
    | error e =>
      rw [hl] at h
      cases h
  · cases h

/-- データなしで終わる一度の配置の結果は、設定から決まる置き換え。 -/
theorem layoutPass_noData {c : ChartConfig} {xo : AxisOverrides} {input : List Series}
    {s s' : Progress} {n : NoDataPlaceholder}
    (h : (layoutPass tk c xo input).run.run s = (.ok (.noData n), s')) : n = noDataPlaceholder c := by
  have hpass {s₀ : Progress} (h : (noDataPass c).run.run s₀ = (.ok (.noData n), s')) :
      n = noDataPlaceholder c := by
    unfold noDataPass at h
    obtain ⟨_, _, -, h⟩ := bind_ok h
    rw [run_pure] at h
    exact (LayoutOutcome.noData.inj (Except.ok.inj (Prod.mk.inj h).1)).symm
  unfold layoutPass at h
  obtain ⟨_, _, -, h⟩ := bind_ok h
  obtain ⟨_, _, -, h⟩ := bind_ok h
  obtain ⟨_, _, -, h⟩ := bind_ok h
  cases hm : mergedTimeRange input with
  | none =>
    rw [hm] at h
    exact hpass h
  | some range =>
    obtain ⟨a, b⟩ := range
    rw [hm] at h
    dsimp only at h
    split at h
    · exact hpass h
    · obtain ⟨p, hp⟩ := plotPass_ok h
      cases hp

/-- 配置器の結果は描ける。 -/
theorem converge_paintable {cv : Converger} {input : List Series} {o : LayoutOutcome}
    (h : (cv.converge input).outcome = .ok o) : o.Paintable := by
  obtain ⟨s', hrun⟩ := Converger.converge_run h
  cases o with
  | plotted p =>
    obtain ⟨t⟩ := layoutPass_plotted hrun
    intro legend hlegend
    rw [Option.mem_def] at hlegend
    exact layoutLegend_items_entry_lt (reserveLegend_layoutLegend (hlegend ▸ t.legend_eq))
  | noData n =>
    show n.text.text = noDataText
    rw [layoutPass_noData hrun]
    rfl

/-! ## 配置器の結果を描く -/

/-- 配置器の結果を、変換の積み重ねが空の記録に描くと、凡例の項目はどれも項目を指し、データなし
の文字は `noDataText` で、描き足されるのは `commands` と同じ絵を描く命令だけ：背景、データなし
の文字か、題、凡例の項目ごとの塗りと枠と名前、Y のラベル、X のラベル。文字の位置と回転は
`placeText` の塗り始めの点と回転と同じ値。積み重ねは空に戻る。 -/
theorem paintLayout_records_commands {cv : Converger} {input : List Series} {o : LayoutOutcome}
    (h : (cv.converge input).outcome = .ok o) (tm : TextMeasurer) {r : Recording}
    (hr : r.transforms = []) :
    o.Paintable ∧ (paintLayout tm r o).transforms = [] ∧
      ∃ drawn, (paintLayout tm r o).commands.toList = r.commands.toList ++ drawn ∧
        List.Forall₂ DrawCommand.Agrees drawn (o.commands tm) :=
  ⟨converge_paintable h, paintLayout_extends tm hr o⟩

/-- 刻みを 1 に上書きした設定で二点の系列を配置すると描けて、空の記録に描いたものは
`commands` と同じ絵。 -/
theorem paintLayout_records_commands_twoSamples :
    ∃ o, (Converger.converge ⟨{ y := { step := some 1.0 } }, .standard, {}, .init⟩
        twoSampleSeries).outcome = .ok o ∧ ({} : Recording).transforms = [] ∧
      o.Paintable ∧ (paintLayout .heuristic {} o).transforms = [] ∧
        ∃ drawn, (paintLayout .heuristic {} o).commands.toList =
            ({} : Recording).commands.toList ++ drawn ∧
          List.Forall₂ DrawCommand.Agrees drawn (o.commands .heuristic) := by
  obtain ⟨p, hp, -⟩ := exists_plotted_of_any
    (Converger.converge ⟨{ y := { step := some 1.0 } }, .standard, {}, .init⟩
      twoSampleSeries).outcome
    (fun _ => true) (by decide +kernel)
  exact ⟨.plotted p, hp, rfl, paintLayout_records_commands hp .heuristic rfl⟩

end PlotGeometry
