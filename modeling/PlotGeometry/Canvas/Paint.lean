import PlotGeometry.Canvas.Recording
import PlotGeometry.Layout.Outcome
import PlotGeometry.Text.Placement
/-!
# 配置の結果を描く

配置の結果のうち、背景、文字、凡例の見本だけを描く（系列の線は描く側の仕事）。

* 文字 — 描く面の見積もり（`TextMeasurer`）で寸法を測って揃え方を決め、筆の位置へ移して
  回し、揃えの分だけ戻した所に描き、変換を下ろす。
* グラフ — 背景、前景色で題、凡例の項目ごとに見本の塗り（系列の色）と灰色の枠
  （太さ 1）と名前（前景色）、Y のラベル（左の軸は領域の左端から幅の 2% 左に右揃え、
  右の軸は右端から右に左揃え、縦は中央）、X のラベル（領域の下端に中央揃え）。
* データなし — 背景と、置き換えの色の文字。

## 停止性

再帰はない（並びの畳み込みだけ）。
-/

namespace PlotGeometry

/-- 凡例の見本の枠の太さ。 -/
def swatchOutlineWidth : Float := 1.0

/-- Y のラベルと描画領域のあいだ（ラベルの幅に対する割合）。 -/
def yLabelGap : Float := 0.02

/-- 配置の決まった 1 行の文字を、`tm` で測って描く。回転は描いた後に戻す。 -/
def drawPlacedText (tm : TextMeasurer) (r : Recording) (p : PlacedText) : Recording :=
  let placement := placeText p.x p.y (tm.measure p.text p.font) (tm.metrics p.font)
    p.align p.valign p.rotationDegrees
  let r := r.pushTransform ⟨placement.penX, placement.penY, placement.rotation⟩
  let r := r.drawTextAtAnchor p.text p.font (-placement.hOffset) 0.0
  r.popTransform

/-- 背景を塗る。 -/
def paintBackground (r : Recording) (width height : Float) (color : Color) : Recording :=
  (r.setColor color).fillRect ⟨0.0, 0.0, width, height⟩

/-- 凡例の一項目：見本の塗り、枠、名前。 -/
def paintLegendItem (tm : TextMeasurer) (foreground : Color) (legend : LegendLayout) (r : Recording)
    (item : LegendItem) : Recording :=
  match legend.entries[item.entry]? with
  | none => r
  | some entry =>
    let r := (r.setColor entry.color).fillRect item.swatch
    let r := (r.setColor Color.darkGray).strokeRect item.swatch swatchOutlineWidth
    drawPlacedText tm (r.setColor foreground) item.label

/-- Y のラベルを揃える点の横の位置と揃え方。左の軸は領域の左端からラベルの幅の 2% 左に
右揃え、右の軸は右端から右に左揃え。 -/
def yLabelAnchor (p : PlotLayout) (axis : YAxisLayout) : Float × HAlign :=
  match axis.side with
  | .left => (p.area.xmin - axis.labelWidth * yLabelGap, .right)
  | .right => (p.area.xmax + axis.labelWidth * yLabelGap, .left)

/-- 描く Y のラベル一つ。縦はラベルの位置に中央揃え。 -/
def yLabelText (p : PlotLayout) (axis : YAxisLayout) (label : YAxisLabel) : PlacedText :=
  let (x, align) := yLabelAnchor p axis
  { text := label.text, font := p.labelFont, x, y := label.y, align, valign := .center,
    rotationDegrees := 0.0 }

/-- 一つの Y 軸のラベル。 -/
def paintYLabels (tm : TextMeasurer) (p : PlotLayout) (r : Recording) (axis : YAxisLayout) :
    Recording :=
  axis.labels.foldl (fun r label => drawPlacedText tm r (yLabelText p axis label)) r

/-- 描く X のラベル一つ。領域の下端に中央揃え。 -/
def xLabelText (p : PlotLayout) (label : XAxisLabel) : PlacedText :=
  { text := label.text, font := p.labelFont, x := label.x, y := p.area.ymax, align := .center,
    valign := .top, rotationDegrees := 0.0 }

/-- 描くグラフ。 -/
def paintPlot (tm : TextMeasurer) (r : Recording) (p : PlotLayout) : Recording :=
  let r := paintBackground r p.width p.height p.background
  let r := p.titles.foldl (drawPlacedText tm) (r.setColor p.foreground)
  let r := match p.legend with
    | some legend => legend.items.foldl (paintLegendItem tm p.foreground legend) r
    | none => r
  let r := p.yAxes.foldl (paintYLabels tm p) (r.setColor p.foreground)
  p.xAxis.labels.foldl (fun r label => drawPlacedText tm r (xLabelText p label)) r

/-- データなしの置き換え。 -/
def paintNoData (tm : TextMeasurer) (r : Recording) (n : NoDataPlaceholder) : Recording :=
  drawPlacedText tm ((paintBackground r n.width n.height n.background).setColor n.color) n.text

/-- 配置の結果を描く。文字は `tm` で測る。 -/
def paintLayout (tm : TextMeasurer) (r : Recording) : LayoutOutcome → Recording
  | .plotted p => paintPlot tm r p
  | .noData n => paintNoData tm r n

end PlotGeometry
