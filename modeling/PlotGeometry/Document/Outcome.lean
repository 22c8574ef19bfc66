import PlotGeometry.Document.Basic
import PlotGeometry.Layout.Outcome
/-!
# 配置の結果の文書

配置の結果を JSON にする。結果は外側に種類の名前を付けた形（`{"Plotted": …}` か
`{"NoData": …}`）で、中身は欄の名前をキーにしたオブジェクト。

## 停止性

再帰はない。
-/

namespace PlotGeometry

open Json

/-- 文書での名前。 -/
def LayoutStage.name : LayoutStage → String
  | .init => "Init"
  | .titleReserved => "TitleReserved"
  | .vTitleReserved => "VTitleReserved"
  | .legendReserved => "LegendReserved"
  | .axisConverged => "AxisConverged"
  | .done => "Done"
  | .noData => "NoData"

/-- JSON の形。 -/
def YAxisLabel.toJson (l : YAxisLabel) : Value :=
  .obj [("value", .float l.value), ("text", .str l.text), ("y", .float l.y)]

/-- JSON の形。 -/
def YAxisLayout.toJson (l : YAxisLayout) : Value :=
  .obj [("axis", .str l.axis.name), ("side", .str l.side.name), ("scale", l.scale.toJson),
    ("labels", .arr (l.labels.map YAxisLabel.toJson)), ("label_width", .float l.labelWidth)]

/-- JSON の形。 -/
def XAxisLabel.toJson (l : XAxisLabel) : Value :=
  .obj [("timestamp", .int l.timestamp), ("text", .str l.text), ("x", .float l.x)]

/-- JSON の形。 -/
def XAxisLayout.toJson (l : XAxisLayout) : Value :=
  .obj [("start_time", .int l.startTime), ("end_time", .int l.endTime), ("spec", l.spec.toJson),
    ("label_interval", .float l.labelInterval), ("labels", .arr (l.labels.map XAxisLabel.toJson))]

/-- JSON の形。 -/
def SeriesVisual.toJson (v : SeriesVisual) : Value :=
  .obj [("name", .str v.name), ("axis", .str v.axis.name), ("style", v.style.toJson)]

/-- JSON の形。 -/
def PlotLayout.toJson (p : PlotLayout) : Value :=
  .obj [("width", .float p.width), ("height", .float p.height),
    ("background", p.background.toJson), ("foreground", p.foreground.toJson),
    ("label_font", p.labelFont.toJson), ("area", p.area.toJson),
    ("titles", .arr (p.titles.map PlacedText.toJson)),
    ("legend", Json.optional LegendLayout.toJson p.legend),
    ("y_axes", .arr (p.yAxes.map YAxisLayout.toJson)), ("x_axis", p.xAxis.toJson),
    ("series", .arr (p.series.map SeriesVisual.toJson)), ("line_mode", .str p.lineMode.name),
    ("show_grid", .bool p.showGrid), ("iterations", .int p.iterations)]

/-- JSON の形。 -/
def NoDataPlaceholder.toJson (n : NoDataPlaceholder) : Value :=
  .obj [("width", .float n.width), ("height", .float n.height),
    ("background", n.background.toJson), ("color", n.color.toJson), ("text", n.text.toJson)]

/-- JSON の形。種類の名前を外側のキーにする。 -/
def LayoutOutcome.toJson : LayoutOutcome → Value
  | .plotted p => .obj [("Plotted", p.toJson)]
  | .noData n => .obj [("NoData", n.toJson)]

/-- 保存用の文書。非有限の数は `null`。 -/
def LayoutOutcome.document (o : LayoutOutcome) : Value := o.toJson.finiteOnly

end PlotGeometry
