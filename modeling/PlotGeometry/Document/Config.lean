import PlotGeometry.Document.Basic
import PlotGeometry.Json.Decode
import PlotGeometry.Error
/-!
# 設定の文書

グラフの設定を JSON の文書として読み書きする。

* 書く（`ChartConfig.document`）— すべての欄を宣言の順に。非有限の数は `null`。
* 読む（`ChartConfig.parse`）— 欄は省略でき、省略した欄は既定値。知らない欄は読み飛ばす。
  オブジェクトの代わりに、欄を宣言の順に並べた配列でもよい。色は 4 つの成分が、書体は
  名前と大きさが、軸の見た目は線の太さが必須。読めなければ `invalidData` の誤りで、
  文言は読み取りの誤りの文言に `failed to parse config: ` を前置きしたもの。

## 停止性

再帰はない（繰り返しは `Json.Decode` の読み手の中）。
-/

namespace PlotGeometry

open Json

/-- 設定の JSON の形。 -/
def ChartConfig.toJson (c : ChartConfig) : Value :=
  .obj [
    ("width", .float c.width), ("height", .float c.height), ("margin", .float c.margin),
    ("font", c.font.toJson), ("foreground", c.foreground.toJson),
    ("background", c.background.toJson), ("graph_type", .str c.graphType.name),
    ("graph_only", .bool c.graphOnly), ("hide_legend", Json.optional .bool c.hideLegend),
    ("hide_grid", .bool c.hideGrid), ("hide_axes", .bool c.hideAxes),
    ("hide_y_axis", .bool c.hideYAxis), ("y_axis_side", .str c.yAxisSide.name),
    ("title", .str c.title), ("vtitle", .str c.vtitle), ("vtitle_right", .str c.vtitleRight),
    ("line_mode", .str c.lineMode.name), ("area_mode", .str c.areaMode.name),
    ("pie_mode", .str c.pieMode.name), ("palette", .arr (c.palette.map Color.toJson)),
    ("line_width", .float c.lineWidth), ("dashed", .bool c.dashed),
    ("left_style", c.leftStyle.toJson), ("right_style", c.rightStyle.toJson),
    ("unique_legend", .bool c.uniqueLegend), ("draw_null_as_zero", .bool c.drawNullAsZero),
    ("y", c.y.toJson), ("y_right", c.yRight.toJson), ("x", c.x.toJson),
    ("log_base", Json.optional .float c.logBase), ("unit_system", .str c.unitSystem.name),
    ("utc_offset_seconds", .int c.utcOffsetSeconds),
    ("max_layout_iterations", .int c.maxLayoutIterations)]

/-- 保存用の文書。非有限の数は `null`。 -/
def ChartConfig.document (c : ChartConfig) : Value := c.toJson.finiteOnly

namespace Document

/-- 色。4 つの成分はすべて必須。 -/
def readColor : Reader Color :=
  readRecord "Color" [
    { name := "red", required := true, read := fun c => do return { c with red := ← readFloat } },
    { name := "green", required := true, read := fun c => do return { c with green := ← readFloat } },
    { name := "blue", required := true, read := fun c => do return { c with blue := ← readFloat } },
    { name := "alpha", required := true, read := fun c => do return { c with alpha := ← readFloat } }]
    Color.black

/-- 書体。名前と大きさは必須。 -/
def readFont : Reader FontSpec :=
  readRecord "FontSpec" [
    { name := "family", required := true, read := fun f => do return { f with family := ← readText } },
    { name := "size", required := true, read := fun f => do return { f with size := ← readFloat } },
    { name := "bold", read := fun f => do return { f with bold := ← readBool } },
    { name := "italic", read := fun f => do return { f with italic := ← readBool } }]
    { family := "", size := 0.0 }

/-- 軸の見た目。線の太さは必須。 -/
def readAxisStyle : Reader AxisStyle :=
  readRecord "AxisStyle" [
    { name := "color", read := fun s => do return { s with color := ← readOption readColor } },
    { name := "line_width", required := true,
      read := fun s => do return { s with lineWidth := ← readFloat } },
    { name := "dashed", read := fun s => do return { s with dashed := ← readBool } }]
    {}

/-- 軸の上書き。どれも省略できる。 -/
def readOverrides : Reader AxisOverrides :=
  readRecord "AxisOverrides" [
    { name := "min", read := fun o => do return { o with min := ← readOption readFloat } },
    { name := "max", read := fun o => do return { o with max := ← readOption readFloat } },
    { name := "step", read := fun o => do return { o with step := ← readOption readFloat } }]
    {}

/-- 名前で選ぶ値。 -/
def readChoice (choices : List α) (name : α → String) : Reader α :=
  readVariant (namedChoices choices name)

/-- 設定の欄。宣言の順。 -/
def configFields : List (FieldReader ChartConfig) := [
  { name := "width", read := fun c => do return { c with width := ← readFloat } },
  { name := "height", read := fun c => do return { c with height := ← readFloat } },
  { name := "margin", read := fun c => do return { c with margin := ← readFloat } },
  { name := "font", read := fun c => do return { c with font := ← readFont } },
  { name := "foreground", read := fun c => do return { c with foreground := ← readColor } },
  { name := "background", read := fun c => do return { c with background := ← readColor } },
  { name := "graph_type",
    read := fun c => do return { c with graphType := ← readChoice GraphType.choices GraphType.name } },
  { name := "graph_only", read := fun c => do return { c with graphOnly := ← readBool } },
  { name := "hide_legend", read := fun c => do return { c with hideLegend := ← readOption readBool } },
  { name := "hide_grid", read := fun c => do return { c with hideGrid := ← readBool } },
  { name := "hide_axes", read := fun c => do return { c with hideAxes := ← readBool } },
  { name := "hide_y_axis", read := fun c => do return { c with hideYAxis := ← readBool } },
  { name := "y_axis_side",
    read := fun c => do return { c with yAxisSide := ← readChoice YAxisSide.choices YAxisSide.name } },
  { name := "title", read := fun c => do return { c with title := ← readText } },
  { name := "vtitle", read := fun c => do return { c with vtitle := ← readText } },
  { name := "vtitle_right", read := fun c => do return { c with vtitleRight := ← readText } },
  { name := "line_mode",
    read := fun c => do return { c with lineMode := ← readChoice LineMode.choices LineMode.name } },
  { name := "area_mode",
    read := fun c => do return { c with areaMode := ← readChoice AreaMode.choices AreaMode.name } },
  { name := "pie_mode",
    read := fun c => do return { c with pieMode := ← readChoice PieMode.choices PieMode.name } },
  { name := "palette", read := fun c => do return { c with palette := ← readList readColor } },
  { name := "line_width", read := fun c => do return { c with lineWidth := ← readFloat } },
  { name := "dashed", read := fun c => do return { c with dashed := ← readBool } },
  { name := "left_style", read := fun c => do return { c with leftStyle := ← readAxisStyle } },
  { name := "right_style", read := fun c => do return { c with rightStyle := ← readAxisStyle } },
  { name := "unique_legend", read := fun c => do return { c with uniqueLegend := ← readBool } },
  { name := "draw_null_as_zero", read := fun c => do return { c with drawNullAsZero := ← readBool } },
  { name := "y", read := fun c => do return { c with y := ← readOverrides } },
  { name := "y_right", read := fun c => do return { c with yRight := ← readOverrides } },
  { name := "x", read := fun c => do return { c with x := ← readOverrides } },
  { name := "log_base", read := fun c => do return { c with logBase := ← readOption readFloat } },
  { name := "unit_system",
    read := fun c => do return { c with unitSystem := ← readChoice UnitSystem.choices UnitSystem.name } },
  { name := "utc_offset_seconds", read := fun c => do return { c with utcOffsetSeconds := ← readInt32 } },
  { name := "max_layout_iterations",
    read := fun c => do return { c with maxLayoutIterations := ← readCount } }]

end Document

/-- 設定の文書を読む。省略した欄は既定値。 -/
def ChartConfig.parse (text : String) : Except ChartError ChartConfig :=
  match decodeWith (readRecord "RenderConfig" Document.configFields {}) text with
  | .ok c => .ok c
  | .error e => .error (.invalidData ("failed to parse config: " ++ e.message))

end PlotGeometry
