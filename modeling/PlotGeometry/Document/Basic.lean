import PlotGeometry.Json.Value
import PlotGeometry.Config.Basic
import PlotGeometry.Legend.Layout
import PlotGeometry.Time.TickTable
/-!
# 値の JSON の形

設定と配置の結果を JSON の文書にするときの、部品ごとの形。構造体は欄の名前を
キーにしたオブジェクト、選択肢は名前の文字列（`"Primary"`、`"Slope"` など）、
省略された値は `null`、個数は整数。

倍精度数はそのまま `Value.float` に置く。非有限の数を `null` にする文書では、
出来上がった木に `Value.finiteOnly` を当てる。

## 停止性

`Value.finiteOnly` は木の構造に沿った再帰。ほかに再帰はない。
-/

namespace PlotGeometry

open Json

/-- 選択肢の一覧を、名前と値の組に。 -/
def namedChoices (choices : List α) (name : α → String) : List (String × α) :=
  choices.map fun a => (name a, a)

/-! ## 選択肢の名前 -/

/-- 文書での名前。 -/
def AxisSide.name : AxisSide → String
  | .primary => "Primary"
  | .secondary => "Secondary"

/-- すべての選択肢。 -/
def AxisSide.choices : List AxisSide := [.primary, .secondary]

/-- 文書での名前。 -/
def YAxisSide.name : YAxisSide → String
  | .left => "Left"
  | .right => "Right"

/-- すべての選択肢。 -/
def YAxisSide.choices : List YAxisSide := [.left, .right]

/-- 文書での名前。 -/
def LineMode.name : LineMode → String
  | .slope => "Slope"
  | .staircase => "Staircase"
  | .connected => "Connected"

/-- すべての選択肢。 -/
def LineMode.choices : List LineMode := [.slope, .staircase, .connected]

/-- 文書での名前。 -/
def AreaMode.name : AreaMode → String
  | .none => "None"
  | .first => "First"
  | .all => "All"
  | .stacked => "Stacked"

/-- すべての選択肢。 -/
def AreaMode.choices : List AreaMode := [.none, .first, .all, .stacked]

/-- 文書での名前。 -/
def PieMode.name : PieMode → String
  | .maximum => "Maximum"
  | .minimum => "Minimum"
  | .average => "Average"

/-- すべての選択肢。 -/
def PieMode.choices : List PieMode := [.maximum, .minimum, .average]

/-- 文書での名前。 -/
def GraphType.name : GraphType → String
  | .line => "Line"
  | .pie => "Pie"

/-- すべての選択肢。 -/
def GraphType.choices : List GraphType := [.line, .pie]

/-- 文書での名前。 -/
def UnitSystem.name : UnitSystem → String
  | .si => "Si"
  | .binary => "Binary"
  | .none => "None"

/-- すべての選択肢。 -/
def UnitSystem.choices : List UnitSystem := [.si, .binary, .none]

/-- 文書での名前。 -/
def HAlign.name : HAlign → String
  | .left => "Left"
  | .center => "Center"
  | .right => "Right"

/-- すべての選択肢。 -/
def HAlign.choices : List HAlign := [.left, .center, .right]

/-- 文書での名前。 -/
def VAlign.name : VAlign → String
  | .top => "Top"
  | .center => "Center"
  | .bottom => "Bottom"
  | .baseline => "Baseline"

/-- すべての選択肢。 -/
def VAlign.choices : List VAlign := [.top, .center, .bottom, .baseline]

/-- 文書での名前。 -/
def LegendMode.name : LegendMode → String
  | .singleFlow => "SingleFlow"
  | .dualColumn => "DualColumn"

/-- 文書での名前。 -/
def Time.TimeUnit.name : Time.TimeUnit → String
  | .second => "Second"
  | .minute => "Minute"
  | .hour => "Hour"
  | .day => "Day"

/-! ## 部品の形 -/

/-- 省略できる値。無ければ `null`。 -/
def Json.optional (f : α → Value) : Option α → Value
  | some a => f a
  | none => .null

/-- JSON の形。 -/
def Color.toJson (c : Color) : Value :=
  .obj [("red", .float c.red), ("green", .float c.green), ("blue", .float c.blue),
    ("alpha", .float c.alpha)]

/-- JSON の形。 -/
def FontSpec.toJson (f : FontSpec) : Value :=
  .obj [("family", .str f.family), ("size", .float f.size), ("bold", .bool f.bold),
    ("italic", .bool f.italic)]

/-- JSON の形。 -/
def Area.toJson (a : Area) : Value :=
  .obj [("xmin", .float a.xmin), ("xmax", .float a.xmax), ("ymin", .float a.ymin),
    ("ymax", .float a.ymax)]

/-- JSON の形。 -/
def Rect.toJson (r : Rect) : Value :=
  .obj [("x", .float r.x), ("y", .float r.y), ("width", .float r.width),
    ("height", .float r.height)]

/-- JSON の形。 -/
def PlacedText.toJson (t : PlacedText) : Value :=
  .obj [("text", .str t.text), ("font", t.font.toJson), ("x", .float t.x), ("y", .float t.y),
    ("align", .str t.align.name), ("valign", .str t.valign.name),
    ("rotation_degrees", .float t.rotationDegrees)]

/-- JSON の形。 -/
def SeriesStyle.toJson (s : SeriesStyle) : Value :=
  .obj [("color", s.color.toJson), ("line_width", .float s.lineWidth), ("dashed", .bool s.dashed)]

/-- JSON の形。 -/
def LegendEntry.toJson (e : LegendEntry) : Value :=
  .obj [("name", .str e.name), ("color", e.color.toJson), ("axis", .str e.axis.name)]

/-- JSON の形。 -/
def LegendItem.toJson (i : LegendItem) : Value :=
  .obj [("entry", .int i.entry), ("swatch", i.swatch.toJson), ("label", i.label.toJson)]

/-- JSON の形。 -/
def LegendLayout.toJson (l : LegendLayout) : Value :=
  .obj [("entries", .arr (l.entries.map LegendEntry.toJson)), ("mode", .str l.mode.name),
    ("columns", .int l.columns), ("rows", .int l.rows), ("label_width", .float l.labelWidth),
    ("reserved_height", .float l.reservedHeight),
    ("items", .arr (l.items.map LegendItem.toJson)), ("area", l.area.toJson)]

/-- JSON の形。 -/
def YAxisScale.toJson (s : YAxisScale) : Value :=
  .obj [("y_min", .float s.yMin), ("y_max", .float s.yMax), ("y_step", .float s.yStep),
    ("y_bottom", .float s.yBottom), ("y_top", .float s.yTop)]

/-- JSON の形。 -/
def Time.TickSpec.toJson (s : Time.TickSpec) : Value :=
  .obj [("seconds_per_pixel", .float s.secondsPerPixel),
    ("minor_grid_unit", .str s.minorUnit.name), ("minor_grid_step", .float s.minorStep),
    ("major_grid_unit", .str s.majorUnit.name), ("major_grid_step", .float s.majorStep),
    ("label_unit", .str s.labelUnit.name), ("label_step", .float s.labelStep),
    ("format", .str s.format), ("max_interval", .int s.maxInterval)]

/-- JSON の形。 -/
def AxisStyle.toJson (s : AxisStyle) : Value :=
  .obj [("color", Json.optional Color.toJson s.color), ("line_width", .float s.lineWidth),
    ("dashed", .bool s.dashed)]

/-- JSON の形。 -/
def AxisOverrides.toJson (o : AxisOverrides) : Value :=
  .obj [("min", Json.optional .float o.min), ("max", Json.optional .float o.max),
    ("step", Json.optional .float o.step)]

mutual
/-- 非有限の倍精度数を `null` に置き換える。数として書けない値の文書での形。 -/
def Json.Value.finiteOnly : Value → Value
  | .float x => if x.isFinite then .float x else .null
  | .arr items => .arr (finiteItems items)
  | .obj fields => .obj (finiteFields fields)
  | v => v

/-- 配列の要素ごとに `finiteOnly`。 -/
def finiteItems : List Value → List Value
  | [] => []
  | v :: rest => v.finiteOnly :: finiteItems rest

/-- オブジェクトの値ごとに `finiteOnly`。 -/
def finiteFields : List (String × Value) → List (String × Value)
  | [] => []
  | (k, v) :: rest => (k, v.finiteOnly) :: finiteFields rest
end

end PlotGeometry
