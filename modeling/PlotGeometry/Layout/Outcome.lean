import PlotGeometry.Config.Basic
import PlotGeometry.Legend.Layout
import PlotGeometry.Time.TickTable
import PlotGeometry.Numeric.Int64
/-!
# 配置の結果

配置を終えたグラフの幾何。描く側はこれだけを見て描く。

* Y 軸ごとに、縮尺、目盛りのラベル（値、文字、縦の位置）、ラベルの最大幅
* X 軸に、時刻の範囲、目盛りの表の行、ラベルの間隔、ラベル（時刻、文字、横の位置）
* 題、凡例、描画領域、系列ごとの見た目

値から画素への写し方：

* 縦 — 格子の高さが正でなければ描画領域の下端。そうでなければ下端から、格子の下端から
  の割合だけ上
* 横 — 時刻の幅（64 ビットで飽和する引き算）が正でなければ左端。そうでなければ左端から、
  始まりからの割合だけ右

## 停止性

再帰はない。
-/

namespace PlotGeometry

/-- 配置の手順のどこまで進んだか。 -/
inductive LayoutStage where
  | init
  | titleReserved
  | vTitleReserved
  | legendReserved
  | axisConverged
  | done
  | noData
  deriving DecidableEq, Inhabited

/-- Y 軸の目盛りのラベル。 -/
structure YAxisLabel where
  value : Float
  text : String
  /-- 縦の位置（画素）。 -/
  y : Float

/-- 一つの Y 軸の配置。 -/
structure YAxisLayout where
  axis : AxisSide
  /-- ラベルを置く辺。 -/
  side : YAxisSide
  scale : YAxisScale
  labels : List YAxisLabel
  /-- 最も広いラベルの幅。ラベルを出さなければ 0。 -/
  labelWidth : Float

/-- 値の縦の位置（画素）。格子の高さが正でなければ下端。 -/
def YAxisLayout.valueToPixel (l : YAxisLayout) (value : Float) (area : Area) : Float :=
  let span := l.scale.span
  if span ≤ 0.0 then area.ymax
  else area.ymax - (value - l.scale.yBottom) / span * area.height

/-- X 軸のラベル。 -/
structure XAxisLabel where
  timestamp : Int
  text : String
  /-- 横の位置（画素）。 -/
  x : Float

/-- X 軸の配置。 -/
structure XAxisLayout where
  startTime : Int
  endTime : Int
  spec : Time.TickSpec
  /-- ラベルの間隔（秒）。刻みの上書きの後。 -/
  labelInterval : Float
  labels : List XAxisLabel

/-- 時刻の横の位置（画素）。時刻の幅が正でなければ左端。 -/
def XAxisLayout.timeToPixel (l : XAxisLayout) (timestamp : Int) (area : Area) : Float :=
  let range := Float.ofInt (clampI64 (l.endTime - l.startTime))
  if range ≤ 0.0 then area.xmin
  else area.xmin + Float.ofInt (clampI64 (timestamp - l.startTime)) / range * area.width

/-- 一つの系列の見た目。 -/
structure SeriesVisual where
  name : String
  axis : AxisSide
  style : SeriesStyle

/-- 描くグラフの幾何。 -/
structure PlotLayout where
  width : Float
  height : Float
  background : Color
  foreground : Color
  /-- 軸のラベルの書体。 -/
  labelFont : FontSpec
  /-- すべての帯を取った後の描画領域。 -/
  area : Area
  titles : List PlacedText
  legend : Option LegendLayout
  yAxes : List YAxisLayout
  xAxis : XAxisLayout
  series : List SeriesVisual
  lineMode : LineMode
  showGrid : Bool
  /-- 描画領域の幅が動かなくなるまでに要した軸の組み直しの回数。 -/
  iterations : Nat

/-- 指定した側の Y 軸。 -/
def PlotLayout.yAxis (p : PlotLayout) (axis : AxisSide) : Option YAxisLayout :=
  p.yAxes.find? (·.axis == axis)

/-- グラフの代わりに中央に置く文字。 -/
structure NoDataPlaceholder where
  width : Float
  height : Float
  background : Color
  color : Color
  text : PlacedText

/-- 配置の結果。 -/
inductive LayoutOutcome where
  | plotted (plot : PlotLayout)
  | noData (placeholder : NoDataPlaceholder)

namespace LayoutOutcome

/-- 描くデータがなかったか。 -/
def isNoData : LayoutOutcome → Bool
  | .plotted _ => false
  | .noData _ => true

/-- 描くグラフの幾何。 -/
def plot? : LayoutOutcome → Option PlotLayout
  | .plotted p => some p
  | .noData _ => none

end LayoutOutcome

end PlotGeometry
