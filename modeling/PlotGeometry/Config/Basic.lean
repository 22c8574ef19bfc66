import PlotGeometry.Paint.Palette
import PlotGeometry.Axis.Scale
import PlotGeometry.Axis.Label
import PlotGeometry.Text.Font
import PlotGeometry.Time.Calendar
import PlotGeometry.Warning
import PlotGeometry.Numeric.Log
/-!
# グラフの設定

一枚のグラフを描くための設定をすべて持つ記録。どの欄にも既定値があり
（600 × 300、余白 10、Sans 10、黒の前景と白の背景、12 色のパレット、
線の太さ 1.2、軸の組み直しは 10 回まで）、`Setting` で一つずつ変える。

設定から決まるもの：

* 題の書体 — 大きさに `⌊ln 大きさ⌋` を足す
* 表示の切り替え（`DisplayFlags`）— `graphOnly` ならすべて消す。凡例は指定が
  なければ系列が 10 本を越えたときに消す
* 時差 — 1 日未満なら秒数のまま、そうでなければ警告して 0（UTC）

## 停止性

再帰はない。
-/

namespace PlotGeometry

/-- グラフの種類。 -/
inductive GraphType where
  | line | pie
  deriving DecidableEq, Inhabited

/-- 隣り合う点の結び方。 -/
inductive LineMode where
  | slope | staircase | connected
  deriving DecidableEq, Inhabited

/-- 円グラフで系列を一つの値にまとめる方法。 -/
inductive PieMode where
  | maximum | minimum | average
  deriving DecidableEq, Inhabited

/-- 主の Y 軸のラベルを置く辺。 -/
inductive YAxisSide where
  | left | right
  deriving DecidableEq, Inhabited

/-- 凡例を指定なしで消す系列の本数（これを越えたら消す）。 -/
def autoHideLegendSeries : Nat := 10

/-- 一枚のグラフの設定。 -/
structure ChartConfig where
  width : Float := 600.0
  height : Float := 300.0
  margin : Float := 10.0
  font : FontSpec := { family := "Sans", size := 10.0 }
  foreground : Color := Color.black
  background : Color := Color.white
  graphType : GraphType := .line
  graphOnly : Bool := false
  /-- `none` なら、系列が多いときだけ凡例を消す。 -/
  hideLegend : Option Bool := none
  hideGrid : Bool := false
  hideAxes : Bool := false
  hideYAxis : Bool := false
  yAxisSide : YAxisSide := .left
  title : String := ""
  vtitle : String := ""
  vtitleRight : String := ""
  lineMode : LineMode := .slope
  areaMode : AreaMode := .none
  pieMode : PieMode := .average
  palette : List Color := defaultPalette
  lineWidth : Float := 1.2
  dashed : Bool := false
  leftStyle : AxisStyle := {}
  rightStyle : AxisStyle := {}
  uniqueLegend : Bool := false
  drawNullAsZero : Bool := false
  /-- 主の Y 軸の上書き。 -/
  y : AxisOverrides := {}
  /-- 副の Y 軸の上書き。 -/
  yRight : AxisOverrides := {}
  /-- 時刻の範囲（秒）とラベルの刻み（秒）の上書き。 -/
  x : AxisOverrides := {}
  logBase : Option Float := none
  unitSystem : UnitSystem := .si
  /-- X のラベルの時差（秒）。32 ビットの範囲の値。 -/
  utcOffsetSeconds : Int := 0
  maxLayoutIterations : Nat := 10
  deriving Inhabited

/-- 設定の一つの変更。 -/
inductive Setting where
  | width (w : Float)
  | height (h : Float)
  | margin (m : Float)
  | font (f : FontSpec)
  /-- 書体の大きさだけを変える。 -/
  | fontSize (size : Float)
  | title (text : String)
  | vtitle (text : String)
  | vtitleRight (text : String)
  | lineMode (m : LineMode)
  | areaMode (m : AreaMode)
  | graphType (t : GraphType)
  | palette (colors : List Color)
  | lineWidth (w : Float)
  | hideLegend (hide : Bool)
  | hideAxes (hide : Bool)
  | graphOnly (only : Bool)
  | uniqueLegend (unique : Bool)
  | drawNullAsZero (enabled : Bool)
  | yAxisSide (side : YAxisSide)
  | yOverrides (o : AxisOverrides)
  | yRightOverrides (o : AxisOverrides)
  | xOverrides (o : AxisOverrides)
  | sideStyles (left right : AxisStyle)
  | unitSystem (system : UnitSystem)
  | utcOffsetSeconds (secs : Int)
  | maxLayoutIterations (n : Nat)
  | logBase (base : Float)

/-- 表示するものの切り替え。 -/
structure DisplayFlags where
  legend : Bool
  grid : Bool
  axes : Bool
  yAxis : Bool

namespace ChartConfig

/-- 大きさだけを決めた既定の設定。 -/
def sized (width height : Float) : ChartConfig := { width, height }

/-- 一つの変更を当てる。 -/
def set (c : ChartConfig) : Setting → ChartConfig
  | .width w => { c with width := w }
  | .height h => { c with height := h }
  | .margin m => { c with margin := m }
  | .font f => { c with font := f }
  | .fontSize size => { c with font := c.font.withSize size }
  | .title text => { c with title := text }
  | .vtitle text => { c with vtitle := text }
  | .vtitleRight text => { c with vtitleRight := text }
  | .lineMode m => { c with lineMode := m }
  | .areaMode m => { c with areaMode := m }
  | .graphType t => { c with graphType := t }
  | .palette colors => { c with palette := colors }
  | .lineWidth w => { c with lineWidth := w }
  | .hideLegend hide => { c with hideLegend := some hide }
  | .hideAxes hide => { c with hideAxes := hide }
  | .graphOnly only => { c with graphOnly := only }
  | .uniqueLegend unique => { c with uniqueLegend := unique }
  | .drawNullAsZero enabled => { c with drawNullAsZero := enabled }
  | .yAxisSide side => { c with yAxisSide := side }
  | .yOverrides o => { c with y := o }
  | .yRightOverrides o => { c with yRight := o }
  | .xOverrides o => { c with x := o }
  | .sideStyles left right => { c with leftStyle := left, rightStyle := right }
  | .unitSystem system => { c with unitSystem := system }
  | .utcOffsetSeconds secs => { c with utcOffsetSeconds := secs }
  | .maxLayoutIterations n => { c with maxLayoutIterations := n }
  | .logBase base => { c with logBase := some base }

/-- 変更を順に当てる。 -/
def setAll (c : ChartConfig) (changes : List Setting) : ChartConfig := changes.foldl set c

/-- 題の書体：大きさに `⌊ln 大きさ⌋` を足す。 -/
def titleFont (c : ChartConfig) : FontSpec :=
  let size := c.font.size
  c.font.withSize (size + floorNum (lnNum size))

/-- `seriesCount` 本の系列を描くときの表示の切り替え。 -/
def displayFlags (c : ChartConfig) (seriesCount : Nat) : DisplayFlags :=
  if c.graphOnly then ⟨false, false, false, false⟩
  else
    let hideLegend := c.hideLegend.getD (autoHideLegendSeries < seriesCount)
    ⟨!hideLegend, !c.hideGrid, !c.hideAxes, !c.hideYAxis⟩

/-- X のラベルに使う時差（秒）。暦が時差として使えなければ警告して UTC。 -/
def fixedOffset (c : ChartConfig) (cal : Time.Calendar) : Int × List Warning :=
  if cal.validOffset c.utcOffsetSeconds then (c.utcOffsetSeconds, [])
  else (0, [.offsetOutOfRange])

end ChartConfig

end PlotGeometry
