import PlotGeometry.Series
/-!
# 凡例の項目

凡例には系列ごとに一つの項目（名前、色、軸）を置く。`unique` なら、同じ名前の系列は
最初の一つだけ残す（順番は保つ）。項目の色は、割り当てた見た目の色、なければ系列が
指定した色、なければ黒。

## 停止性

`uniqueByName.go` は系列の並びについての構造的再帰。
-/

namespace PlotGeometry

/-- 凡例の項目。 -/
structure LegendEntry where
  name : String
  color : Color
  axis : AxisSide
  deriving Inhabited

/-- 系列の凡例の項目。 -/
def Series.legendEntry (s : Series) : LegendEntry :=
  ⟨s.name, (s.style.map (·.color) <|> s.color).getD Color.black, s.axis⟩

/-- 名前が前に出ていない系列だけを残す。 -/
def uniqueByName.go : List String → List Series → List Series
  | _, [] => []
  | seen, s :: rest =>
    if seen.contains s.name then go seen rest else s :: go (s.name :: seen) rest

/-- 名前ごとに最初の系列だけを、順に。 -/
def uniqueByName (series : List Series) : List Series := uniqueByName.go [] series

/-- 凡例の項目の並び。 -/
def legendEntries (series : List Series) (unique : Bool) : List LegendEntry :=
  (if unique then uniqueByName series else series).map Series.legendEntry

end PlotGeometry
