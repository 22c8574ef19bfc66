import PlotGeometry.Decimal.Fixed
/-!
# 描画領域

グラフを描く矩形（画素単位、原点は左上）。題や凡例や目盛りの文字が場所を取るたびに、
領域は一回り小さくなる。`Area.valid` は幅と高さがともに正であること
（NaN が混じれば成り立たない）。

## 停止性

再帰はない。
-/

namespace PlotGeometry

/-- 軸に平行な矩形。`x` は右へ、`y` は下へ増える。 -/
structure Area where
  xmin : Float
  xmax : Float
  ymin : Float
  ymax : Float
  deriving Inhabited

namespace Area

/-- キャンバスの四辺から `margin` ずつ内側の矩形。 -/
def insetCanvas (width height margin : Float) : Area :=
  ⟨margin, width - margin, margin, height - margin⟩

/-- 幅。 -/
def width (a : Area) : Float := a.xmax - a.xmin

/-- 高さ。 -/
def height (a : Area) : Float := a.ymax - a.ymin

/-- 幅と高さがともに正。 -/
def valid (a : Area) : Bool := a.xmin < a.xmax && a.ymin < a.ymax

/-- 四つの端を小数 1 桁で書く（`x=[10.0, 590.0] y=[10.0, 290.0]`）。 -/
def display (a : Area) : String :=
  "x=[" ++ Decimal.fixedText 1 a.xmin ++ ", " ++ Decimal.fixedText 1 a.xmax ++ "] y=[" ++
    Decimal.fixedText 1 a.ymin ++ ", " ++ Decimal.fixedText 1 a.ymax ++ "]"

/-- 四つの端が数として等しい（`==`。NaN はどれとも等しくない）。 -/
def sameValue (a b : Area) : Bool :=
  a.xmin == b.xmin && a.xmax == b.xmax && a.ymin == b.ymin && a.ymax == b.ymax

end Area

/-- キャンバス上の矩形（左上の角と大きさ）。 -/
structure Rect where
  x : Float
  y : Float
  width : Float
  height : Float
  deriving Inhabited

end PlotGeometry
