import PlotGeometry.Text.Font
import PlotGeometry.Numeric.Float
/-!
# 文字の置き方

基準点 `(x, y)` に揃えて、回転させた文字列を描くためのペンの動き。

描き方は、ペンを `(pen_x, pen_y)` へ動かし、`rotation`（弧度）だけ回し、回した座標で
`(-h_offset, 0)` に描く。`fill_x`、`fill_y` は回す前の座標での文字の原点。

* 横の揃え: 左 0、中央 幅/2、右 幅
* 縦の揃え: 上 ascent、中央 height/2 − descent/2、下 −descent、ベースライン 0

## 停止性

再帰はない。
-/

namespace PlotGeometry

/-- 横の揃え。 -/
inductive HAlign where
  | left | center | right
  deriving DecidableEq, Inhabited

/-- 縦の揃え。 -/
inductive VAlign where
  | top | center | bottom | baseline
  deriving DecidableEq, Inhabited

/-- 揃えのためのペンの動き。 -/
structure TextPlacement where
  hOffset : Float
  vOffset : Float
  penX : Float
  penY : Float
  rotation : Float
  fillX : Float
  fillY : Float

/-- 横の揃えのずれ。 -/
def horizontalOffset (extents : TextExtents) : HAlign → Float
  | .left => 0.0
  | .center => extents.width / 2.0
  | .right => extents.width

/-- 縦の揃えのずれ。 -/
def verticalOffset (font : FontExtents) : VAlign → Float
  | .top => font.ascent
  | .center => font.height / 2.0 - font.descent / 2.0
  | .bottom => -font.descent
  | .baseline => 0.0

/-- 基準点 `(x, y)` に揃えるペンの動き。回転は度で与える。 -/
def placeText (x y : Float) (extents : TextExtents) (font : FontExtents) (align : HAlign)
    (valign : VAlign) (rotationDegrees : Float) : TextPlacement :=
  let h := horizontalOffset extents align
  let v := verticalOffset font valign
  let rotation := toRadians rotationDegrees
  let sin := sinNum rotation
  let cos := cosNum rotation
  let penX := x + sin * -v
  let penY := y + cos * v
  { hOffset := h, vOffset := v, penX := penX, penY := penY, rotation := rotation,
    fillX := penX - h * cos, fillY := penY - h * sin }

/-- 配置の決まった 1 行の文字。描くのは後。 -/
structure PlacedText where
  text : String
  font : FontSpec
  x : Float
  y : Float
  align : HAlign
  valign : VAlign
  rotationDegrees : Float
  deriving Inhabited

end PlotGeometry
