import PlotGeometry.Series
/-!
# 線の色と見た目の割り当て

時系列ごとに線の色・太さ・破線を決める。

* 色は、系列が指定した色、なければ（軸ごとの見た目があるとき）その軸の色、なければ
  パレットの次の色。パレットの位置は、パレットの色を使った系列のときだけ進み、端で
  先頭に戻る。空のパレットは既定の 12 色。
* 太さと破線は、軸ごとの見た目があればその軸のもの、なければ全体の設定。

## 停止性

`Assigner.assignFrom` は系列の並びについての構造的再帰。
-/

namespace PlotGeometry

/-- 一つの Y 軸の系列すべてに使う線の見た目。 -/
structure AxisStyle where
  color : Option Color := none
  lineWidth : Float := 1.2
  dashed : Bool := false
  deriving Inhabited

/-- 既定のパレット（青、緑、赤、紫、茶、黄、水色、灰、赤紫、桃、金、薔薇）。 -/
def defaultPalette : List Color :=
  [Color.rgb8 100 100 255, Color.rgb8 0 200 0, Color.alert, Color.rgb8 200 100 255,
   Color.rgb8 150 100 50, Color.rgb8 255 255 0, Color.rgb8 0 150 150, Color.rgb8 175 175 175,
   Color.rgb8 255 0 255, Color.rgb8 255 100 100, Color.rgb8 200 200 0, Color.rgb8 200 150 200]

/-- 割り当ての規則。 -/
structure Assigner where
  palette : List Color
  lineWidth : Float := 1.2
  dashed : Bool := false
  /-- 左（主）と右（副）の軸の見た目。二軸のグラフでだけ使う。 -/
  sideStyles : Option (AxisStyle × AxisStyle) := none

namespace Assigner

/-- パレットからの規則。空なら既定のパレット。 -/
def new (palette : List Color) : Assigner :=
  { palette := if palette.isEmpty then defaultPalette else palette }

/-- 全体の線の太さと破線。 -/
def withLine (a : Assigner) (lineWidth : Float) (dashed : Bool) : Assigner :=
  { a with lineWidth, dashed }

/-- 軸ごとの見た目。 -/
def withSideStyles (a : Assigner) (left right : AxisStyle) : Assigner :=
  { a with sideStyles := some (left, right) }

/-- 一つの系列の見た目と、次のパレットの位置。 -/
def styleFor (a : Assigner) (s : Series) (cursor : Nat) : SeriesStyle × Nat :=
  let (sideColor, lineWidth, dashed) := match a.sideStyles with
    | some (left, right) =>
      let side := if s.axis == .primary then left else right
      (side.color, side.lineWidth, side.dashed)
    | none => (none, a.lineWidth, a.dashed)
  match s.color <|> sideColor with
  | some c => (⟨c, lineWidth, dashed⟩, cursor)
  | none => (⟨a.palette.getD cursor Color.black, lineWidth, dashed⟩, (cursor + 1) % a.palette.length)

/-- 位置 `cursor` から順に割り当てる。 -/
def assignFrom (a : Assigner) : List Series → Nat → List Series
  | [], _ => []
  | s :: rest, cursor =>
    let (style, next) := a.styleFor s cursor
    { s with style := some style } :: a.assignFrom rest next

/-- すべての系列に見た目を割り当てる。 -/
def assign (a : Assigner) (series : List Series) : List Series := a.assignFrom series 0

end Assigner

end PlotGeometry
