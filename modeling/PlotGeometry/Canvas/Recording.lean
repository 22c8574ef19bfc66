import PlotGeometry.Paint.Color
import PlotGeometry.Geometry.Area
import PlotGeometry.Text.Font
import PlotGeometry.Numeric.Float
/-!
# 記録するキャンバス

描画の呼び出しを、絵にせずに命令の並びとして残すキャンバス。

* 色は `setColor` で決め、後の塗り、枠、文字に使う。始めは黒。
* 座標の変換（平行移動の後に回転）を積み重ねられる。文字の位置は、最も内側の変換から
  外へ順に当てて、キャンバスの座標と回転の和にする。空の積み重ねから下ろしても何もしない。

## 停止性

再帰はない（変換の積み重ねの畳み込みだけ）。
-/

namespace PlotGeometry

/-- 平行移動の後に回転（ラジアン）。後の描画に掛かる。 -/
structure Transform where
  translateX : Float
  translateY : Float
  rotation : Float

/-- 記録した一つの描画。 -/
inductive DrawCommand where
  | fillRect (rect : Rect) (color : Color)
  | strokeRect (rect : Rect) (lineWidth : Float) (color : Color)
  /-- 文字。位置は変換を当てた後のキャンバスの座標、回転はその和。 -/
  | text (text : String) (fontSize : Float) (x y rotation : Float) (color : Color)

/-- 記録するキャンバス。変換の積み重ねは先頭が最も内側。 -/
structure Recording where
  commands : Array DrawCommand := #[]
  color : Color := Color.black
  transforms : List Transform := []

namespace Recording

/-- 変換の積み重ねの深さ。 -/
def depth (r : Recording) : Nat := r.transforms.length

/-- これまでに描いた文字（描いた順）。 -/
def texts (r : Recording) : List String :=
  r.commands.toList.filterMap fun
    | .text s .. => some s
    | _ => none

/-- 今の座標系の点を、キャンバスの座標と回転の和に。内側の変換から当てる。 -/
def toCanvas (r : Recording) (x y : Float) : Float × Float × Float :=
  r.transforms.foldl (fun (x, y, rotation) t =>
    let sin := sinNum t.rotation
    let cos := cosNum t.rotation
    (t.translateX + x * cos - y * sin, t.translateY + x * sin + y * cos, rotation + t.rotation))
    (x, y, 0.0)

/-- 色を決める。 -/
def setColor (r : Recording) (c : Color) : Recording := { r with color := c }

/-- 矩形を塗る。 -/
def fillRect (r : Recording) (rect : Rect) : Recording :=
  { r with commands := r.commands.push (.fillRect rect r.color) }

/-- 矩形の枠を描く。 -/
def strokeRect (r : Recording) (rect : Rect) (lineWidth : Float) : Recording :=
  { r with commands := r.commands.push (.strokeRect rect lineWidth r.color) }

/-- 変換を積む。 -/
def pushTransform (r : Recording) (t : Transform) : Recording :=
  { r with transforms := t :: r.transforms }

/-- 最も内側の変換を下ろす。空なら何もしない。 -/
def popTransform (r : Recording) : Recording :=
  { r with transforms := r.transforms.drop 1 }

/-- 文字の基線の始まりを今の座標系の `(x, y)` に置いて描く。 -/
def drawTextAtAnchor (r : Recording) (text : String) (font : FontSpec) (x y : Float) : Recording :=
  let (cx, cy, rotation) := r.toCanvas x y
  { r with commands := r.commands.push (.text text font.size cx cy rotation r.color) }

end Recording

end PlotGeometry
