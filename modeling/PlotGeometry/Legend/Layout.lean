import PlotGeometry.Legend.Entries
import PlotGeometry.Text.Placement
import PlotGeometry.Error
import PlotGeometry.Numeric.Float
/-!
# 凡例の配置

凡例は描画領域の下に帯を取り、項目を格子に並べる。各項目は色の見本（正方形）と名前。

* 見本の一辺は行の高さ − 1、行の間隔は行の高さ + 1、項目の幅は最も広い名前の幅 +
  2 ×（見本 + 余白 5）。最も広い名前は、幅が同じなら後の方。
* 二軸のグラフで、最も広い名前を二つ並べた幅 + 2 ×（行の高さ + 5）+ 50 がキャンバスの幅より
  小さければ二列の方式。主軸の項目は左端から右へ、副軸の項目は右端から左へ並ぶ。
  列の数は `⌊⌊(キャンバスの幅 − 左端)/項目の幅⌋ / 2⌋`（少なくとも 1）、行の数は多い方の側の
  項目を列で割って切り上げ（少なくとも 1）。
* そうでなければ一続きの方式。列は `⌊キャンバスの幅/項目の幅⌋`（少なくとも 1）、
  行は項目の数を列で割って切り上げ。副軸の項目は升目の右端に右揃え。
* 帯の高さは 行 ×（行の間隔 + 5）。領域の下端をその分上げ、潰れれば誤り（`legend`）。
  項目は新しい下端 + 10 から並ぶ。

項目がなければ何も取らない。

## 停止性

`dualItems` は項目の並びについての構造的再帰。
-/

namespace PlotGeometry

/-- 見本と名前のあいだ、隣の升目とのあいだの余白。 -/
def legendPadding : Float := 5.0

/-- 二列の方式に要る空きの幅。 -/
def dualColumnSlack : Float := 50.0

/-- 凡例の並べ方。 -/
inductive LegendMode where
  | singleFlow | dualColumn
  deriving DecidableEq

/-- 凡例の一項目の位置。 -/
structure LegendItem where
  entry : Nat
  swatch : Rect
  label : PlacedText

/-- 凡例の配置の結果。 -/
structure LegendLayout where
  entries : List LegendEntry
  mode : LegendMode
  columns : Nat
  rows : Nat
  labelWidth : Float
  reservedHeight : Float
  items : List LegendItem
  /-- 帯を取った後の描画領域。 -/
  area : Area

/-- 凡例の配置の入力。 -/
structure LegendOptions where
  canvasWidth : Float
  font : FontSpec
  unique : Bool
  dualAxis : Bool

/-- 項目の寸法。 -/
structure LegendMetrics where
  boxSize : Float
  lineHeight : Float
  labelWidth : Float

/-- 幅の比較で最大の値と、その最後の位置。NaN は何よりも大きく、NaN 同士は等しい。 -/
def widestIndex (widths : List Float) : Option (Float × Nat) :=
  let ge (a b : Float) : Bool := if a.isNaN then true else if b.isNaN then false else b ≤ a
  (widths.zipIdx).foldl (fun acc (w, i) =>
    match acc with
    | none => some (w, i)
    | some (best, j) => if ge w best then some (w, i) else some (best, j)) none

/-- 見本を左、名前をその右に置く項目。 -/
def leftItem (index : Nat) (e : LegendEntry) (x y : Float) (m : LegendMetrics) (font : FontSpec) :
    LegendItem :=
  ⟨index, ⟨x, y, m.boxSize, m.boxSize⟩,
    ⟨e.name, font, x + m.boxSize + legendPadding, y, .left, .top, 0.0⟩⟩

/-- 見本の右端を `xRight` に、名前をその左に右揃えで置く項目。 -/
def rightItem (index : Nat) (e : LegendEntry) (xRight y : Float) (m : LegendMetrics)
    (font : FontSpec) : LegendItem :=
  ⟨index, ⟨xRight - m.boxSize, y, m.boxSize, m.boxSize⟩,
    ⟨e.name, font, xRight - m.boxSize - legendPadding, y, .right, .top, 0.0⟩⟩

/-- 帯の最初の行の上端。 -/
def legendTop (area : Area) : Float := area.ymax + 2.0 * legendPadding

/-- 一続きの方式の項目。 -/
def singleFlowItems (entries : List LegendEntry) (columns : Nat) (area : Area) (m : LegendMetrics)
    (font : FontSpec) : List LegendItem :=
  entries.zipIdx.map fun (e, i) =>
    let x := area.xmin + (i % columns).toFloat * m.labelWidth
    let y := legendTop area + (i / columns).toFloat * m.lineHeight
    match e.axis with
    | .primary => leftItem i e x y m font
    | .secondary => rightItem i e (x + m.labelWidth) y m font

/-- 二列の方式の項目。`left`、`right` はそれぞれの側で次の升目の番号。 -/
def dualItems (columns : Nat) (area : Area) (m : LegendMetrics) (font : FontSpec) :
    List (LegendEntry × Nat) → Nat → Nat → List LegendItem
  | [], _, _ => []
  | (e, i) :: rest, left, right =>
    match e.axis with
    | .primary =>
      let x := area.xmin + (left % columns).toFloat * m.labelWidth
      let y := legendTop area + (left / columns).toFloat * m.lineHeight
      leftItem i e x y m font :: dualItems columns area m font rest (left + 1) right
    | .secondary =>
      let x := area.xmax - (right % columns).toFloat * m.labelWidth
      let y := legendTop area + (right / columns).toFloat * m.lineHeight
      rightItem i e x y m font :: dualItems columns area m font rest left (right + 1)

/-- 割り算の切り上げ。 -/
def divCeil (a b : Nat) : Nat := (a + b - 1) / b

/-- 凡例を並べ、描画領域の下に帯を取る。名前の幅と行の高さは `tm` で測る。 -/
def layoutLegend (tm : TextMeasurer) (series : List Series) (opts : LegendOptions) (area : Area) :
    Except ChartError LegendLayout := do
  let entries := legendEntries series opts.unique
  let fe := tm.metrics opts.font
  match widestIndex (entries.map fun e => (tm.measure e.name opts.font).width) with
  | none => return ⟨entries, .singleFlow, 0, 0, 0.0, 0.0, [], area⟩
  | some (widest, wi) =>
    let boxSize := fe.height - 1.0
    let m : LegendMetrics :=
      ⟨boxSize, fe.height + 1.0, widest + 2.0 * (boxSize + legendPadding)⟩
    let dual := opts.dualAxis && (
      let name := (entries.getD wi default).name
      let testWidth := (tm.measure (name ++ " " ++ name) opts.font).width +
        2.0 * (fe.height + legendPadding)
      testWidth + dualColumnSlack < opts.canvasWidth)
    let (mode, columns, rows) : LegendMode × Nat × Nat :=
      if dual then
        let perSide := floorNum ((opts.canvasWidth - area.xmin) / m.labelWidth)
        let columns := max (toNatSat (floorNum (perSide / 2.0))) 1
        let left := (entries.filter (·.axis == .primary)).length
        let right := entries.length - left
        (.dualColumn, columns, max (divCeil (max left right) columns) 1)
      else
        let columns := max (toNatSat (floorNum (opts.canvasWidth / m.labelWidth))) 1
        (.singleFlow, columns, divCeil entries.length columns)
    let reserved := rows.toFloat * (m.lineHeight + legendPadding)
    let area ← ({ area with ymax := area.ymax - reserved } : Area).ensureValid "legend"
    let items := match mode with
      | .singleFlow => singleFlowItems entries columns area m opts.font
      | .dualColumn => dualItems columns area m opts.font entries.zipIdx 0 0
    return ⟨entries, mode, columns, rows, m.labelWidth, reserved, items, area⟩

end PlotGeometry
