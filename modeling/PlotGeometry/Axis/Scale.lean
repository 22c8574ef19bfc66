import PlotGeometry.Axis.Step
import PlotGeometry.Axis.Overrides
import PlotGeometry.Series
/-!
# Y 軸の縮尺

一つの Y 軸に載る時系列から、値の範囲（`yMin`、`yMax`）と格子（`yBottom` から `yTop` まで
`yStep` 刻み）を決める。

1. 範囲は欠けていない有限な値の最小と最大（値がなければ 0 と 0）。積み上げで 2 本以上
   なら、0 と積み上げの最大。
2. 欠けを 0 として描き、上限の上書きがなく、最大が負で、欠けた点のある系列があれば、最大を 0 に。
3. 上書きがあればそれで置き換える。
4. 範囲が潰れていれば（`yMax ≤ yMin`）、1（値が 0 のとき）か値の 1 割だけ広げる。
   上限が上書きなら下へ、そうでなければ上へ。
5. 刻みの上書きは、目盛りが 200 未満なら使う（そうでなければ警告して自動）。
6. 下端は下限の上書きが格子の上端より下ならそれ、上端は上限の上書きが下端より上ならそれ。
   ほかは刻みに合わせて切り下げ・切り上げ。

## 停止性

`YAxisScale.gridFrom` は残りの個数についての構造的再帰。
-/

namespace PlotGeometry

/-- 塗りつぶしの方式。 -/
inductive AreaMode where
  | none | first | all | stacked
  deriving DecidableEq, Inhabited

/-- 一つの Y 軸の計算の入力。 -/
structure YAxisOptions where
  overrides : AxisOverrides := {}
  areaMode : AreaMode := .none
  drawNullAsZero : Bool := false

/-- 計算した Y 軸。 -/
structure YAxisScale where
  yMin : Float
  yMax : Float
  yStep : Float
  yBottom : Float
  yTop : Float
  deriving Inhabited

/-- 刻みの上書きで許す目盛りの数の上限。 -/
def maxYTicks : Nat := 200

namespace YAxisScale

/-- `bottom + i × step` を `i` から `n` 個、`limit` を越える手前まで。 -/
def gridFrom (bottom step limit : Float) : Nat → Nat → List Float
  | _, 0 => []
  | i, n + 1 =>
    let v := bottom + i.toFloat * step
    if v ≤ limit then v :: gridFrom bottom step limit (i + 1) n else []

/-- 格子の高さ。 -/
def span (s : YAxisScale) : Float := s.yTop - s.yBottom

/-- 下端から上端までの目盛り。上端の手前で刻みが尽きれば上端を足す。 -/
def ticks (s : YAxisScale) : List Float :=
  let count := tickIntervalCount s.yBottom s.yTop s.yStep
  let limit := s.yTop + s.yStep * snapEpsilon
  let grid := gridFrom s.yBottom s.yStep limit 0 (count + 1)
  match grid.getLast? with
  | some last => if s.yStep * snapEpsilon < s.yTop - last then grid ++ [s.yTop] else grid
  | none => grid

end YAxisScale

/-- 欠けていない有限な値の最小と最大。 -/
def observedExtents (series : List Series) : Option (Float × Float) :=
  (series.flatMap Series.presentValues).foldl (fun acc v =>
    match acc with
    | none => some (v, v)
    | some (lo, hi) => some (minNum lo v, maxNum hi v)) none

/-- 添字ごとの和（欠けた点は 0）の最大。系列がなければ、または点がなければ `none`。 -/
def stackedMaximum (series : List Series) : Option Float :=
  match (series.map Series.pointCount).max? with
  | none => none
  | some length =>
    let sums := (List.range length).map fun i => sum (series.map fun s => (s.valueAt i).getD 0.0)
    match sums with
    | [] => none
    | first :: rest => some (rest.foldl maxNum first)

/-- 潰れた範囲を広げる幅。 -/
def degeneratePadding (v : Float) : Float := if v == 0.0 then 1.0 else v.abs * 0.1

/-- 格子を張る範囲。潰れていれば広げる。 -/
def gridExtents (yMin yMax : Float) (maxExplicit : Bool) : Float × Float :=
  if yMin < yMax then (yMin, yMax)
  else
    let pad := degeneratePadding (maxNum yMin yMax)
    if maxExplicit then (yMax - pad, yMax) else (yMin, yMin + pad)

/-- 一つの Y 軸の縮尺。使えない上書きと多すぎる目盛りは警告にする。 -/
def computeYAxis (series : List Series) (opts : YAxisOptions) : YAxisScale × List Warning :=
  let (ov, w1) := opts.overrides.sanitize
  let (yMin, yMax) := (observedExtents series).getD (0.0, 0.0)
  let (yMin, yMax) :=
    if opts.areaMode == .stacked && 1 < series.length then
      (0.0, (stackedMaximum series).getD 0.0)
    else (yMin, yMax)
  let yMax :=
    if opts.drawNullAsZero && ov.max.isNone && yMax < 0.0 && series.any Series.hasAbsent then 0.0
    else yMax
  let yMin := ov.min.getD yMin
  let yMax := ov.max.getD yMax
  let (gridMin, gridMax) := gridExtents yMin yMax ov.max.isSome
  let (chosen, w2) : Option Float × List Warning := match ov.step with
    | some s => if tickIntervalCount gridMin gridMax s < maxYTicks then (some s, [])
        else (none, [.tooManyYTicks])
    | none => (none, [])
  let yStep := chosen.getD (niceStep gridMin gridMax)
  let yBottom := match ov.min with
    | some m => if m < gridMax then m else snapDown gridMin yStep
    | none => snapDown gridMin yStep
  let yTop := match ov.max with
    | some m => if yBottom < m then m else snapUp gridMax yStep
    | none => snapUp gridMax yStep
  (⟨yMin, yMax, yStep, yBottom, yTop⟩, w1 ++ w2)

end PlotGeometry
