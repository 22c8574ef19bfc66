import PlotGeometry.Warning
/-!
# 軸の上書き

呼び手が軸に与える下限・上限・刻み。`none` は自動で決めること。

`sanitize` は使えない上書きを捨て、捨てたことを警告にする。順に、有限でない下限、
有限でない上限、有限でない刻み、正でない刻み、そして下限と上限がともにあって
下限が上限以上なら両方。残るのは有限な境界、有限で正の刻み、下限 < 上限の組だけ。

## 停止性

再帰はない。
-/

namespace PlotGeometry

/-- 軸の上書き。 -/
structure AxisOverrides where
  min : Option Float := none
  max : Option Float := none
  step : Option Float := none
  deriving Inhabited

/-- 有限でなければ捨てて警告する。 -/
def keepFinite (v : Option Float) : Option Float × List Warning :=
  match v with
  | some x => if x.isFinite then (some x, []) else (none, [.nonFiniteOverride])
  | none => (none, [])

/-- 使えない上書きを捨てる。捨てたものごとに警告を一つ。 -/
def AxisOverrides.sanitize (o : AxisOverrides) : AxisOverrides × List Warning :=
  let (lo, w1) := keepFinite o.min
  let (hi, w2) := keepFinite o.max
  let (st, w3) := keepFinite o.step
  let (st, w4) : Option Float × List Warning := match st with
    | some s => if 0.0 < s then (some s, []) else (none, [.nonPositiveStep])
    | none => (none, [])
  let (lo, hi, w5) : Option Float × Option Float × List Warning := match lo, hi with
    | some l, some h => if h ≤ l then (none, none, [.invertedBounds]) else (some l, some h, [])
    | l, h => (l, h, [])
  ({ min := lo, max := hi, step := st }, w1 ++ w2 ++ w3 ++ w4 ++ w5)

end PlotGeometry
