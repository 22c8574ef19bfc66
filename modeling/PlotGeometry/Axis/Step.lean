import PlotGeometry.Numeric.Log
/-!
# 目盛りの刻み

値の範囲 `[min, max]` に、`{1, 2, 5} × 10^k` の形の刻みを選ぶ。

* `snapDown v s` — `⌊v/s + 1e-9⌋ × s`。`snapUp v s` — `⌈v/s − 1e-9⌉ × s`
* `gridLines min max s` — 刻み `s` で端を合わせた格子の区間の数（丸めて整数、有限で正でなければ 0）
* `niceStep min max` — 範囲の幅が有限で正でなければ 1。そうでなければ `k` を
  `⌊log₁₀(幅/8)⌋` から一つずつ上げ、各 `k` で 1, 2, 5 の順に、区間が 8 以下になる最初の刻み

`10^k` は `powInt` で計算する。幅が小さすぎて `幅/8` が 0 になると `k` は 32 ビットの最小値に
張り付き、`10^k` は 0、刻みも 0 になる。

## 停止性

`niceStep.search` は `k` が 400 を越えれば止まる（測度 `400 − k`）。`k ≥ 309` では
`10^k` が無限大で、刻みも無限大、区間の数は 0 になるので、それより前に必ず答えが出る。
-/

namespace PlotGeometry

/-- 格子の区間の数の上限。 -/
def maxGridLines : Nat := 8

/-- 端を合わせるときの余裕。 -/
def snapEpsilon : Float := 1e-9

/-- 刻みの倍数に切り下げる。 -/
def snapDown (v step : Float) : Float := floorNum (v / step + snapEpsilon) * step

/-- 刻みの倍数に切り上げる。 -/
def snapUp (v step : Float) : Float := ceilNum (v / step - snapEpsilon) * step

/-- 端を合わせた格子の区間の数。 -/
def gridLines (lo hi step : Float) : Nat :=
  let lines := roundNum ((snapUp hi step - snapDown lo step) / step)
  if lines.isFinite && 0.0 < lines then toNatSat lines else 0

/-- 刻み `s` の格子の区間が上限以下か。 -/
def fitsGrid (lo hi s : Float) : Bool := gridLines lo hi s ≤ maxGridLines

/-- 指数 `k` から上へ、区間が上限以下になる最初の刻み。仮数は 1, 2, 5 の順に試す。 -/
def niceStep.search (lo hi : Float) (k : Int) : Float :=
  if 400 < k then powInt 10.0 k
  else
    let magnitude := powInt 10.0 k
    if fitsGrid lo hi (1.0 * magnitude) then 1.0 * magnitude
    else if fitsGrid lo hi (2.0 * magnitude) then 2.0 * magnitude
    else if fitsGrid lo hi (5.0 * magnitude) then 5.0 * magnitude
    else niceStep.search lo hi (k + 1)
termination_by (401 - k).toNat

/-- 幅 `span` に対して探し始める指数 `⌊log₁₀(span/8)⌋`（32 ビットで飽和）。 -/
def niceStartExponent (span : Float) : Int :=
  toInt32Sat (floorNum (log10Num (span / maxGridLines.toFloat)))

/-- `{1, 2, 5} × 10^k` の形で、格子の区間が 8 以下になる最小の刻み。 -/
def niceStep (lo hi : Float) : Float :=
  let span := hi - lo
  if !span.isFinite || span ≤ 0.0 then 1.0
  else niceStep.search lo hi (niceStartExponent span)

/-- `[bottom, top]` に入る刻みの数。有限で正でなければ 0。 -/
def tickIntervalCount (bottom top step : Float) : Nat :=
  let raw := floorNum ((top - bottom) / step + snapEpsilon)
  if raw.isFinite && 0.0 < raw then toNatSat raw else 0

end PlotGeometry
