/-!
# 64 ビット整数の範囲

時刻（秒）と段の数は 64 ビットの符号付き整数の範囲にある。ここでは `Int` の上で、
範囲を越える計算を `none`（検査付き）か端への張り付き（飽和）で表す。

## 停止性

再帰はない。
-/

namespace PlotGeometry

/-- 64 ビット符号付き整数の最小値。 -/
def i64Min : Int := -9223372036854775808

/-- 64 ビット符号付き整数の最大値。 -/
def i64Max : Int := 9223372036854775807

/-- 範囲内なら値、外なら `none`。 -/
def inI64? (x : Int) : Option Int := if i64Min ≤ x ∧ x ≤ i64Max then some x else none

/-- 範囲に張り付ける。 -/
def clampI64 (x : Int) : Int := max i64Min (min i64Max x)

end PlotGeometry
