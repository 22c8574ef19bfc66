/-!
# 倍精度数の分解

倍精度数（IEEE 754 binary64）のビット列を、符号と `仮数 × 2^指数` に分ける。
十進表記（`Decimal/Shortest`、`Decimal/Fixed`）と十進の小数桁数（`Decimal/Scaled`）は、
どれも `Float` の演算ではなくこの分解の自然数の上で計算する。

## 停止性

再帰はない。
-/

namespace PlotGeometry.Decimal

/-- 有限な倍精度数。値は `(-1)^neg × mant × 2^exp`。 -/
structure Binary where
  /-- 符号ビット。負のゼロでも立つ。 -/
  neg : Bool
  /-- 隠れビットを含めた仮数。非正規数とゼロでは隠れビットがない。 -/
  mant : Nat
  /-- 二進指数。非正規数では `-1074`。 -/
  exp : Int
  /-- 仮数部のフィールドが 0 で指数部が 1 より大きい。このとき下の隣との間隔は上の半分。 -/
  narrowBelow : Bool
  deriving Repr, DecidableEq

/-- ビット列から有限な数を取り出す。指数部が全部 1（無限大と NaN）なら `none`。 -/
def Binary.ofFloat? (x : Float) : Option Binary :=
  let bits := x.toBits.toNat
  let neg := bits / Nat.pow 2 63 % 2 == 1
  let field : Nat := bits / Nat.pow 2 52 % Nat.pow 2 11
  let frac : Nat := bits % Nat.pow 2 52
  if field = 2047 then none
  else if field = 0 then some ⟨neg, frac, -1074, false⟩
  else some ⟨neg, frac + Nat.pow 2 52, (field : Int) - 1075, frac == 0 && 1 < field⟩

end PlotGeometry.Decimal
