import PlotGeometry.Numeric.Float
/-!
# 自然対数と常用対数

`lnNum x` は `ln x` を、`log10Num x` は `log₁₀ x` を最も近い倍精度数に丸めた値（正しく丸めた
対数）。

## 仕組み

有限な正の数を `x = m × 2^e`（`m` は正の整数）と書き、`k = ⌊log₂ m⌋`、`y = m / 2^k ∈ [1, 2)`、
`E = e + k` とすると `ln x = E × ln 2 + ln y`。`t = (y − 1)/(y + 1) = (m − 2^k)/(m + 2^k)` は
`[0, 1/3)` にあり、`ln y = 2 Σ t^(2j+1)/(2j+1)`。`ln 2` は同じ級数の `t = 1/3`。

`P` ビットの固定小数点で、各項の切り捨ての和を下限、切り上げの和に打ち切った残りの上界
`2 t^(2J+1) / ((2J+1)(1 − t²))` を足したものを上限とする。下限と上限が同じ倍精度数に丸まれば
それが答え。丸まらなければ `P` を倍にする（4 回まで。最後は下限を丸める）。

`log₁₀ x = ln x / ln 10` の下限と上限は、`ln x` の区間と `ln 10 = 3 ln 2 + ln (10/8)` の区間の商の
区間を、切り下げと切り上げの割り算で固定小数点に戻したもの。丸め方は自然対数と同じ。

特別な値：NaN と負の数は NaN、`±0` は `−∞`、`+∞` は `+∞`。

## 停止性

`refineRounding` は残りの回数についての構造的再帰。
-/

namespace PlotGeometry

open Float.Model

/-- `n × 2^(-P)` を最も近い倍精度数に丸める。ゼロは正のゼロ。 -/
def roundDyadic (n : Int) (P : Nat) : Float :=
  .ofModel (.pack (UnpackedFloat.normalize .binary64 n (-(P : Int)) .positive))

/-- 切り上げの割り算。 -/
def ceilDiv (a b : Nat) : Nat := (a + b - 1) / b

/-- `2 atanh(a/b) × 2^P`（`a < b`）の下限と上限。項の数は `P/3 + 2`（`a/b < 1/3` で足りる）。 -/
def atanhBounds (P a b : Nat) : Nat × Nat :=
  let J := P / 3 + 2
  let term (j : Nat) : Nat × Nat :=
    let num := Nat.pow 2 (P + 1) * Nat.pow a (2 * j + 1)
    let den := (2 * j + 1) * Nat.pow b (2 * j + 1)
    (num / den, ceilDiv num den)
  let sums := (List.range J).foldl (fun (lo, hi) j => (lo + (term j).1, hi + (term j).2)) (0, 0)
  let tail := ceilDiv (Nat.pow 2 (P + 1) * Nat.pow a (2 * J + 1) * (b * b))
    ((2 * J + 1) * Nat.pow b (2 * J + 1) * (b * b - a * a))
  (sums.1, sums.2 + tail)

/-- `ln (m × 2^e) × 2^P` の下限と上限。 -/
def lnBounds (P m : Nat) (e : Int) : Int × Int :=
  let k := m.log2
  let E := e + k
  let y := atanhBounds P (m - Nat.pow 2 k) (m + Nat.pow 2 k)
  let two := atanhBounds P 1 3
  if 0 ≤ E then (E * two.1 + y.1, E * two.2 + y.2)
  else (E * two.2 + y.1, E * two.1 + y.2)

/-- 精度 `P` ごとの下限と上限 `bounds P`（`2^(-P)` 単位）から、両者の丸めが一致するまで精度を
倍にする。回数が尽きたら下限を丸める。 -/
def refineRounding (bounds : Nat → Int × Int) : Nat → Nat → Float
  | 0, P => roundDyadic (bounds P).1 P
  | fuel + 1, P =>
    let lo := roundDyadic (bounds P).1 P
    if lo.toBits == (roundDyadic (bounds P).2 P).toBits then lo else refineRounding bounds fuel (2 * P)

/-- 有限な正の数 `m × 2^e` の自然対数。 -/
def lnFinite (m : Nat) (e : Int) : Float :=
  refineRounding (fun P => lnBounds P m e) 4 128

/-- `log₁₀ (m × 2^e) × 2^P` の下限と上限。`ln 10 × 2^P` の区間 `[t₁, t₂]` は正なので、下限は
`ln` の下限が負でなければ `t₂` で、負なら `t₁` で割り、上限はその逆。 -/
def log10Bounds (P m : Nat) (e : Int) : Int × Int :=
  let ln := lnBounds P m e
  let ten := lnBounds P 10 0
  let scale : Int := (Nat.pow 2 P : Nat)
  let lo := if 0 ≤ ln.1 then ln.1 * scale / ten.2 else ln.1 * scale / ten.1
  let hi := if 0 ≤ ln.2 then -(-(ln.2 * scale) / ten.1) else -(-(ln.2 * scale) / ten.2)
  (lo, hi)

/-- 有限な正の数 `m × 2^e` の常用対数。 -/
def log10Finite (m : Nat) (e : Int) : Float :=
  refineRounding (fun P => log10Bounds P m e) 4 128

/-- 正しく丸めた自然対数。 -/
def lnNum (x : Float) : Float :=
  match x.toModel.unpack with
  | .notANumber => x
  | .infinity .positive => x
  | .infinity .negative => 0.0 / 0.0
  | .zero _ => -1.0 / 0.0
  | .finite .negative .. => 0.0 / 0.0
  | .finite .positive m e _ => lnFinite m e

/-- 正しく丸めた常用対数。 -/
def log10Num (x : Float) : Float :=
  match x.toModel.unpack with
  | .notANumber => x
  | .infinity .positive => x
  | .infinity .negative => 0.0 / 0.0
  | .zero _ => -1.0 / 0.0
  | .finite .negative .. => 0.0 / 0.0
  | .finite .positive m e _ => log10Finite m e

end PlotGeometry
