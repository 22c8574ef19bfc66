import PlotGeometry.Decimal.Binary
/-!
# 倍精度数の演算の決め事

`Float` の四則は IEEE 754 の最近接偶数丸めそのもの。ここには、それ以外で値が
ぶれうる演算を一つの規則として置く。

* `maxNum` / `minNum` — 片方が NaN なら他方。等しければ（`0.0` と `-0.0` も）第二引数
* `powInt` — 整数乗を二乗の繰り返しで計算する。途中の積ごとに丸めるので、正しく丸めた
  `10^k` とは最後の桁が違うことがある（`10^300` など）
* `truncInt?`、`toNatSat`、`toIntSat` — 0 の方向への切り捨てと、範囲の端での飽和。NaN は 0
* `sum` — 左から順に足す。単位元は負のゼロ
* `floorNum` / `ceilNum` / `roundNum` — 整数への丸め（下へ、上へ、最も近い方で半分は 0 から
  遠い方へ）。結果はちょうど表せるので丸めの誤差はない。ゼロの符号は元の数の符号、NaN と
  無限大はそのまま
* `sinNum` / `cosNum` — C ライブラリの `sin`、`cos`。その値は NaN か `[-1, 1]` の中にあるが、
  型はそれを知らないので、`clampUnit` でその範囲に収めて使う（収めても値は変わらない）

## 停止性

`powInt.go` は指数が 2 で割られて減る。
-/

namespace PlotGeometry

/-- 大きい方。片方が NaN なら他方、`a > b` でなければ `b`。 -/
def maxNum (a b : Float) : Float :=
  if b.isNaN then a else if a.isNaN then b else if b < a then a else b

/-- 小さい方。片方が NaN なら他方、`a < b` でなければ `b`。 -/
def minNum (a b : Float) : Float :=
  if b.isNaN then a else if a.isNaN then b else if a < b then a else b

/-- 二乗の繰り返しによる `a ^ n`（`n` は自然数）。 -/
def powNat.go (a r : Float) (n : Nat) : Float :=
  let r := if n % 2 == 1 then r * a else r
  if h : n / 2 = 0 then r
  else powNat.go (a * a) r (n / 2)
termination_by n
decreasing_by omega

/-- 整数乗。負の指数は正の指数の結果の逆数。 -/
def powInt (a : Float) (n : Int) : Float :=
  let r := powNat.go a 1 n.natAbs
  if n < 0 then 1 / r else r

/-- 有限な数を 0 の方向へ切り捨てた整数。NaN と無限大は `none`。 -/
def truncInt? (x : Float) : Option Int :=
  (Decimal.Binary.ofFloat? x).map fun b =>
    let mag : Nat := if 0 ≤ b.exp then b.mant * Nat.pow 2 b.exp.toNat else b.mant / Nat.pow 2 (-b.exp).toNat
    if b.neg then -(mag : Int) else mag

/-- 整数への変換。`[lo, hi]` で飽和し、NaN は 0。 -/
def toIntSat (lo hi : Int) (x : Float) : Int :=
  match truncInt? x with
  | some i => max lo (min hi i)
  | none => if x.isNaN then 0 else if 0 < x then hi else lo

/-- 64 ビットの符号なし整数への変換。負と NaN は 0、大きすぎれば最大値。 -/
def toNatSat (x : Float) : Nat :=
  (toIntSat 0 18446744073709551615 x).toNat

/-- 32 ビットの符号付き整数への変換。 -/
def toInt32Sat (x : Float) : Int := toIntSat (-2147483648) 2147483647 x

/-- 64 ビットの符号付き整数への変換。 -/
def toInt64Sat (x : Float) : Int := toIntSat (-9223372036854775808) 9223372036854775807 x

/-- 有限な数を整数に丸める。`away neg r d` は、絶対値を `d` で割った余りが `r` のとき、
絶対値の商から 0 と反対の方へ一つ進めるか。2 の冪の指数が負でない数はすでに整数。 -/
def toIntegral (away : Bool → Nat → Nat → Bool) (x : Float) : Float :=
  match x.toModel.unpack with
  | .finite s m e _ =>
    if 0 ≤ e then x
    else
      let d := Nat.pow 2 (-e).toNat
      let neg := s == .negative
      let mag := Float.ofNat (if away neg (m % d) d then m / d + 1 else m / d)
      if neg then -mag else mag
  | _ => x

/-- 下への丸め（`⌊x⌋`）。 -/
def floorNum : Float → Float := toIntegral fun neg r _ => neg && r != 0

/-- 上への丸め（`⌈x⌉`）。 -/
def ceilNum : Float → Float := toIntegral fun neg r _ => !neg && r != 0

/-- 最も近い整数への丸め。ちょうど半分なら 0 から遠い方。 -/
def roundNum : Float → Float := toIntegral fun _ r d => d ≤ 2 * r

/-- 左から順の和。空なら負のゼロ。 -/
def sum (xs : List Float) : Float := xs.foldl (· + ·) (-0.0)

/-- 弧度への換算（`x × π/180`、係数は倍精度に丸めた一つの定数）。 -/
def toRadians (deg : Float) : Float := deg * 0.017453292519943295

/-- `[-1, 1]` に収める。NaN はそのまま。 -/
def clampUnit (x : Float) : Float :=
  if x.isNaN then x else maxNum (-1.0) (minNum 1.0 x)

/-- 正弦。 -/
def sinNum (x : Float) : Float := clampUnit x.sin

/-- 余弦。 -/
def cosNum (x : Float) : Float := clampUnit x.cos

end PlotGeometry
