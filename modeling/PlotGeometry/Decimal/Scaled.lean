import PlotGeometry.Decimal.Binary
/-!
# 96 ビットの十進小数と、刻みの小数桁数

値を `係数 × 10^(-桁)` と書く十進小数（係数は 96 ビット、桁は 0 から 28）。倍精度数からの
変換は次の順に行う。

0. 絶対値が `2^96` 以上なら変換できない。
1. 値 `m × 2^e` の 2 の冪を、10 と 5 の冪に移す。`e < 0` なら 1 回ごとに、係数が偶数なら
   2 で割り（十進指数 +1）、奇数なら 5 を掛ける（96 ビットを越えるなら代わりに 2 で割って
   切り捨て、十進指数 +1）。`e > 0` なら、係数が `2^95` 未満なら 2 を掛け（十進指数 −1）、
   そうでなければ 5 で割って切り捨てる。
2. 十進指数が正なら係数に 10 を掛けて 0 にする（96 ビットを越えれば変換できない）。
3. 十進指数が −28 より小さければ、10 で割って四捨五入（係数が 0 になれば指数も 0）。
4. 係数が `2^52` 以上のあいだ 10 で割って四捨五入する（倍精度の精度を越える桁を捨てる）。
5. 末尾の 0 を除く。

`roundedScale? x dp` は、変換して小数 `dp` 桁に丸め（半分は偶数へ）、末尾の 0 を除いたときの
小数の桁数。変換できなければ（NaN、無限大、大きすぎる数）`none`。

## 停止性

どの繰り返しも回数が初めから決まっていて、その回数についての構造的再帰で書く。
-/

namespace PlotGeometry.Decimal

/-- 十進小数 `coeff × 10^(-scale)`（符号は持たない）。 -/
structure Scaled where
  coeff : Nat
  scale : Nat
  deriving Repr, DecidableEq

/-- 係数の上限（96 ビット）。 -/
def coeffLimit : Nat := Nat.pow 2 96

/-- 2 の負の冪を吸収する（`n` 回）。 -/
def absorbHalves : Nat → Nat → Int → Nat × Int
  | 0, bits, e10 => (bits, e10)
  | n + 1, bits, e10 =>
    if bits % 2 == 0 then absorbHalves n (bits / 2) (e10 + 1)
    else if bits * 5 < coeffLimit then absorbHalves n (bits * 5) e10
    else absorbHalves n (bits / 2) (e10 + 1)

/-- 2 の正の冪を吸収する（`n` 回）。 -/
def absorbDoubles : Nat → Nat → Int → Nat × Int
  | 0, bits, e10 => (bits, e10)
  | n + 1, bits, e10 =>
    if bits < Nat.pow 2 95 then absorbDoubles n (bits * 2) (e10 - 1)
    else absorbDoubles n (bits / 5) e10

/-- 係数に 10 を `n` 回掛ける。96 ビットを越えれば `none`。 -/
def timesTen : Nat → Nat → Option Nat
  | 0, bits => some bits
  | n + 1, bits => if bits * 10 < coeffLimit then timesTen n (bits * 10) else none

/-- 10 で割って四捨五入する。 -/
def divTenRound (bits : Nat) : Nat := bits / 10 + (if 5 ≤ bits % 10 then 1 else 0)

/-- 十進指数を −28 まで上げる（最大 `n` 回）。係数が 0 になれば指数も 0。 -/
def liftToLimit : Nat → Nat → Int → Nat × Int
  | 0, bits, e10 => (bits, e10)
  | n + 1, bits, e10 =>
    if e10 < -28 then
      if bits / 10 == 0 then (0, 0)
      else liftToLimit n (divTenRound bits) (e10 + 1)
    else (bits, e10)

/-- 倍精度の精度を越える桁を捨てる（最大 `n` 回）。 -/
def dropExcess : Nat → Nat → Int → Nat × Int
  | 0, bits, e10 => (bits, e10)
  | n + 1, bits, e10 =>
    if e10 < 0 ∧ Nat.pow 2 52 ≤ bits then dropExcess n (divTenRound bits) (e10 + 1)
    else (bits, e10)

/-- 末尾の 0 を除く（最大 `n` 回）。 -/
def stripZeros : Nat → Nat → Int → Nat × Int
  | 0, bits, e10 => (bits, e10)
  | n + 1, bits, e10 =>
    if e10 < 0 ∧ bits % 10 == 0 then stripZeros n (bits / 10) (e10 + 1) else (bits, e10)

/-- 倍精度数の絶対値からの変換。大きすぎれば `none`。 -/
def Scaled.ofBinary? (b : Binary) : Option Scaled :=
  if b.mant = 0 then some ⟨0, 0⟩
  else if 0 ≤ b.exp ∧ coeffLimit ≤ b.mant * Nat.pow 2 b.exp.toNat then none
  else
    let (bits, e10) :=
      if b.exp < 0 then absorbHalves (-b.exp).toNat b.mant b.exp
      else absorbDoubles b.exp.toNat b.mant b.exp
    let grown : Option (Nat × Int) :=
      if 0 < e10 then (timesTen e10.toNat bits).map fun v => (v, 0) else some (bits, e10)
    grown.map fun (bits, e10) =>
      let k := (-e10).toNat
      let (bits, e10) := liftToLimit k bits e10
      let (bits, e10) := dropExcess k bits e10
      let (bits, e10) := stripZeros k bits e10
      ⟨bits, (-e10).toNat⟩

/-- 倍精度数からの変換。NaN、無限大、大きすぎる数は `none`。 -/
def Scaled.ofFloat? (x : Float) : Option Scaled := (Binary.ofFloat? x).bind Scaled.ofBinary?

/-- 小数 `dp` 桁に丸める。半分は偶数へ。ゼロは桁 `dp` のゼロ。 -/
def Scaled.roundTo (d : Scaled) (dp : Nat) : Scaled :=
  if d.coeff = 0 then ⟨0, dp⟩
  else if d.scale ≤ dp then d
  else
    let unit := Nat.pow 10 (d.scale - dp)
    let q := d.coeff / unit
    let r := d.coeff % unit
    let q := if unit < 2 * r then q + 1 else if 2 * r = unit then q + q % 2 else q
    ⟨q, dp⟩

/-- 末尾の 0 を除く。ゼロは桁 0。 -/
def Scaled.normalize (d : Scaled) : Scaled :=
  if d.coeff = 0 then ⟨0, 0⟩
  else
    let (c, e) := stripZeros d.scale d.coeff (-(d.scale : Int))
    ⟨c, (-e).toNat⟩

/-- 小数 `dp` 桁に丸めて末尾の 0 を除いたときの小数の桁数。変換できなければ `none`。 -/
def roundedScale? (x : Float) (dp : Nat) : Option Nat :=
  (Scaled.ofFloat? x).map fun d => (d.roundTo dp).normalize.scale

end PlotGeometry.Decimal
