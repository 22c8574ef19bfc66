import PlotGeometry.Decimal.Binary
/-!
# 最短の十進表記

有限な倍精度数 `v` について、読み戻すと `v` に戻る十進数のうち桁数が最小のものを選ぶ。
同じ桁数の候補が二つあれば `v` に近い方、ちょうど中間なら末尾が偶数の方。

## 仕組み

`v` に丸められる実数の区間は、隣の倍精度数との中点で区切られる。仮数が偶数なら端を含む。
`n` 桁の十進格子（間隔 `10^(E-n+1)`、`E` は `v` の十進指数）で `v` の両隣を調べ、
どちらかが区間に入れば `n` 桁で足りる。区間は `v` を含む凸集合なので、両隣以外の格子点が
入るなら両隣のどちらかも入る。比較はすべて自然数の掛け算で行う。

表記（位取りか指数か、`.0` を付けるか）は `Notation` の一つの値で決める。

## 停止性

`Digits.trim` は係数が 10 で割られて減る。桁数の探索は `List.range 17` の上で行う。
-/

namespace PlotGeometry.Decimal

/-- 十進の値 `coeff × 10^exp`。 -/
structure Digits where
  coeff : Nat
  exp : Int
  deriving Repr, DecidableEq

/-- 自然数の十進の桁数。`0` は 1 桁。 -/
def decimalLength (n : Nat) : Nat := (Nat.toDigits 10 n).length

/-- 十進の格子点 `j × 10^s` と二進の値 `x × 2^t` を比べる。 -/
def cmpGrid (j : Nat) (s : Int) (x : Nat) (t : Int) : Ordering :=
  compare (j * Nat.pow 10 s.toNat * Nat.pow 2 (-t).toNat) (x * Nat.pow 2 t.toNat * Nat.pow 10 (-s).toNat)

/-- `x × 2^t` を格子の間隔 `10^s` で割った商の切り捨て。 -/
def floorGrid (x : Nat) (t s : Int) : Nat :=
  x * Nat.pow 2 t.toNat * Nat.pow 10 (-s).toNat / (Nat.pow 10 s.toNat * Nat.pow 2 (-t).toNat)

/-- 正の値 `x × 2^t` の十進指数 `⌊log₁₀⌋`。`10^k` 倍して 1 以上にしてから桁数を数える。 -/
def decimalExponent (x : Nat) (t : Int) : Int :=
  let k := (-t).toNat
  (decimalLength (x * Nat.pow 10 k * Nat.pow 2 t.toNat / Nat.pow 2 k) : Int) - 1 - k

/-- 末尾の 0 を指数に移す。 -/
def Digits.trim (d : Digits) : Digits :=
  if h : d.coeff ≠ 0 ∧ d.coeff % 10 = 0 then
    Digits.trim ⟨d.coeff / 10, d.exp + 1⟩
  else d
termination_by d.coeff
decreasing_by exact Nat.div_lt_self (Nat.pos_of_ne_zero h.1) (by decide)

/-- `n` 桁の格子で区間に入る点。両隣とも入れば近い方、中点なら偶数の方。 -/
def Binary.onGrid? (b : Binary) (n : Nat) : Option Digits :=
  let t := b.exp - 2
  let v := 4 * b.mant
  let lo := v - (if b.narrowBelow then 1 else 2)
  let hi := v + 2
  let closed := b.mant % 2 == 0
  let s := decimalExponent v t + 1 - n
  let f := floorGrid v t s
  let c := f + 1
  let fIn := match cmpGrid f s lo t with
    | .gt => true
    | .eq => closed
    | .lt => false
  let cIn := match cmpGrid c s hi t with
    | .lt => true
    | .eq => closed
    | .gt => false
  match fIn, cIn with
  | true, true =>
    match cmpGrid (2 * f + 1) s (2 * v) t with
    | .gt => some ⟨f, s⟩
    | .lt => some ⟨c, s⟩
    | .eq => some ⟨if f % 2 == 0 then f else c, s⟩
  | true, false => some ⟨f, s⟩
  | false, true => some ⟨c, s⟩
  | false, false => none

/-- 最短の十進表記。係数の末尾に 0 はない。ゼロは `⟨0, 0⟩`。 -/
def Binary.shortest (b : Binary) : Digits :=
  if b.mant = 0 then ⟨0, 0⟩
  else
    let found := (List.range 17).findSome? fun i => b.onGrid? (i + 1)
    match found with
    | some d => d.trim
    | none =>
      let s := decimalExponent (4 * b.mant) (b.exp - 2) - 16
      (Digits.mk (floorGrid (4 * b.mant) (b.exp - 2) s) s).trim

/-- 表記の決め事。位取りで書く範囲と、整数値に `.0` を付けるか。 -/
structure Notation where
  /-- 先頭桁の位置 `kk`（値が `10^(kk-1)` 以上 `10^kk` 未満）で位取りを使うか。 -/
  positional : Int → Bool
  /-- 整数になる値にも `.0` を付ける。 -/
  pointZero : Bool
  /-- 指数表記の指数の前に正号を付ける。 -/
  plusExponent : Bool

/-- 文字 `c` を `n` 個。 -/
def repeatChar (c : Char) (n : Nat) : String := String.ofList (List.replicate n c)

/-- 係数 `coeff`（末尾に 0 なし）と指数 `exp` を表記 `nt` で書く。符号は付けない。 -/
def Digits.render (nt : Notation) (d : Digits) : String :=
  let ds := toString d.coeff
  let len : Int := ds.length
  let kk := len + d.exp
  if d.coeff = 0 then (if nt.pointZero then "0.0" else "0")
  else if nt.positional kk then
    if 0 ≤ d.exp then
      ds ++ repeatChar '0' d.exp.toNat ++ (if nt.pointZero then ".0" else "")
    else if 0 < kk then
      String.ofList (ds.toList.take kk.toNat) ++ "." ++ String.ofList (ds.toList.drop kk.toNat)
    else
      "0." ++ repeatChar '0' (-kk).toNat ++ ds
  else
    let e := kk - 1
    let mant := if len = 1 then ds
      else String.ofList (ds.toList.take 1) ++ "." ++ String.ofList (ds.toList.drop 1)
    mant ++ "e" ++ (if nt.plusExponent && 0 ≤ e then "+" else "") ++ toString e

/-- データ交換と誤りの文言に使う数値表記。先頭桁の位置が `-5 < kk ≤ 16` なら位取り、ほかは
指数表記で、正の指数には `+` を付ける（`1e+19`、`5e-324`）。整数値にも `.0` を付けるので、
読み手は整数と取り違えない。 -/
def Notation.interchange : Notation :=
  ⟨fun kk => -5 < kk && kk ≤ 16, true, true⟩

/-- 有限な数を最短の桁で書く。負の数と負のゼロには `-` を付ける。非有限なら `none`。 -/
def shortestText? (nt : Notation) (x : Float) : Option String :=
  (Binary.ofFloat? x).map fun b => (if b.neg then "-" else "") ++ b.shortest.render nt

end PlotGeometry.Decimal
