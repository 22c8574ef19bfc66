import PlotGeometry.Decimal.Binary
/-!
# 固定小数点表記

小数点以下をちょうど `p` 桁で書く表記。丸めるのは倍精度数が表す二進の値そのもので、
ちょうど半分のときは偶数の側へ寄せる（`0.25` は 1 桁で `0.2`、`0.35` は二進では
`0.34999…` なので `0.3`）。負の数は、丸めて 0 になっても `-` を付ける。

## 停止性

再帰はない。
-/

namespace PlotGeometry.Decimal

/-- 商 `num / den` を整数に丸める。半分ちょうどは偶数へ。 -/
def roundHalfEven (num den : Nat) : Nat :=
  let q := num / den
  let r := num % den
  if den < 2 * r then q + 1
  else if 2 * r = den then (if q % 2 == 0 then q else q + 1)
  else q

/-- 絶対値が `b` の数を小数点以下 `p` 桁で丸めた整数（値の `10^p` 倍）。 -/
def Binary.scaledRound (b : Binary) (p : Nat) : Nat :=
  roundHalfEven (b.mant * Nat.pow 2 b.exp.toNat * Nat.pow 10 p) (Nat.pow 2 (-b.exp).toNat)

/-- 整数 `n` を、下 `p` 桁を小数部として書く。整数部は少なくとも 1 桁。 -/
def pointText (n p : Nat) : String :=
  let ds := (Nat.toDigits 10 n)
  let padded := List.replicate (p + 1 - ds.length) '0' ++ ds
  let k := padded.length - p
  if p = 0 then String.ofList padded
  else String.ofList (padded.take k) ++ "." ++ String.ofList (padded.drop k)

/-- 小数点以下 `p` 桁の表記。NaN は `NaN`、無限大は `inf` と `-inf`。 -/
def fixedText (p : Nat) (x : Float) : String :=
  match Binary.ofFloat? x with
  | some b => (if b.neg then "-" else "") ++ pointText (b.scaledRound p) p
  | none => if x.isNaN then "NaN" else if 0 < x then "inf" else "-inf"

end PlotGeometry.Decimal
