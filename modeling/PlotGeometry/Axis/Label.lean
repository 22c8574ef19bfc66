import PlotGeometry.Decimal.Scaled
import PlotGeometry.Decimal.Fixed
/-!
# Y 軸のラベル

目盛りの値を、単位の接頭辞と決まった小数の桁数で書く。

* 接頭辞 — SI（P、T、G、M、K = 10^15 … 10^3）か二進（Pi … Ki = 2^50 … 2^10）の表を大きい方から
  見て、値の絶対値と刻みの両方が届く最初のもの。なければ接頭辞なし（大きさ 1）
* 桁数 — 刻みを大きさで割ったものの `stepPlaces`：十進小数にして小数 6 桁に丸め、末尾の 0 を
  除いた桁数（十進小数にできなければ 2）。十進小数への変換と丸めは十進小数の部品に任せる
* 値を大きさで割り、その桁数の固定小数点で書く。絶対値を書くと 0 と `.` だけになるなら
  正のゼロとして書く（`-0.00` にならない）。接頭辞があれば空白を挟んで後ろに付ける

## 停止性

再帰はない。
-/

namespace PlotGeometry

/-- 単位の接頭辞の体系。 -/
inductive UnitSystem where
  | si | binary | none
  deriving DecidableEq, Inhabited

/-- 接頭辞とその大きさ（大きい方から）。 -/
def UnitSystem.prefixes : UnitSystem → List (String × Float)
  | .si => [("P", 1e15), ("T", 1e12), ("G", 1e9), ("M", 1e6), ("K", 1e3)]
  | .binary => [("Pi", 1125899906842624.0), ("Ti", 1099511627776.0), ("Gi", 1073741824.0),
                ("Mi", 1048576.0), ("Ki", 1024.0)]
  | .none => []

/-- 値と刻みの両方が届く最大の接頭辞。なければ `("", 1)`。 -/
def unitPrefix (value step : Float) (system : UnitSystem) : String × Float :=
  match system.prefixes.find? (fun (_, size) => size ≤ value.abs && size ≤ step) with
  | some p => p
  | none => ("", 1.0)

/-- 0 と小数点だけでできた表記か。 -/
def allZeroDigits (s : String) : Bool := s.toList.all fun c => c == '0' || c == '.'

/-- ラベルに使う小数の最大の桁数。 -/
def maxLabelPlaces : Nat := 6

/-- 刻みの倍数を書くのに要る小数の桁数。`decimalScale x dp` は十進小数の部品が与える、`x` を
小数 `dp` 桁に丸めて末尾の 0 を除いたときの桁数（十進小数にできなければ `none`）。 -/
def stepPlaces (decimalScale : Float → Nat → Option Nat) (step : Float) : Nat :=
  (decimalScale step maxLabelPlaces).getD 2

/-- 目盛りの値のラベル。 -/
def formatYLabel (decimalScale : Float → Nat → Option Nat) (value step : Float)
    (system : UnitSystem) : String :=
  let (pre, size) := unitPrefix value step system
  let places := stepPlaces decimalScale (step / size)
  let scaled := value / size
  let scaled := if allZeroDigits (Decimal.fixedText places scaled.abs) then 0.0 else scaled
  let number := Decimal.fixedText places scaled
  if pre.isEmpty then number else number ++ " " ++ pre

end PlotGeometry
