/-!
# 警告

設定の誤りを読み替えて先へ進んだことの記録。警告は結果と一緒に、起きた順の
並びとして返す。

## 停止性

再帰はない。
-/

namespace PlotGeometry

/-- 読み替えた設定の誤り。 -/
inductive Warning where
  /-- 軸の上書きの値が有限でない。 -/
  | nonFiniteOverride
  /-- 軸の刻みの上書きが正でない。 -/
  | nonPositiveStep
  /-- 軸の下限の上書きが上限以上。 -/
  | invertedBounds
  /-- Y の刻みの上書きでは目盛りが多すぎる。 -/
  | tooManyYTicks
  /-- 時差が 1 日以上。 -/
  | offsetOutOfRange
  /-- 対数の底が使えない。 -/
  | invalidLogBase
  /-- X の範囲の上書きでは時間の幅がなくなる。 -/
  | emptyXOverride
  /-- X の刻みの上書きではラベルが多すぎる。 -/
  | tooManyXLabels
  /-- 時間の幅が目盛りの表を越え、ラベルの間隔を広げた。 -/
  | wideningLabels
  /-- X の上書きが表せる時刻の範囲の外。 -/
  | unrepresentableXOverride
  deriving DecidableEq

/-- 警告の文言。 -/
def Warning.message : Warning → String
  | .nonFiniteOverride => "ignoring non-finite axis override"
  | .nonPositiveStep => "ignoring non-positive axis step override"
  | .invertedBounds => "ignoring inverted axis bounds override"
  | .tooManyYTicks => "y step override yields too many ticks; using auto step"
  | .offsetOutOfRange => "ignoring out-of-range utc offset"
  | .invalidLogBase => "ignoring invalid logarithm base; using linear y axis"
  | .emptyXOverride => "ignoring x range override that leaves an empty time range"
  | .tooManyXLabels => "x step override yields too many labels; using table step"
  | .wideningLabels => "time range outgrows the tick table; widening label interval"
  | .unrepresentableXOverride => "ignoring x override outside the representable time range"

end PlotGeometry
