import PlotGeometry.Paint.Color
import PlotGeometry.Numeric.Int64
/-!
# 時系列

名前の付いた、一定の刻みの時系列。時刻は UNIX 秒で、`stopTime` はその時刻を含まない。
`values[i]` に意味があるのは `absent[i]` が偽のときだけ（欠けた点）。

* `valueAt i` — 欠けておらず有限な値だけ。範囲外や欠けた点は `none`
* `presentValues` — `valueAt` が値を返す点の値を時刻順に
* `shapeFault?` — 値と欠けの印の数が違う、または 2 点以上あるのに刻みが正でない
* `rangeFault?` — 終わりの時刻が始まりより前

## 停止性

再帰はない。
-/

namespace PlotGeometry

/-- 時系列が縮尺に使う Y 軸。 -/
inductive AxisSide where
  | primary | secondary
  deriving DecidableEq, Inhabited

/-- 配置のときに決まる線の見た目。 -/
structure SeriesStyle where
  color : Color
  lineWidth : Float
  dashed : Bool
  deriving Inhabited

/-- 時系列。 -/
structure Series where
  name : String
  startTime : Int
  stopTime : Int
  stepTime : Int
  values : Array Float
  absent : Array Bool
  axis : AxisSide := .primary
  /-- 呼び手が指定した色。 -/
  color : Option Color := none
  /-- 配置で決まる見た目。決まるまでは `none`。 -/
  style : Option SeriesStyle := none
  deriving Inhabited

/-- 時系列の形の誤り。 -/
inductive SeriesFault where
  /-- 値の数と欠けの印の数が違う。 -/
  | flagCount (values flags : Nat)
  /-- 2 点以上あるのに刻みが正でない。 -/
  | nonPositiveStep (step : Int)
  /-- 終わりの時刻が始まりより前。 -/
  | stopBeforeStart (stop start : Int)
  /-- 最後の点の時刻が、全体の始まりより前。 -/
  | lastBeforeStart (last start : Int)

/-- 誤りの理由の文言。 -/
def SeriesFault.reason : SeriesFault → String
  | .flagCount v f => toString v ++ " values but " ++ toString f ++ " absence flags"
  | .nonPositiveStep s => "step must be > 0, got " ++ toString s
  | .stopBeforeStart stop start => "stop time " ++ toString stop ++ " precedes start time " ++ toString start
  | .lastBeforeStart last start =>
    "last sample " ++ toString last ++ " precedes the earliest start " ++ toString start

/-- 64 ビットの計算が範囲を越えた。検査付きの足し算、引き算、掛け算のどれか。 -/
inductive Overflow where
  | add | sub | mul

/-- 範囲越えの文言。 -/
def Overflow.message : Overflow → String
  | .add => "attempt to add with overflow"
  | .sub => "attempt to subtract with overflow"
  | .mul => "attempt to multiply with overflow"

/-- 検査付きの 64 ビットの足し算。 -/
def addI64 (a b : Int) : Except Overflow Int :=
  match inI64? (a + b) with
  | some x => .ok x
  | none => .error .add

/-- 検査付きの 64 ビットの引き算。 -/
def subI64 (a b : Int) : Except Overflow Int :=
  match inI64? (a - b) with
  | some x => .ok x
  | none => .error .sub

/-- 検査付きの 64 ビットの掛け算。 -/
def mulI64 (a b : Int) : Except Overflow Int :=
  match inI64? (a * b) with
  | some x => .ok x
  | none => .error .mul

namespace Series

/-- 始まり、刻み、点の数から終わりの時刻。`start + step × n` を検査付きで。 -/
def stopAfter (start step : Int) (n : Nat) : Except Overflow Int := do
  addI64 start (← mulI64 step n)

/-- 欠けを `none` で表した標本の並びからの時系列。 -/
def ofSamples (name : String) (start step : Int) (samples : List (Option Float)) :
    Except Overflow Series := do
  let stop ← stopAfter start step samples.length
  return { name, startTime := start, stopTime := stop, stepTime := step,
           values := (samples.map fun s => s.getD 0.0).toArray,
           absent := (samples.map Option.isNone).toArray }

/-- 点の数。 -/
def pointCount (s : Series) : Nat := s.values.size

/-- 欠けた点があるか。 -/
def hasAbsent (s : Series) : Bool := s.absent.any id

/-- `i` 番目の値。欠けた点、範囲外、有限でない値は `none`。 -/
def valueAt (s : Series) (i : Nat) : Option Float :=
  match s.absent[i]? with
  | some false =>
    match s.values[i]? with
    | some v => if v.isFinite then some v else none
    | none => none
  | _ => none

/-- 欠けていない有限な値を時刻順に。 -/
def presentValues (s : Series) : List Float :=
  (List.range s.values.size).filterMap s.valueAt

/-- 形の検査。 -/
def shapeFault? (s : Series) : Option SeriesFault :=
  if s.values.size ≠ s.absent.size then some (.flagCount s.values.size s.absent.size)
  else if 1 < s.values.size ∧ s.stepTime ≤ 0 then some (.nonPositiveStep s.stepTime)
  else none

/-- 時刻の範囲の検査。 -/
def rangeFault? (s : Series) : Option SeriesFault :=
  if s.stopTime < s.startTime then some (.stopBeforeStart s.stopTime s.startTime) else none

end Series

end PlotGeometry
