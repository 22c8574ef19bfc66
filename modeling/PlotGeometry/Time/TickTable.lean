import PlotGeometry.Numeric.Float
/-!
# X 軸の目盛りの表

時間の幅と描く幅（画素）から、X 軸の細かさの行を選ぶ。表は 1 画素あたりの秒数の
昇順に 23 行。各行は、副格子・主格子・ラベルの単位と刻み、ラベルの型紙、その行が
想定する最長の時間の幅を持つ。

* 密度 — 時間の幅 / 描く幅。描く幅が正でなければ無限大
* 行の選び方 — 1 画素あたりの秒数が密度以上で、最長の幅が時間の幅以上の最初の行。
  なければ最後の行
* 揃った時刻 — `[start, end]` の中の、間隔の倍数の時刻

## 停止性

再帰はない。
-/

namespace PlotGeometry.Time

/-- 格子とラベルの単位。 -/
inductive TimeUnit where
  | second | minute | hour | day
  deriving DecidableEq

/-- 単位の秒数。 -/
def TimeUnit.seconds : TimeUnit → Nat
  | .second => 1
  | .minute => 60
  | .hour => 3600
  | .day => 86400

/-- 表の一行。 -/
structure TickSpec where
  /-- この行を使う 1 画素あたりの秒数の上限。 -/
  secondsPerPixel : Float
  minorUnit : TimeUnit
  minorStep : Float
  majorUnit : TimeUnit
  majorStep : Float
  labelUnit : TimeUnit
  labelStep : Float
  /-- ラベルの型紙。 -/
  format : String
  /-- この行が想定する最長の時間の幅（秒）。 -/
  maxInterval : Nat

namespace TickSpec

/-- ラベルの間隔（秒）。 -/
def labelInterval (s : TickSpec) : Float := s.labelUnit.seconds.toFloat * s.labelStep
/-- 副格子の間隔（秒）。 -/
def minorInterval (s : TickSpec) : Float := s.minorUnit.seconds.toFloat * s.minorStep
/-- 主格子の間隔（秒）。 -/
def majorInterval (s : TickSpec) : Float := s.majorUnit.seconds.toFloat * s.majorStep

end TickSpec

/-- 一行を作る。 -/
def row (spp : Float) (minor : TimeUnit × Float) (major : TimeUnit × Float) (label : TimeUnit × Float)
    (format : String) (maxInterval : Nat) : TickSpec :=
  ⟨spp, minor.1, minor.2, major.1, major.2, label.1, label.2, format, maxInterval⟩

/-- 1 分、1 時間、1 日の秒数。 -/
def minuteS : Nat := 60
def hourS : Nat := 3600
def dayS : Nat := 86400

/-- 目盛りの表。1 画素あたりの秒数の昇順。 -/
def tickTable : List TickSpec :=
  [ row 0.0 (.second, 5.0) (.minute, 1.0) (.second, 5.0) "%H:%M:%S" (10 * minuteS),
    row 0.07 (.second, 10.0) (.minute, 1.0) (.second, 10.0) "%H:%M:%S" (20 * minuteS),
    row 0.14 (.second, 15.0) (.minute, 1.0) (.second, 15.0) "%H:%M:%S" (30 * minuteS),
    row 0.27 (.second, 30.0) (.minute, 2.0) (.minute, 1.0) "%H:%M" (2 * hourS),
    row 0.5 (.minute, 1.0) (.minute, 2.0) (.minute, 1.0) "%H:%M" (2 * hourS),
    row 1.2 (.minute, 1.0) (.minute, 4.0) (.minute, 2.0) "%H:%M" (3 * hourS),
    row 2.0 (.minute, 1.0) (.minute, 10.0) (.minute, 5.0) "%H:%M" (6 * hourS),
    row 5.0 (.minute, 2.0) (.minute, 10.0) (.minute, 10.0) "%H:%M" (12 * hourS),
    row 10.0 (.minute, 5.0) (.minute, 20.0) (.minute, 20.0) "%H:%M" dayS,
    row 30.0 (.minute, 10.0) (.hour, 1.0) (.hour, 1.0) "%H:%M" (2 * dayS),
    row 60.0 (.minute, 30.0) (.hour, 2.0) (.hour, 2.0) "%H:%M" (2 * dayS),
    row 100.0 (.hour, 2.0) (.hour, 4.0) (.hour, 4.0) "%a %l%p" (2 * dayS),
    row 255.0 (.hour, 6.0) (.hour, 12.0) (.hour, 12.0) "%a %l%p" (10 * dayS),
    row 600.0 (.hour, 6.0) (.day, 1.0) (.day, 1.0) "%m/%d" (14 * dayS),
    row 1200.0 (.hour, 12.0) (.day, 1.0) (.day, 1.0) "%m/%d" (365 * dayS),
    row 2000.0 (.day, 1.0) (.day, 2.0) (.day, 2.0) "%m/%d" (365 * dayS),
    row 4000.0 (.day, 2.0) (.day, 4.0) (.day, 4.0) "%m/%d" (365 * dayS),
    row 8000.0 (.day, 3.5) (.day, 7.0) (.day, 7.0) "%m/%d" (365 * dayS),
    row 16000.0 (.day, 7.0) (.day, 14.0) (.day, 14.0) "%m/%d" (365 * dayS),
    row 32000.0 (.day, 15.0) (.day, 30.0) (.day, 30.0) "%m/%d" (365 * dayS),
    row 64000.0 (.day, 30.0) (.day, 60.0) (.day, 60.0) "%m/%d %Y" (365 * dayS),
    row 100000.0 (.day, 60.0) (.day, 120.0) (.day, 120.0) "%m/%d %Y" (365 * dayS),
    row 120000.0 (.day, 120.0) (.day, 240.0) (.day, 240.0) "%m/%d %Y" (365 * dayS) ]

/-- 表の最後の行（最も粗い）。 -/
def coarsestRow : TickSpec :=
  row 120000.0 (.day, 120.0) (.day, 240.0) (.day, 240.0) "%m/%d %Y" (365 * dayS)

/-- 1 画素あたりの秒数。描く幅が正でなければ無限大。 -/
def timeDensity (range width : Float) : Float :=
  if 0.0 < width then range / width else 1.0 / 0.0

/-- 行がこの幅と密度に合うか。 -/
def TickSpec.fits (s : TickSpec) (range density : Float) : Bool :=
  density ≤ s.secondsPerPixel && range ≤ s.maxInterval.toFloat

/-- 選んだ行の番号。合う行がなければ最後の行。 -/
def selectRowIndex (range width : Float) : Nat :=
  let density := timeDensity range width
  match tickTable.findIdx? (fun s => s.fits range density) with
  | some i => i
  | none => tickTable.length - 1

/-- 選んだ行。 -/
def selectTickSpec (range width : Float) : TickSpec :=
  tickTable.getD (selectRowIndex range width) coarsestRow

/-- `[start, end]` の中の、間隔の倍数の時刻。各時刻は丸めて整数に。 -/
def alignedTimes (start stop : Int) (interval : Float) : List Int :=
  if !interval.isFinite || interval ≤ 0.0 || stop < start then []
  else
    let first := ceilNum (Float.ofInt start / interval) * interval
    let count := floorNum ((Float.ofInt stop - first) / interval)
    if count < 0.0 then []
    else
      (List.range ((toInt64Sat count).toNat + 1)).map fun i =>
        toInt64Sat (roundNum (first + Float.ofNat i * interval))

end PlotGeometry.Time
