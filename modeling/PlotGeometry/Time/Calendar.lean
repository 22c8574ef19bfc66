/-!
# 暦

X のラベルは、暦の部品（`Calendar`）に三つの計算を任せる：時刻が暦で表せるか、秒数が固定の
時差として使えるか、表せる時刻を地方時で型紙のとおりに書くこと。`formatTimestamp` はそれを
使ってラベルを書き、表せない時刻は秒数をそのまま書く。

ここに置く部品の中身（`Calendar.gregorian` は時刻の書き出しの側）は先発グレゴリオ暦。日は
1970-01-01 からの通し番号（負も可）。年 0 は紀元前 1 年。

`civilOfDay` は通し番号から年・月・日を出す。400 年（146097 日）の周期に分け、
周期の中では 3 月始まりの年で数えるので、閏日は年の最後に来る。

## 停止性

再帰はない。
-/

namespace PlotGeometry.Time

/-- 暦の部品が与える計算。時刻は 1970-01-01 0 時（UTC）からの秒。 -/
structure Calendar where
  /-- その時刻が暦で表せるか。 -/
  representable : Int → Bool
  /-- その秒数が固定の時差として使えるか。 -/
  validOffset : Int → Bool
  /-- 表せる時刻を、時差 `offset` の地方時で型紙のとおりに書く。型紙が誤りなら `none`。 -/
  formatLocal : Int → String → Int → Option String

/-- 時刻のラベル。表せなければ秒数をそのまま十進で書く。型紙が誤りなら `none`。 -/
def formatTimestamp (cal : Calendar) (ts : Int) (pattern : String) (offset : Int) : Option String :=
  if cal.representable ts then cal.formatLocal ts pattern offset else some (toString ts)

/-- 年・月・日。 -/
structure CivilDate where
  year : Int
  month : Nat
  day : Nat
  deriving DecidableEq, Repr

/-- 閏年か。 -/
def isLeap (y : Int) : Bool := y % 4 == 0 && (y % 100 != 0 || y % 400 == 0)

/-- 1970-01-01 からの日数から年・月・日。 -/
def civilOfDay (z : Int) : CivilDate :=
  let z := z + 719468
  let era := z / 146097
  let doe := z - era * 146097
  let yoe := (doe - doe / 1460 + doe / 36524 - doe / 146096) / 365
  let y := yoe + era * 400
  let doy := doe - (365 * yoe + yoe / 4 - yoe / 100)
  let mp := (5 * doy + 2) / 153
  let d := doy - (153 * mp + 2) / 5 + 1
  let m := if mp < 10 then mp + 3 else mp - 9
  ⟨if m ≤ 2 then y + 1 else y, m.toNat, d.toNat⟩

/-- 年・月・日から 1970-01-01 からの日数。 -/
def dayOfCivil (date : CivilDate) : Int :=
  let m : Int := date.month
  let y := if m ≤ 2 then date.year - 1 else date.year
  let era := y / 400
  let yoe := y - era * 400
  let mp := if 2 < m then m - 3 else m + 9
  let doy := (153 * mp + 2) / 5 + date.day - 1
  let doe := yoe * 365 + yoe / 4 - yoe / 100 + doy
  era * 146097 + doe - 719468

/-- 曜日。日曜が 0。 -/
def weekdayFromSunday (z : Int) : Nat := ((z + 4) % 7).toNat

/-- その年の 1 月 1 日を 1 とする日の番号。 -/
def ordinalOf (date : CivilDate) : Nat :=
  (dayOfCivil date - dayOfCivil ⟨date.year, 1, 1⟩ + 1).toNat

/-- ISO 週の数え方でのその年の週の数（52 か 53）。 -/
def isoWeeksIn (y : Int) : Nat :=
  let jan1 := weekdayFromSunday (dayOfCivil ⟨y, 1, 1⟩)
  if jan1 == 4 || (isLeap y && jan1 == 3) then 53 else 52

/-- ISO 週の年と週番号。週は月曜に始まり、その年の木曜を含む週が第 1 週。 -/
def isoWeek (z : Int) : Int × Nat :=
  let date := civilOfDay z
  let isoDay : Int := ((weekdayFromSunday z + 6) % 7 : Nat) + 1
  let week := ((ordinalOf date : Int) - isoDay + 10) / 7
  if week < 1 then (date.year - 1, isoWeeksIn (date.year - 1))
  else if isoWeeksIn date.year < week.toNat then (date.year + 1, 1)
  else (date.year, week.toNat)

/-- 時計の時刻。 -/
structure ClockTime where
  hour : Nat
  minute : Nat
  second : Nat

/-- 日付と時刻。`day` は通し番号。 -/
structure LocalTime where
  day : Int
  date : CivilDate
  clock : ClockTime

/-- 1970-01-01T00:00:00 からの秒数（負も可）を日付と時刻に。 -/
def LocalTime.ofSeconds (s : Int) : LocalTime :=
  let day := s / 86400
  let sec := (s % 86400).toNat
  ⟨day, civilOfDay day, ⟨sec / 3600, sec % 3600 / 60, sec % 60⟩⟩

/-- 表せる最初の年。 -/
def minYear : Int := -262143

/-- 表せる最後の年。 -/
def maxYear : Int := 262142

/-- UTC でのその秒が表せる日付の範囲にあるか。 -/
def representable (ts : Int) : Bool :=
  let y := (civilOfDay (ts / 86400)).year
  minYear ≤ y && y ≤ maxYear

/-- 固定の時差として使える秒数か（1 日未満）。 -/
def validOffset (secs : Int) : Bool := -86400 < secs && secs < 86400

end PlotGeometry.Time
