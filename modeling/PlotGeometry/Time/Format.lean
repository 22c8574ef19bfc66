import PlotGeometry.Time.Calendar
import PlotGeometry.Time.Pattern
/-!
# 時刻の書き出し

UNIX 秒と固定の時差（秒、`-86400 < 時差 < 86400`）から、型紙の項目を順に書く。

* 数の項目は幅まで詰める（年 4、日の番号、ナノ秒と UNIX 秒 9、四半期と曜日の番号 1、
  ほか 2）。負の数は符号の後ろを詰める。
* 幅 2 の項目は値を 256 で割った余り（1 バイト）にして 2 文字で書く。十の位が 10 以上なら
  数字 `9` の後に続く文字になる（年の百の位 100 は `:0`、255 は `I5`、−1 も `I5`）。
* 年と ISO 年が 0 から 9999 の外なら、符号を付けて幅を 1 増やす（`+10000`、`-0001`）。
* 時差 `%z` は分に丸めて `+hhmm`、`%:z` は `+hh:mm`、`%::z` は秒まで、`%:::z` は時だけ。
  `%Z` は `+hh:mm`（秒が 0 でなければ `:ss` も）。
* 秒の小数部はいつも 0（時刻は秒単位）。

表せる日付は UTC で年 −262143 から 262142 まで（`Calendar.gregorian`）。型紙に誤りがあれば
書き出せない（`none`）。

## 停止性

再帰はない。
-/

namespace PlotGeometry.Time

/-- 曜日の略称（日曜から）。 -/
def shortWeekdays : List String := ["Sun", "Mon", "Tue", "Wed", "Thu", "Fri", "Sat"]
/-- 曜日の名前（日曜から）。 -/
def longWeekdays : List String :=
  ["Sunday", "Monday", "Tuesday", "Wednesday", "Thursday", "Friday", "Saturday"]
/-- 月の略称。 -/
def shortMonths : List String :=
  ["Jan", "Feb", "Mar", "Apr", "May", "Jun", "Jul", "Aug", "Sep", "Oct", "Nov", "Dec"]
/-- 月の名前。 -/
def longMonths : List String :=
  ["January", "February", "March", "April", "May", "June", "July", "August", "September",
   "October", "November", "December"]

/-- 文字 `c` で左を詰めて幅 `w` にする。 -/
def padLeft (c : Char) (w : Nat) (s : String) : String :=
  String.ofList (List.replicate (w - s.length) c) ++ s

/-- 整数を幅 `w` に詰めて書く。0 詰めは符号の後ろ、空白詰めは符号の前。 -/
def padInt (pad : Pad) (w : Nat) (v : Int) (plus : Bool) : String :=
  let sign := if v < 0 then "-" else if plus then "+" else ""
  let digits := toString v.natAbs
  match pad with
  | .none => sign ++ digits
  | .zero => sign ++ padLeft '0' (w - sign.length) digits
  | .space => padLeft ' ' w (sign ++ digits)

/-- 1 バイトの値を 2 文字で書く。十の位が 0 なら詰め方に従い、10 以上なら数字 `9` の
後に続く文字。 -/
def byteText (pad : Pad) (v : Int) : String :=
  let b := (v % 256).toNat
  let ones := Char.ofNat (48 + b % 10)
  let tens := b / 10
  if tens == 0 then
    match pad with
    | .none => String.singleton ones
    | .zero => String.ofList ['0', ones]
    | .space => String.ofList [' ', ones]
  else String.ofList [Char.ofNat (48 + tens), ones]

/-- 2 桁の 0 詰め。 -/
def twoDigits (n : Nat) : String := padLeft '0' 2 (toString n)

/-- 書き出しに使う日時の値。 -/
structure Moment where
  /-- UTC の UNIX 秒。 -/
  utc : Int
  /-- 時差（秒）。 -/
  offset : Int
  /-- 時差を足した日付と時刻。 -/
  wall : LocalTime

/-- UNIX 秒と時差から。 -/
def Moment.of (ts offset : Int) : Moment := ⟨ts, offset, LocalTime.ofSeconds (ts + offset)⟩

/-- 12 時間制の時（0 時は 12 時）。 -/
def hour12 (h : Nat) : Nat := if h % 12 == 0 then 12 else h % 12

/-- 数の欄の値と幅。 -/
def Moment.field (m : Moment) : Field → Int × Nat
  | .year => (m.wall.date.year, 4)
  | .yearDiv100 => (m.wall.date.year / 100, 2)
  | .yearMod100 => (m.wall.date.year % 100, 2)
  | .isoYear => ((isoWeek m.wall.day).1, 4)
  | .isoYearMod100 => ((isoWeek m.wall.day).1 % 100, 2)
  | .quarter => ((m.wall.date.month - 1) / 3 + 1, 1)
  | .month => (m.wall.date.month, 2)
  | .day => (m.wall.date.day, 2)
  | .weekFromSun =>
    let wd := weekdayFromSunday m.wall.day
    (((ordinalOf m.wall.date : Int) - wd + 6) / 7, 2)
  | .weekFromMon =>
    let wd := (weekdayFromSunday m.wall.day + 6) % 7
    (((ordinalOf m.wall.date : Int) - wd + 6) / 7, 2)
  | .isoWeek => ((isoWeek m.wall.day).2, 2)
  | .daysFromSun => (weekdayFromSunday m.wall.day, 1)
  | .weekdayFromMon => ((weekdayFromSunday m.wall.day + 6) % 7 + 1, 1)
  | .ordinal => (ordinalOf m.wall.date, 3)
  | .hour => (m.wall.clock.hour, 2)
  | .hour12 => (hour12 m.wall.clock.hour, 2)
  | .minute => (m.wall.clock.minute, 2)
  | .second => (m.wall.clock.second, 2)
  | .nanosecond => (0, 9)
  | .timestamp => (m.utc, 9)

/-- 時差の書き方の精度。 -/
inductive OffsetPrecision where
  | hours | minutes | seconds

/-- 時差を書く。`colons` なら区切りにコロン。分の精度では秒を分に丸める。 -/
def offsetText (off : Int) (precision : OffsetPrecision) (colons : Bool) : String :=
  let sign := if off < 0 then "-" else "+"
  let a := off.natAbs
  let (h, mi, s) := match precision with
    | .hours => (a / 3600, 0, 0)
    | .minutes => ((a + 30) / 60 / 60, (a + 30) / 60 % 60, 0)
    | .seconds => (a / 60 / 60, a / 60 % 60, a % 60)
  let sep := if colons then ":" else ""
  let hh := sign ++ twoDigits h
  match precision with
  | .hours => hh
  | .minutes => hh ++ sep ++ twoDigits mi
  | .seconds => hh ++ sep ++ twoDigits mi ++ sep ++ twoDigits s

/-- 時差の名前（`+05:30`、秒があれば `+05:30:15`）。 -/
def zoneName (off : Int) : String :=
  let sign := if off < 0 then "-" else "+"
  let a := off.natAbs
  let base := sign ++ twoDigits (a / 60 / 60) ++ ":" ++ twoDigits (a / 60 % 60)
  if a % 60 == 0 then base else base ++ ":" ++ twoDigits (a % 60)

/-- 年を 4 桁で。0 から 9999 の外なら符号付き。 -/
def yearText (y : Int) : String :=
  if 0 ≤ y ∧ y ≤ 9999 then padInt .zero 4 y false else padInt .zero 5 y true

/-- 数でない欄。書けなければ `none`。 -/
def Moment.fixed (m : Moment) : Fixed → Option String
  | .shortWeekday => shortWeekdays[weekdayFromSunday m.wall.day]?
  | .longWeekday => longWeekdays[weekdayFromSunday m.wall.day]?
  | .shortMonth => shortMonths[m.wall.date.month - 1]?
  | .longMonth => longMonths[m.wall.date.month - 1]?
  | .lowerAmPm => some (if 12 ≤ m.wall.clock.hour then "pm" else "am")
  | .upperAmPm => some (if 12 ≤ m.wall.clock.hour then "PM" else "AM")
  | .nanoAuto => some ""
  | .nano3 => some ".000"
  | .nano6 => some ".000000"
  | .nano9 => some ".000000000"
  | .nano3NoDot => some "000"
  | .nano6NoDot => some "000000"
  | .nano9NoDot => some "000000000"
  | .zoneName => some (zoneName m.offset)
  | .offset => some (offsetText m.offset .minutes false)
  | .offsetColon => some (offsetText m.offset .minutes true)
  | .offsetDoubleColon => some (offsetText m.offset .seconds true)
  | .offsetTripleColon => some (offsetText m.offset .hours false)
  | .offsetPermissive => none
  | .rfc3339 =>
    let d := m.wall.date
    let c := m.wall.clock
    some (yearText d.year ++ "-" ++ twoDigits d.month ++ "-" ++ twoDigits d.day ++ "T" ++
      twoDigits c.hour ++ ":" ++ twoDigits c.minute ++ ":" ++ twoDigits c.second ++
      offsetText m.offset .minutes true)

/-- 一つの項目を書く。 -/
def Moment.item (m : Moment) : Item → Option String
  | .literal c => some (String.singleton c)
  | .text s => some s
  | .numeric f pad =>
    let (v, w) := m.field f
    if (f == .year || f == .isoYear) && !(0 ≤ v && v < 10000) then some (padInt pad (w + 1) v true)
    else if w == 2 then some (byteText pad v)
    else some (padInt pad w v false)
  | .fixed f => m.fixed f
  | .error => none

/-- 項目の並びを書く。一つでも書けなければ `none`。 -/
def Moment.render (m : Moment) (items : List Item) : Option String :=
  (items.mapM m.item).map String.join

/-- 先発グレゴリオ暦の部品：表せる年の範囲、1 日未満の時差、型紙による書き出し。 -/
def Calendar.gregorian : Calendar :=
  ⟨Time.representable, Time.validOffset,
    fun ts pattern offset => (Moment.of ts offset).render (parse pattern.toList)⟩

end PlotGeometry.Time
