/-!
# 時刻の書式の型紙

`%` で始まる指定子と、それ以外の文字（そのまま写す）からなる型紙を、項目の並びに読む。

* 数の項目（年、月、日、時、…）は幅と詰め方（0、空白、詰めない）を持つ。`%-`、`%0`、
  `%_` は直後の数の項目一つの詰め方を変える。数でない項目や、複数の項目に展開される
  指定子（`%D`、`%c` など）に付ければ誤り。
* `%:z`、`%::z`、`%:::z` は時差の書き方、`%.f`、`%.3f`、`%3f` などは秒の小数部。
* `%#z` は読み取り専用で、書き出しでは誤り。知らない指定子と、型紙の最後の `%` も誤り。

誤りの項目が一つでもあれば、型紙全体で書き出せない（`Item.error`）。

## 停止性

`parse` は文字の並びについての構造的再帰（一度に 1 文字以上読む）。
-/

namespace PlotGeometry.Time

/-- 数の項目の詰め方。 -/
inductive Pad where
  | none | zero | space
  deriving DecidableEq

/-- 数として書く欄。 -/
inductive Field where
  | year | yearDiv100 | yearMod100 | isoYear | isoYearMod100
  | quarter | month | day | weekFromSun | weekFromMon | isoWeek
  | daysFromSun | weekdayFromMon | ordinal
  | hour | hour12 | minute | second | nanosecond | timestamp
  deriving DecidableEq

/-- 数でない欄。 -/
inductive Fixed where
  | shortWeekday | longWeekday | shortMonth | longMonth
  | lowerAmPm | upperAmPm
  | nanoAuto | nano3 | nano6 | nano9 | nano3NoDot | nano6NoDot | nano9NoDot
  | zoneName | offset | offsetColon | offsetDoubleColon | offsetTripleColon | offsetPermissive
  | rfc3339
  deriving DecidableEq

/-- 型紙の項目。 -/
inductive Item where
  | literal (c : Char)
  | text (s : String)
  | numeric (f : Field) (pad : Pad)
  | fixed (f : Fixed)
  | error
  deriving DecidableEq

/-- 0 で詰める数の項目。 -/
def num0 (f : Field) : Item := .numeric f .zero
/-- 空白で詰める数の項目。 -/
def nums (f : Field) : Item := .numeric f .space
/-- 詰めない数の項目。 -/
def num (f : Field) : Item := .numeric f .none

/-- 1 文字の指定子が表す項目の並び。 -/
def simpleSpec (c : Char) : List Item :=
  match c with
  | 'A' => [.fixed .longWeekday]
  | 'B' => [.fixed .longMonth]
  | 'C' => [num0 .yearDiv100]
  | 'D' => [num0 .month, .text "/", num0 .day, .text "/", num0 .yearMod100]
  | 'F' => [num0 .year, .text "-", num0 .month, .text "-", num0 .day]
  | 'G' => [num0 .isoYear]
  | 'H' => [num0 .hour]
  | 'I' => [num0 .hour12]
  | 'M' => [num0 .minute]
  | 'P' => [.fixed .lowerAmPm]
  | 'R' => [num0 .hour, .text ":", num0 .minute]
  | 'S' => [num0 .second]
  | 'T' => [num0 .hour, .text ":", num0 .minute, .text ":", num0 .second]
  | 'U' => [num0 .weekFromSun]
  | 'V' => [num0 .isoWeek]
  | 'W' => [num0 .weekFromMon]
  | 'X' => [num0 .hour, .text ":", num0 .minute, .text ":", num0 .second]
  | 'Y' => [num0 .year]
  | 'Z' => [.fixed .zoneName]
  | 'a' => [.fixed .shortWeekday]
  | 'b' => [.fixed .shortMonth]
  | 'h' => [.fixed .shortMonth]
  | 'c' => [.fixed .shortWeekday, .text " ", .fixed .shortMonth, .text " ", nums .day, .text " ",
            num0 .hour, .text ":", num0 .minute, .text ":", num0 .second, .text " ", num0 .year]
  | 'd' => [num0 .day]
  | 'e' => [nums .day]
  | 'f' => [num0 .nanosecond]
  | 'g' => [num0 .isoYearMod100]
  | 'j' => [num0 .ordinal]
  | 'k' => [nums .hour]
  | 'l' => [nums .hour12]
  | 'm' => [num0 .month]
  | 'n' => [.text "\n"]
  | 'p' => [.fixed .upperAmPm]
  | 'q' => [num .quarter]
  | 'r' => [num0 .hour12, .text ":", num0 .minute, .text ":", num0 .second, .text " ",
            .fixed .upperAmPm]
  | 's' => [num .timestamp]
  | 't' => [.text "\t"]
  | 'u' => [num .weekdayFromMon]
  | 'v' => [nums .day, .text "-", .fixed .shortMonth, .text "-", num0 .year]
  | 'w' => [num .daysFromSun]
  | 'x' => [num0 .month, .text "/", num0 .day, .text "/", num0 .yearMod100]
  | 'y' => [num0 .yearMod100]
  | 'z' => [.fixed .offset]
  | '+' => [.fixed .rfc3339]
  | '%' => [.text "%"]
  | _ => [.error]

/-- 詰め方の指定。 -/
def padOf (c : Char) : Option Pad :=
  match c with
  | '-' => some .none
  | '0' => some .zero
  | '_' => some .space
  | _ => none

/-- 詰め方を変えられるのは、数の項目一つだけの指定子。 -/
def withPad (p : Pad) : List Item → List Item
  | [.numeric f _] => [.numeric f p]
  | _ => [.error]

/-- 型紙を項目の並びに読む。 -/
def parse : List Char → List Item
  | [] => []
  | '%' :: rest =>
    match rest with
    | [] => [.error]
    | ':' :: r =>
      match r with
      | ':' :: ':' :: 'z' :: r' => .fixed .offsetTripleColon :: parse r'
      | ':' :: 'z' :: r' => .fixed .offsetDoubleColon :: parse r'
      | 'z' :: r' => .fixed .offsetColon :: parse r'
      | _ => [.error]
    | '.' :: r =>
      match r with
      | 'f' :: r' => .fixed .nanoAuto :: parse r'
      | '3' :: 'f' :: r' => .fixed .nano3 :: parse r'
      | '6' :: 'f' :: r' => .fixed .nano6 :: parse r'
      | '9' :: 'f' :: r' => .fixed .nano9 :: parse r'
      | _ => [.error]
    | '3' :: r =>
      match r with
      | 'f' :: r' => .fixed .nano3NoDot :: parse r'
      | _ => [.error]
    | '6' :: r =>
      match r with
      | 'f' :: r' => .fixed .nano6NoDot :: parse r'
      | _ => [.error]
    | '9' :: r =>
      match r with
      | 'f' :: r' => .fixed .nano9NoDot :: parse r'
      | _ => [.error]
    | '#' :: r =>
      match r with
      | 'z' :: r' => .fixed .offsetPermissive :: parse r'
      | _ => [.error]
    | c :: r =>
      match padOf c with
      | some p =>
        match r with
        | [] => [.error]
        | s :: r' => withPad p (simpleSpec s) ++ parse r'
      | none => simpleSpec c ++ parse r
  | c :: rest => .literal c :: parse rest

end PlotGeometry.Time
