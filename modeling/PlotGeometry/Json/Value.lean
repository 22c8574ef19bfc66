import PlotGeometry.Decimal.Shortest
/-!
# JSON の値と書き出し

データ交換に使う JSON の木。数は整数と倍精度数を分けて持つ。書き手は整数を十進で、
倍精度数を最短の十進表記（`Notation.interchange`、整数値にも `.0`、正の指数に `+`）で書くので、
読み手は二つを取り違えない。

非有限の倍精度数は JSON の数にならない。書き出しでは文字列 `"NaN"`、`"Infinity"`、
`"-Infinity"` にする。`null` にしたい所では、値を作る側が `Value.null` を置く。

## 停止性

`Value.render` は木の構造に沿った再帰。
-/

namespace PlotGeometry.Json

/-- JSON の値。オブジェクトはキーの並びをそのまま保つ。 -/
inductive Value where
  | null
  | bool (b : Bool)
  | int (i : Int)
  | float (x : Float)
  | str (s : String)
  | arr (items : List Value)
  | obj (fields : List (String × Value))
  deriving Inhabited

/-- 16 進の 1 桁（小文字）。 -/
def hexDigit (n : Nat) : Char :=
  if n < 10 then Char.ofNat (48 + n) else Char.ofNat (87 + n)

/-- 文字列の中の 1 文字。引用符、逆斜線、制御文字を逃がす。 -/
def escapeChar (c : Char) : String :=
  match c with
  | '"' => "\\\""
  | '\\' => "\\\\"
  | '\n' => "\\n"
  | '\r' => "\\r"
  | '\t' => "\\t"
  | '\x08' => "\\b"
  | '\x0c' => "\\f"
  | c =>
    if c.toNat < 0x20 then
      "\\u00" ++ String.ofList [hexDigit (c.toNat / 16), hexDigit (c.toNat % 16)]
    else String.singleton c

/-- 引用符で囲んだ文字列。 -/
def quote (s : String) : String :=
  "\"" ++ String.join (s.toList.map escapeChar) ++ "\""

/-- 倍精度数の書き出し。有限なら最短の十進表記、そうでなければ名前の文字列。 -/
def floatText (x : Float) : String :=
  match Decimal.shortestText? Decimal.Notation.interchange x with
  | some s => s
  | none => if x.isNaN then "\"NaN\"" else if 0 < x then "\"Infinity\"" else "\"-Infinity\""

mutual
/-- 空白を入れない書き出し。 -/
def Value.render : Value → String
  | .null => "null"
  | .bool b => if b then "true" else "false"
  | .int i => toString i
  | .float x => floatText x
  | .str s => quote s
  | .arr items => "[" ++ renderItems items ++ "]"
  | .obj fields => "\x7b" ++ renderFields fields ++ "\x7d"

/-- 配列の要素をコンマで区切る。 -/
def renderItems : List Value → String
  | [] => ""
  | [v] => v.render
  | v :: rest => v.render ++ "," ++ renderItems rest

/-- オブジェクトの組をコンマで区切る。 -/
def renderFields : List (String × Value) → String
  | [] => ""
  | [(k, v)] => quote k ++ ":" ++ v.render
  | (k, v) :: rest => quote k ++ ":" ++ v.render ++ "," ++ renderFields rest
end

/-- オブジェクトのキーで引く。同じキーが複数あれば最後のもの。 -/
def Value.field? (v : Value) (key : String) : Option Value :=
  match v with
  | .obj fields => (fields.reverse.find? (·.1 == key)).map (·.2)
  | _ => none

/-- 配列の要素。配列でなければ `none`。 -/
def Value.items? : Value → Option (List Value)
  | .arr items => some items
  | _ => none

/-- 浮動小数点数か整数なら倍精度数として読む。 -/
def Value.float? : Value → Option Float
  | .float x => some x
  | .int i => some (Float.ofInt i)
  | _ => none

end PlotGeometry.Json
