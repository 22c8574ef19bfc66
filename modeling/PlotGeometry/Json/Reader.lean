import PlotGeometry.Json.Value
import PlotGeometry.Text.Quoted
/-!
# JSON の読み手

UTF-8 のバイト列を前から一度だけ読む。誤りは種類（`Fault`）と位置（行と桁）で返す。
桁は行頭から数えたバイト数で、誤りの種類によって「最後に読んだ所」
（`fail`）か「その次の 1 バイト」（`failAhead`）を指す。型の食い違いのように値の
読み終わりで分かる誤りは位置なしで作り、値を読み終えた時点の位置を後から付ける
（`placeAt`）。

数は、小数点も指数もなく 64 ビットに収まれば整数、そうでなければ倍精度数
（十進の値を正しく丸めたもの。無限大になるなら誤り）。`-0` は負のゼロの倍精度数。

## 停止性

* `blankEnd`、`digitsEnd` — 読み位置が入力の長さに向かって増える
* `scanString`、`skipString` — 1 回りで少なくとも 1 バイト進む（`bs.size - i` が減る）
* 入れ子の値 — 深さの上限 128 を燃料にする（超えれば誤り）
* 配列とオブジェクトの要素の繰り返し — 1 要素で少なくとも 1 バイト進むので、
  入力の長さを燃料にする
-/

namespace PlotGeometry.Json

/-- 読んだ値の種類。型の食い違いを述べるのに使う。 -/
inductive Unexpected where
  | bool (b : Bool)
  | unsigned (n : Nat)
  | signed (i : Int)
  | float (x : Float)
  | str (s : String)
  | null
  | seq
  | map

/-- 値の種類の言い方。 -/
def Unexpected.describe : Unexpected → String
  | .bool b => "boolean `" ++ (if b then "true" else "false") ++ "`"
  | .unsigned n => "integer `" ++ toString n ++ "`"
  | .signed i => "integer `" ++ toString i ++ "`"
  | .float x =>
    "floating point `" ++
      (match Decimal.shortestText? Decimal.Notation.interchange x with
       | some s => s
       | none => if x.isNaN then "NaN" else if 0 < x then "inf" else "-inf") ++ "`"
  | .str s => "string " ++ Text.quoted s
  | .null => "null"
  | .seq => "sequence"
  | .map => "map"

/-- 読み取りの誤りの種類。 -/
inductive Fault where
  | eofList
  | eofObject
  | eofString
  | eofValue
  | expectedColon
  | expectedListCommaOrEnd
  | expectedObjectCommaOrEnd
  | expectedIdent
  | expectedValue
  | invalidEscape
  | invalidNumber
  | numberOutOfRange
  | controlChar
  | keyMustBeString
  | loneSurrogate
  | trailingComma
  | trailingCharacters
  | unexpectedEndOfHexEscape
  | recursionLimit
  | invalidType (got : Unexpected) (expected : String)
  | invalidValue (got : Unexpected) (expected : String)
  | invalidLength (n : Nat) (expected : String)
  | unknownVariant (name : String) (options : List String)
  | missingField (name : String)
  | duplicateField (name : String)

/-- 候補の名前の並べ方（`a`、`a` or `b`、one of `a`, `b`, `c`）。 -/
def oneOf (names : List String) : String :=
  let tick (s : String) := "`" ++ s ++ "`"
  match names with
  | [a] => tick a
  | [a, b] => tick a ++ " or " ++ tick b
  | _ => "one of " ++ ", ".intercalate (names.map tick)

/-- 誤りの文言。 -/
def Fault.describe : Fault → String
  | .eofList => "EOF while parsing a list"
  | .eofObject => "EOF while parsing an object"
  | .eofString => "EOF while parsing a string"
  | .eofValue => "EOF while parsing a value"
  | .expectedColon => "expected `:`"
  | .expectedListCommaOrEnd => "expected `,` or `]`"
  | .expectedObjectCommaOrEnd => "expected `,` or `\x7d`"
  | .expectedIdent => "expected ident"
  | .expectedValue => "expected value"
  | .invalidEscape => "invalid escape"
  | .invalidNumber => "invalid number"
  | .numberOutOfRange => "number out of range"
  | .controlChar => "control character (\\u0000-\\u001F) found while parsing a string"
  | .keyMustBeString => "key must be a string"
  | .loneSurrogate => "lone leading surrogate in hex escape"
  | .trailingComma => "trailing comma"
  | .trailingCharacters => "trailing characters"
  | .unexpectedEndOfHexEscape => "unexpected end of hex escape"
  | .recursionLimit => "recursion limit exceeded"
  | .invalidType got exp => "invalid type: " ++ got.describe ++ ", expected " ++ exp
  | .invalidValue got exp => "invalid value: " ++ got.describe ++ ", expected " ++ exp
  | .invalidLength n exp => "invalid length " ++ toString n ++ ", expected " ++ exp
  | .unknownVariant name [] => "unknown variant `" ++ name ++ "`, there are no variants"
  | .unknownVariant name opts => "unknown variant `" ++ name ++ "`, expected " ++ oneOf opts
  | .missingField name => "missing field `" ++ name ++ "`"
  | .duplicateField name => "duplicate field `" ++ name ++ "`"

/-- 入力の中の位置。行は 1 から、桁は行頭からのバイト数。 -/
structure Position where
  line : Nat
  column : Nat

/-- 読み取りの誤り。位置がまだ決まっていなければ `pos` は `none` で、`index` がその時点の
読み位置。 -/
structure ReadError where
  fault : Fault
  pos : Option Position
  index : Nat := 0

/-- 誤りの文言。位置があれば ` at line L column C` を付ける。 -/
def ReadError.message (e : ReadError) : String :=
  match e.pos with
  | some p => e.fault.describe ++ " at line " ++ toString p.line ++ " column " ++ toString p.column
  | none => e.fault.describe

/-- バイト位置 `i` の行と桁。 -/
def positionOf (bs : ByteArray) (i : Nat) : Position :=
  let before := bs.toList.take i
  let lines := before.foldl (fun (acc : Nat × Nat) b =>
    if b == 10 then (acc.1 + 1, 0) else (acc.1, acc.2 + 1)) (1, 0)
  ⟨lines.1, lines.2⟩

/-- 位置 `i` を指す誤り。 -/
def errorAt (bs : ByteArray) (f : Fault) (i : Nat) : ReadError := ⟨f, some (positionOf bs i), i⟩

/-- 入力を前から読む計算。入力は固定、状態は読み位置。 -/
abbrev Reader := ReaderT ByteArray (StateT Nat (Except ReadError))

/-- 位置 `i` を指す誤り。 -/
def failAtIndex (f : Fault) (i : Nat) : Reader α := fun bs _ => .error (errorAt bs f i)

/-- 最後に読んだ所を指す誤り。 -/
def fail (f : Fault) : Reader α := fun bs i => failAtIndex f i bs i

/-- 次の 1 バイトを指す誤り（入力の終わりを越えない）。 -/
def failAhead (f : Fault) : Reader α := fun bs i => failAtIndex f (min (i + 1) bs.size) bs i

/-- 位置のない誤りに、記録した読み位置から行と桁を付ける。 -/
def ReadError.place (e : ReadError) (bs : ByteArray) : ReadError :=
  match e.pos with
  | some _ => e
  | none => { e with pos := some (positionOf bs e.index) }

/-- 計算の誤りに位置を付ける。値を読み終えた所で使う。 -/
def placed (r : Reader α) : Reader α := fun bs i =>
  match r bs i with
  | .ok x => .ok x
  | .error e => .error (e.place bs)

/-- 位置のない誤り。今の読み位置を覚えておく。 -/
def failUnplaced (f : Fault) : Reader α := fun _ i => .error ⟨f, none, i⟩

/-- 次のバイトを見る（読み進めない）。 -/
def peek : Reader (Option UInt8) := fun bs i => .ok (bs[i]?, i)

/-- 1 バイト読み進める。 -/
def advance : Reader Unit := fun _ i => .ok ((), i + 1)

/-- 次のバイトを読む。入力の終わりなら `none` で、位置は動かない。 -/
def next : Reader (Option UInt8) := fun bs i =>
  match bs[i]? with
  | some b => .ok (some b, i + 1)
  | none => .ok (none, i)

/-- 空白（空白、改行、タブ、復帰）。 -/
def isBlank (b : UInt8) : Bool := b == 32 || b == 10 || b == 9 || b == 13

/-- 十進の数字。 -/
def isDigit (b : UInt8) : Bool := 48 ≤ b && b ≤ 57

/-- `i` から続く空白の終わり。 -/
def blankEnd (bs : ByteArray) (i : Nat) : Nat :=
  if h : i < bs.size then
    if isBlank bs[i] then blankEnd bs (i + 1) else i
  else i
termination_by bs.size - i

/-- `i` から続く数字の終わり。 -/
def digitsEnd (bs : ByteArray) (i : Nat) : Nat :=
  if h : i < bs.size then
    if isDigit bs[i] then digitsEnd bs (i + 1) else i
  else i
termination_by bs.size - i

/-- 空白を読み飛ばし、次のバイトを見る。 -/
def skipBlank : Reader (Option UInt8) := fun bs i =>
  let j := blankEnd bs i
  .ok (bs[j]?, j)

/-- `[i, j)` の数字を自然数として読む。 -/
def digitsValue (bs : ByteArray) (i j : Nat) : Nat :=
  ((bs.extract i j).toList).foldl (fun acc b => acc * 10 + (b.toNat - 48)) 0

/-- 続くバイトがちょうど `word` であることを確かめて読む（`null` の `ull` など）。 -/
def expectWord : List UInt8 → Reader Unit
  | [] => pure ()
  | w :: rest => do
    match ← next with
    | none => fail .eofValue
    | some b => if b == w then expectWord rest else fail .expectedIdent

/-- 読んだ数。 -/
inductive Number where
  /-- 64 ビットに収まる非負の整数。 -/
  | nat (n : Nat)
  /-- 64 ビットに収まる負の整数。 -/
  | neg (i : Int)
  | float (x : Float)

/-- 数を、型の食い違いを述べる形に。 -/
def Number.unexpected : Number → Unexpected
  | .nat n => .unsigned n
  | .neg i => .signed i
  | .float x => .float x

/-- 倍精度数としての値。 -/
def Number.toFloat : Number → Float
  | .nat n => Float.ofNat n
  | .neg i => Float.ofInt i
  | .float x => x

/-- 十進の値 `m × 10^e` を正しく丸めた倍精度数（絶対値）。桁外れに大きい指数は先に片付ける。 -/
def decimalToFloat (m : Nat) (e : Int) : Float :=
  if m = 0 then 0
  else
    let lead : Int := (Decimal.decimalLength m : Int) + e
    if 330 < lead then Float.ofScientific 1 false 400
    else if lead < -400 then 0
    else if 0 ≤ e then Float.ofScientific m false e.toNat
    else Float.ofScientific m true (-e).toNat

/-- 数の続き（先頭の `-` は読んだ後）。整数部、小数部、指数部の順に読む。 -/
def readNumber (positive : Bool) : Reader Number := fun bs i0 =>
  let sign (x : Float) : Float := if positive then x else -x
  -- 整数部
  match bs[i0]? with
  | none => failAtIndex .eofValue i0 bs i0
  | some c =>
    let intStart := i0
    let intEnd? : Except ReadError Nat :=
      if c == 48 then
        match bs[i0 + 1]? with
        | some d => if isDigit d then .error (errorAt bs .invalidNumber (min (i0 + 2) bs.size))
            else .ok (i0 + 1)
        | none => .ok (i0 + 1)
      else if isDigit c then .ok (digitsEnd bs (i0 + 1))
      else .error (errorAt bs .invalidNumber (i0 + 1))
    match intEnd? with
    | .error e => .error e
    | .ok intEnd =>
      let intDigits := digitsValue bs intStart intEnd
      -- 小数部
      let frac? : Except ReadError (Option (Nat × Nat)) :=
        if bs[intEnd]? == some 46 then
          let fEnd := digitsEnd bs (intEnd + 1)
          if fEnd == intEnd + 1 then
            match bs[fEnd]? with
            | some _ => .error (errorAt bs .invalidNumber (min (fEnd + 1) bs.size))
            | none => .error (errorAt bs .eofValue (min (fEnd + 1) bs.size))
          else .ok (some (intEnd + 1, fEnd))
        else .ok none
      match frac? with
      | .error e => .error e
      | .ok frac =>
        let mantEnd := match frac with
          | some (_, fEnd) => fEnd
          | none => intEnd
        let fracLen := match frac with
          | some (fs, fEnd) => fEnd - fs
          | none => 0
        let mant := match frac with
          | some (fs, fEnd) => intDigits * Nat.pow 10 (fEnd - fs) + digitsValue bs fs fEnd
          | none => intDigits
        -- 指数部
        let isE := bs[mantEnd]? == some 101 || bs[mantEnd]? == some 69
        if isE then
          let j := mantEnd + 1
          let (expPositive, j) :=
            if bs[j]? == some 43 then (true, j + 1)
            else if bs[j]? == some 45 then (false, j + 1)
            else (true, j)
          match bs[j]? with
          | none => .error (errorAt bs .eofValue j)
          | some d =>
            if !isDigit d then .error (errorAt bs .invalidNumber (j + 1))
            else
              let eEnd := digitsEnd bs j
              let expValue := digitsValue bs j eEnd
              if 2147483647 < expValue then
                -- 指数が 32 ビットを越える。値は 0 か、範囲外。
                if mant != 0 && expPositive then
                  -- 越えた桁を読んだ所で止まる
                  let cut := (List.range (eEnd - j)).find? (fun k => 2147483647 < digitsValue bs j (j + k + 1))
                  let stop := match cut with
                    | some k => j + k + 1
                    | none => eEnd
                  .error (errorAt bs .numberOutOfRange stop)
                else .ok (.float (sign 0), eEnd)
              else
                let e10 : Int := (if expPositive then (expValue : Int) else -(expValue : Int)) - fracLen
                let x := decimalToFloat mant e10
                if x.isInf then .error (errorAt bs .numberOutOfRange eEnd)
                else .ok (.float (sign x), eEnd)
        else
          match frac with
          | some _ =>
            let x := decimalToFloat mant (-(fracLen : Int))
            if x.isInf then .error (errorAt bs .numberOutOfRange mantEnd)
            else .ok (.float (sign x), mantEnd)
          | none =>
            if positive && mant < 18446744073709551616 then .ok (.nat mant, mantEnd)
            else if !positive && mant = 0 then .ok (.float (-0.0), mantEnd)
            else if !positive && mant ≤ 9223372036854775808 then .ok (.neg (-(mant : Int)), mantEnd)
            else
              let x := decimalToFloat mant 0
              if x.isInf then .error (errorAt bs .numberOutOfRange mantEnd)
              else .ok (.float (sign x), mantEnd)

/-- 16 進の 1 桁の値。 -/
def hexValue (b : UInt8) : Option Nat :=
  if 48 ≤ b && b ≤ 57 then some (b.toNat - 48)
  else if 97 ≤ b && b ≤ 102 then some (b.toNat - 87)
  else if 65 ≤ b && b ≤ 70 then some (b.toNat - 55)
  else none

/-- `i` から 4 桁の 16 進。足りなければ入力の終わりを指す誤り。 -/
def hex4 (bs : ByteArray) (i : Nat) : Except ReadError (Nat × Nat) :=
  if i + 4 ≤ bs.size then
    let ds := (bs.extract i (i + 4)).toList.map hexValue
    match ds with
    | [some a, some b, some c, some d] => .ok (((a * 16 + b) * 16 + c) * 16 + d, i + 4)
    | _ => .error (errorAt bs .invalidEscape (i + 4))
  else .error (errorAt bs .eofString bs.size)

/-- 符号位置を UTF-8 で足す。 -/
def pushCodePoint (acc : ByteArray) (n : Nat) : ByteArray :=
  (String.singleton (Char.ofNat n)).toUTF8.foldl (fun a b => a.push b) acc

/-- `\u` の後（`i` は最初の 16 進桁）。代用対は二つ続けて一つの文字にする。
読んだバイト数を返す。 -/
def unicodeEscape (bs : ByteArray) (i : Nat) (acc : ByteArray) : Except ReadError (ByteArray × Nat) := do
  let (n, j) ← hex4 bs i
  if 0xDC00 ≤ n && n ≤ 0xDFFF then throw (errorAt bs .loneSurrogate j)
  if n < 0xD800 || 0xDBFF < n then return (pushCodePoint acc n, 4)
  match bs[j]? with
  | none => throw (errorAt bs .eofString j)
  | some b =>
    if b != 92 then throw (errorAt bs .unexpectedEndOfHexEscape (j + 1))
    match bs[j + 1]? with
    | none => throw (errorAt bs .eofString (j + 1))
    | some u =>
      if u != 117 then throw (errorAt bs .unexpectedEndOfHexEscape (j + 2))
      let (n2, k) ← hex4 bs (j + 2)
      if n2 < 0xDC00 || 0xDFFF < n2 then throw (errorAt bs .loneSurrogate k)
      return (pushCodePoint acc ((n - 0xD800) * 0x400 + (n2 - 0xDC00) + 0x10000), 10)

/-- 逃がし文字の後（`i` は逃がしの種類の文字）。読んだバイト数を返す。 -/
def escapeAt (bs : ByteArray) (i : Nat) (acc : ByteArray) : Except ReadError (ByteArray × Nat) :=
  match bs[i]? with
  | none => .error (errorAt bs .eofString i)
  | some c =>
    if c == 34 then .ok (acc.push 34, 1)
    else if c == 92 then .ok (acc.push 92, 1)
    else if c == 47 then .ok (acc.push 47, 1)
    else if c == 98 then .ok (acc.push 8, 1)
    else if c == 102 then .ok (acc.push 12, 1)
    else if c == 110 then .ok (acc.push 10, 1)
    else if c == 114 then .ok (acc.push 13, 1)
    else if c == 116 then .ok (acc.push 9, 1)
    else if c == 117 then (unicodeEscape bs (i + 1) acc).map fun r => (r.1, r.2 + 1)
    else .error (errorAt bs .invalidEscape (i + 1))

/-- 文字列の中身（開きの引用符は読んだ後）。閉じの引用符の次の位置を返す。 -/
def scanString (bs : ByteArray) (i : Nat) (acc : ByteArray) : Except ReadError (ByteArray × Nat) :=
  if h : i < bs.size then
    let c := bs[i]
    if c == 34 then .ok (acc, i + 1)
    else if c == 92 then
      match escapeAt bs (i + 1) acc with
      | .ok (acc', k) => scanString bs (i + 1 + k) acc'
      | .error e => .error e
    else if c < 32 then .error (errorAt bs .controlChar (i + 1))
    else scanString bs (i + 1) (acc.push c)
  else .error (errorAt bs .eofString bs.size)
termination_by bs.size - i

/-- 文字列を読む（開きの引用符は読んだ後）。 -/
def readString : Reader String := fun bs i =>
  match scanString bs i ByteArray.empty with
  | .ok (out, j) => .ok ((String.fromUTF8? out).getD "", j)
  | .error e => .error e

/-- 読み飛ばす文字列の中の逃がし文字。`\u` は 4 桁を確かめるだけ。読んだバイト数を返す。 -/
def skipEscapeAt (bs : ByteArray) (i : Nat) : Except ReadError Nat :=
  match bs[i]? with
  | none => .error (errorAt bs .eofString i)
  | some c =>
    if c == 34 || c == 92 || c == 47 || c == 98 || c == 102 || c == 110 || c == 114 || c == 116 then
      .ok 1
    else if c == 117 then (hex4 bs (i + 1)).map fun _ => 5
    else .error (errorAt bs .invalidEscape (i + 1))

/-- 値を作らずに文字列を読み飛ばす。制御文字はその位置を指す。 -/
def skipString (bs : ByteArray) (i : Nat) : Except ReadError Nat :=
  if h : i < bs.size then
    let c := bs[i]
    if c == 34 then .ok (i + 1)
    else if c == 92 then
      match skipEscapeAt bs (i + 1) with
      | .ok k => skipString bs (i + 1 + k)
      | .error e => .error e
    else if c < 32 then .error (errorAt bs .controlChar i)
    else skipString bs (i + 1)
  else .error (errorAt bs .eofString bs.size)
termination_by bs.size - i

/-- 入れ子の深さの上限。 -/
def depthLimit : Nat := 128

/-- 配列の次の要素の前。`]` なら `none`、要素があれば次のバイト。 -/
def beforeElement (first : Bool) : Reader (Option UInt8) := do
  match ← skipBlank with
  | some 93 => pure none
  | some 44 =>
    if first then pure (some 44)
    else
      advance
      match ← skipBlank with
      | some 93 => failAhead .trailingComma
      | some b => pure (some b)
      | none => failAhead .eofValue
  | some b => if first then pure (some b) else failAhead .expectedListCommaOrEnd
  | none => failAhead .eofList

/-- オブジェクトの次のキーの前。`}` なら `false`、キーの引用符があれば `true`。
コンマの後で入力が終われば、値を待っていたとして誤り。 -/
def beforeKey (first : Bool) : Reader Bool := do
  match ← skipBlank with
  | some 125 => pure false
  | some 34 => if first then pure true else failAhead .expectedObjectCommaOrEnd
  | some 44 =>
    if first then failAhead .keyMustBeString
    else
      advance
      match ← skipBlank with
      | some 34 => pure true
      | some 125 => failAhead .trailingComma
      | some _ => failAhead .keyMustBeString
      | none => failAhead .eofValue
  | some _ => if first then failAhead .keyMustBeString else failAhead .expectedObjectCommaOrEnd
  | none => failAhead .eofObject

/-- キーの後のコロン。 -/
def colon : Reader Unit := do
  match ← skipBlank with
  | some 58 => advance
  | some _ => failAhead .expectedColon
  | none => failAhead .eofObject

/-- 配列の閉じ。 -/
def closeList : Reader Unit := do
  match ← skipBlank with
  | some 93 => advance
  | some 44 =>
    advance
    match ← skipBlank with
    | some 93 => failAhead .trailingComma
    | _ => failAhead .trailingCharacters
  | some _ => failAhead .trailingCharacters
  | none => failAhead .eofList

/-- オブジェクトの閉じ。 -/
def closeObject : Reader Unit := do
  match ← skipBlank with
  | some 125 => advance
  | some 44 => failAhead .trailingComma
  | some _ => failAhead .trailingCharacters
  | none => failAhead .eofObject

/-- 閉じの記号を読もうとした後の読み位置。閉じが誤りでも、空白と閉じの記号（配列では
後ろのコンマも）は読んだことになる。 -/
def closeIndex (bs : ByteArray) (closing : UInt8) (i : Nat) : Nat :=
  let j := blankEnd bs i
  match bs[j]? with
  | some b =>
    if b == closing then j + 1
    else if closing == 93 && b == 44 then blankEnd bs (j + 1)
    else j
  | none => j

/-- 本体の結果と閉じの結果を合わせる。本体の誤りが先。閉じは本体が失敗しても読むので、
位置のない誤りの読み位置は閉じの後になる。 -/
def withClose (body : Reader α) (closing : UInt8) (close : Reader Unit) : Reader α := fun bs i =>
  match body bs i with
  | .ok (a, j) =>
    match close bs j with
    | .ok ((), k) => .ok (a, k)
    | .error e => .error e
  | .error e =>
    match e.pos with
    | some _ => .error e
    | none => .error { e with index := closeIndex bs closing e.index }

/-- 値を一つ読む。`fuel` は残りの入れ子の深さ。 -/
def readValue : Nat → Reader Value
  | 0 => fail .recursionLimit
  | fuel + 1 => do
    match ← skipBlank with
    | none => failAhead .eofValue
    | some b =>
      if b == 110 then do advance; expectWord [117, 108, 108]; pure .null
      else if b == 116 then do advance; expectWord [114, 117, 101]; pure (.bool true)
      else if b == 102 then do advance; expectWord [97, 108, 115, 101]; pure (.bool false)
      else if b == 45 then do advance; pure (numberValue (← readNumber false))
      else if isDigit b then do pure (numberValue (← readNumber true))
      else if b == 34 then do advance; pure (.str (← readString))
      else if b == 91 then do
        advance
        let bs ← read
        withClose (do pure (.arr (← readItems fuel bs.size true []))) 93 closeList
      else if b == 123 then do
        advance
        let bs ← read
        withClose (do pure (.obj (← readMembers fuel bs.size true []))) 125 closeObject
      else failAhead .expectedValue
where
  numberValue : Number → Value
    | .nat n => .int n
    | .neg i => .int i
    | .float x => .float x
  readItems (fuel : Nat) : Nat → Bool → List Value → Reader (List Value)
    | 0, _, acc => pure acc.reverse
    | steps + 1, first, acc => do
      match ← beforeElement first with
      | none => pure acc.reverse
      | some _ =>
        let v ← readValue fuel
        readItems fuel steps false (v :: acc)
  readMembers (fuel : Nat) : Nat → Bool → List (String × Value) → Reader (List (String × Value))
    | 0, _, acc => pure acc.reverse
    | steps + 1, first, acc => do
      if ← beforeKey first then
        advance
        let k ← readString
        colon
        let v ← readValue fuel
        readMembers fuel steps false ((k, v) :: acc)
      else pure acc.reverse

/-- 文書全体を一つの値として読む。値の後には空白しか許さない。 -/
def Value.parse (text : String) : Except ReadError Value :=
  let bs := text.toUTF8
  let whole : Reader Value := do
    let v ← readValue depthLimit
    match ← skipBlank with
    | none => pure v
    | some _ => failAhead .trailingCharacters
  (whole bs 0).map (·.1)

end PlotGeometry.Json
