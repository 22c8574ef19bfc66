import PlotGeometry.Json.Reader
/-!
# 型に沿った JSON の読み取り

JSON の木を作らずに、期待する型（倍精度数、非負整数、32 ビット整数、真偽、文字列、
省略可、名前の選択肢、配列、構造体）に沿って入力を前から読む。誤りは木を作る読み手
（`Value.parse`）と同じ種類と位置で返す。

## 仕組み

* 期待と違う値は一つ読み切ってから、その後ろを指す誤り（`mismatch`）。配列と
  オブジェクトは開きの記号の位置を指す。
* 構造体はオブジェクトでも配列でも書ける。オブジェクトでは知らない欄を読み飛ばし、
  同じ欄が二度あれば誤り、必須の欄が無ければ宣言の順で最初のものが誤り。配列では
  欄を宣言の順に読み、足りなければ省略できる欄は既定値、必須の欄は長さの誤り。
* 値の中身から分かる誤り（範囲外、重複、欠け）は位置なしで作り、その値を囲む配列か
  オブジェクトの閉じを読んだ後の位置を付ける（`withClose` と `placed`）。
* 読み飛ばす値（`skipValue`）は数の範囲を調べず、入れ子の深さにも上限がない。

## 停止性

* 配列とオブジェクトの要素の繰り返し、読み飛ばしの入れ子 — 1 回りで少なくとも
  1 バイト進むので、入力の長さを燃料にする
* 構造体の配列の形 — 欄の並びについての構造的再帰
-/

namespace PlotGeometry.Json

/-- 期待した型と違う値。値を一つ読み切って、その後ろを指す誤りにする。 -/
def mismatch (expected : String) : Reader α := do
  match ← skipBlank with
  | some 110 => advance; expectWord [117, 108, 108]; fail (.invalidType .null expected)
  | some 116 => advance; expectWord [114, 117, 101]; fail (.invalidType (.bool true) expected)
  | some 102 => advance; expectWord [97, 108, 115, 101]; fail (.invalidType (.bool false) expected)
  | some 45 => advance; let n ← readNumber false; fail (.invalidType n.unexpected expected)
  | some 34 => advance; let s ← readString; fail (.invalidType (.str s) expected)
  | some 91 => fail (.invalidType .seq expected)
  | some 123 => fail (.invalidType .map expected)
  | some b =>
    if isDigit b then do let n ← readNumber true; fail (.invalidType n.unexpected expected)
    else failAhead .expectedValue
  | none => failAhead .expectedValue

/-- 数を一つ読む。数でなければ `expected` との食い違い。 -/
def numberAs (expected : String) : Reader Number := do
  match ← skipBlank with
  | none => failAhead .eofValue
  | some 45 => advance; readNumber false
  | some b => if isDigit b then readNumber true else mismatch expected

/-- 倍精度数。整数も受け付けて丸める。 -/
def readFloat : Reader Float := do
  return (← numberAs "f64").toFloat

/-- 64 ビットの非負整数（個数）。 -/
def readCount : Reader Nat := do
  match ← numberAs "usize" with
  | .nat n => pure n
  | .neg i => fail (.invalidValue (.signed i) "usize")
  | .float x => fail (.invalidType (.float x) "usize")

/-- 32 ビットの符号付き整数。 -/
def readInt32 : Reader Int := do
  match ← numberAs "i32" with
  | .nat n => if n < 2147483648 then pure n else fail (.invalidValue (.unsigned n) "i32")
  | .neg i => if -2147483648 ≤ i then pure i else fail (.invalidValue (.signed i) "i32")
  | .float x => fail (.invalidType (.float x) "i32")

/-- 真偽。 -/
def readBool : Reader Bool := do
  match ← skipBlank with
  | none => failAhead .eofValue
  | some 116 => advance; expectWord [114, 117, 101]; pure true
  | some 102 => advance; expectWord [97, 108, 115, 101]; pure false
  | some _ => mismatch "a boolean"

/-- 文字列。 -/
def readText : Reader String := do
  match ← skipBlank with
  | none => failAhead .eofValue
  | some 34 => advance; readString
  | some _ => mismatch "a string"

/-- 省略できる値。`null` なら `none`。 -/
def readOption (r : Reader α) : Reader (Option α) := do
  match ← skipBlank with
  | some 110 => advance; expectWord [117, 108, 108]; pure none
  | _ => some <$> r

/-- 選択肢の名前を表す文字列。知らない名前は候補を並べた誤り。 -/
def variantName (names : List (String × α)) : Reader α := do
  match ← skipBlank with
  | none => failAhead .eofValue
  | some 34 =>
    advance
    let s ← readString
    match names.find? (·.1 == s) with
    | some (_, a) => pure a
    | none => fail (.unknownVariant s (names.map (·.1)))
  | some _ => mismatch "variant identifier"

/-- 名前の選択肢。`"名前"` か、中身が `null` の `{"名前": null}`。オブジェクトの形では、
開きの次がキーの引用符でなければ誤り（`}` なら値の欠け、入力の終わりならオブジェクトの
途中の終わり、ほかはキーの形の誤り）。 -/
def readVariant (names : List (String × α)) : Reader α := do
  match ← skipBlank with
  | none => failAhead .eofValue
  | some 34 => variantName names
  | some 123 =>
    advance
    match ← skipBlank with
    | some 34 => pure ()
    | some 125 => failAhead .expectedValue
    | some _ => failAhead .keyMustBeString
    | none => failAhead .eofObject
    let a ← variantName names
    colon
    match ← skipBlank with
    | none => failAhead .eofValue
    | some 110 => advance; expectWord [117, 108, 108]
    | some _ => mismatch "unit"
    match ← skipBlank with
    | some 125 => advance; pure a
    | some _ => fail .expectedValue
    | none => fail .eofObject
  | some _ => failAhead .expectedValue

/-- 読み飛ばす数（先頭の `-` は読んだ後）。形だけを確かめ、範囲は調べない。 -/
def skipNumber : Reader Unit := fun bs i =>
  -- 1 バイト読んだ後の誤り。入力の終わりなら位置は動かない。
  let afterByte (j : Nat) : Nat := if j < bs.size then j + 1 else j
  let exponent (j : Nat) : Except ReadError (Unit × Nat) :=
    let m := if bs[j + 1]? == some 43 || bs[j + 1]? == some 45 then j + 2 else j + 1
    match bs[m]? with
    | some d => if isDigit d then .ok ((), digitsEnd bs (m + 1))
        else .error (errorAt bs .invalidNumber (afterByte m))
    | none => .error (errorAt bs .invalidNumber m)
  let isE (j : Nat) : Bool := bs[j]? == some 101 || bs[j]? == some 69
  let rest (j : Nat) : Except ReadError (Unit × Nat) :=
    if bs[j]? == some 46 then
      let k := digitsEnd bs (j + 1)
      if k == j + 1 then .error (errorAt bs .invalidNumber (min (k + 1) bs.size))
      else if isE k then exponent k
      else .ok ((), k)
    else if isE j then exponent j
    else .ok ((), j)
  match bs[i]? with
  | some 48 =>
    match bs[i + 1]? with
    | some d => if isDigit d then .error (errorAt bs .invalidNumber (min (i + 2) bs.size))
        else rest (i + 1)
    | none => rest (i + 1)
  | some c => if isDigit c then rest (digitsEnd bs (i + 1))
      else .error (errorAt bs .invalidNumber (afterByte i))
  | none => .error (errorAt bs .invalidNumber i)

/-- 読み飛ばす文字列（開きの引用符は読んだ後）。 -/
def skipText : Reader Unit := fun bs i =>
  (skipString bs i).map fun j => ((), j)

/-- 値を作らずに一つ読み飛ばす。`fuel` は残りの入れ子の深さの上限。 -/
def skipValue : Nat → Reader Unit
  | 0 => fail .recursionLimit
  | fuel + 1 => do
    let bs ← read
    match ← skipBlank with
    | none => failAhead .eofValue
    | some 110 => advance; expectWord [117, 108, 108]
    | some 116 => advance; expectWord [114, 117, 101]
    | some 102 => advance; expectWord [97, 108, 115, 101]
    | some 45 => advance; skipNumber
    | some 34 => advance; skipText
    | some 91 =>
      advance
      match ← skipBlank with
      | some 93 => advance
      | none => failAhead .eofList
      | some _ => skipValue fuel; skipItems fuel bs.size
    | some 123 =>
      advance
      match ← skipBlank with
      | some 125 => advance
      | none => failAhead .eofObject
      | some 34 => advance; skipMember fuel; skipMembers fuel bs.size
      | some _ => failAhead .keyMustBeString
    | some b => if isDigit b then skipNumber else failAhead .expectedValue
where
  /-- 配列の 2 番目からの要素。 -/
  skipItems (fuel : Nat) : Nat → Reader Unit
    | 0 => pure ()
    | steps + 1 => do
      match ← skipBlank with
      | some 44 => advance; skipValue fuel; skipItems fuel steps
      | some 93 => advance
      | some _ => failAhead .expectedListCommaOrEnd
      | none => failAhead .eofList
  /-- オブジェクトの一つの組（キーの開きの引用符は読んだ後）。 -/
  skipMember (fuel : Nat) : Reader Unit := do
    skipText
    colon
    skipValue fuel
  /-- オブジェクトの 2 番目からの組。 -/
  skipMembers (fuel : Nat) : Nat → Reader Unit
    | 0 => pure ()
    | steps + 1 => do
      match ← skipBlank with
      | some 44 =>
        advance
        match ← skipBlank with
        | some 34 => advance; skipMember fuel; skipMembers fuel steps
        | none => failAhead .eofObject
        | some _ => failAhead .keyMustBeString
      | some 125 => advance
      | some _ => failAhead .expectedObjectCommaOrEnd
      | none => failAhead .eofObject

/-- 配列。要素を `r` で読む。 -/
def readList (r : Reader α) : Reader (List α) := do
  let bs ← read
  match ← skipBlank with
  | none => failAhead .eofValue
  | some 91 =>
    advance
    placed (withClose (elements bs.size true []) 93 closeList)
  | some _ => mismatch "a sequence"
where
  elements : Nat → Bool → List α → Reader (List α)
    | 0, _, acc => pure acc.reverse
    | steps + 1, first, acc => do
      match ← beforeElement first with
      | none => pure acc.reverse
      | some _ => elements steps false ((← r) :: acc)

/-- 構造体の一つの欄。`read` は値を読んで状態に入れる。 -/
structure FieldReader (σ : Type) where
  name : String
  /-- 省略できない欄か。 -/
  required : Bool := false
  read : σ → Reader σ

/-- 構造体。`init` から始めて、読んだ欄だけを入れる。オブジェクトでも配列でもよい。 -/
def readRecord (what : String) (fields : List (FieldReader σ)) (init : σ) : Reader σ := do
  let bs ← read
  match ← skipBlank with
  | none => failAhead .eofValue
  | some 123 =>
    advance
    placed (withClose (members bs.size true [] init) 125 closeObject)
  | some 91 =>
    advance
    placed (withClose (items fields 0 true init) 93 closeList)
  | some _ => mismatch ("struct " ++ what)
where
  members : Nat → Bool → List String → σ → Reader σ
    | 0, _, _, s => pure s
    | steps + 1, first, seen, s => do
      if ← beforeKey first then
        advance
        let key ← readString
        match fields.find? (·.name == key) with
        | some f =>
          if seen.contains key then failUnplaced (.duplicateField key)
          colon
          let s ← f.read s
          members steps false (key :: seen) s
        | none =>
          colon
          skipValue ((← read).size + 1)
          members steps false seen s
      else
        match fields.find? (fun f => f.required && !seen.contains f.name) with
        | some f => failUnplaced (.missingField f.name)
        | none => pure s
  items : List (FieldReader σ) → Nat → Bool → σ → Reader σ
    | [], _, _, s => pure s
    | f :: rest, k, first, s => do
      match ← beforeElement first with
      | none =>
        if f.required then
          failUnplaced (.invalidLength k
            ("struct " ++ what ++ " with " ++ toString fields.length ++ " elements"))
        else items rest (k + 1) first s
      | some _ => items rest (k + 1) false (← f.read s)

/-- 文書全体を `r` で読む。値の後には空白しか許さない。 -/
def decodeWith (r : Reader α) (text : String) : Except ReadError α :=
  let whole : Reader α := do
    let v ← r
    match ← skipBlank with
    | none => pure v
    | some _ => failAhead .trailingCharacters
  (whole text.toUTF8 0).map (·.1)

end PlotGeometry.Json
