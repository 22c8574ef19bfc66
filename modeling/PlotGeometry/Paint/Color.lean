/-!
# 色

色は赤・緑・青・不透明度の四つの成分で、それぞれ 0 から 1。8 ビットの成分 `c` は
`c / 255` になる。

文字から色を読む規則（`Color.parse`）: 前後の空白を除き、名前の表（大文字と小文字を
区別しない）にあればその色、なければ `#` を省けるの 16 進 3 桁か 6 桁。
3 桁の `rgb` は `rrggbb` と同じ色。

## 停止性

再帰はない。
-/

namespace PlotGeometry

/-- 色。成分は 0 から 1。 -/
structure Color where
  red : Float
  green : Float
  blue : Float
  alpha : Float
  deriving Inhabited

namespace Color

/-- 不透明な色。 -/
def rgb (r g b : Float) : Color := ⟨r, g, b, 1.0⟩

/-- 8 ビットの成分からの不透明な色。 -/
def rgb8 (r g b : Nat) : Color := rgb (r.toFloat / 255.0) (g.toFloat / 255.0) (b.toFloat / 255.0)

/-- 黒。 -/
def black : Color := rgb8 0 0 0
/-- 白。 -/
def white : Color := rgb8 255 255 255
/-- データがないことを示す赤。 -/
def alert : Color := rgb8 200 0 50
/-- 見本の枠の暗い灰色。 -/
def darkGray : Color := rgb8 111 111 111

/-- 名前の付いた色。照合は ASCII の大文字と小文字を区別しない。 -/
def named : List (String × Color) :=
  [("black", black), ("white", white), ("blue", rgb8 100 100 255), ("green", rgb8 0 200 0),
   ("red", alert), ("yellow", rgb8 255 255 0), ("orange", rgb8 255 165 0),
   ("purple", rgb8 200 100 255), ("brown", rgb8 150 100 50), ("cyan", rgb8 0 255 255),
   ("aqua", rgb8 0 150 150), ("gray", rgb8 175 175 175), ("grey", rgb8 175 175 175),
   ("magenta", rgb8 255 0 255), ("pink", rgb8 255 100 100), ("gold", rgb8 200 200 0),
   ("rose", rgb8 200 150 200), ("darkblue", rgb8 0 0 255), ("darkgreen", rgb8 0 255 0),
   ("darkred", rgb8 255 0 0), ("darkgray", darkGray), ("darkgrey", darkGray)]

/-- ASCII の大文字だけを小文字にする。 -/
def asciiLower (c : Char) : Char :=
  if 'A' ≤ c ∧ c ≤ 'Z' then Char.ofNat (c.toNat + 32) else c

/-- 名前で引く。 -/
def ofName? (name : String) : Option Color :=
  let key := name.toList.map asciiLower
  (named.find? fun (n, _) => n.toList == key).map (·.2)

/-- ASCII の 16 進の 1 桁。 -/
def hexValue? (c : Char) : Option Nat :=
  if '0' ≤ c ∧ c ≤ '9' then some (c.toNat - 48)
  else if 'a' ≤ c ∧ c ≤ 'f' then some (c.toNat - 87)
  else if 'A' ≤ c ∧ c ≤ 'F' then some (c.toNat - 55)
  else none

/-- 16 進の 2 桁の値。 -/
def byteOf (hi lo : Nat) : Nat := hi * 16 + lo

/-- `#` を省ける 16 進の 3 桁か 6 桁。 -/
def ofHex? (text : String) : Option Color :=
  let cs := match text.toList with
    | '#' :: rest => rest
    | cs => cs
  match cs.mapM hexValue? with
  | some [r, g, b] => some (rgb8 (byteOf r r) (byteOf g g) (byteOf b b))
  | some [r1, r2, g1, g2, b1, b2] => some (rgb8 (byteOf r1 r2) (byteOf g1 g2) (byteOf b1 b2))
  | _ => none

/-- 前後の空白（Unicode の空白を含む）。 -/
def isSpace (c : Char) : Bool :=
  c == ' ' || c == '\t' || c == '\n' || c == '\r' || c == '\x0b' || c == '\x0c' ||
  c.toNat == 0x85 || c.toNat == 0xA0 || c.toNat == 0x1680 ||
  (0x2000 ≤ c.toNat && c.toNat ≤ 0x200A) || c.toNat == 0x2028 || c.toNat == 0x2029 ||
  c.toNat == 0x202F || c.toNat == 0x205F || c.toNat == 0x3000

/-- 前後の空白を除く。 -/
def trimSpace (s : String) : String :=
  String.ofList ((s.toList.dropWhile isSpace).reverse.dropWhile isSpace).reverse

/-- 文字から色を読む。名前が先、次に 16 進。 -/
def parse (text : String) : Option Color :=
  let t := trimSpace text
  match ofName? t with
  | some c => some c
  | none => ofHex? t

end Color

end PlotGeometry
