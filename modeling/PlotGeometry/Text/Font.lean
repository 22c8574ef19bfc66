/-!
# 書体と寸法

書体の指定（名前、大きさ、太字、斜体）と、文字列の寸法の見積もり。

配置と描画は寸法を見積もる部品（`TextMeasurer`）を受け取り、それだけを通して文字を測る。
ここで定める `TextMeasurer.heuristic` は描画系に頼らない決まった規則で、同じ文字列と書体には
同じ寸法を返す。
幅は文字ごとの送り幅（em 単位、数字 0.62、`. , :` 0.34、`- + %` 0.42、空白 0.33、
`i l j t f` 0.30、`m w M W` 0.86、ほか 0.58）を左から足して大きさを掛け、太字なら
さらに 1.08 倍。数えるのは Unicode の文字（バイトではない）。高さは
`(0.8 + 0.2) × 大きさ`、行の高さは 1.2 倍、上は 0.8 倍、下は 0.2 倍。

## 停止性

再帰はない。
-/

namespace PlotGeometry

/-- 書体の指定。 -/
structure FontSpec where
  family : String
  size : Float
  bold : Bool := false
  italic : Bool := false
  deriving Inhabited

/-- 同じ書体で大きさだけ変える。 -/
def FontSpec.withSize (f : FontSpec) (size : Float) : FontSpec := { f with size := size }

/-- 一つの文字列の墨の寸法。 -/
structure TextExtents where
  width : Float
  height : Float

/-- 書体の縦の寸法。 -/
structure FontExtents where
  ascent : Float
  descent : Float
  height : Float

/-- 1 文字の送り幅（em 単位）。 -/
def advanceEm (c : Char) : Float :=
  if '0' ≤ c ∧ c ≤ '9' then 0.62
  else if c = '.' ∨ c = ',' ∨ c = ':' then 0.34
  else if c = '-' ∨ c = '+' ∨ c = '%' then 0.42
  else if c = ' ' then 0.33
  else if c = 'i' ∨ c = 'l' ∨ c = 'j' ∨ c = 't' ∨ c = 'f' then 0.30
  else if c = 'm' ∨ c = 'w' ∨ c = 'M' ∨ c = 'W' then 0.86
  else 0.58

/-- 文字列の寸法の見積もり。 -/
def measureText (text : String) (font : FontSpec) : TextExtents :=
  let units := text.toList.foldl (fun acc c => acc + advanceEm c) 0.0
  let boldScale : Float := if font.bold then 1.08 else 1.0
  { width := units * font.size * boldScale, height := (0.8 + 0.2) * font.size }

/-- 書体の縦の寸法の見積もり。 -/
def fontMetrics (font : FontSpec) : FontExtents :=
  { ascent := 0.8 * font.size, descent := 0.2 * font.size, height := 1.2 * font.size }

/-- 文字の寸法を見積もる部品：文字列の墨の寸法と、書体の縦の寸法。 -/
structure TextMeasurer where
  measure : String → FontSpec → TextExtents
  metrics : FontSpec → FontExtents

/-- 決まった規則の見積もり。 -/
def TextMeasurer.heuristic : TextMeasurer := ⟨measureText, fontMetrics⟩

end PlotGeometry
