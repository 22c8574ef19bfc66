import PlotGeometry.Layout.Outcome
import PlotGeometry.Axis.Label
import PlotGeometry.Time.Format
import PlotGeometry.Error
import PlotGeometry.Numeric.Float
/-!
# 配置の手順

時系列と設定から、描くグラフの幾何を決める。キャンバスから余白を除いた描画領域から
始め、手順ごとに帯を取って領域を狭める。どの手順の後でも領域の幅と高さが正でなければ、
その手順の名前を付けた誤りで止まる。

1. 扱えない描き方（円グラフ、使える対数の底）は誤り。使えない底は警告して線形。
2. 時系列の形を調べる。全体の時刻の範囲が空なら、グラフの代わりに「No Data」。
3. 時刻の範囲を調べ、余白を除き、線の見た目を割り当てる。
4. 題（上）、縦の題（左、二軸なら右も）、凡例（下）、X のラベルの帯（下）を取る。
5. X の時刻の範囲：傾きの線では最後の点で終わる（すべて 2 点の系列なら終わりの時刻）。
   上書きがあればそれ。
6. Y 軸のラベルの幅だけ左右を狭め、領域が動かなくなるまで繰り返す（上限あり）。
7. Y のラベルの縦の位置と、X のラベルを決める。

手順の進み具合（`LayoutStage`）は配置器に残り、次の配置はそこから始まる。

配置器は外に任せる計算を道具（`Toolkit`）として持つ：文字の寸法の見積もり、暦、十進小数の
丸め。配置はどの道具でも同じ手順で進む。

## 停止性

* Y 軸の組み直し — 回数の上限を燃料にする
* ほかは並びの畳み込み
-/

namespace PlotGeometry

/-- Y のラベルの幅に掛ける余裕。 -/
def labelInsetFactor : Float := 1.02

/-- X のラベルの数の上限。 -/
def maxXLabels : Float := 500.0

/-- データがないときに置く文字。 -/
def noDataText : String := "No Data"

/-- 配置が止まった理由。 -/
inductive LayoutFailure where
  | chart (e : ChartError)
  /-- 64 ビットの時刻の計算が範囲を越えた。 -/
  | overflow (o : Overflow)

/-- 配置の途中の状態：進み具合、見た目を割り当てた系列、出した警告、入った手順。 -/
structure Progress where
  stage : LayoutStage
  series : List Series
  warnings : List Warning
  /-- この配置で入った手順を順に。手順を進めるたびに、その移り変わりが報告される。 -/
  entered : List LayoutStage

/-- 配置の計算。止まっても状態は残る。 -/
abbrev LayoutPass := ExceptT LayoutFailure (StateM Progress)

namespace LayoutPass

/-- 警告を出す。 -/
def warn (ws : List Warning) : LayoutPass Unit :=
  modify fun p => { p with warnings := p.warnings ++ ws }

/-- 手順を進め、入った手順を記す。 -/
def advance (stage : LayoutStage) : LayoutPass Unit :=
  modify fun p => { p with stage, entered := p.entered ++ [stage] }

/-- グラフの誤りで止まりうる計算。 -/
def fromChart (r : Except ChartError α) : LayoutPass α :=
  match r with
  | .ok a => pure a
  | .error e => throw (.chart e)

/-- 領域の幅と高さが正であることを確かめる。 -/
def ensure (a : Area) (stage : String) : LayoutPass Area := fromChart (a.ensureValid stage)

end LayoutPass

open LayoutPass

/-- 配置が外に任せる計算：文字の寸法の見積もり、暦、十進小数の丸め。 -/
structure Toolkit where
  measurer : TextMeasurer
  calendar : Time.Calendar
  /-- 倍精度数を十進小数にし、小数 `dp` 桁に丸め、末尾の 0 を除いたときの小数の桁数。
  十進小数にできなければ `none`。 -/
  decimalScale : Float → Nat → Option Nat

/-- 決まった規則の見積もり、先発グレゴリオ暦、96 ビットの十進小数。 -/
def Toolkit.standard : Toolkit :=
  ⟨.heuristic, Time.Calendar.gregorian, Decimal.roundedScale?⟩

/-! ## 手順の部品 -/

/-- 描き方が扱えるか。使えない対数の底は警告だけ。 -/
def checkSupported (c : ChartConfig) : Except ChartError (List Warning) :=
  if c.graphType == .pie then .error (.unsupported .pieGraphs)
  else
    match c.logBase with
    | some b =>
      if b.isFinite && 0.0 < b && b != 1.0 then .error (.unsupported .logarithmicAxis)
      else .ok [.invalidLogBase]
    | none => .ok []

/-- 検査に通らない最初の系列の誤り。 -/
def firstFault (series : List Series) (check : Series → Option SeriesFault) : Option ChartError :=
  series.findSome? fun s => (check s).map (.inconsistentSeries s.name)

/-- 検査に通らない系列があれば、最初のものの誤りで止まる。 -/
def rejectFault (series : List Series) (check : Series → Option SeriesFault) : LayoutPass Unit :=
  match firstFault series check with
  | some e => throw (.chart e)
  | none => pure ()

/-- 全体の時刻の範囲：最も早い始まりと最も遅い終わり。系列がなければ `none`。 -/
def mergedTimeRange : List Series → Option (Int × Int)
  | [] => none
  | s :: rest =>
    some (rest.foldl (fun acc t => min acc t.startTime) s.startTime,
          rest.foldl (fun acc t => max acc t.stopTime) s.stopTime)

/-- 結び方。どの系列も 1 点なら階段。 -/
def resolveLineMode (series : List Series) (configured : LineMode) : LineMode :=
  if !series.isEmpty && series.all (·.pointCount == 1) then .staircase else configured

/-- 線の見た目を割り当てる。二軸なら軸ごとの見た目を使う。 -/
def assignStyles (c : ChartConfig) (dualAxis : Bool) (series : List Series) : List Series :=
  let a := (Assigner.new c.palette).withLine c.lineWidth c.dashed
  let a := if dualAxis then a.withSideStyles c.leftStyle c.rightStyle else a
  a.assign series

/-- 行を、位置を `next` で進めながら置く。置いた文字と、最後の行の次の位置。 -/
def stackLines (lines : List String) (start : Float) (next : Float → Float)
    (place : String → Float → PlacedText) : List PlacedText × Float :=
  lines.foldl (fun (acc, pos) line => (acc ++ [place line pos], next pos)) ([], start)

/-- 改行で区切った行。 -/
def textLines (s : String) : List String := (s.toList.splitOn '\n').map String.ofList

/-- 題を上に置き、その下に余白を取る。題がなければ何もしない。 -/
def reserveTitle (tk : Toolkit) (c : ChartConfig) (area : Area) :
    Except ChartError (Area × List PlacedText) :=
  if c.title.isEmpty then .ok (area, [])
  else
    let font := c.titleFont
    let lineHeight := (tk.measurer.metrics font).height
    let (titles, y) := stackLines (textLines c.title) area.ymin (· + lineHeight) fun line y =>
      { text := line, font, x := c.width / 2.0, y, align := .center, valign := .top,
        rotationDegrees := 0.0 }
    ({ area with ymin := y + c.margin }).ensureValid "title" |>.map (·, titles)

/-- 縦の題の一行。高さの中ほどに、`degrees` だけ回して置く（左は 270 度、右は 90 度）。 -/
def verticalTitleLine (c : ChartConfig) (degrees : Float) (line : String) (x : Float) : PlacedText :=
  { text := line, font := c.titleFont, x, y := c.height / 2.0, align := .center,
    valign := .baseline, rotationDegrees := degrees }

/-- 縦の題を左の端から右へ置き、その右に余白を取る。題がなければ何もしない。 -/
def reserveLeftTitle (tk : Toolkit) (c : ChartConfig) (area : Area) :
    Except ChartError (Area × List PlacedText) :=
  if c.vtitle.isEmpty then .ok (area, [])
  else
    let lineHeight := (tk.measurer.metrics c.titleFont).height
    let (texts, x) := stackLines (textLines c.vtitle) (area.xmin + lineHeight)
      (· + lineHeight) (verticalTitleLine c 270.0)
    ({ area with xmin := x + c.margin }).ensureValid "vertical title" |>.map (·, texts)

/-- 二軸なら右の縦の題を右の端から左へ置き、その左に余白を取る。 -/
def reserveRightTitle (tk : Toolkit) (c : ChartConfig) (area : Area) (dualAxis : Bool) :
    Except ChartError (Area × List PlacedText) :=
  if dualAxis && !c.vtitleRight.isEmpty then
    let lineHeight := (tk.measurer.metrics c.titleFont).height
    let (texts, x) := stackLines (textLines c.vtitleRight) (area.xmax - lineHeight)
      (· - lineHeight) (verticalTitleLine c 90.0)
    ({ area with xmax := x - c.margin }).ensureValid "right vertical title" |>.map (·, texts)
  else .ok (area, [])

/-- 縦の題を左に（二軸なら右の縦の題を右にも）置き、余白を取る。 -/
def reserveVerticalTitles (tk : Toolkit) (c : ChartConfig) (area : Area) (dualAxis : Bool) :
    Except ChartError (Area × List PlacedText) := do
  let (area, left) ← reserveLeftTitle tk c area
  let (area, right) ← reserveRightTitle tk c area dualAxis
  pure (area, left ++ right)

/-- 凡例の帯を取る。凡例を出さなければ何もしない。 -/
def reserveLegend (tk : Toolkit) (c : ChartConfig) (series : List Series) (area : Area)
    (dualAxis : Bool) (flags : DisplayFlags) : Except ChartError (Area × Option LegendLayout) :=
  if flags.legend then
    (layoutLegend tk.measurer series ⟨c.width, c.font, c.uniqueLegend, dualAxis⟩ area).map fun l => (l.area, some l)
  else .ok (area, none)

/-- X のラベルの帯を下に取る（文字の上の高さの 2 倍）。軸を出さなければ何もしない。 -/
def reserveXLabelBand (tk : Toolkit) (c : ChartConfig) (area : Area) (flags : DisplayFlags) :
    Except ChartError Area :=
  if !flags.axes then .ok area
  else
    ({ area with ymax := area.ymax - 2.0 * (tk.measurer.metrics c.font).ascent }).ensureValid
      "x axis labels"

/-- X の範囲の上書きを時刻に。丸めて 64 ビットに飽和させ、表せない時刻なら警告して捨てる。 -/
def timeOverride (tk : Toolkit) : Option Float → Option Int × List Warning
  | none => (none, [])
  | some x =>
    let secs := toInt64Sat (roundNum x)
    if tk.calendar.representable secs then (some secs, []) else (none, [.unrepresentableXOverride])

/-- 最大の値を持つ最後の組。 -/
def lastMaximal (xs : List (String × Int)) : Option (String × Int) :=
  xs.foldl (fun acc x => match acc with
    | none => some x
    | some best => if best.2 ≤ x.2 then some x else some best) none

/-- 描く線の終わりの時刻。傾きの線は最後の点で終わる（すべて 2 点の系列なら全体の終わり）。
最後の点が全体の始まりより前の系列があれば、その系列の誤り。 -/
def drawnEndTime (series : List Series) (mode : LineMode) (mergedStart mergedStop : Int) :
    Except LayoutFailure Int :=
  if mode != .staircase && !series.all (·.pointCount == 2) then
    match series.mapM (fun s => (subI64 s.stopTime s.stepTime).map (s.name, ·)) with
    | .error o => .error (.overflow o)
    | .ok lasts =>
      match lastMaximal lasts with
      | none => .ok mergedStop
      | some (name, last) =>
        if last < mergedStart then
          .error (.chart (.inconsistentSeries name (.lastBeforeStart last mergedStart)))
        else .ok (if mergedStart < last then last else mergedStop)
  else .ok mergedStop

/-- X 軸が覆う時刻の範囲。上書きで範囲が空になるなら、警告して上書きを使わない。 -/
def drawableTimeRange (tk : Toolkit) (xo : AxisOverrides) (series : List Series) (mode : LineMode)
    (mergedStart mergedStop : Int) : LayoutPass (Int × Int) := do
  let endTime ← MonadExcept.ofExcept (drawnEndTime series mode mergedStart mergedStop)
  let (lo, w1) := timeOverride tk xo.min
  let (hi, w2) := timeOverride tk xo.max
  warn (w1 ++ w2)
  let start := lo.getD mergedStart
  let stop := hi.getD endTime
  if stop ≤ start then
    warn [.emptyXOverride]
    pure (mergedStart, endTime)
  else pure (start, stop)

/-- Y 軸の割り振り：二軸なら主を左、副を右。そうでなければ主だけを設定の辺に。 -/
def axisPlan (c : ChartConfig) (dualAxis : Bool) : List (AxisSide × YAxisSide × AxisOverrides) :=
  if dualAxis then [(.primary, .left, c.y), (.secondary, .right, c.yRight)]
  else [(.primary, c.yAxisSide, c.y)]

/-- 一つの Y 軸の縮尺とラベル。ラベルの縦の位置はまだ 0。 -/
def setupYAxis (tk : Toolkit) (c : ChartConfig) (series : List Series) (flags : DisplayFlags)
    (dualAxis : Bool) (plan : AxisSide × YAxisSide × AxisOverrides) : YAxisLayout × List Warning :=
  let (axis, side, overrides) := plan
  let members := series.filter fun s => !dualAxis || s.axis == axis
  let (scale, ws) := computeYAxis members
    { overrides, areaMode := c.areaMode, drawNullAsZero := c.drawNullAsZero }
  let labels : List YAxisLabel :=
    if flags.axes && flags.yAxis then
      scale.ticks.map fun v =>
        { value := v, text := formatYLabel tk.decimalScale v scale.yStep c.unitSystem, y := 0.0 }
    else []
  let labelWidth := labels.foldl (fun acc l => maxNum acc (tk.measurer.measure l.text c.font).width) 0.0
  ({ axis, side, scale, labels, labelWidth }, ws)

/-- すべての Y 軸。 -/
def setupYAxes (tk : Toolkit) (c : ChartConfig) (series : List Series) (flags : DisplayFlags)
    (dualAxis : Bool) : List YAxisLayout × List Warning :=
  (axisPlan c dualAxis).foldl (fun (axes, ws) p =>
    let (l, w) := setupYAxis tk c series flags dualAxis p
    (axes ++ [l], ws ++ w)) ([], [])

/-- ラベルの幅（と余白）だけ、ラベルの辺の側を狭める。 -/
def applyLabelInsets (c : ChartConfig) (area : Area) (axes : List YAxisLayout) : Area :=
  axes.foldl (fun a l =>
    if 0.0 < l.labelWidth then
      let inset := c.margin + l.labelWidth * labelInsetFactor
      match l.side with
      | .left => { a with xmin := maxNum a.xmin inset }
      | .right => { a with xmax := minNum a.xmax (c.width - inset) }
    else a) area

/-- 領域が動かなくなるまで Y 軸を組み直す。領域、軸、回数。 -/
def convergeYAxes (tk : Toolkit) (c : ChartConfig) (series : List Series) (area : Area)
    (flags : DisplayFlags) (dualAxis : Bool) : LayoutPass (Area × List YAxisLayout × Nat) :=
  go (max 1 c.maxLayoutIterations) 1 area
where
  go : Nat → Nat → Area → LayoutPass (Area × List YAxisLayout × Nat)
    | 0, _, _ => throw (.chart (.nonConvergence (max 1 c.maxLayoutIterations)))
    | fuel + 1, i, area => do
      let (axes, ws) := setupYAxes tk c series flags dualAxis
      warn ws
      let next ← ensure (applyLabelInsets c area axes) "y axis labels"
      if next.sameValue area then pure (area, axes, i) else go fuel (i + 1) next

/-- ラベルの縦の位置を決める。 -/
def YAxisLayout.placeLabels (l : YAxisLayout) (area : Area) : YAxisLayout :=
  { l with labels := l.labels.map fun lab => { lab with y := l.valueToPixel lab.value area } }

/-- X 軸。ラベルの間隔は刻みの上書き（多すぎれば表の間隔）で、それでも 500 を越えるなら
表の間隔の整数倍に広げる。 -/
def buildXAxis (tk : Toolkit) (c : ChartConfig) (xo : AxisOverrides) (start stop : Int) (area : Area)
    (flags : DisplayFlags) : XAxisLayout × List Warning :=
  let range := Float.ofInt (clampI64 (stop - start))
  let spec := Time.selectTickSpec range area.width
  let table := spec.labelInterval
  let (interval, w1) : Float × List Warning := match xo.step with
    | some step => if range / step > maxXLabels then (table, [.tooManyXLabels]) else (step, [])
    | none => (table, [])
  let (interval, w2) : Float × List Warning :=
    if range / interval > maxXLabels then (table * ceilNum (range / (table * maxXLabels)), [.wideningLabels])
    else (interval, [])
  let (offset, w3) := c.fixedOffset tk.calendar
  let layout : XAxisLayout :=
    { startTime := start, endTime := stop, spec, labelInterval := interval, labels := [] }
  let labels : List XAxisLabel :=
    if flags.axes then
      -- 表の型紙には誤りの項目がないので、書けない場合は起きない
      (Time.alignedTimes start stop interval).map fun ts =>
        { timestamp := ts, text := (Time.formatTimestamp tk.calendar ts spec.format offset).getD "",
          x := layout.timeToPixel ts area }
    else []
  ({ layout with labels }, w1 ++ w2 ++ w3)

/-- データがないときの置き換え。大きさ `ln(幅 × 高さ)` の「No Data」を中央に。 -/
def noDataPlaceholder (c : ChartConfig) : NoDataPlaceholder :=
  { width := c.width, height := c.height, background := c.background, color := Color.alert,
    text := { text := noDataText, font := c.font.withSize (lnNum (c.width * c.height)),
              x := c.width / 2.0, y := c.height / 2.0, align := .center, valign := .top,
              rotationDegrees := 0.0 } }

/-! ## 手順の全体 -/

/-- 題、縦の題、凡例、X のラベルの帯を順に取る。手順ごとに進み具合を記す。 -/
def reserveBands (tk : Toolkit) (c : ChartConfig) (series : List Series) (flags : DisplayFlags)
    (dualAxis : Bool) (area : Area) : LayoutPass (Area × List PlacedText × Option LegendLayout) := do
  let (area, titles) ← fromChart (reserveTitle tk c area)
  advance .titleReserved
  let (area, vtitles) ← fromChart (reserveVerticalTitles tk c area dualAxis)
  advance .vTitleReserved
  let (area, legend) ← fromChart (reserveLegend tk c series area dualAxis flags)
  advance .legendReserved
  let area ← fromChart (reserveXLabelBand tk c area flags)
  pure (area, titles ++ vtitles, legend)

/-- 全体の時刻の範囲 `[mergedStart, mergedStop)` が空でない系列の配置。 -/
def plotPass (tk : Toolkit) (c : ChartConfig) (xo : AxisOverrides) (input : List Series)
    (mergedStart mergedStop : Int) : LayoutPass LayoutOutcome := do
  rejectFault input Series.rangeFault?
  let area ← ensure (Area.insetCanvas c.width c.height c.margin) "canvas margins"
  let flags := c.displayFlags input.length
  let dualAxis := input.any (·.axis == .secondary)
  let lineMode := resolveLineMode input c.lineMode
  let series := assignStyles c dualAxis input
  modify fun p => { p with series }
  let (area, titles, legend) ← reserveBands tk c series flags dualAxis area
  let (start, stop) ← drawableTimeRange tk xo series lineMode mergedStart mergedStop
  let (area, axes, iterations) ← convergeYAxes tk c series area flags dualAxis
  let axes := axes.map (·.placeLabels area)
  let (xAxis, ws) := buildXAxis tk c xo start stop area flags
  warn ws
  advance .axisConverged
  advance .done
  pure (.plotted
    { width := c.width, height := c.height, background := c.background,
      foreground := c.foreground, labelFont := c.font, area, titles, legend, yAxes := axes, xAxis,
      series := series.filterMap fun s => s.style.map fun st => ⟨s.name, s.axis, st⟩,
      lineMode, showGrid := flags.grid, iterations })

/-- データがないときの結果。 -/
def noDataPass (c : ChartConfig) : LayoutPass LayoutOutcome := do
  advance .noData
  pure (.noData (noDataPlaceholder c))

/-- 一度の配置。`xo` は整えた X の上書き。 -/
def layoutPass (tk : Toolkit) (c : ChartConfig) (xo : AxisOverrides) (input : List Series) :
    LayoutPass LayoutOutcome := do
  warn (← fromChart (checkSupported c))
  rejectFault input Series.shapeFault?
  match mergedTimeRange input with
  | none => noDataPass c
  | some (mergedStart, mergedStop) =>
    if mergedStop ≤ mergedStart then noDataPass c
    else plotPass tk c xo input mergedStart mergedStop

/-- 配置器：設定、道具、整えた X の上書き、手順の進み具合。 -/
structure Converger where
  config : ChartConfig
  toolkit : Toolkit
  xOverrides : AxisOverrides
  stage : LayoutStage := .init

/-- 一度の配置の結果。 -/
structure LayoutRun where
  /-- 進み具合を更新した配置器。 -/
  converger : Converger
  /-- 見た目を割り当てた系列（割り当ての前に止まれば入力のまま）。 -/
  series : List Series
  outcome : Except LayoutFailure LayoutOutcome
  warnings : List Warning
  /-- この配置で入った手順を順に。 -/
  entered : List LayoutStage

namespace Converger

/-- 新しい配置器。X の上書きはここで一度だけ整える。 -/
def new (c : ChartConfig) (tk : Toolkit) : Converger × List Warning :=
  let (xo, ws) := c.x.sanitize
  ({ config := c, toolkit := tk, xOverrides := xo }, ws)

/-- 系列を配置する。進み具合は前の配置の続きから。 -/
def converge (cv : Converger) (series : List Series) : LayoutRun :=
  let (r, p) := (layoutPass cv.toolkit cv.config cv.xOverrides series).run.run ⟨cv.stage, series, [], []⟩
  { converger := { cv with stage := p.stage }, series := p.series, outcome := r,
    warnings := p.warnings, entered := p.entered }

end Converger

/-- 新しい配置器で一度だけ配置する。警告には X の上書きを整えたときのものも入る。 -/
def layoutGraph (c : ChartConfig) (series : List Series) (tk : Toolkit) : LayoutRun :=
  let (cv, ws) := Converger.new c tk
  let run := cv.converge series
  { run with warnings := ws ++ run.warnings }

end PlotGeometry
