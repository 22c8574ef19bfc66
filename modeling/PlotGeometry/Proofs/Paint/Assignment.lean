import PlotGeometry.Paint.Palette
/-!
# 線の見た目の割り当ての閉じた形

割り当ては系列を順に見て、パレットの位置（カーソル）を持って進む。カーソルはパレットの色を
使った系列のときだけ一つ進み、端で先頭に戻る。したがって `i` 番目の系列の色は、指定した色か
軸の色（`fixedColor`）、なければパレットの `k mod |パレット|` 番目の色で、`k` は `i` 番目より
前でパレットの色を使った系列の数（`paletteCount`）。

* `Assigner.styleFor_of_fixedColor`、`Assigner.styleFor_of_palette` — 一つの系列での一歩
* `Assigner.assignFrom_eq_mapIdx` — カーソル `c` から割り当てた結果の閉じた形。帰納法の
  不変条件は「カーソルは `c` に前の数を足してパレットの長さで割った余り」
* `Assigner.assignFrom_assignFrom` — 割り当ては見た目を読まないので、二度目は何も変えない
* `assign_styles_by_position` — パレット、線の設定、軸ごとの見た目から作った割り当ての結果
-/

namespace PlotGeometry

namespace Assigner

/-- 左右の軸の見た目のうち、軸 `axis` のもの。 -/
def sideFor (sides : AxisStyle × AxisStyle) (axis : AxisSide) : AxisStyle :=
  match axis with
  | .primary => sides.1
  | .secondary => sides.2

/-- パレットを使わずに決まる色：系列が指定した色、なければ（軸ごとの見た目があるとき）
その軸の色。 -/
def fixedColor (sides : Option (AxisStyle × AxisStyle)) (s : Series) : Option Color :=
  s.color <|> sides.bind fun st => (sideFor st s.axis).color

/-- 並びの `i` 番目より前で、パレットの色を使う系列の数。 -/
def paletteCount (sides : Option (AxisStyle × AxisStyle)) (series : List Series) (i : Nat) : Nat :=
  ((series.take i).filter fun s => (fixedColor sides s).isNone).length

/-- 系列の線の太さと破線：軸ごとの見た目があればその軸のもの、なければ全体の設定。 -/
def lineFor (a : Assigner) (s : Series) : Float × Bool :=
  a.sideStyles.elim (a.lineWidth, a.dashed) fun st =>
    ((sideFor st s.axis).lineWidth, (sideFor st s.axis).dashed)

/-- カーソル `c` から割り当てたときの、並び `series` の `i` 番目の系列 `s` の見た目。 -/
def styleAt (a : Assigner) (series : List Series) (c i : Nat) (s : Series) : SeriesStyle :=
  ⟨(fixedColor a.sideStyles s).getD
      (a.palette.getD ((c + paletteCount a.sideStyles series i) % a.palette.length) Color.black),
    (a.lineFor s).1, (a.lineFor s).2⟩

/-! ## 一歩 -/

/-- 一つの系列の割り当ては、パレットを使わずに決まる色があればその色で、カーソルは動かない。 -/
theorem styleFor_of_fixedColor {a : Assigner} {s : Series} {col : Color} (c : Nat)
    (h : fixedColor a.sideStyles s = some col) :
    a.styleFor s c = (⟨col, (a.lineFor s).1, (a.lineFor s).2⟩, c) := by
  obtain ⟨palette, lw, d, sides⟩ := a
  unfold fixedColor at h
  unfold styleFor lineFor
  cases sides with
  | none => simp_all
  | some st => cases hax : s.axis <;> cases hc : s.color <;> simp_all [sideFor]

/-- なければパレットのカーソルの色で、カーソルは一つ進んで端で先頭に戻る。 -/
theorem styleFor_of_palette {a : Assigner} {s : Series} (c : Nat) (h : fixedColor a.sideStyles s = none) :
    a.styleFor s c =
      (⟨a.palette.getD c Color.black, (a.lineFor s).1, (a.lineFor s).2⟩, (c + 1) % a.palette.length) := by
  obtain ⟨palette, lw, d, sides⟩ := a
  unfold fixedColor at h
  unfold styleFor lineFor
  cases sides with
  | none => simp_all
  | some st => cases hax : s.axis <;> simp_all [sideFor]

/-- 割り当ては系列の見た目を読まない。 -/
@[simp] theorem styleFor_restyle (a : Assigner) (s : Series) (st : Option SeriesStyle) (c : Nat) :
    a.styleFor { s with style := st } c = a.styleFor s c := rfl

/-! ## 前の系列の数 -/

@[simp] theorem paletteCount_zero (sides : Option (AxisStyle × AxisStyle)) (series : List Series) :
    paletteCount sides series 0 = 0 := rfl

theorem paletteCount_succ_of_fixedColor {sides : Option (AxisStyle × AxisStyle)} {s : Series}
    {col : Color} (h : fixedColor sides s = some col) (rest : List Series) (i : Nat) :
    paletteCount sides (s :: rest) (i + 1) = paletteCount sides rest i := by
  simp [paletteCount, h]

theorem paletteCount_succ_of_palette {sides : Option (AxisStyle × AxisStyle)} {s : Series}
    (h : fixedColor sides s = none) (rest : List Series) (i : Nat) :
    paletteCount sides (s :: rest) (i + 1) = paletteCount sides rest i + 1 := by
  simp [paletteCount, h]

/-! ## 並び全体 -/

/-- カーソル `c` から割り当てた結果は、各系列に `styleAt` の見た目を書いたもの。 -/
theorem assignFrom_eq_mapIdx (a : Assigner) (series : List Series) {c : Nat}
    (hc : c < a.palette.length) :
    a.assignFrom series c = series.mapIdx fun i s => { s with style := some (a.styleAt series c i s) } := by
  induction series generalizing c with
  | nil => rfl
  | cons s rest ih =>
    have hL : 0 < a.palette.length := by omega
    rw [List.mapIdx_cons]
    cases hf : fixedColor a.sideStyles s with
    | some col =>
      simp only [assignFrom, styleFor_of_fixedColor c hf, ih hc, styleAt, hf, Option.getD_some,
        paletteCount_succ_of_fixedColor hf]
    | none =>
      have hstep : ∀ k, ((c + 1) % a.palette.length + k) % a.palette.length =
          (c + (k + 1)) % a.palette.length := by
        intro k
        rw [Nat.add_mod, Nat.mod_mod, ← Nat.add_mod]
        congr 1
        omega
      simp only [assignFrom, styleFor_of_palette c hf, ih (Nat.mod_lt _ hL), styleAt, hf,
        Option.getD_none, paletteCount_succ_of_palette hf, paletteCount_zero, Nat.add_zero,
        Nat.mod_eq_of_lt hc, hstep]

/-- 割り当てた結果にもう一度割り当てても変わらない。 -/
theorem assignFrom_assignFrom (a : Assigner) (series : List Series) (c : Nat) :
    a.assignFrom (a.assignFrom series c) c = a.assignFrom series c := by
  induction series generalizing c with
  | nil => rfl
  | cons s rest ih => simp [assignFrom, ih]

end Assigner

open Assigner in
/-- パレット `p`（空なら既定のパレット）、線の設定、軸ごとの見た目（あれば）から作った割り当ては、
どの系列にも見た目を書く。`i` 番目の系列の色は、指定した色、なければ（軸ごとの見た目が
あるとき）その軸の色、なければパレットの `k mod |パレット|` 番目の色で、`k` は `i` 番目より
前でそのどちらもなかった系列の数。線の太さと破線は、軸ごとの見た目があればその軸のもの、
なければ全体の設定。結果は位置、軸、指定した色だけで決まり、もう一度割り当てても変わらない。 -/
theorem assign_styles_by_position (p : List Color) (lw : Float) (d : Bool)
    (sides : Option (AxisStyle × AxisStyle)) (series : List Series) :
    let base := (Assigner.new p).withLine lw d
    let a := sides.elim base fun st => base.withSideStyles st.1 st.2
    let palette := if p.isEmpty then defaultPalette else p
    a.assign series = series.mapIdx (fun i s => { s with
      style := some ⟨(fixedColor sides s).getD
          (palette.getD (paletteCount sides series i % palette.length) Color.black),
        sides.elim lw fun st => (sideFor st s.axis).lineWidth,
        sides.elim d fun st => (sideFor st s.axis).dashed⟩ }) ∧
    a.assign (a.assign series) = a.assign series := by
  intro base a palette
  have ha : a = { palette, lineWidth := lw, dashed := d, sideStyles := sides } := by
    cases sides <;> simp [a, base, palette, Assigner.new, Assigner.withLine, Assigner.withSideStyles]
  have hne : 0 < palette.length := by
    cases p <;> simp [palette, defaultPalette]
  refine ⟨?_, assignFrom_assignFrom a series 0⟩
  rw [assign, assignFrom_eq_mapIdx a series (by rw [ha]; exact hne), ha]
  congr 1
  funext i s
  cases sides <;> simp [styleAt, lineFor]

end PlotGeometry
