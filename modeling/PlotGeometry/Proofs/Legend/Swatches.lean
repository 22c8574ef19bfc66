import Mathlib
import PlotGeometry.Proofs.Legend.Scale
/-!
# 凡例の見本は重ならない（丸めを除いて）

凡例の項目の見本は、升目ごとに一つ置く正方形。一続きの方式では `i` 番目の項目は
`(i / 列, i % 列)` の升目で、主軸の項目は升目の左端に、副軸の項目は右端に寄せる。二列の方式
では、主軸の項目は左端から右へ、副軸の項目は右端から左へ、その側の升目の番号で並ぶ。

見本の一辺は 行の高さ − 2 で、行の間隔より 2 小さく、項目の幅より 10 以上小さい。だから
正確な計算なら、行の違う見本は縦に、同じ行の見本は横に離れる。ただし一つの例外がある。副軸の
見本の右端は升目の右端、つまり右隣の升目の左端にちょうど接するので、そこに主軸の見本があると
丸めで重なりうる（`legendSwatches_overlap`）。ここでは、重なっても `2^-12` までであることを示す
（`Rect.ApartWithin`）。

二列の方式では、列の数を領域の幅でなく 描画面の幅 − 左端 から決め、少なくとも 1 にする。だから
領域が狭いと、左からの列と右からの列がぶつかる。左右の項目が離れるのは、二つの列が並んで
収まる（2 × 列 × 項目の幅 ≤ 領域の幅）ときに限る。

証明は二段。まず見本ごとに、正確に計算した位置が升目 `[lo, hi]` に収まり、計算した上端と左端は
その位置から `2^-13` 以内にあることを示す（`Rect.InRow`、`Rect.InColumn`）。次に、升目が縦か横に
離れていれば、見本の重なりは二つの誤差の和 `2^-12` までになる（`Rect.InRow.apart`、
`Rect.InColumn.apart`）。誤差を抑えるのに要る大きさの上界は `GridScale` にまとめてある：文字の
大きさは 1 から `2^20`、描画面の幅と領域の端は `±2^30` の中（`LegendScale`）なら、位置はどれも
`2^36` を越えず、一度の丸めの誤差は `2^-16`（位置で `ε = 2^1058`）以下。

* `Rect.ApartWithin` — 重なっても幅 `δ` まで
* `singleFlowItems_swatch`、`dualItems_swatch` — 項目の見本は升目の見本 `cellSwatch`
* `GridScale.singleFlowItems_apart`、`GridScale.dualItems_apart` — 升目の見本どうしの重なり
* `layoutLegend_swatches_apart` — 見本は、二列の方式の左右の項目で列が並んで収まらない場合を
  除いて、重なっても `2^-12` まで
* `legendSwatches_overlap` — 狭い領域の二列の方式と、一続きの方式の接する見本が重なる例
-/

namespace PlotGeometry

open Float.Model

/-! ## 重なりの幅 -/

/-- 二つの矩形が、重なっても幅 `δ`（位置の単位 `2^-1074`）まで：横か縦のどちらかで、一方の
終わりが他方の始まりを `δ` より多く越えない。`δ = 0` なら、重なる部分の面積は 0。 -/
def Rect.ApartWithin (δ : ℤ) (a b : Rect) : Prop :=
  rankOf a.x + rankOf a.width ≤ rankOf b.x + δ ∨ rankOf b.x + rankOf b.width ≤ rankOf a.x + δ ∨
    rankOf a.y + rankOf a.height ≤ rankOf b.y + δ ∨ rankOf b.y + rankOf b.height ≤ rankOf a.y + δ

instance (δ : ℤ) (a b : Rect) : Decidable (a.ApartWithin δ b) :=
  inferInstanceAs (Decidable (_ ∨ _ ∨ _ ∨ _))

theorem Rect.ApartWithin.symm {δ : ℤ} {a b : Rect} (h : a.ApartWithin δ b) : b.ApartWithin δ a := by
  unfold Rect.ApartWithin at h ⊢
  omega

/-! ## 升目の見本 -/

/-- 升目に置く見本：主軸の項目は左端 `x` から、副軸の項目は右端 `xRight` まで、上端は `y`。 -/
def cellSwatch (m : LegendMetrics) (side : AxisSide) (x xRight y : Float) : Rect :=
  match side with
  | .primary => ⟨x, y, m.boxSize, m.boxSize⟩
  | .secondary => ⟨xRight - m.boxSize, y, m.boxSize, m.boxSize⟩

@[simp] theorem cellSwatch_width (m : LegendMetrics) (side : AxisSide) (x xRight y : Float) :
    (cellSwatch m side x xRight y).width = m.boxSize := by
  cases side <;> rfl

@[simp] theorem cellSwatch_height (m : LegendMetrics) (side : AxisSide) (x xRight y : Float) :
    (cellSwatch m side x xRight y).height = m.boxSize := by
  cases side <;> rfl

@[simp] theorem cellSwatch_y (m : LegendMetrics) (side : AxisSide) (x xRight y : Float) :
    (cellSwatch m side x xRight y).y = y := by
  cases side <;> rfl

/-- 一続きの方式の `i` 番目の見本は、升目 `(i / 列, i % 列)` の見本。 -/
theorem singleFlowItems_swatch (entries : List LegendEntry) (columns : Nat) (area : Area)
    (m : LegendMetrics) (font : FontSpec) :
    (singleFlowItems entries columns area m font).map LegendItem.swatch =
      (List.range entries.length).map fun i =>
        cellSwatch m (entries.getD i default).axis
          (area.xmin + (i % columns).toFloat * m.labelWidth)
          (area.xmin + (i % columns).toFloat * m.labelWidth + m.labelWidth)
          (legendTop area + (i / columns).toFloat * m.lineHeight) := by
  unfold singleFlowItems
  apply List.ext_getElem (by simp)
  intro i h1 h2
  simp only [List.getElem_map, List.getElem_zipIdx, List.getElem_range, Nat.zero_add]
  have hi : i < entries.length := by simpa using h2
  rw [List.getD_eq_getElem _ _ hi]
  cases entries[i].axis <;> rfl

/-- 二列の方式で、先に `pre` を置いた後の `rest` の見本：`i` 番目の見本は、その側の升目の番号
`sideSlot` の行と列にあり、主軸は左端から、副軸は右端から数える。 -/
theorem dualItems_swatch (columns : Nat) (area : Area) (m : LegendMetrics) (font : FontSpec)
    (pre rest : List LegendEntry) :
    (dualItems columns area m font (rest.zipIdx pre.length) (countSide .primary pre)
        (countSide .secondary pre)).map LegendItem.swatch =
      (List.range' pre.length rest.length).map fun i =>
        cellSwatch m ((pre ++ rest).getD i default).axis
          (area.xmin + (sideSlot (pre ++ rest) i % columns).toFloat * m.labelWidth)
          (area.xmax - (sideSlot (pre ++ rest) i % columns).toFloat * m.labelWidth)
          (legendTop area + (sideSlot (pre ++ rest) i / columns).toFloat * m.lineHeight) := by
  induction rest generalizing pre with
  | nil => simp [dualItems]
  | cons e rest ih =>
    have hnext := ih (pre ++ [e])
    rw [List.append_assoc, List.singleton_append, List.length_append, List.length_singleton,
      countSide_append_singleton, countSide_append_singleton] at hnext
    have hget : (pre ++ e :: rest).getD pre.length default = e := by simp
    rw [List.zipIdx_cons, List.length_cons, List.range'_succ, List.map_cons]
    cases he : e.axis with
    | primary =>
      simp only [he, if_true, reduceCtorEq, if_false, Nat.add_zero] at hnext
      simp only [dualItems, he, List.map_cons, hnext, sideSlot_append_cons, hget]
      rfl
    | secondary =>
      simp only [he, if_true, reduceCtorEq, if_false, Nat.add_zero] at hnext
      simp only [dualItems, he, List.map_cons, hnext, sideSlot_append_cons, hget]
      rfl

/-- 二列の方式で並びの全体を並べると、`i` 番目の見本はその側の升目の番号の行と列にある。 -/
theorem dualItems_swatch_zero (columns : Nat) (area : Area) (m : LegendMetrics) (font : FontSpec)
    (entries : List LegendEntry) :
    (dualItems columns area m font entries.zipIdx 0 0).map LegendItem.swatch =
      (List.range entries.length).map fun i =>
        cellSwatch m (entries.getD i default).axis
          (area.xmin + (sideSlot entries i % columns).toFloat * m.labelWidth)
          (area.xmax - (sideSlot entries i % columns).toFloat * m.labelWidth)
          (legendTop area + (sideSlot entries i / columns).toFloat * m.lineHeight) := by
  have h := dualItems_swatch columns area m font [] entries
  rw [List.range_eq_range']
  exact h

/-- 写した並びが番号の並びの像なら、`i` 番目を写したものは `i` の像。 -/
theorem map_getElem_of_eq_range {α β : Type} {xs : List α} {f : α → β} {g : Nat → β} {n : Nat}
    (h : xs.map f = (List.range n).map g) {i : Nat} (hi : i < xs.length) : f xs[i] = g i := by
  have hlen : xs.length = n := by simpa using congrArg List.length h
  have := congrArg (·[i]?) h
  simp only [List.getElem?_map, List.getElem?_range (hlen ▸ hi), List.getElem?_eq_getElem hi,
    Option.map_some] at this
  exact Option.some.inj this

/-- 同じ側の二つの項目では、後の項目の升目の番号の方が大きい。 -/
theorem sideSlot_lt_of_lt {entries : List LegendEntry} {i j : Nat} (hij : i < j)
    (hj : j < entries.length)
    (hside : (entries.getD i default).axis = (entries.getD j default).axis) :
    sideSlot entries i < sideSlot entries j := by
  unfold sideSlot
  rw [← hside]
  have hi : i < entries.length := by omega
  rw [List.getD_eq_getElem _ _ hi]
  unfold countSide
  have hle : ((entries.take (i + 1)).filter (·.axis == entries[i].axis)).length ≤
      ((entries.take j).filter (·.axis == entries[i].axis)).length :=
    ((List.take_prefix_take_left (by omega : i + 1 ≤ j)).sublist.filter _).length_le
  rw [List.take_succ_eq_append_getElem hi, List.filter_append, List.length_append] at hle
  simp only [List.filter_cons, beq_self_eq_true, if_true, List.filter_nil, List.length_cons,
    List.length_nil] at hle
  omega

/-! ## 丸めを含めた升目 -/

/-- 見本 `r` は一辺 `b` の正方形で、上端の位置は `y` から `2^1061` 以内。 -/
def Rect.InRow (r : Rect) (b : Float) (y : ℤ) : Prop :=
  r.width = b ∧ r.height = b ∧ Float.Near r.y y (2 ^ 1061)

/-- 見本 `r` の左端の位置は、`[lo, hi]` に収まる見本の左端 `v` から `2^1061` 以内：正確に
計算すれば、見本は横に `[lo, hi]` の中。 -/
def Rect.InColumn (r : Rect) (lo hi : ℤ) : Prop :=
  ∃ v, Float.Near r.x v (2 ^ 1061) ∧ lo ≤ v ∧ v + rankOf r.width ≤ hi

/-- 上の行の見本の下端が下の行の上端を越えなければ、丸めても重なりは `2^1062` まで。 -/
theorem Rect.InRow.apart {r s : Rect} {b : Float} {y y' : ℤ} (hr : r.InRow b y) (hs : s.InRow b y')
    (h : y + rankOf b ≤ y') : r.ApartWithin (2 ^ 1062) s := by
  obtain ⟨-, hrh, -, hr1, hr2⟩ := hr
  obtain ⟨-, -, -, hs1, hs2⟩ := hs
  unfold Rect.ApartWithin
  rw [hrh]
  omega

/-- 左の升目の右端が右の升目の左端を越えなければ、丸めても重なりは `2^1062` まで。 -/
theorem Rect.InColumn.apart {r s : Rect} {lo hi lo' hi' : ℤ} (hr : r.InColumn lo hi)
    (hs : s.InColumn lo' hi') (h : hi ≤ lo') : r.ApartWithin (2 ^ 1062) s := by
  obtain ⟨v, ⟨-, hv1, hv2⟩, -, hvhi⟩ := hr
  obtain ⟨w, ⟨-, hw1, hw2⟩, hwlo, -⟩ := hs
  unfold Rect.ApartWithin
  omega

/-- 番号の小さい升目の終わり `a w + w` は、大きい升目の始まり `b w` を越えない。 -/
theorem natCast_mul_add_le_mul {a b : Nat} (hab : a < b) {w : ℤ} (hw : 0 ≤ w) :
    (a : ℤ) * w + w ≤ b * w := by
  have := Int.mul_le_mul_of_nonneg_right (show (a : ℤ) + 1 ≤ b by omega) hw
  rwa [Int.add_mul, Int.one_mul] at this

section
variable {x0 x1 top : Float} {m : LegendMetrics} {rows : Nat}
  (gs : GridScale x0 x1 top m.boxSize m.lineHeight m.labelWidth rows)
include gs

/-- `k` 行目の上端 `top + k × 行の間隔` は、位置 `top + k 行の間隔` から `2^1061` 以内。 -/
theorem GridScale.rowTop_near {k : Nat} (hk : k < rows) :
    Float.Near (top + k.toFloat * m.lineHeight) (rankOf top + k * rankOf m.lineHeight) (2 ^ 1061) := by
  obtain ⟨-, hb0, -⟩ := gs.box_bounds
  obtain ⟨hlf, hbl⟩ := gs.box_le_line
  obtain ⟨htf, ht1, ht2⟩ := gs.top_near
  have hrl := gs.rows_line
  have hrows := gs.rows_lt
  have hk' : (k : ℤ) * rankOf m.lineHeight ≤ rows * rankOf m.lineHeight :=
    Int.mul_le_mul_of_nonneg_right (by exact_mod_cast hk.le) (by omega)
  have hk0 : 0 ≤ (k : ℤ) * rankOf m.lineHeight := Int.mul_nonneg (Int.natCast_nonneg k) (by omega)
  have hmul := Float.near_natMul (n := k) (by omega) hlf (by rw [abs_of_nonneg (by omega)]; omega)
  exact ((Float.near_rankOf htf).add hmul (abs_le.mpr ⟨by omega, by omega⟩)).widen (by omega)
    (by omega)

/-- `k` 行目の見本は、その行に収まる。 -/
theorem GridScale.cellSwatch_inRow (side : AxisSide) (x xRight : Float) {k : Nat} (hk : k < rows) :
    (cellSwatch m side x xRight (top + k.toFloat * m.lineHeight)).InRow m.boxSize
      (rankOf top + k * rankOf m.lineHeight) :=
  ⟨cellSwatch_width .., cellSwatch_height .., by rw [cellSwatch_y]; exact gs.rowTop_near hk⟩

/-- 上の行の見本は、下の行の見本と離れる：見本の一辺は行の間隔を越えない。 -/
theorem GridScale.rows_apart {k k' : Nat} (hkk : k < k') :
    rankOf top + k * rankOf m.lineHeight + rankOf m.boxSize ≤ rankOf top + k' * rankOf m.lineHeight := by
  obtain ⟨-, hb0, -⟩ := gs.box_bounds
  obtain ⟨-, hbl⟩ := gs.box_le_line
  have := natCast_mul_add_le_mul hkk (show 0 ≤ rankOf m.lineHeight by omega)
  omega

variable {c : Nat} (hcW : c * rankOf m.labelWidth ≤ 2 ^ 1107)
include hcW

/-- `col` 列目の升目は `c` 列の中にあり、列の番号は `2^53` 未満。 -/
theorem GridScale.col_lt {col : Nat} (hcol : col < c) : col < 2 ^ 53 ∧ 0 ≤ rankOf m.labelWidth ∧
    0 ≤ (col : ℤ) * rankOf m.labelWidth ∧
    (col : ℤ) * rankOf m.labelWidth + rankOf m.labelWidth ≤ c * rankOf m.labelWidth := by
  obtain ⟨-, hb0, -⟩ := gs.box_bounds
  obtain ⟨-, hbw⟩ := gs.box_le_width
  have hW0 : 0 ≤ rankOf m.labelWidth := by omega
  have h := natCast_mul_add_le_mul hcol hW0
  have hc : (c : ℤ) * 2 ^ 1069 ≤ c * rankOf m.labelWidth :=
    Int.mul_le_mul_of_nonneg_left (by omega) (Int.natCast_nonneg c)
  exact ⟨by omega, hW0, Int.mul_nonneg (Int.natCast_nonneg col) hW0, h⟩

variable (hW : m.labelWidth.isFinite = true)
include hW

/-- 左から `col` 列目の左端 `x0 + col × 項目の幅` は、位置 `x0 + col 項目の幅` から `2^1059 + 1`
以内。 -/
theorem GridScale.columnLeft_near {col : Nat} (hcol : col < c) :
    Float.Near (x0 + col.toFloat * m.labelWidth) (rankOf x0 + col * rankOf m.labelWidth)
      (2 ^ 1059 + 1) := by
  obtain ⟨h53, hW0, hk0, hcol'⟩ := gs.col_lt hcW hcol
  obtain ⟨hxf, hx1, hx2⟩ := gs.x0_near
  have hmul := Float.near_natMul h53 hW (by rw [abs_of_nonneg hW0]; omega)
  exact ((Float.near_rankOf hxf).add hmul (abs_le.mpr ⟨by omega, by omega⟩)).widen (by omega)
    (by omega)

/-- 右から `col` 列目の右端 `x1 - col × 項目の幅` は、位置 `x1 - col 項目の幅` から `2^1059 + 1`
以内。 -/
theorem GridScale.columnRight_near {col : Nat} (hcol : col < c) :
    Float.Near (x1 - col.toFloat * m.labelWidth) (rankOf x1 - col * rankOf m.labelWidth)
      (2 ^ 1059 + 1) := by
  obtain ⟨h53, hW0, hk0, hcol'⟩ := gs.col_lt hcW hcol
  obtain ⟨hxf, hx1, hx2⟩ := gs.x1_near
  have hmul := Float.near_natMul h53 hW (by rw [abs_of_nonneg hW0]; omega)
  exact ((Float.near_rankOf hxf).sub hmul (abs_le.mpr ⟨by omega, by omega⟩)).widen (by omega)
    (by omega)

/-- 左から `col` 列目の主軸の見本は、升目 `[x0 + col 幅, x0 + col 幅 + 幅]` の中。 -/
theorem GridScale.primary_inColumn {col : Nat} (hcol : col < c) (xRight y : Float) :
    (cellSwatch m .primary (x0 + col.toFloat * m.labelWidth) xRight y).InColumn
      (rankOf x0 + col * rankOf m.labelWidth)
      (rankOf x0 + col * rankOf m.labelWidth + rankOf m.labelWidth) := by
  obtain ⟨-, hbw⟩ := gs.box_le_width
  exact ⟨rankOf x0 + col * rankOf m.labelWidth,
    (gs.columnLeft_near hcW hW hcol).widen (by omega) (by omega), le_refl _,
    by rw [cellSwatch_width]; omega⟩

/-- 一続きの方式で `col` 列目の副軸の見本は、升目の右端に寄せても升目の中。 -/
theorem GridScale.flowSecondary_inColumn {col : Nat} (hcol : col < c) (y : Float) :
    (cellSwatch m .secondary (x0 + col.toFloat * m.labelWidth)
        (x0 + col.toFloat * m.labelWidth + m.labelWidth) y).InColumn
      (rankOf x0 + col * rankOf m.labelWidth)
      (rankOf x0 + col * rankOf m.labelWidth + rankOf m.labelWidth) := by
  obtain ⟨h53, hW0, hk0, hcol'⟩ := gs.col_lt hcW hcol
  obtain ⟨hbf, hb0, hb2⟩ := gs.box_bounds
  obtain ⟨-, hbw⟩ := gs.box_le_width
  obtain ⟨-, hx1, hx2⟩ := gs.x0_near
  have hright := (gs.columnLeft_near hcW hW hcol).add (Float.near_rankOf hW)
    (abs_le.mpr ⟨by omega, by omega⟩)
  have hx := hright.sub (Float.near_rankOf hbf) (abs_le.mpr ⟨by omega, by omega⟩)
  exact ⟨rankOf x0 + col * rankOf m.labelWidth + rankOf m.labelWidth - rankOf m.boxSize,
    hx.widen (by omega) (by omega), by omega, by simp only [cellSwatch_width]; omega⟩

/-- 二列の方式で右から `col` 列目の副軸の見本は、升目 `[x1 - col 幅 - 幅, x1 - col 幅]` の中。 -/
theorem GridScale.dualSecondary_inColumn {col : Nat} (hcol : col < c) (x y : Float) :
    (cellSwatch m .secondary x (x1 - col.toFloat * m.labelWidth) y).InColumn
      (rankOf x1 - col * rankOf m.labelWidth - rankOf m.labelWidth)
      (rankOf x1 - col * rankOf m.labelWidth) := by
  obtain ⟨h53, hW0, hk0, hcol'⟩ := gs.col_lt hcW hcol
  obtain ⟨hbf, hb0, hb2⟩ := gs.box_bounds
  obtain ⟨-, hbw⟩ := gs.box_le_width
  obtain ⟨-, hx1, hx2⟩ := gs.x1_near
  have hx := (gs.columnRight_near hcW hW hcol).sub (Float.near_rankOf hbf)
    (abs_le.mpr ⟨by omega, by omega⟩)
  exact ⟨rankOf x1 - col * rankOf m.labelWidth - rankOf m.boxSize, hx.widen (by omega) (by omega),
    by omega, by simp only [cellSwatch_width]; omega⟩

end

section
variable {x0 x1 top : Float} {m : LegendMetrics} {rows : Nat}
  (gs : GridScale x0 x1 top m.boxSize m.lineHeight m.labelWidth rows)
include gs

/-- 左の列の升目の右端は、右の列の升目の左端を越えない。 -/
theorem GridScale.column_le {a b : Nat} (hab : a < b) :
    (a : ℤ) * rankOf m.labelWidth + rankOf m.labelWidth ≤ b * rankOf m.labelWidth := by
  obtain ⟨-, hb0, -⟩ := gs.box_bounds
  obtain ⟨-, hbw⟩ := gs.box_le_width
  exact natCast_mul_add_le_mul hab (by omega)

variable {c : Nat} (hcW : c * rankOf m.labelWidth ≤ 2 ^ 1107) (hW : m.labelWidth.isFinite = true)
include hcW hW

/-- 一続きの方式で `col` 列目の見本は、主軸でも副軸でも升目の中。 -/
theorem GridScale.flowSwatch_inColumn (side : AxisSide) {col : Nat} (hcol : col < c) (y : Float) :
    (cellSwatch m side (x0 + col.toFloat * m.labelWidth)
        (x0 + col.toFloat * m.labelWidth + m.labelWidth) y).InColumn
      (rankOf x0 + col * rankOf m.labelWidth)
      (rankOf x0 + col * rankOf m.labelWidth + rankOf m.labelWidth) := by
  cases side with
  | primary => exact gs.primary_inColumn hcW hW hcol _ _
  | secondary => exact gs.flowSecondary_inColumn hcW hW hcol _

/-- 一続きの方式で列の違う二つの見本は、重なっても `2^1062` まで。 -/
theorem GridScale.flowCells_apart (s t : AxisSide) {a b : Nat} (ha : a < c) (hb : b < c)
    (hab : a ≠ b) (y y' : Float) :
    (cellSwatch m s (x0 + a.toFloat * m.labelWidth) (x0 + a.toFloat * m.labelWidth + m.labelWidth)
        y).ApartWithin (2 ^ 1062)
      (cellSwatch m t (x0 + b.toFloat * m.labelWidth) (x0 + b.toFloat * m.labelWidth + m.labelWidth)
        y') := by
  have hsa := gs.flowSwatch_inColumn hcW hW s ha y
  have htb := gs.flowSwatch_inColumn hcW hW t hb y'
  rcases Nat.lt_or_gt_of_ne hab with hlt | hlt
  · exact hsa.apart htb (by have := gs.column_le hlt; omega)
  · exact (htb.apart hsa (by have := gs.column_le hlt; omega)).symm

/-- 二列の方式で二つの見本は、同じ側なら列が違い、違う側なら左右の列が並んで収まるとき、重なっても
`2^1062` まで。主軸の列は左端から右へ、副軸の列は右端から左へ並ぶ。 -/
theorem GridScale.dualCells_apart (s t : AxisSide) {a b : Nat} (ha : a < c) (hb : b < c)
    (hst : s = t → a ≠ b)
    (hcross : s ≠ t → 2 * c * rankOf m.labelWidth ≤ rankOf x1 - rankOf x0) (y y' : Float) :
    (cellSwatch m s (x0 + a.toFloat * m.labelWidth) (x1 - a.toFloat * m.labelWidth) y).ApartWithin
      (2 ^ 1062)
      (cellSwatch m t (x0 + b.toFloat * m.labelWidth) (x1 - b.toFloat * m.labelWidth) y') := by
  have hpa := gs.primary_inColumn hcW hW ha (x1 - a.toFloat * m.labelWidth) y
  have hpb := gs.primary_inColumn hcW hW hb (x1 - b.toFloat * m.labelWidth) y'
  have hsa := gs.dualSecondary_inColumn hcW hW ha (x0 + a.toFloat * m.labelWidth) y
  have hsb := gs.dualSecondary_inColumn hcW hW hb (x0 + b.toFloat * m.labelWidth) y'
  have hca := (gs.col_lt hcW ha).2.2.2
  have hcb := (gs.col_lt hcW hb).2.2.2
  cases s <;> cases t
  · rcases Nat.lt_or_gt_of_ne (hst rfl) with hlt | hlt
    · exact hpa.apart hpb (by have := gs.column_le hlt; omega)
    · exact (hpb.apart hpa (by have := gs.column_le hlt; omega)).symm
  · have hfit := hcross (by decide)
    rw [mul_assoc] at hfit
    exact hpa.apart hsb (by omega)
  · have hfit := hcross (by decide)
    rw [mul_assoc] at hfit
    exact (hpb.apart hsa (by omega)).symm
  · rcases Nat.lt_or_gt_of_ne (hst rfl) with hlt | hlt
    · exact (hsb.apart hsa (by have := gs.column_le hlt; omega)).symm
    · exact hsa.apart hsb (by have := gs.column_le hlt; omega)

end

section
variable {m : LegendMetrics} {rows c : Nat} {area : Area} {font : FontSpec}
  {entries : List LegendEntry}
  (gs : GridScale area.xmin area.xmax (legendTop area) m.boxSize m.lineHeight m.labelWidth rows)
  (hc : 1 ≤ c)
  (hfit : 2 ≤ c → m.labelWidth.isFinite = true ∧ c * rankOf m.labelWidth ≤ 2 ^ 1107)
include gs hc hfit

/-- 一続きの方式では、どの二つの見本も、重なっても `2^1062` まで：行が違えば縦に、同じ行なら列が
違うので横に離れる。 -/
theorem GridScale.singleFlowItems_apart (hrows : ∀ i < entries.length, i / c < rows) :
    (singleFlowItems entries c area m font).Pairwise fun a b =>
      a.swatch.ApartWithin (2 ^ 1062) b.swatch := by
  have hsw := singleFlowItems_swatch entries c area m font
  have hlen : (singleFlowItems entries c area m font).length = entries.length := by
    simpa using congrArg List.length hsw
  rw [List.pairwise_iff_getElem]
  intro i j hi hj hij
  rw [map_getElem_of_eq_range hsw hi, map_getElem_of_eq_range hsw hj]
  rw [hlen] at hi hj
  rcases Nat.lt_or_ge (i / c) (j / c) with hrow | hrow
  · exact (gs.cellSwatch_inRow _ _ _ (hrows i hi)).apart (gs.cellSwatch_inRow _ _ _ (hrows j hj))
      (gs.rows_apart hrow)
  · have hrow' : i / c = j / c := le_antisymm (Nat.div_le_div_right hij.le) hrow
    have hcol : i % c ≠ j % c := fun h => hij.ne (Nat.ext_div_modEq hrow' h)
    have ha := Nat.mod_lt i hc
    have hb := Nat.mod_lt j hc
    obtain ⟨hW, hcW⟩ := hfit (by omega)
    exact gs.flowCells_apart hcW hW _ _ ha hb hcol _ _

/-- 二列の方式では、どの二つの見本も、違う側の項目なら左右の列が並んで収まるとき、重なっても
`2^1062` まで：行が違えば縦に、同じ行で同じ側なら升目の番号が違うので横に、違う側なら左半分と
右半分に離れる。 -/
theorem GridScale.dualItems_apart (hrows : ∀ i < entries.length, sideSlot entries i / c < rows) :
    (dualItems c area m font entries.zipIdx 0 0).Pairwise fun a b =>
      ((entries.getD a.entry default).axis ≠ (entries.getD b.entry default).axis →
        2 * c * rankOf m.labelWidth ≤ rankOf area.xmax - rankOf area.xmin) →
      a.swatch.ApartWithin (2 ^ 1062) b.swatch := by
  have hsw := dualItems_swatch_zero c area m font entries
  have hspan := dualItems_swatchSpan_zero c area m font entries
  have hlen : (dualItems c area m font entries.zipIdx 0 0).length = entries.length := by
    simpa using congrArg List.length hspan
  rw [List.pairwise_iff_getElem]
  intro i j hi hj hij hcross
  have hei := congrArg Prod.fst (map_getElem_of_eq_range hspan hi)
  have hej := congrArg Prod.fst (map_getElem_of_eq_range hspan hj)
  simp only [LegendItem.swatchSpan] at hei hej
  rw [hei, hej] at hcross
  rw [map_getElem_of_eq_range hsw hi, map_getElem_of_eq_range hsw hj]
  rw [hlen] at hi hj
  rcases lt_trichotomy (sideSlot entries i / c) (sideSlot entries j / c) with hrow | hrow | hrow
  · exact (gs.cellSwatch_inRow _ _ _ (hrows i hi)).apart (gs.cellSwatch_inRow _ _ _ (hrows j hj))
      (gs.rows_apart hrow)
  · have ha := Nat.mod_lt (sideSlot entries i) hc
    have hb := Nat.mod_lt (sideSlot entries j) hc
    by_cases hside : (entries.getD i default).axis = (entries.getD j default).axis
    · have hk := sideSlot_lt_of_lt hij hj hside
      have hcol : sideSlot entries i % c ≠ sideSlot entries j % c :=
        fun h => hk.ne (Nat.ext_div_modEq hrow h)
      obtain ⟨hW, hcW⟩ := hfit (by omega)
      exact gs.dualCells_apart hcW hW _ _ ha hb (fun _ => hcol) (fun h => absurd hside h) _ _
    · obtain ⟨hW, hcW⟩ := sidesFit_columns gs.x0_near gs.x1_near gs.box_le_width.1
        (by have := gs.box_bounds.2.1; have := gs.box_le_width.2; omega) hc (hcross hside)
      exact gs.dualCells_apart hcW hW _ _ ha hb (fun h => absurd h hside) (fun _ => hcross hside) _ _
  · exact ((gs.cellSwatch_inRow _ _ _ (hrows j hj)).apart (gs.cellSwatch_inRow _ _ _ (hrows i hi))
      (gs.rows_apart hrow)).symm

end

/-! ## 凡例の見本 -/

/-- 名前 `n`、軸 `side` の一点の系列。 -/
def legendSample (n : String) (side : AxisSide) : Series :=
  { name := n, startTime := 0, stopTime := 60, stepTime := 60, values := #[1.0], absent := #[false],
    axis := side }

/-- 凡例の見本は、重なっても `2^-12`（位置で `2^1062`）まで。ただし二列の方式で違う側の二つの
項目については、左右の列が並んで収まる（2 × 列 × 項目の幅 ≤ 領域の幅）ときに限る。大きさの前提
`LegendScale` のもとで、配置が成功すればいつでも成り立つ。 -/
theorem layoutLegend_swatches_apart {series : List Series} {opts : LegendOptions} {area : Area}
    {l : LegendLayout} (hs : LegendScale opts area)
    (h : layoutLegend .heuristic series opts area = .ok l) :
    l.items.Pairwise fun a b =>
      (l.mode = .dualColumn →
        (l.entries.getD a.entry default).axis ≠ (l.entries.getD b.entry default).axis →
        2 * l.columns * rankOf l.labelWidth ≤ rankOf area.xmax - rankOf area.xmin) →
      a.swatch.ApartWithin (2 ^ 1062) b.swatch := by
  have hr := layoutLegend_ok_reserves h
  by_cases hne : l.entries = []
  · rw [(hr.empty hne).2.2.1]
    exact List.Pairwise.nil
  have gs := layoutLegend_gridScale hs h hne
  have hp := layoutLegend_placed .heuristic series opts area l h hne
  have hc := hr.columns_pos hne
  have hfit (h2 : 2 ≤ l.columns) := LegendLayout.columnsFit_of_two_le hs h hne h2
  cases hmode : l.mode with
  | singleFlow =>
    rw [(hp.single hmode).2, TextMeasurer.heuristic_metrics]
    have hsf : (singleFlowItems l.entries l.columns l.area ⟨(fontMetrics opts.font).height - 1.0,
        (fontMetrics opts.font).height + 1.0, l.labelWidth⟩ opts.font).Pairwise fun a b =>
        a.swatch.ApartWithin (2 ^ 1062) b.swatch :=
      gs.singleFlowItems_apart hc hfit fun i hi => by
        simpa [LegendLayout.row, hmode] using hr.row_lt i hi
    refine hsf.imp ?_
    intro a b hab _
    exact hab
  | dualColumn =>
    rw [(hp.dual hmode).2, TextMeasurer.heuristic_metrics]
    have hdc : (dualItems l.columns l.area ⟨(fontMetrics opts.font).height - 1.0,
        (fontMetrics opts.font).height + 1.0, l.labelWidth⟩ opts.font l.entries.zipIdx 0 0).Pairwise
        fun a b =>
          ((l.entries.getD a.entry default).axis ≠ (l.entries.getD b.entry default).axis →
            2 * l.columns * rankOf l.labelWidth ≤ rankOf l.area.xmax - rankOf l.area.xmin) →
          a.swatch.ApartWithin (2 ^ 1062) b.swatch :=
      GridScale.dualItems_apart (m := ⟨(fontMetrics opts.font).height - 1.0,
        (fontMetrics opts.font).height + 1.0, l.labelWidth⟩) gs hc hfit fun i hi => by
        simpa [LegendLayout.row, hmode] using hr.row_lt i hi
    have hxmin : l.area.xmin = area.xmin := by rw [hr.area_eq hne]
    have hxmax : l.area.xmax = area.xmax := by rw [hr.area_eq hne]
    refine hdc.imp ?_
    intro a b hab hcross
    rw [hxmin, hxmax] at hab
    exact hab (hcross rfl)

/-- 主軸五つ、副軸一つ、主軸一つの系列：一続きの方式で、副軸の見本が右隣の升目の見本に接する。 -/
def touchingSeries : List Series :=
  List.replicate 5 (legendSample "a" .primary) ++
    [legendSample "a" .secondary, legendSample "a" .primary]

/-- 接する升目の見本が丸めで重なる配置でも、重なりは `2^-12` まで。 -/
theorem layoutLegend_swatches_apart_touching :
    LegendScale sansLegendOptions ⟨10.0, 290.0, 10.0, 290.0⟩ ∧
      ∃ l, layoutLegend .heuristic touchingSeries sansLegendOptions ⟨10.0, 290.0, 10.0, 290.0⟩ =
          .ok l ∧ l.items.Pairwise fun a b =>
          (l.mode = .dualColumn →
            (l.entries.getD a.entry default).axis ≠ (l.entries.getD b.entry default).axis →
            2 * l.columns * rankOf l.labelWidth ≤
              rankOf (⟨10.0, 290.0, 10.0, 290.0⟩ : Area).xmax -
                rankOf (⟨10.0, 290.0, 10.0, 290.0⟩ : Area).xmin) →
          a.swatch.ApartWithin (2 ^ 1062) b.swatch := by
  have hs : LegendScale sansLegendOptions ⟨10.0, 290.0, 10.0, 290.0⟩ :=
    ⟨by decide +kernel, by decide +kernel⟩
  obtain ⟨l, hl, -⟩ := exists_ok_of_any
    (layoutLegend .heuristic touchingSeries sansLegendOptions ⟨10.0, 290.0, 10.0, 290.0⟩)
    (fun _ => true) (by decide +kernel)
  exact ⟨hs, l, hl, layoutLegend_swatches_apart hs hl⟩

/-! ## 重なる例 -/

/-- 配置が成り立ち、項目の組に重なりが `0` を越えるものがあると計算で確かめられれば、そういう組がある。 -/
theorem exists_overlapping_swatches (r : Except ChartError LegendLayout)
    (h : r.toOption.any (fun l => l.items.any fun a => l.items.any fun b =>
      a.entry != b.entry && !decide (a.swatch.ApartWithin 0 b.swatch)) = true) :
    ∃ l, r = .ok l ∧ ∃ a ∈ l.items, ∃ b ∈ l.items, a.entry ≠ b.entry ∧ ¬a.swatch.ApartWithin 0 b.swatch := by
  obtain ⟨l, hl, hcheck⟩ := exists_ok_of_any r _ h
  simp only [List.any_eq_true, Bool.and_eq_true, bne_iff_ne, ne_eq, Bool.not_eq_true',
    decide_eq_false_iff_not] at hcheck
  obtain ⟨a, ha, b, hb, hne, hover⟩ := hcheck
  exact ⟨l, hl, a, ha, b, hb, hne, hover⟩

/-- 見本は重なりうる。二列の方式で領域 `[10, 60]` に主軸の項目を二つと副軸の項目を一つ置くと、
列は 描画面の幅 300 − 10 から三つになり、主軸の二つ目 `[47.8, 58.8]` と副軸の一つ目 `[49, 60]` が
重なる。一続きの方式で、主軸五つ、副軸一つ、主軸一つを並べると、副軸の見本の右端
`225.8 + 11` は右隣の見本の左端 `236.79999999999998` をわずかに越える。 -/
theorem legendSwatches_overlap :
    (∃ l, layoutLegend .heuristic [legendSample "a" .primary, legendSample "b" .primary,
        legendSample "c" .secondary] ⟨300.0, { family := "Sans", size := 10.0 }, false, true⟩
        ⟨10.0, 60.0, 10.0, 290.0⟩ = .ok l ∧
      ∃ a ∈ l.items, ∃ b ∈ l.items, a.entry ≠ b.entry ∧ ¬a.swatch.ApartWithin 0 b.swatch) ∧
    (∃ l, layoutLegend .heuristic touchingSeries sansLegendOptions ⟨10.0, 290.0, 10.0, 290.0⟩ =
        .ok l ∧ ∃ a ∈ l.items, ∃ b ∈ l.items, a.entry ≠ b.entry ∧ ¬a.swatch.ApartWithin 0 b.swatch) :=
  ⟨exists_overlapping_swatches _ (by decide +kernel), exists_overlapping_swatches _ (by decide +kernel)⟩

end PlotGeometry
