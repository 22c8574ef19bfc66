import PlotGeometry.Proofs.Layout.Styles
/-!
# 凡例の格子

`layoutLegend` は凡例の項目を格子に並べ、描画領域の下に帯を取る。項目は凡例の項目の並びと
同じ順で、`i` 番目の項目は `i` 番目の項目を指す。列は少なくとも 1。行の数は、一続きの方式では
項目の数を、二列の方式では多い方の側の項目の数を列で割って切り上げたもので、それらを収める
最小の行の数（`LeastRows`）。帯の高さは 行 ×（行の高さ + 1 + 余白）、狭めた領域は下端をちょうど
その分上げたもので、それが空なら `legend` の誤り。項目がなければ何も取らない。

項目の見本は一辺が行の高さ − 1 の正方形で、上端は 新しい下端 + 2 × 余白 + 行 ×（行の高さ + 1）。
帯は一行あたり 行の高さ + 1 + 余白 しか取らないのに最初の行は 2 × 余白 下から始まるので、
一行だけの凡例では見本の下端が帯の下に 3 はみ出す（`legendSwatch_below_band`）。

* `divCeil_least`、`dualRows_least` — 切り上げた商は、収めるのに要る最小の行の数
* `singleFlowItems_swatchSpan`、`dualItems_swatchSpan` — 項目の番号と、見本の上端と高さ
* `LegendLayout.row_lt_rows` — 収めていれば、どの項目の行も行の数より前
* `layoutLegend_reserves` — 凡例の格子と帯、帯で領域が空になったときの誤り
* `legendSwatch_below_band` — 一行の凡例の見本は帯の下にはみ出す
-/

namespace PlotGeometry

/-! ## 行の数 -/

/-- `r` 行は、`m` 個を `c` 個ずつ並べて収められる最小の行の数。 -/
def LeastRows (m c r : Nat) : Prop := m ≤ r * c ∧ ∀ r', m ≤ r' * c → r ≤ r'

/-- 切り上げた商は、`m` 個を `c` 個ずつ並べて収める最小の行の数。 -/
theorem divCeil_least {m c : Nat} (hc : 0 < c) : LeastRows m c (divCeil m c) := by
  unfold divCeil
  have hdiv := Nat.div_add_mod (m + c - 1) c
  have hmod := Nat.mod_lt (m + c - 1) hc
  refine ⟨?_, fun r hr => ?_⟩
  · rw [Nat.mul_comm]
    omega
  · -- `m + c - 1 < (r + 1) c` なので、商は `r` を越えない
    have hlt : m + c - 1 < (r + 1) * c := by
      rw [Nat.succ_mul]
      omega
    exact Nat.lt_succ_iff.mp ((Nat.div_lt_iff_lt_mul hc).mpr hlt)


/-- 少なくとも一つ並べるなら、行は少なくとも一つ。 -/
theorem leastRows_pos {m c r : Nat} (h : LeastRows m c r) (hm : 0 < m) : 1 ≤ r := by
  rcases Nat.eq_zero_or_pos r with rfl | hr
  · have := h.1
    simp at this
    omega
  · exact hr

/-! ## 側ごとの数 -/

/-- 並びのうち `side` の軸の項目の数。 -/
def countSide (side : AxisSide) (entries : List LegendEntry) : Nat :=
  (entries.filter (·.axis == side)).length

/-- `i` 番目の項目と同じ側で、それより前にある項目の数（二列の方式での升目の番号）。 -/
def sideSlot (entries : List LegendEntry) (i : Nat) : Nat :=
  countSide (entries.getD i default).axis (entries.take i)

theorem countSide_primary_add_secondary (entries : List LegendEntry) :
    countSide .primary entries + countSide .secondary entries = entries.length := by
  unfold countSide
  rw [List.length_eq_length_filter_add (fun e => e.axis == .primary) (l := entries)]
  congr 2
  apply List.filter_congr
  intro e _
  cases e.axis <;> rfl

theorem countSide_append_singleton (side : AxisSide) (pre : List LegendEntry) (e : LegendEntry) :
    countSide side (pre ++ [e]) = countSide side pre + if e.axis = side then 1 else 0 := by
  unfold countSide
  by_cases h : e.axis = side <;> simp [List.filter_append, h]

/-- 並びの途中の項目の升目の番号は、前の部分のうち同じ側の項目の数。 -/
theorem sideSlot_append_cons (pre rest : List LegendEntry) (e : LegendEntry) :
    sideSlot (pre ++ e :: rest) pre.length = countSide e.axis pre := by
  unfold sideSlot
  rw [List.take_left]
  congr 2
  simp

/-- 升目の番号は、その側の項目の数より小さい。 -/
theorem sideSlot_lt {entries : List LegendEntry} {i : Nat} (hi : i < entries.length) :
    sideSlot entries i < countSide (entries.getD i default).axis entries := by
  unfold sideSlot countSide
  have hsucc := List.take_succ_eq_append_getElem hi
  rw [List.getD_eq_getElem _ _ hi]
  have hle : ((entries.take (i + 1)).filter (·.axis == entries[i].axis)).length ≤
      (entries.filter (·.axis == entries[i].axis)).length :=
    ((List.take_sublist (i + 1) entries).filter _).length_le
  rw [hsucc, List.filter_append, List.length_append] at hle
  simp only [List.filter_cons, beq_self_eq_true, if_true, List.filter_nil, List.length_cons,
    List.length_nil] at hle
  omega

/-- 二列の方式の行の数（主軸の側の数と残りの多い方を列で割って切り上げ、1 と比べて大きい方）は、
多い方の側を収める最小の行の数。 -/
theorem dualRows_least {entries : List LegendEntry} {c : Nat} (hc : 0 < c) (hne : entries ≠ []) :
    LeastRows (max (countSide .primary entries) (countSide .secondary entries)) c
      (max (divCeil (max (entries.filter (·.axis == .primary)).length
        (entries.length - (entries.filter (·.axis == .primary)).length)) c) 1) := by
  have hsides := countSide_primary_add_secondary entries
  have hpos := List.length_pos_of_ne_nil hne
  have hright : entries.length - (entries.filter (·.axis == .primary)).length =
      countSide .secondary entries := by
    unfold countSide at hsides ⊢
    omega
  rw [hright]
  change LeastRows _ c (max (divCeil (max (countSide .primary entries) (countSide .secondary entries)) c) 1)
  have hleast := divCeil_least (m := max (countSide .primary entries) (countSide .secondary entries)) hc
  rw [Nat.max_eq_left (leastRows_pos hleast (by omega))]
  exact hleast

/-! ## 項目の見本 -/

/-- 項目が指す番号と、見本の上端と高さ。 -/
def LegendItem.swatchSpan (item : LegendItem) : Nat × Float × Float :=
  (item.entry, item.swatch.y, item.swatch.height)

/-- 一続きの方式：`i` 番目の項目は `i` 番目を指し、見本は `i / 列` 行目。 -/
theorem singleFlowItems_swatchSpan (entries : List LegendEntry) (columns : Nat) (area : Area)
    (m : LegendMetrics) (font : FontSpec) :
    (singleFlowItems entries columns area m font).map LegendItem.swatchSpan =
      (List.range entries.length).map fun i =>
        (i, legendTop area + (i / columns).toFloat * m.lineHeight, m.boxSize) := by
  unfold singleFlowItems
  rw [List.map_map, List.range_eq_range', ← List.zipIdx_map_snd 0 entries, List.map_map]
  apply List.map_congr_left
  intro ⟨e, i⟩ _
  cases he : e.axis <;> simp only [Function.comp_apply, he] <;> rfl

/-- 二列の方式：前の部分 `pre` の後に続く項目は、通し番号を指し、見本はその側の升目の番号を
列で割った行。 -/
theorem dualItems_swatchSpan (columns : Nat) (area : Area) (m : LegendMetrics) (font : FontSpec)
    (pre rest : List LegendEntry) :
    (dualItems columns area m font (rest.zipIdx pre.length) (countSide .primary pre)
        (countSide .secondary pre)).map LegendItem.swatchSpan =
      (List.range' pre.length rest.length).map fun i =>
        (i, legendTop area + (sideSlot (pre ++ rest) i / columns).toFloat * m.lineHeight, m.boxSize) := by
  induction rest generalizing pre with
  | nil => simp [dualItems]
  | cons e rest ih =>
    have hnext := ih (pre ++ [e])
    rw [List.append_assoc, List.singleton_append, List.length_append, List.length_singleton,
      countSide_append_singleton, countSide_append_singleton] at hnext
    rw [List.zipIdx_cons, List.length_cons, List.range'_succ, List.map_cons]
    cases he : e.axis with
    | primary =>
      simp only [he, if_true, reduceCtorEq, if_false, Nat.add_zero] at hnext
      simp only [dualItems, he, List.map_cons, hnext, sideSlot_append_cons]
      rfl
    | secondary =>
      simp only [he, if_true, reduceCtorEq, if_false, Nat.add_zero] at hnext
      simp only [dualItems, he, List.map_cons, hnext, sideSlot_append_cons]
      rfl

/-- 二列の方式で並びの全体を並べると、`i` 番目の項目の見本はその側の升目の番号を列で割った行。 -/
theorem dualItems_swatchSpan_zero (columns : Nat) (area : Area) (m : LegendMetrics) (font : FontSpec)
    (entries : List LegendEntry) :
    (dualItems columns area m font entries.zipIdx 0 0).map LegendItem.swatchSpan =
      (List.range entries.length).map fun i =>
        (i, legendTop area + (sideSlot entries i / columns).toFloat * m.lineHeight, m.boxSize) := by
  have h := dualItems_swatchSpan columns area m font [] entries
  rw [List.range_eq_range']
  exact h

/-! ## 凡例の格子と帯 -/

/-- 一つの行に並ぶ数で割る前の、行を決める項目の数：一続きの方式では項目の数、二列の方式では
多い方の側の項目の数。 -/
def LegendLayout.rowDemand (l : LegendLayout) : Nat :=
  match l.mode with
  | .singleFlow => l.entries.length
  | .dualColumn => max (countSide .primary l.entries) (countSide .secondary l.entries)

/-- `i` 番目の項目の行：一続きの方式では番号を列の数で割ったもの、二列の方式では升目の番号を
列の数で割ったもの。 -/
def LegendLayout.row (l : LegendLayout) (i : Nat) : Nat :=
  match l.mode with
  | .singleFlow => i / l.columns
  | .dualColumn => sideSlot l.entries i / l.columns

/-- 行を決める項目の数を格子が収めていれば、どの項目の行も行の数より前。 -/
theorem LegendLayout.row_lt_rows {l : LegendLayout} (hc : 1 ≤ l.columns)
    (hcover : l.rowDemand ≤ l.rows * l.columns) {i : Nat} (hi : i < l.entries.length) :
    l.row i < l.rows := by
  unfold LegendLayout.row
  unfold LegendLayout.rowDemand at hcover
  split
  · rename_i hmode
    simp only [hmode] at hcover
    apply (Nat.div_lt_iff_lt_mul hc).mpr
    omega
  · rename_i hmode
    simp only [hmode] at hcover
    apply (Nat.div_lt_iff_lt_mul hc).mpr
    have hslot := sideSlot_lt hi
    have hside : countSide (l.entries.getD i default).axis l.entries ≤
        max (countSide .primary l.entries) (countSide .secondary l.entries) := by
      cases (l.entries.getD i default).axis
      · exact Nat.le_max_left _ _
      · exact Nat.le_max_right _ _
    omega

/-- 凡例の配置 `l` が格子と帯について満たすこと。 -/
structure LegendLayout.Reserves (tm : TextMeasurer) (l : LegendLayout) (series : List Series)
    (opts : LegendOptions) (area : Area) : Prop where
  entries_eq : l.entries = legendEntries series opts.unique
  /-- 項目がなければ何も取らず、領域はそのまま。 -/
  empty : l.entries = [] → l.rows = 0 ∧ l.reservedHeight = 0.0 ∧ l.items = [] ∧ l.area = area
  columns_pos : l.entries ≠ [] → 1 ≤ l.columns
  rows_least : l.entries ≠ [] → LeastRows l.rowDemand l.columns l.rows
  reserved_eq : l.entries ≠ [] →
    l.reservedHeight = l.rows.toFloat * ((tm.metrics opts.font).height + 1.0 + legendPadding)
  area_eq : l.entries ≠ [] → l.area = { area with ymax := area.ymax - l.reservedHeight }
  area_valid : l.entries ≠ [] → l.area.valid = true
  /-- `i` 番目の項目は `i` 番目を指し、見本は一辺が行の高さ − 1 で、上端は帯の最初の行の上端から
  行 ×（行の高さ + 1）下。 -/
  swatches : l.items.map LegendItem.swatchSpan = (List.range l.entries.length).map fun i =>
    (i, legendTop l.area + (l.row i).toFloat * ((tm.metrics opts.font).height + 1.0),
      (tm.metrics opts.font).height - 1.0)
  row_lt : ∀ i < l.entries.length, l.row i < l.rows

/-- 凡例の帯で領域が空になったときの誤り：項目があり、下端を 行 ×（行の高さ + 1 + 余白）上げた
領域が空で、誤りはその領域を `legend` の名前で報告する。 -/
def LegendCollapses (tm : TextMeasurer) (series : List Series) (opts : LegendOptions) (area : Area)
    (e : ChartError) : Prop :=
  let entries := legendEntries series opts.unique
  entries ≠ [] ∧ ∃ columns rows, 1 ≤ columns ∧
    (LeastRows entries.length columns rows ∨
      LeastRows (max (countSide .primary entries) (countSide .secondary entries)) columns rows) ∧
    let a : Area :=
      { area with ymax := area.ymax - rows.toFloat * ((tm.metrics opts.font).height + 1.0 + legendPadding) }
    a.valid = false ∧ e = .areaCollapsed "legend" a

/-! ## 凡例の配置 -/

/-- 一歩が `some` を `some` に移すなら、`some` から始めた畳み込みは `some` で終わる。 -/
theorem foldl_isSome {α β : Type} (f : Option α → β → Option α) (hf : ∀ a b, (f (some a) b).isSome) :
    ∀ (xs : List β) (acc : Option α), acc.isSome → (xs.foldl f acc).isSome := by
  intro xs
  induction xs with
  | nil => exact fun acc h => h
  | cons x xs ih =>
    intro acc hacc
    rw [List.foldl_cons]
    apply ih
    cases acc with
    | none => cases hacc
    | some a => exact hf a x

/-- 幅の並びに最も広いものがないのは、並びが空のときだけ。 -/
theorem widestIndex_eq_none_iff (widths : List Float) : widestIndex widths = none ↔ widths = [] := by
  cases widths with
  | nil => simp [widestIndex]
  | cons w rest =>
    simp only [reduceCtorEq, iff_false]
    unfold widestIndex
    rw [List.zipIdx_cons, List.foldl_cons]
    -- 最初の幅で種が `some` になり、その後は比べるたびに `some` のまま
    refine Option.isSome_iff_ne_none.mp (foldl_isSome _ ?_ _ _ rfl)
    rintro ⟨best, j⟩ ⟨w', i⟩
    dsimp only
    simp only [apply_ite Option.isSome, Option.isSome_some, ite_self]

/-- 一歩ごとに、持っているものを残すか、見た要素を取るなら、畳み込みの結果は初めのものか要素の一つ。 -/
theorem foldl_option_mem {α : Type} {g : Option α → α → Option α}
    (hg : ∀ acc b, g acc b = acc ∨ g acc b = some b) :
    ∀ (xs : List α) (acc : Option α) (p : α), xs.foldl g acc = some p → acc = some p ∨ p ∈ xs
  | [], _, _, h => .inl h
  | b :: xs, acc, p, h => by
    rw [List.foldl_cons] at h
    rcases foldl_option_mem hg xs (g acc b) p h with h' | h'
    · rcases hg acc b with hb | hb
      · exact .inl (hb ▸ h')
      · rw [hb] at h'
        cases h'
        exact .inr List.mem_cons_self
    · exact .inr (List.mem_cons_of_mem _ h')

/-- 最も広い幅は、並びのその番号にある幅。 -/
theorem widestIndex_getElem? {widths : List Float} {w : Float} {i : Nat}
    (h : widestIndex widths = some (w, i)) : widths[i]? = some w := by
  unfold widestIndex at h
  refine (foldl_option_mem ?_ _ none _ h).elim (fun h' => by cases h')
    (fun h' => List.mem_zipIdx_iff_getElem?.mp h')
  rintro (_ | ⟨best, j⟩) ⟨w', i'⟩
  · exact .inr rfl
  · dsimp only
    split_ifs <;> first | exact .inr rfl | exact .inl rfl

/-- 項目ごとの幅の並びで最も広い番号は項目の並びの中にあり、その番号を `getD` で読んでも既定値には
落ちない：読むのはその番号の項目で、その幅が最も広い幅。`layoutLegend` が二列の方式を試すときに
名前を読む項目はこれ。 -/
theorem widestIndex_entry {entries : List LegendEntry} {f : LegendEntry → Float} {w : Float}
    {i : Nat} (h : widestIndex (entries.map f) = some (w, i)) :
    i < entries.length ∧ entries[i]? = some (entries.getD i default) ∧
      f (entries.getD i default) = w := by
  have hi := widestIndex_getElem? h
  rw [List.getElem?_map] at hi
  obtain ⟨e, he, rfl⟩ := Option.map_eq_some_iff.mp hi
  have hget : entries.getD i default = e := by rw [List.getD_eq_getElem?_getD, he, Option.getD_some]
  rw [hget]
  exact ⟨(List.getElem?_eq_some_iff.mp he).1, he, rfl⟩

theorem Area.ensureValid_ok_inv {a b : Area} {st : String} (h : a.ensureValid st = .ok b) :
    b = a ∧ a.valid = true := by
  unfold Area.ensureValid at h
  split at h
  · cases h
    exact ⟨rfl, by assumption⟩
  · cases h

theorem Area.ensureValid_error_inv {a : Area} {st : String} {e : ChartError}
    (h : a.ensureValid st = .error e) : a.valid = false ∧ e = .areaCollapsed st a := by
  unfold Area.ensureValid at h
  split at h
  · cases h
  · cases h
    exact ⟨by simpa using (by assumption : ¬a.valid = true), rfl⟩

/-- 狭めた領域が空でなかったときの配置は、格子の事実から `Reserves` を満たす。 -/
theorem LegendLayout.Reserves.of_ok {tm : TextMeasurer} {l : LegendLayout} {series : List Series}
    {opts : LegendOptions} {area : Area} (hent : l.entries = legendEntries series opts.unique)
    (hne : l.entries ≠ []) (hc : 1 ≤ l.columns) (hrows : LeastRows l.rowDemand l.columns l.rows)
    (hres : l.reservedHeight =
      l.rows.toFloat * ((tm.metrics opts.font).height + 1.0 + legendPadding))
    (hv : ({ area with ymax := area.ymax - l.reservedHeight } : Area).ensureValid "legend" =
      .ok l.area)
    (hsw : l.items.map LegendItem.swatchSpan = (List.range l.entries.length).map fun i =>
      (i, legendTop l.area + (l.row i).toFloat * ((tm.metrics opts.font).height + 1.0),
        (tm.metrics opts.font).height - 1.0)) :
    l.Reserves tm series opts area where
  entries_eq := hent
  empty h := absurd h hne
  columns_pos _ := hc
  rows_least _ := hrows
  reserved_eq _ := hres
  area_eq _ := (Area.ensureValid_ok_inv hv).1
  area_valid _ := by
    rw [(Area.ensureValid_ok_inv hv).1]
    exact (Area.ensureValid_ok_inv hv).2
  swatches := hsw
  row_lt _ hi := LegendLayout.row_lt_rows hc hrows.1 hi

/-- 項目がなければ、何も取らずに領域をそのまま返す配置は `Reserves` を満たす。 -/
theorem LegendLayout.Reserves.of_empty {tm : TextMeasurer} {series : List Series}
    {opts : LegendOptions} {area : Area} (hnil : legendEntries series opts.unique = []) :
    (⟨legendEntries series opts.unique, .singleFlow, 0, 0, 0.0, 0.0, [], area⟩ :
      LegendLayout).Reserves tm series opts area where
  entries_eq := rfl
  empty _ := ⟨rfl, rfl, rfl, rfl⟩
  columns_pos h := absurd hnil h
  rows_least h := absurd hnil h
  reserved_eq h := absurd hnil h
  area_eq h := absurd hnil h
  area_valid h := absurd hnil h
  swatches := by simp [hnil]
  row_lt i hi := by simp [hnil] at hi

theorem legendCollapses_of_error {tm : TextMeasurer} {series : List Series} {opts : LegendOptions}
    {area : Area} {columns rows : Nat} {e : ChartError}
    (hne : legendEntries series opts.unique ≠ []) (hc : 1 ≤ columns)
    (hrows : LeastRows (legendEntries series opts.unique).length columns rows ∨
      LeastRows (max (countSide .primary (legendEntries series opts.unique))
        (countSide .secondary (legendEntries series opts.unique))) columns rows)
    (hv : ({ area with ymax := area.ymax - rows.toFloat * ((tm.metrics opts.font).height + 1.0 +
      legendPadding) } : Area).ensureValid "legend" = .error e) :
    LegendCollapses tm series opts area e :=
  ⟨hne, columns, rows, hc, hrows, Area.ensureValid_error_inv hv⟩

/-- 凡例の配置の結果が満たすこと：成功なら `Reserves`、失敗なら `LegendCollapses`。 -/
def LegendOutcome (tm : TextMeasurer) (series : List Series) (opts : LegendOptions) (area : Area) :
    Except ChartError LegendLayout → Prop
  | .ok l => l.Reserves tm series opts area
  | .error e => LegendCollapses tm series opts area e

theorem layoutLegend_outcome (tm : TextMeasurer) (series : List Series) (opts : LegendOptions)
    (area : Area) : LegendOutcome tm series opts area (layoutLegend tm series opts area) := by
  unfold layoutLegend
  dsimp only
  split
  · rename_i hnone
    have hnil : legendEntries series opts.unique = [] := by
      simpa using (widestIndex_eq_none_iff _).mp hnone
    exact .of_empty hnil
  · rename_i widest wi hsome
    have hne : legendEntries series opts.unique ≠ [] := by
      intro hnil
      rw [hnil, List.map_nil, (widestIndex_eq_none_iff []).mpr rfl] at hsome
      cases hsome
    split
    · simp only [bind, Except.bind]
      split
      · rename_i e' hv
        exact legendCollapses_of_error hne (Nat.le_max_right _ _)
          (.inr (dualRows_least (Nat.le_max_right _ _) hne)) hv
      · rename_i a' hv
        exact .of_ok rfl hne (Nat.le_max_right _ _) (dualRows_least (Nat.le_max_right _ _) hne)
          rfl hv (dualItems_swatchSpan_zero _ _ _ _ _)
    · simp only [bind, Except.bind]
      split
      · rename_i e' hv
        exact legendCollapses_of_error hne (Nat.le_max_right _ _)
          (.inl (divCeil_least (Nat.le_max_right _ _))) hv
      · rename_i a' hv
        exact .of_ok rfl hne (Nat.le_max_right _ _) (divCeil_least (Nat.le_max_right _ _)) rfl hv
          (singleFlowItems_swatchSpan _ _ _ _ _)

theorem layoutLegend_ok_reserves {tm : TextMeasurer} {series : List Series} {opts : LegendOptions}
    {area : Area} {l : LegendLayout} (h : layoutLegend tm series opts area = .ok l) :
    l.Reserves tm series opts area := by
  have ho := layoutLegend_outcome tm series opts area
  rw [h] at ho
  exact ho

theorem layoutLegend_error_collapses {tm : TextMeasurer} {series : List Series}
    {opts : LegendOptions} {area : Area} {e : ChartError}
    (h : layoutLegend tm series opts area = .error e) : LegendCollapses tm series opts area e := by
  have ho := layoutLegend_outcome tm series opts area
  rw [h] at ho
  exact ho

/-- 凡例の配置は、成功すれば格子と帯について `Reserves` を満たし、失敗するのは帯で領域が空に
なったときだけ。 -/
theorem layoutLegend_reserves (tm : TextMeasurer) (series : List Series) (opts : LegendOptions)
    (area : Area) :
    (∀ l, layoutLegend tm series opts area = .ok l → l.Reserves tm series opts area) ∧
      ∀ e, layoutLegend tm series opts area = .error e → LegendCollapses tm series opts area e := by
  exact ⟨fun _ hl => layoutLegend_ok_reserves hl, fun _ he => layoutLegend_error_collapses he⟩

/-! ## 一行の凡例の見本 -/

/-- 結果を調べる真偽の式が成り立てば、成功した結果がある。閉じた入力で評価するときに使う。 -/
theorem exists_ok_of_any {ε α : Type} (r : Except ε α) (P : α → Bool) (h : r.toOption.any P = true) :
    ∃ x, r = .ok x ∧ P x = true := by
  rcases r with e | x
  · simp [Except.toOption] at h
  · exact ⟨x, rfl, by simpa [Except.toOption] using h⟩

/-- 名前 `a` の系列が一つ。 -/
def singleLegendSeries : List Series :=
  [{ name := "a", startTime := 0, stopTime := 60, stepTime := 60, values := #[1.0], absent := #[false] }]

/-- 幅 300 の描画面に、10 ポイントの Sans で一続きの凡例。 -/
def sansLegendOptions : LegendOptions := ⟨300.0, { family := "Sans", size := 10.0 }, false, false⟩

/-- 一つの系列の凡例を `[10, 290]²` の領域に置くと、配置は成功して `Reserves` のとおり。 -/
theorem layoutLegend_reserves_single :
    ∃ l, layoutLegend .heuristic singleLegendSeries sansLegendOptions ⟨10.0, 290.0, 10.0, 290.0⟩ =
        .ok l ∧
      l.Reserves .heuristic singleLegendSeries sansLegendOptions ⟨10.0, 290.0, 10.0, 290.0⟩ := by
  obtain ⟨l, hl, -⟩ := exists_ok_of_any
    (layoutLegend .heuristic singleLegendSeries sansLegendOptions ⟨10.0, 290.0, 10.0, 290.0⟩)
    (fun _ => true) (by decide +kernel)
  exact ⟨l, hl, (layoutLegend_reserves .heuristic _ _ _).1 l hl⟩

/-- 見本は帯の中に収まるとは限らない。一つの系列の凡例を `[10, 290]²` の領域に置くと一行で、
帯は `[272, 290]` だが、見本は `282` から高さ `11` で、下端 `293` が帯の下にはみ出す。 -/
theorem legendSwatch_below_band :
    ∃ l, layoutLegend .heuristic singleLegendSeries sansLegendOptions ⟨10.0, 290.0, 10.0, 290.0⟩ =
        .ok l ∧ l.rows = 1 ∧ ∃ item ∈ l.items, l.area.ymax + l.reservedHeight < item.swatch.y + item.swatch.height := by
  obtain ⟨l, hl, hcheck⟩ := exists_ok_of_any
    (layoutLegend .heuristic singleLegendSeries sansLegendOptions ⟨10.0, 290.0, 10.0, 290.0⟩)
    (fun l => decide (l.rows = 1) && l.items.any fun item =>
      decide (l.area.ymax + l.reservedHeight < item.swatch.y + item.swatch.height))
    (by decide +kernel)
  simp only [Bool.and_eq_true, decide_eq_true_eq, List.any_eq_true] at hcheck
  exact ⟨l, hl, hcheck⟩

end PlotGeometry
