import Mathlib.Data.List.Infix
import PlotGeometry.Legend.Entries
/-!
# 凡例の項目の並び

`unique` でなければ、凡例の項目は系列ごとに一つ、系列の順に並ぶ。`unique` なら、項目は
名前がそれより前に出ていない系列だけを順に並べたもの（`firstOfName`）で、名前は互いに
異なり、どの系列の名前も項目にある。

* `uniqueByName.go_eq_filter` — 見た名前を持って進む絞り込みは、見た名前にも、それより前の
  系列の名前にもない系列を残す絞り込み
* `uniqueByName_names_nodup`、`mem_uniqueByName_names` — 残った名前は互いに異なり、
  どの系列の名前も残る
* `legendEntries_firstOfName` — 凡例の項目の並び
-/

namespace PlotGeometry

/-- 名前がそれより前の系列に出ていない系列だけを、順に。各系列をそれより前の系列の並び
（`inits`）と組にして絞る。 -/
def firstOfName (series : List Series) : List Series :=
  ((series.inits.zip series).filter fun p => p.1.all (·.name != p.2.name)).map (·.2)

/-! ## 見た名前を持って進む絞り込み -/

namespace uniqueByName

/-- 先頭の系列 `s` の後ろでは、それより前の並びの頭に `s` が付く。 -/
theorem inits_zip_cons (s : Series) (rest : List Series) :
    (s :: rest).inits.zip (s :: rest) =
      ([], s) :: ((rest.inits.zip rest).map fun p => (s :: p.1, p.2)) := by
  rw [List.inits_cons, List.zip_cons_cons, List.zip_map_left]
  rfl

/-- 見た名前の並び `seen` を持つ絞り込みは、`seen` にない名前で、それより前の系列にも
出ていない系列を残す。`seen` に先頭の名前を足すことと、前の並びに先頭を足すことが
釣り合うのが帰納法の要。 -/
theorem go_eq_filter (seen : List String) (xs : List Series) :
    go seen xs = ((xs.inits.zip xs).filter fun p =>
      !seen.contains p.2.name && p.1.all (·.name != p.2.name)).map (·.2) := by
  induction xs generalizing seen with
  | nil => rfl
  | cons s rest ih =>
    rw [inits_zip_cons]
    by_cases hs : s.name ∈ seen
    · have hc : seen.contains s.name = true := by simpa using hs
      rw [List.filter_cons_of_neg (by simp [hs]), List.filter_map]
      simp only [go, hc, if_true, ih, List.map_map, Function.comp_def]
      congr 1
      apply List.filter_congr
      intro p _
      by_cases hp : p.2.name ∈ seen
      · simp [hp]
      · have hne : s.name ≠ p.2.name := fun heq => hp (heq ▸ hs)
        simp [hp, hne]
    · have hc : seen.contains s.name = false := by simpa using hs
      rw [List.filter_cons_of_pos (by simp [hs]), List.filter_map]
      simp only [go, hc, Bool.false_eq_true, if_false, ih, List.map_cons, List.map_map,
        Function.comp_def]
      congr 2
      apply List.filter_congr
      intro p _
      by_cases heq : p.2.name = s.name
      · simp [heq]
      · have hne : (s.name != p.2.name) = true := bne_iff_ne.mpr (Ne.symm heq)
        simp [heq, hne]

/-- 残った系列の名前は、どれも見た名前にない。 -/
theorem name_not_mem_seen {seen : List String} {xs : List Series} {t : Series}
    (ht : t ∈ go seen xs) : t.name ∉ seen := by
  induction xs generalizing seen with
  | nil => cases ht
  | cons s rest ih =>
    unfold go at ht
    split at ht
    · exact ih ht
    · next hs =>
      rcases List.mem_cons.mp ht with rfl | ht
      · simpa using hs
      · exact fun hmem => ih ht (List.mem_cons_of_mem _ hmem)

/-- 残った系列の名前は互いに異なる。 -/
theorem names_nodup (seen : List String) (xs : List Series) : ((go seen xs).map (·.name)).Nodup := by
  induction xs generalizing seen with
  | nil => exact List.nodup_nil
  | cons s rest ih =>
    unfold go
    split
    · exact ih seen
    · -- 先頭の名前は、後ろで見た名前に入るので二度と残らない
      refine List.nodup_cons.mpr ⟨?_, ih _⟩
      intro hmem
      obtain ⟨t, ht, hname⟩ := List.mem_map.mp hmem
      exact name_not_mem_seen ht (hname ▸ List.mem_cons_self ..)

/-- どの系列の名前も、見た名前にあるか、残った系列の名前にある。 -/
theorem mem_names {seen : List String} {xs : List Series} {s : Series} (hs : s ∈ xs) :
    s.name ∈ seen ∨ s.name ∈ (go seen xs).map (·.name) := by
  induction xs generalizing seen with
  | nil => cases hs
  | cons t rest ih =>
    unfold go
    split
    · next ht =>
      rcases List.mem_cons.mp hs with rfl | hs
      · exact .inl (by simpa using ht)
      · exact ih hs
    · rcases List.mem_cons.mp hs with rfl | hs
      · exact .inr (List.mem_cons_self ..)
      · rcases @ih (t.name :: seen) hs with h | h
        · rcases List.mem_cons.mp h with h | h
          · exact .inr (by simp [h])
          · exact .inl h
        · exact .inr (List.mem_cons_of_mem _ h)

end uniqueByName

/-! ## 名前ごとに最初の系列 -/

theorem uniqueByName_eq_firstOfName (series : List Series) : uniqueByName series = firstOfName series := by
  simp [uniqueByName, uniqueByName.go_eq_filter, firstOfName]

theorem uniqueByName_names_nodup (series : List Series) : ((uniqueByName series).map (·.name)).Nodup :=
  uniqueByName.names_nodup [] series

theorem mem_uniqueByName_names {series : List Series} {s : Series} (hs : s ∈ series) :
    s.name ∈ (uniqueByName series).map (·.name) :=
  (uniqueByName.mem_names hs).resolve_left List.not_mem_nil

/-- 凡例の項目の並び。`unique` でなければ系列ごとに一つを系列の順に、`unique` なら名前が
それより前に出ていない系列の項目だけを順に並べ、その名前は互いに異なり、どの系列の名前も
ある。項目の名前と軸は系列のもの、色は割り当てた見た目の色、なければ系列が指定した色、
なければ黒。 -/
theorem legendEntries_firstOfName (series : List Series) :
    legendEntries series false = series.map Series.legendEntry ∧
    legendEntries series true = (firstOfName series).map Series.legendEntry ∧
    ((legendEntries series true).map (·.name)).Nodup ∧
    (∀ s ∈ series, s.name ∈ (legendEntries series true).map (·.name)) ∧
    ∀ s : Series, s.legendEntry.name = s.name ∧ s.legendEntry.axis = s.axis ∧
      s.legendEntry.color = (s.style.map (·.color)).getD (s.color.getD Color.black) := by
  have hnames : (legendEntries series true).map (·.name) = (uniqueByName series).map (·.name) := by
    simp [legendEntries, Series.legendEntry, Function.comp_def]
  refine ⟨rfl, by simp [legendEntries, uniqueByName_eq_firstOfName], ?_, ?_, ?_⟩
  · rw [hnames]
    exact uniqueByName_names_nodup series
  · intro s hs
    rw [hnames]
    exact mem_uniqueByName_names hs
  · intro s
    refine ⟨rfl, rfl, ?_⟩
    unfold Series.legendEntry
    cases s.style <;> cases s.color <;> rfl

end PlotGeometry
