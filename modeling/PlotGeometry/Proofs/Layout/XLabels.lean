import Mathlib
import PlotGeometry.Proofs.Float.Bounds
import PlotGeometry.Proofs.Float.Integral
import PlotGeometry.Layout.Converge
/-!
# X のラベルの並び

ラベルの時刻は、最初の時刻に間隔の `i` 倍を足して丸めた整数を `i` の順に並べたもの。間隔が有限で
正なら `i` 倍は単調に増え、足して丸めても減らないので、時刻は減らない（`alignedTimes_sorted`）。
最初の時刻が負の無限大になる極端な間隔でも、和は負の無限大（整数は下限）から NaN（整数は 0）へ
移るだけで、減りはしない。

ラベルの横の位置は、範囲の始まりからの差を範囲で割り、描画領域の幅を掛けて左端に足したもの。
範囲が空でなく、描画領域の左端が右端より左で幅が有限なら、時刻について減らない
（`XAxisLayout.timeToPixel_mono`）。

ラベルの間隔は正：整えた刻みの上書きは正で、表の行の間隔は 1 秒以上、広げた間隔は表の行の
間隔に 1 以上の天井を掛けたもの（`widenedInterval_pos`）。
-/

namespace PlotGeometry

/-! ## 時刻は減らない -/

/-- NaN でない数 `a` に負でない数を足して丸めた整数は、足す数について単調。和が NaN になるのは
`a` が負の無限大で足す数が正の無限大のときだけで、整数は 0 になるが、それより小さい数を
足した和は負の無限大（整数は 0 以下）。 -/
theorem toInt64Sat_roundNum_add_mono {a y y' : Float} (ha : a.isNaN = false) (hy : y.isNaN = false)
    (hy' : y'.isNaN = false) (h0 : 0 ≤ rankOf y) (h : rankOf y ≤ rankOf y') :
    toInt64Sat (roundNum (a + y)) ≤ toInt64Sat (roundNum (a + y')) := by
  have hI := infRank_pos
  have hb := Float.rankOf_bounds y'
  cases hs' : (a + y').isNaN
  · cases hs : (a + y).isNaN
    · exact toInt64Sat_mono (roundNum_mono
        (Float.add_le_add_left ((Float.le_iff_rank hy hy').mpr h) a hs hs'))
    · -- 小さい方の和が NaN なら足す数は正の無限大で、大きい方の和も NaN
      exfalso
      rcases (Float.add_isNaN_iff ha hy).mp hs with ⟨-, h1⟩ | ⟨h1, h2⟩
      · omega
      · have := (Float.add_isNaN_iff ha hy').mpr (.inr ⟨h1, by omega⟩)
        rw [hs'] at this
        cases this
  · rw [toInt64Sat_roundNum_of_isNaN hs']
    cases hs : (a + y).isNaN
    · rcases (Float.add_isNaN_iff ha hy').mp hs' with ⟨-, h1⟩ | ⟨h1, -⟩
      · omega
      · apply toInt64Sat_roundNum_nonpos hs
        have hyb := Float.rankOf_bounds y
        rw [Float.rankOf_add hs, h1, ← roundRank_zero]
        exact roundRank_mono (by omega)
    · rw [toInt64Sat_roundNum_of_isNaN hs]

/-- ラベルの時刻は減らない：間隔の `i` 倍を最初の時刻に足して丸めた整数は `i` について単調。 -/
theorem alignedTimes_sorted (start stop : Int) (interval : Float) :
    (Time.alignedTimes start stop interval).Pairwise (· ≤ ·) := by
  unfold Time.alignedTimes
  split
  · exact List.Pairwise.nil
  rename_i hguard
  simp only [Bool.or_eq_true, Bool.not_eq_true', decide_eq_true_eq, not_or] at hguard
  obtain ⟨⟨hfin, hle⟩, -⟩ := hguard
  have hfin' : interval.isFinite = true := by simpa using hfin
  have hn := Float.isNaN_eq_false_of_isFinite hfin'
  have hpos : 0 < rankOf interval := by
    have := mt (Float.le_iff_rank hn rfl).mpr hle
    rw [rankOf_zero] at this
    omega
  have hfirst : (ceilNum (Float.ofInt start / interval) * interval).isNaN = false := by
    have hq := Float.div_isNaN_eq_false (Float.isNaN_ofInt start) hfin' hpos.ne'
    have hc : (ceilNum (Float.ofInt start / interval)).isNaN = false := by
      rw [ceilNum, Float.isNaN_toIntegral, hq]
    exact Float.mul_isNaN_eq_false_of_ne_zero hc hfin' hpos.ne'
  dsimp only
  split
  · exact List.Pairwise.nil
  rw [List.pairwise_map]
  refine List.Pairwise.imp_of_mem ?_ List.pairwise_lt_range
  intro i j hi hj hij
  rw [List.mem_range] at hi hj
  have hcount := (toInt64Sat_bounds
    (floorNum ((Float.ofInt stop - ceilNum (Float.ofInt start / interval) * interval) / interval))).2
  have hfi : (Float.ofNat i).isFinite = true := Float.isFinite_ofNat (by omega)
  have hfj : (Float.ofNat j).isFinite = true := Float.isFinite_ofNat (by omega)
  have h0 : 0 ≤ rankOf (Float.ofNat i * interval) :=
    Float.rankOf_mul_nonneg (Float.rankOf_ofNat_nonneg i) hpos.le
  have hmono := Float.mul_le_mul_of_nonneg_right (Float.ofNat_le_ofNat hij.le) hfi hfj hfin' hpos.le
  refine toInt64Sat_roundNum_add_mono hfirst (Float.mul_isNaN_eq_false hfi hfin')
    (Float.mul_isNaN_eq_false hfj hfin') h0 ?_
  exact (Float.le_iff_rank (Float.mul_isNaN_eq_false hfi hfin') (Float.mul_isNaN_eq_false hfj hfin')).mp hmono

/-! ## 横の位置は時刻について減らない -/

theorem clampI64_mono {a b : Int} (h : a ≤ b) : clampI64 a ≤ clampI64 b := by
  unfold clampI64 i64Min i64Max
  omega

/-- 64 ビットに収めた整数の変換は有限。 -/
theorem Float.isFinite_ofInt_clampI64 (z : Int) : (Float.ofInt (clampI64 z)).isFinite = true := by
  apply Float.isFinite_ofInt
  unfold clampI64 i64Min i64Max
  omega

/-- 正の整数を 64 ビットに収めて変換した数は 1 以上。 -/
theorem Float.one_le_ofInt_clampI64 {z : Int} (hz : 0 < z) : 1.0 ≤ Float.ofInt (clampI64 z) := by
  have hc : 1 ≤ clampI64 z := by
    unfold clampI64 i64Min i64Max
    omega
  rw [Float.le_iff_rank rfl (Float.isNaN_ofInt _), rankOf_one, Float.rankOf_ofInt]
  have hone : roundRank ((1 * 2 ^ 1074 : Nat) : ℤ) = ((1 * 2 ^ 1074 : Nat) : ℤ) :=
    roundRank_natCast_mul_of_lt (by norm_num)
  rw [Nat.one_mul] at hone
  calc ((2 ^ 1074 : Nat) : ℤ) = roundRank ((2 ^ 1074 : Nat) : ℤ) := hone.symm
    _ ≤ roundRank (clampI64 z * ((2 ^ 1074 : Nat) : ℤ)) :=
        roundRank_mono (le_mul_of_one_le_left (Int.natCast_nonneg _) hc)

/-- 左端が右端より左で幅が有限な領域は、左端が有限で、幅は負でない。 -/
theorem Area.xmin_isFinite_of_width {a : Area} (hx : a.xmin < a.xmax) (hw : a.width.isFinite = true) :
    a.xmin.isFinite = true ∧ 0 ≤ rankOf a.width := by
  obtain ⟨hxmin, hxmax⟩ := Float.isNaN_eq_false_of_lt hx
  have hr := (Float.lt_iff_rank hxmin hxmax).mp hx
  refine ⟨Float.isFinite_of_lt_of_sub hx hw, ?_⟩
  rw [Area.width, Float.rankOf_sub (Float.isNaN_eq_false_of_isFinite hw), ← roundRank_zero]
  exact roundRank_mono (by omega)

/-- 時刻の範囲が空でなく、描画領域の左端が右端より左で幅が有限なら、時刻の横の位置は時刻に
ついて減らない。 -/
theorem XAxisLayout.timeToPixel_mono (l : XAxisLayout) {area : Area} (hlt : l.startTime < l.endTime)
    (hx : area.xmin < area.xmax) (hw : area.width.isFinite = true) {t t' : Int} (h : t ≤ t') :
    l.timeToPixel t area ≤ l.timeToPixel t' area := by
  obtain ⟨hxmin, hw0⟩ := Area.xmin_isFinite_of_width hx hw
  have hr1 := Float.one_le_ofInt_clampI64 (show 0 < l.endTime - l.startTime by omega)
  have hrf := Float.isFinite_ofInt_clampI64 (l.endTime - l.startTime)
  have hrpos := Float.rankOf_pos_of_one_le hr1
  have hnot : ¬Float.ofInt (clampI64 (l.endTime - l.startTime)) ≤ 0.0 := by
    rw [Float.le_iff_rank (Float.isNaN_ofInt _) rfl, rankOf_zero]
    omega
  unfold XAxisLayout.timeToPixel
  dsimp only
  rw [if_neg hnot, if_neg hnot]
  have hd := Float.ofInt_le_ofInt (clampI64_mono (show t - l.startTime ≤ t' - l.startTime by omega))
  have hq := Float.div_le_div_of_pos_right hd (Float.isFinite_ofInt_clampI64 _)
    (Float.isFinite_ofInt_clampI64 _) hrf hrpos
  have hqf := Float.isFinite_div_of_one_le (Float.isFinite_ofInt_clampI64 (t - l.startTime)) hrf hr1
  have hqf' := Float.isFinite_div_of_one_le (Float.isFinite_ofInt_clampI64 (t' - l.startTime)) hrf hr1
  have hp := Float.mul_le_mul_of_nonneg_right hq hqf hqf' hw hw0
  exact Float.add_le_add_left hp area.xmin
    (Float.add_isNaN_eq_false_of_isFinite_left hxmin (Float.mul_isNaN_eq_false hqf hw))
    (Float.add_isNaN_eq_false_of_isFinite_left hxmin (Float.mul_isNaN_eq_false hqf' hw))

/-! ## 間隔は正 -/

/-- 表の行（最も粗い行も）のラベルの間隔は 1 秒以上の有限数で、その 500 倍も有限で正。 -/
theorem tickTable_labelInterval : ∀ s ∈ Time.tickTable ++ [Time.coarsestRow],
    1.0 ≤ s.labelInterval ∧ s.labelInterval.isFinite = true ∧
      (s.labelInterval * maxXLabels).isFinite = true ∧ 0.0 < s.labelInterval * maxXLabels := by
  decide +kernel

theorem selectTickSpec_mem (range width : Float) :
    Time.selectTickSpec range width ∈ Time.tickTable ++ [Time.coarsestRow] := by
  unfold Time.selectTickSpec
  rw [List.getD_eq_getElem?_getD]
  cases h : Time.tickTable[Time.selectRowIndex range width]? with
  | none => exact List.mem_append_right _ (List.mem_singleton_self _)
  | some s => exact List.mem_append_left _ (List.mem_of_getElem? h)

/-- 整えた刻みの上書きは有限で正。 -/
theorem AxisOverrides.sanitize_step {o : AxisOverrides} {s : Float} (h : o.sanitize.1.step = some s) :
    s.isFinite = true ∧ 0.0 < s := by
  unfold AxisOverrides.sanitize keepFinite at h
  cases hs : o.step with
  | none => simp [hs] at h
  | some x =>
    by_cases hf : x.isFinite = true
    · by_cases hp : 0.0 < x
      · simp only [hs, hf, hp, if_true] at h
        cases h
        exact ⟨hf, hp⟩
      · simp [hs, hf, hp] at h
    · simp [hs, hf] at h

/-- 表の行の間隔を、1 以上の範囲と行の間隔の 500 倍の比の天井倍に広げても正。 -/
theorem widenedInterval_pos {spec : Time.TickSpec} (hspec : spec ∈ Time.tickTable ++ [Time.coarsestRow])
    {range : Float} (hrf : range.isFinite = true) (hr : 1.0 ≤ range) :
    0.0 < spec.labelInterval * ceilNum (range / (spec.labelInterval * maxXLabels)) := by
  obtain ⟨h1, hf, h5f, h5⟩ := tickTable_labelInterval spec hspec
  have h5r := (Float.lt_iff_rank rfl (Float.isNaN_eq_false_of_isFinite h5f)).mp h5
  rw [rankOf_zero] at h5r
  have hpos := Float.rankOf_pos_of_one_le h1
  have hq := Float.rankOf_div_pos hrf hr h5f h5r
  have hc := one_le_ceilNum (Float.div_isNaN_eq_false (Float.isNaN_eq_false_of_isFinite hrf) h5f
    h5r.ne') hq
  exact Float.lt_of_lt_of_le (Float.lt_of_lt_of_le (by decide) h1)
    (Float.le_mul_of_one_le_right hf hpos hc)

end PlotGeometry
