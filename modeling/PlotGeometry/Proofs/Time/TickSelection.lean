import PlotGeometry.Proofs.Axis.NiceStep
import PlotGeometry.Time.TickTable
/-!
# X 軸の目盛りの行の選び方は単調

行の選び方は「合う最初の行、なければ最後の行」。合う行の集まりが大きくなれば、選ぶ行は前に
動くか動かない（`selectRowIndex_le_of_fits`）。行が合うのは、密度がその行の 1 画素あたりの
秒数以下で、時間の幅がその行の最長の幅以下のとき。

* 時間の幅が小さく描く幅が広いほど密度は小さいので、合う行は増える（`fits_of_le`。密度の
  比較は `div_le_row_of_le`）。描く幅だけ、時間の幅だけを動かすのが `fits_of_le_width`、
  `fits_of_le_range`。
* 描く幅が正でなければ密度は無限大で、どの行も合わず最後の行（`selectRowIndex_of_not_pos`）。

ただし時間の幅が負の無限大で描く幅が正の無限大だと、密度 `-∞ / ∞` は NaN で、どの行も
合わない。有限な幅なら密度は負の無限大で最初の行が合うので、ここだけ単調でない
（`selectRowIndex_negInf_infiniteWidth`）。

表の行は、1 画素あたりの秒数が真に増え、最長の幅、ラベル・副格子・主格子の間隔が減らない
（`tickTable_pairwise_before`）。したがって選んだ行のこれらの値も単調（`tickSelection_monotone`）。
-/

namespace PlotGeometry

open Float.Model Float.Model.UnpackedFloat

/-! ## 割り算の符号 -/

/-- NaN でも有限でもない数は無限大。 -/
theorem Float.isInf_of_not_finite {x : Float} (hn : x.isNaN = false) (hf : x.isFinite = false) :
    x.isInf = true := by
  rw [Float.isNaN_eq_unpack] at hn
  rw [Float.isFinite_eq_unpack] at hf
  change x.toModel.unpack.isInf = true
  cases hu : x.toModel.unpack with
  | notANumber => rw [hu] at hn; cases hn
  | zero _ | finite _ _ _ _ => rw [hu] at hf; cases hf
  | infinity _ => rfl

/-- 0 以下の数（負の無限大も）を正の有限な数で割った商は 0 以下。 -/
theorem Float.div_le_zero {x y : Float} (hx : x.isNaN = false) (hx0 : rankOf x ≤ 0)
    (hy : y.isFinite = true) (hy0 : 0 < rankOf y) : x / y ≤ 0.0 := by
  have hI := infRank_pos
  rw [Float.le_iff_rank (Float.div_isNaN_eq_false hx hy hy0.ne') rfl, rankOf_zero]
  rcases Float.finite_or_infinite hx with ⟨hxf, -, -⟩ | ⟨-, hinf⟩ | ⟨-, hinf⟩
  · rw [Float.rankOf_div hxf hy hy0, ← roundRankQuot_zero (rankOf y).toNat]
    exact roundRankQuot_mono (by omega) (Int.mul_nonpos_of_nonpos_of_nonneg hx0 (by positivity))
  · omega
  · have hu := (valueRank_eq_neg_infRank_iff (canonicalForm_toModel x)).mp hinf
    rw [Float.isFinite_eq_unpack] at hy
    unfold rankOf at hy0 ⊢
    show valueRank (UnpackedFloat.unpack .binary64 (UnpackedFloat.pack .binary64
      (UnpackedFloat.div .binary64 x.toModel.unpack y.toModel.unpack))) ≤ 0
    rw [hu]
    cases hv : y.toModel.unpack with
    | notANumber | infinity _ => rw [hv] at hy; cases hy
    | zero _ => rw [hv] at hy0; simp [valueRank] at hy0
    | finite s m e hm =>
      rw [hv] at hy0
      simp only [UnpackedFloat.div]
      rw [valueRank_pack_infinity]
      have hu0 := units_pos m e hm
      cases s with
      | negative => simp only [valueRank, Sign.apply] at hy0; omega
      | positive =>
        show Sign.negative.apply infRank ≤ 0
        simp only [Sign.apply]
        omega

/-- 正の数の位置は正。 -/
theorem Float.rankOf_pos_of_pos {x : Float} (h : 0.0 < x) : 0 < rankOf x := by
  have hx := (Float.isNaN_eq_false_of_lt h).2
  simpa [rankOf_zero] using (Float.lt_iff_rank (show (0.0 : Float).isNaN = false from rfl) hx).mp h

/-- 有限な数より大きくない数は NaN でなく、正の無限大でもない。 -/
theorem Float.rankOf_lt_infRank_of_le {x y : Float} (h : x ≤ y) (hy : y.isFinite = true) :
    x.isNaN = false ∧ rankOf x < infRank := by
  obtain ⟨hx, hyn⟩ := Float.isNaN_eq_false_of_le h
  have hr := (Float.le_iff_rank hx hyn).mp h
  have hb := (Float.rankOf_finite_bounds hy).2
  have := overflow_lt_infRank
  exact ⟨hx, by omega⟩

namespace Time

/-! ## 表の並び -/

/-- 行 `a` は行 `b` の前に置ける：1 画素あたりの秒数は小さく、最長の幅とラベル・副格子・主格子の
間隔は大きくない。 -/
def TickSpec.Before (a b : TickSpec) : Prop :=
  a.secondsPerPixel < b.secondsPerPixel ∧ a.maxInterval ≤ b.maxInterval ∧
    a.labelInterval ≤ b.labelInterval ∧ a.minorInterval ≤ b.minorInterval ∧
    a.majorInterval ≤ b.majorInterval

instance (a b : TickSpec) : Decidable (a.Before b) :=
  inferInstanceAs (Decidable (_ ∧ _ ∧ _ ∧ _ ∧ _))

/-- 行 `b` は行 `a` より細かくない：1 画素あたりの秒数、最長の幅、三つの間隔のどれも小さくない。 -/
def TickSpec.AtMost (a b : TickSpec) : Prop :=
  a.secondsPerPixel ≤ b.secondsPerPixel ∧ a.maxInterval ≤ b.maxInterval ∧
    a.labelInterval ≤ b.labelInterval ∧ a.minorInterval ≤ b.minorInterval ∧
    a.majorInterval ≤ b.majorInterval

instance (a b : TickSpec) : Decidable (a.AtMost b) :=
  inferInstanceAs (Decidable (_ ∧ _ ∧ _ ∧ _ ∧ _))

theorem TickSpec.Before.atMost {a b : TickSpec} (h : a.Before b) : a.AtMost b :=
  ⟨Float.le_of_lt h.1, h.2⟩

/-- 比べられる行の値は NaN でないので、その行は自分より細かくない。 -/
theorem TickSpec.Before.atMost_self_left {a b : TickSpec} (h : a.Before b) : a.AtMost a :=
  ⟨Float.le_refl (Float.isNaN_eq_false_of_lt h.1).1, Nat.le_refl _,
    Float.le_refl (Float.isNaN_eq_false_of_le h.2.2.1).1,
    Float.le_refl (Float.isNaN_eq_false_of_le h.2.2.2.1).1,
    Float.le_refl (Float.isNaN_eq_false_of_le h.2.2.2.2).1⟩

theorem TickSpec.Before.atMost_self_right {a b : TickSpec} (h : a.Before b) : b.AtMost b :=
  ⟨Float.le_refl (Float.isNaN_eq_false_of_lt h.1).2, Nat.le_refl _,
    Float.le_refl (Float.isNaN_eq_false_of_le h.2.2.1).2,
    Float.le_refl (Float.isNaN_eq_false_of_le h.2.2.2.1).2,
    Float.le_refl (Float.isNaN_eq_false_of_le h.2.2.2.2).2⟩

theorem TickSpec.Before.trans {a b c : TickSpec} (h₁ : a.Before b) (h₂ : b.Before c) : a.Before c :=
  ⟨Float.lt_of_lt_of_le h₁.1 (Float.le_of_lt h₂.1), Nat.le_trans h₁.2.1 h₂.2.1,
    Float.le_trans h₁.2.2.1 h₂.2.2.1, Float.le_trans h₁.2.2.2.1 h₂.2.2.2.1,
    Float.le_trans h₁.2.2.2.2 h₂.2.2.2.2⟩

instance : Trans TickSpec.Before TickSpec.Before TickSpec.Before := ⟨TickSpec.Before.trans⟩

/-- 表の行は、後ろほど 1 画素あたりの秒数が大きく、最長の幅と三つの間隔は減らない。 -/
theorem tickTable_pairwise_before : tickTable.Pairwise TickSpec.Before := by
  -- 隣り合う行だけを表で確かめ、離れた行は推移律から
  have hchain : tickTable.IsChain TickSpec.Before := by decide +kernel
  exact hchain.pairwise

/-- 表の行の 1 画素あたりの秒数は 0 以上の有限な数で、最長の幅は有限。 -/
theorem tickTable_row_bounds : ∀ s ∈ tickTable,
    0.0 ≤ s.secondsPerPixel ∧ ¬(1.0 / 0.0 : Float) ≤ s.secondsPerPixel ∧
      s.maxInterval.toFloat.isFinite = true := by
  decide +kernel

theorem tickTable_atMost_of_le {i j : Nat} (hi : i < tickTable.length) (hj : j < tickTable.length)
    (hij : i ≤ j) : tickTable[i].AtMost tickTable[j] := by
  have hbefore := List.pairwise_iff_getElem.mp tickTable_pairwise_before
  rcases Nat.lt_or_eq_of_le hij with hlt | rfl
  · exact (hbefore i j hi hj hlt).atMost
  · by_cases hnext : i + 1 < tickTable.length
    · exact (hbefore i (i + 1) hi hnext (Nat.lt_succ_self i)).atMost_self_left
    · have hlen : tickTable.length = 23 := rfl
      exact (hbefore (i - 1) i (by omega) hi (by omega)).atMost_self_right

/-! ## 合う最初の行 -/

theorem TickSpec.fits_iff (s : TickSpec) (range density : Float) :
    s.fits range density = true ↔ density ≤ s.secondsPerPixel ∧ range ≤ s.maxInterval.toFloat := by
  simp [TickSpec.fits]

/-- 選ぶ行の番号は、合う最初の行の番号と最後の行の番号の小さい方。 -/
theorem selectRowIndex_eq_min (range width : Float) :
    selectRowIndex range width =
      min (tickTable.findIdx fun s => s.fits range (timeDensity range width)) (tickTable.length - 1) := by
  unfold selectRowIndex
  dsimp only
  split
  · next i h =>
    obtain ⟨hi, hidx⟩ := List.findIdx?_eq_some_iff_findIdx_eq.mp h
    rw [hidx]
    omega
  · next h =>
    rw [List.findIdx?_eq_none_iff_findIdx_eq.mp h]
    omega

theorem selectRowIndex_lt (range width : Float) : selectRowIndex range width < tickTable.length := by
  rw [selectRowIndex_eq_min]
  have : 0 < tickTable.length := by decide
  omega

theorem selectTickSpec_eq (range width : Float) :
    selectTickSpec range width = tickTable.get ⟨selectRowIndex range width, selectRowIndex_lt range width⟩ :=
  List.getD_eq_getElem _ _ _

/-- 合う行の集まりが大きくなれば、選ぶ行は前に動くか動かない。 -/
theorem selectRowIndex_le_of_fits {r r' w w' : Float}
    (h : ∀ s ∈ tickTable, s.fits r' (timeDensity r' w') = true → s.fits r (timeDensity r w) = true) :
    selectRowIndex r w ≤ selectRowIndex r' w' := by
  rw [selectRowIndex_eq_min, selectRowIndex_eq_min]
  exact min_le_min_right _ (List.findIdx_le_findIdx h)

/-- 前の行を選べば、選んだ行の値はどれも大きくない。 -/
theorem selectTickSpec_atMost {r r' w w' : Float} (h : selectRowIndex r w ≤ selectRowIndex r' w') :
    (selectTickSpec r w).AtMost (selectTickSpec r' w') := by
  rw [selectTickSpec_eq, selectTickSpec_eq, List.get_eq_getElem, List.get_eq_getElem]
  exact tickTable_atMost_of_le _ _ h

/-! ## 密度 -/

theorem timeDensity_of_pos {range width : Float} (h : 0.0 < width) :
    timeDensity range width = range / width := if_pos h

/-- 描く幅が正でなければ、密度は無限大でどの行も合わない。 -/
theorem not_fits_of_not_pos {range width : Float} (h : ¬0.0 < width) :
    ∀ s ∈ tickTable, s.fits range (timeDensity range width) = false := by
  intro s hs
  rw [timeDensity, if_neg h]
  cases hf : s.fits range (1.0 / 0.0)
  · rfl
  · exact absurd ((s.fits_iff _ _).mp hf).1 (tickTable_row_bounds s hs).2.1

theorem selectRowIndex_of_not_pos {range width : Float} (h : ¬0.0 < width) :
    selectRowIndex range width = tickTable.length - 1 := by
  rw [selectRowIndex_eq_min, List.findIdx_eq_length_of_false (not_fits_of_not_pos h)]
  omega

/-- ある行が合うなら、描く幅は正。 -/
theorem pos_of_fits {s : TickSpec} (hs : s ∈ tickTable) {r w : Float}
    (h : s.fits r (timeDensity r w) = true) : 0.0 < w := by
  by_cases hp : 0.0 < w
  · exact hp
  · rw [not_fits_of_not_pos hp s hs] at h
    cases h

/-- 有限な時間の幅を、無限大の描く幅で割った密度はゼロで、どの行の秒数以下。 -/
theorem div_infinite_le_row {s : TickSpec} (hs : s ∈ tickTable) {r w : Float}
    (hrf : r.isFinite = true) (hwf : w.isFinite = false) (hwn : w.isNaN = false) :
    r / w ≤ s.secondsPerPixel :=
  Float.le_trans (Float.isZero_div_of_isInf hrf (Float.isInf_of_not_finite hwn hwf)).le_zero
    (tickTable_row_bounds s hs).1

/-- 時間の幅が負の無限大で、描く幅が正の無限大。密度が NaN になる唯一の組。 -/
theorem negInf_of_not_finite {r : Float} (hrn : r.isNaN = false) (hrf : r.isFinite = false)
    (hr : rankOf r < infRank) : r.isInf = true ∧ r < 0.0 := by
  refine ⟨Float.isInf_of_not_finite hrn hrf, ?_⟩
  rcases Float.finite_or_infinite hrn with ⟨h, -⟩ | ⟨-, h⟩ | ⟨-, h⟩
  · rw [hrf] at h
    cases h
  · omega
  · rw [Float.lt_iff_rank hrn rfl, rankOf_zero, h]
    exact Int.neg_neg_of_pos infRank_pos

/-- 密度の比較：`r₂ / w₂` が行の秒数以下で `r₂` がその行の最長の幅以下なら、時間の幅が小さく
描く幅が広い `r₁ / w₁` もその行の秒数以下。 -/
theorem div_le_row_of_le {s : TickSpec} (hs : s ∈ tickTable) {r₁ r₂ w₁ w₂ : Float}
    (hr : r₁ ≤ r₂) (hw : w₂ ≤ w₁) (hw₂ : 0.0 < w₂)
    (hex : ¬(r₁.isInf = true ∧ r₁ < 0.0 ∧ w₁.isInf = true ∧ 0.0 < w₁))
    (hr₂ : r₂ ≤ s.maxInterval.toFloat) (hd : r₂ / w₂ ≤ s.secondsPerPixel) :
    r₁ / w₁ ≤ s.secondsPerPixel := by
  obtain ⟨hspp, -, hmax⟩ := tickTable_row_bounds s hs
  obtain ⟨hr₁n, hr₁lt⟩ := Float.rankOf_lt_infRank_of_le (Float.le_trans hr hr₂) hmax
  obtain ⟨hr₂n, hr₂lt⟩ := Float.rankOf_lt_infRank_of_le hr₂ hmax
  obtain ⟨hw₂n, hw₁n⟩ := Float.isNaN_eq_false_of_le hw
  have hw₁ : 0.0 < w₁ := Float.lt_of_lt_of_le hw₂ hw
  have hw₂0 := Float.rankOf_pos_of_pos hw₂
  have hw₁r : rankOf w₂ ≤ rankOf w₁ := (Float.le_iff_rank hw₂n hw₁n).mp hw
  have hI := infRank_pos
  cases hw₁f : w₁.isFinite with
  | false =>
    cases hr₁f : r₁.isFinite with
    | true => exact div_infinite_le_row hs hr₁f hw₁f hw₁n
    | false =>
      obtain ⟨hinf, hneg⟩ := negInf_of_not_finite hr₁n hr₁f hr₁lt
      exact absurd ⟨hinf, hneg, Float.isInf_of_not_finite hw₁n hw₁f, hw₁⟩ hex
  | true =>
    have hw₂f : w₂.isFinite = true := by
      have hb := (Float.rankOf_finite_bounds hw₁f).2
      have := overflow_lt_infRank
      exact Float.isFinite_of_rankOf_lt hw₂n (by omega) (by omega)
    by_cases hr0 : rankOf r₁ ≤ 0
    · exact Float.le_trans (Float.div_le_zero hr₁n hr0 hw₁f (by omega)) hspp
    · -- 正の時間の幅：r₁ / w₁ ≤ r₁ / w₂ ≤ r₂ / w₂
      have hrr : rankOf r₁ ≤ rankOf r₂ := (Float.le_iff_rank hr₁n hr₂n).mp hr
      have hr₁f : r₁.isFinite = true := Float.isFinite_of_rankOf_lt hr₁n (by omega) hr₁lt
      have hr₂f : r₂.isFinite = true := Float.isFinite_of_rankOf_lt hr₂n (by omega) hr₂lt
      have hwide : r₁ / w₁ ≤ r₁ / w₂ :=
        Float.div_le_div_of_nonneg_left hw hr₁f hw₂f hw₁f (by omega) hw₂0
      have hsmall : r₁ / w₂ ≤ r₂ / w₂ := Float.div_le_div_of_pos_right hr hr₁f hr₂f hw₂f hw₂0
      exact Float.le_trans hwide (Float.le_trans hsmall hd)

/-! ## 幅と範囲について単調 -/

/-- 時間の幅が小さく描く幅が広いほど、合う行は増える（小さい方の時間の幅が負の無限大で、広い方の
描く幅が正の無限大のときを除く）。 -/
theorem fits_of_le {s : TickSpec} (hs : s ∈ tickTable) {r₁ r₂ w₁ w₂ : Float} (hr : r₁ ≤ r₂)
    (hw : w₂ ≤ w₁) (hex : ¬(r₁.isInf = true ∧ r₁ < 0.0 ∧ w₁.isInf = true ∧ 0.0 < w₁))
    (h : s.fits r₂ (timeDensity r₂ w₂) = true) : s.fits r₁ (timeDensity r₁ w₁) = true := by
  have hw₂ := pos_of_fits hs h
  rw [s.fits_iff, timeDensity_of_pos hw₂] at h
  rw [s.fits_iff, timeDensity_of_pos (Float.lt_of_lt_of_le hw₂ hw)]
  exact ⟨div_le_row_of_le hs hr hw hw₂ hex h.2 h.1, Float.le_trans hr h.2⟩

/-- 描く幅が広いほど、合う行は増える。 -/
theorem fits_of_le_width {s : TickSpec} (hs : s ∈ tickTable) {r w₁ w₂ : Float} (hw : w₂ ≤ w₁)
    (hex : ¬(r.isInf = true ∧ r < 0.0 ∧ w₁.isInf = true ∧ 0.0 < w₁))
    (h : s.fits r (timeDensity r w₂) = true) : s.fits r (timeDensity r w₁) = true :=
  have hr : r ≤ r := Float.le_refl (Float.isNaN_eq_false_of_le ((s.fits_iff _ _).mp h).2).1
  fits_of_le hs hr hw hex h

/-- 時間の幅が小さいほど、合う行は増える。 -/
theorem fits_of_le_range {s : TickSpec} (hs : s ∈ tickTable) {r₁ r₂ w : Float} (hr : r₁ ≤ r₂)
    (hex : ¬(r₁.isInf = true ∧ r₁ < 0.0 ∧ w.isInf = true ∧ 0.0 < w))
    (h : s.fits r₂ (timeDensity r₂ w) = true) : s.fits r₁ (timeDensity r₁ w) = true :=
  have hw : w ≤ w := Float.le_refl (Float.isNaN_eq_false_of_lt (pos_of_fits hs h)).2
  fits_of_le hs hr hw hex h

/-- 目盛りの行の選び方は単調。表の行は 1 画素あたりの秒数が真に増え、最長の幅と三つの間隔は
減らない。描く幅が正でなければ最後の行。描く幅が広いほど、また時間の幅が小さいほど、選ぶ行は
前（細かい行）で、その値はどれも大きくない。ただし時間の幅が負の無限大で描く幅が正の無限大の
ときは、密度が NaN になって最後の行を選ぶので除く。 -/
theorem tickSelection_monotone :
    tickTable.Pairwise TickSpec.Before ∧
    (∀ r w : Float, ¬0.0 < w → selectRowIndex r w = tickTable.length - 1) ∧
    (∀ r w₁ w₂ : Float, w₂ ≤ w₁ → ¬(r.isInf = true ∧ r < 0.0 ∧ w₁.isInf = true ∧ 0.0 < w₁) →
      selectRowIndex r w₁ ≤ selectRowIndex r w₂ ∧ (selectTickSpec r w₁).AtMost (selectTickSpec r w₂)) ∧
    (∀ r₁ r₂ w : Float, r₁ ≤ r₂ → ¬(r₁.isInf = true ∧ r₁ < 0.0 ∧ w.isInf = true ∧ 0.0 < w) →
      selectRowIndex r₁ w ≤ selectRowIndex r₂ w ∧ (selectTickSpec r₁ w).AtMost (selectTickSpec r₂ w)) := by
  refine ⟨tickTable_pairwise_before, fun _ _ h => selectRowIndex_of_not_pos h, ?_, ?_⟩
  · intro r w₁ w₂ hw hex
    have hle := selectRowIndex_le_of_fits fun s hs => fits_of_le_width hs hw hex
    exact ⟨hle, selectTickSpec_atMost hle⟩
  · intro r₁ r₂ w hr hex
    have hle := selectRowIndex_le_of_fits fun s hs => fits_of_le_range hs hr hex
    exact ⟨hle, selectTickSpec_atMost hle⟩

/-- 一日の幅を 1000 画素に描くと、500 画素に描くより粗くない行を選ぶ。 -/
theorem tickSelection_monotone_day :
    (500.0 : Float) ≤ 1000.0 ∧
      ¬((86400.0 : Float).isInf = true ∧ (86400.0 : Float) < 0.0 ∧ (1000.0 : Float).isInf = true ∧
        (0.0 : Float) < 1000.0) ∧
      selectRowIndex 86400.0 1000.0 ≤ selectRowIndex 86400.0 500.0 :=
  have hw : (500.0 : Float) ≤ 1000.0 := by decide +kernel
  have hex : ¬((86400.0 : Float).isInf = true ∧ (86400.0 : Float) < 0.0 ∧
      (1000.0 : Float).isInf = true ∧ (0.0 : Float) < 1000.0) := by decide +kernel
  ⟨hw, hex, (tickSelection_monotone.2.2.1 86400.0 1000.0 500.0 hw hex).1⟩

/-- 時間の幅が負の無限大だと、描く幅が正の無限大（1 より広い）なら最後の行、描く幅が 1 なら
最初の行を選ぶ：広い方が粗い行を選ぶ。 -/
theorem selectRowIndex_negInf_infiniteWidth :
    (1.0 : Float) ≤ 1.0 / 0.0 ∧ selectRowIndex (-(1.0 / 0.0)) (1.0 / 0.0) = 22 ∧
      selectRowIndex (-(1.0 / 0.0)) 1.0 = 0 := by
  decide +kernel

end Time

end PlotGeometry
