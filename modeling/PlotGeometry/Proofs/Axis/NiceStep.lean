import PlotGeometry.Proofs.Float.Log10
import PlotGeometry.Proofs.Float.Zero
import PlotGeometry.Proofs.Float.Bounds
import PlotGeometry.Axis.Step
/-!
# 刻みの探索

`niceStep` は指数 `k₀ = ⌊log₁₀(幅/8)⌋` から、刻みの候補 `1, 2, 5 × 10^k`（`10^k` は `powInt`）を
`k` の小さい順、同じ `k` では仮数の小さい順に試し、格子の区間が 8 以下になる最初の候補を返す。
候補を一列に並べて番号 `i` で呼ぶ（`niceCandidate k₀ i`、指数は `k₀ + i / 3`、仮数は `i % 3` 番目）。

## 必ず止まる

`10^309` は倍精度では無限大で、刻みが無限大なら、有限な端の値を刻みで割るとゼロになり、
端の合わせは `ゼロ × 無限大 = NaN`、区間の数は 0 になる（`gridLines_of_isInf`）。したがって指数
309 の候補は必ず収まる。有限な幅では `k₀ ≤ 309`（`log10Num_floor_le`）なので、探索は指数 400 の
打ち切りに届く前に、309 以下の指数で答えを返す。

* `search_first_fit` — 探索は、収まる候補があればその最初のものを返す
* `niceStep_first_fit` — 幅が有限で正なら、`k₀` からの最初の収まる候補。そうでなければ 1
* `niceStep_rankOf_nonneg` — 刻みは負でない（`10^k` が 0 に潰れても `+0`）
* `niceStep_leaves_window` — 返す刻みは正とも、区間が 3 以上とも限らない
-/

namespace PlotGeometry

open Float.Model Float.Model.UnpackedFloat

/-! ## 刻みの候補 -/

/-- 候補の仮数：番号を 3 で割った余りが 0, 1, 2 なら 1, 2, 5。 -/
def niceMantissa (i : Nat) : Float :=
  match i % 3 with
  | 0 => 1.0
  | 1 => 2.0
  | _ => 5.0

/-- 指数 `k` から数えて `i` 番目の候補 `仮数 × 10^(k + i/3)`。 -/
def niceCandidate (k : Int) (i : Nat) : Float :=
  niceMantissa i * powInt 10.0 (k + (i / 3 : Nat))

/-- `i` 番目の候補が、指数 `k` から数えて最初に収まる候補であること。 -/
def IsFirstFit (lo hi : Float) (k : Int) (i : Nat) : Prop :=
  fitsGrid lo hi (niceCandidate k i) = true ∧ ∀ j < i, fitsGrid lo hi (niceCandidate k j) = false

/-- 指数を一つ上げると、候補の番号が 3 ずれる。 -/
theorem niceCandidate_succ (k : Int) (i : Nat) : niceCandidate (k + 1) i = niceCandidate k (i + 3) := by
  unfold niceCandidate niceMantissa
  rw [Nat.add_mod_right, Nat.add_div_right _ (by norm_num)]
  congr 2
  push_cast
  ring

/-- 指数 400 以下では、探索は三つの候補を順に試し、どれも収まらなければ指数を上げる。 -/
theorem search_step (lo hi : Float) {k : Int} (hk : k ≤ 400) :
    niceStep.search lo hi k =
      if fitsGrid lo hi (niceCandidate k 0) then niceCandidate k 0
      else if fitsGrid lo hi (niceCandidate k 1) then niceCandidate k 1
      else if fitsGrid lo hi (niceCandidate k 2) then niceCandidate k 2
      else niceStep.search lo hi (k + 1) := by
  rw [niceStep.search, if_neg (by omega)]
  simp only [niceCandidate, niceMantissa, Nat.zero_mod, Nat.zero_div, Nat.one_mod, Nat.reduceMod,
    Nat.reduceDiv, Nat.cast_zero, Int.add_zero]

/-- 探索は、指数 400 までに収まる候補 `n` があれば、`n` 以前の最初に収まる候補を返す。 -/
theorem search_first_fit (lo hi : Float) (n : Nat) :
    ∀ k : Int, k + (n / 3 : Nat) ≤ 400 → fitsGrid lo hi (niceCandidate k n) = true →
      ∃ i ≤ n, niceStep.search lo hi k = niceCandidate k i ∧ IsFirstFit lo hi k i := by
  -- 番号 `n` についての強い帰納法。三つとも収まらなければ、指数を上げて `n - 3` に帰着する
  induction n using Nat.strong_induction_on with
  | _ n ih =>
    intro k hk hfit
    have hk400 : k ≤ 400 := by omega
    rw [search_step lo hi hk400]
    by_cases h0 : fitsGrid lo hi (niceCandidate k 0) = true
    · exact ⟨0, Nat.zero_le _, by rw [if_pos h0], h0, fun j hj => absurd hj (Nat.not_lt_zero j)⟩
    by_cases h1 : fitsGrid lo hi (niceCandidate k 1) = true
    · refine ⟨1, ?_, by rw [if_neg h0, if_pos h1], h1, ?_⟩
      · rcases Nat.eq_zero_or_pos n with rfl | hn
        · exact absurd hfit h0
        · exact hn
      · intro j hj
        obtain rfl : j = 0 := by omega
        simpa using h0
    by_cases h2 : fitsGrid lo hi (niceCandidate k 2) = true
    · refine ⟨2, ?_, by rw [if_neg h0, if_neg h1, if_pos h2], h2, ?_⟩
      · by_contra hlt
        interval_cases n
        · exact h0 hfit
        · exact h1 hfit
      · intro j hj
        interval_cases j
        · simpa using h0
        · simpa using h1
    have hn : 3 ≤ n := by
      by_contra hlt
      interval_cases n
      · exact h0 hfit
      · exact h1 hfit
      · exact h2 hfit
    have hfit' : fitsGrid lo hi (niceCandidate (k + 1) (n - 3)) = true := by
      rw [niceCandidate_succ, Nat.sub_add_cancel hn]
      exact hfit
    have hk' : k + 1 + ((n - 3) / 3 : Nat) ≤ 400 := by
      have hdiv : (n - 3) / 3 + 1 = n / 3 := by omega
      omega
    obtain ⟨i, hi, hsearch, hfirst, hbefore⟩ := ih (n - 3) (by omega) (k + 1) hk' hfit'
    refine ⟨i + 3, by omega, ?_, ?_, ?_⟩
    · rw [if_neg h0, if_neg h1, if_neg h2, hsearch, niceCandidate_succ]
    · rw [← niceCandidate_succ]
      exact hfirst
    · intro j hj
      by_cases hj3 : j < 3
      · interval_cases j
        · simpa using h0
        · simpa using h1
        · simpa using h2
      · have := hbefore (j - 3) (by omega)
        rwa [niceCandidate_succ, Nat.sub_add_cancel (by omega)] at this

/-! ## 無限大の刻み -/

/-- 有限な数を無限大で割るとゼロ。 -/
theorem Float.isZero_div_of_isInf {x s : Float} (hx : x.isFinite = true) (hs : s.isInf = true) :
    Float.IsZero (x / s) := by
  rw [Float.isFinite_eq_unpack] at hx
  show ∃ t, UnpackedFloat.unpack .binary64 (UnpackedFloat.pack .binary64
    (UnpackedFloat.div .binary64 x.toModel.unpack s.toModel.unpack)) = .zero t
  cases hv : s.toModel.unpack with
  | notANumber | zero _ | finite _ _ _ _ =>
    change s.toModel.unpack.isInf = true at hs
    rw [hv] at hs
    cases hs
  | infinity t =>
    cases hu : x.toModel.unpack with
    | notANumber | infinity _ => rw [hu] at hx; cases hx
    | zero t' | finite t' _ _ _ => exact ⟨t' / t, unpack_packedZero⟩

/-- ゼロから有限でゼロでない数を引いた結果は、ゼロの符号によらない。 -/
theorem Float.isZero_sub_eq {z z' c : Float} (hz : Float.IsZero z) (hz' : Float.IsZero z')
    (hc : c.isFinite = true) (hc0 : rankOf c ≠ 0) : z - c = z' - c := by
  obtain ⟨t, ht⟩ := hz
  obtain ⟨t', ht'⟩ := hz'
  rw [Float.isFinite_eq_unpack] at hc
  show Float.ofModel (Float.Model.pack (UnpackedFloat.sub .binary64 z.toModel.unpack c.toModel.unpack)) =
    Float.ofModel (Float.Model.pack (UnpackedFloat.sub .binary64 z'.toModel.unpack c.toModel.unpack))
  rw [ht, ht']
  cases hu : c.toModel.unpack with
  | notANumber | infinity _ => rw [hu] at hc; cases hc
  | zero _ => exact absurd (by rw [rankOf, hu]; rfl) hc0
  | finite _ _ _ _ => rfl

/-- ゼロに有限でゼロでない数を足した結果は、ゼロの符号によらない。 -/
theorem Float.isZero_add_eq {z z' c : Float} (hz : Float.IsZero z) (hz' : Float.IsZero z')
    (hc : c.isFinite = true) (hc0 : rankOf c ≠ 0) : z + c = z' + c := by
  obtain ⟨t, ht⟩ := hz
  obtain ⟨t', ht'⟩ := hz'
  rw [Float.isFinite_eq_unpack] at hc
  show Float.ofModel (Float.Model.pack (UnpackedFloat.add .binary64 z.toModel.unpack c.toModel.unpack)) =
    Float.ofModel (Float.Model.pack (UnpackedFloat.add .binary64 z'.toModel.unpack c.toModel.unpack))
  rw [ht, ht']
  cases hu : c.toModel.unpack with
  | notANumber | infinity _ => rw [hu] at hc; cases hc
  | zero _ => exact absurd (by rw [rankOf, hu]; rfl) hc0
  | finite _ _ _ _ => rfl

/-- 刻みが無限大なら、有限な端の値は刻みで割るとゼロになり、格子の区間の数は端によらない。 -/
theorem gridLines_of_isInf {lo hi s : Float} (hlo : lo.isFinite = true) (hhi : hi.isFinite = true)
    (hs : s.isInf = true) : gridLines lo hi s = gridLines 0.0 0.0 s := by
  have heps : snapEpsilon.isFinite = true ∧ rankOf snapEpsilon ≠ 0 := by decide +kernel
  have hzero : Float.IsZero (0.0 / s) := Float.isZero_div_of_isInf (by decide) hs
  unfold gridLines snapUp snapDown
  rw [Float.isZero_sub_eq (Float.isZero_div_of_isInf hhi hs) hzero heps.1 heps.2,
    Float.isZero_add_eq (Float.isZero_div_of_isInf hlo hs) hzero heps.1 heps.2]

/-- `10^309` は無限大なので、指数 309 の最初の候補は、有限な端の値に対して必ず収まる。 -/
theorem fitsGrid_exponent_309 {lo hi : Float} (hlo : lo.isFinite = true) (hhi : hi.isFinite = true) :
    fitsGrid lo hi (niceCandidate 309 0) = true := by
  have hinf : (niceCandidate 309 0).isInf = true ∧ fitsGrid 0.0 0.0 (niceCandidate 309 0) = true := by
    decide +kernel
  unfold fitsGrid at hinf ⊢
  rw [gridLines_of_isInf hlo hhi hinf.1]
  exact hinf.2

/-- 指数 `k ≤ 309` から数えて `3 (309 − k)` 番目の候補は、指数 309 の最初の候補。 -/
theorem niceCandidate_exponent_309 {k : Int} (hk : k ≤ 309) :
    niceCandidate k (3 * (309 - k).toNat) = niceCandidate 309 0 := by
  unfold niceCandidate niceMantissa
  rw [Nat.mul_mod_right, Nat.mul_div_cancel_left _ (by norm_num)]
  congr 2
  omega

/-! ## 刻みの選び方 -/

/-- 差が有限なら、引かれる数も引く数も有限。 -/
theorem Float.isFinite_of_sub {x y : Float} (h : (x - y).isFinite = true) :
    x.isFinite = true ∧ y.isFinite = true := by
  rw [Float.isFinite_eq_unpack, Float.isFinite_eq_unpack]
  change (UnpackedFloat.unpack .binary64 (UnpackedFloat.pack .binary64
    (UnpackedFloat.sub .binary64 x.toModel.unpack y.toModel.unpack))).isFinite = true at h
  have hnan : (UnpackedFloat.unpack .binary64 (UnpackedFloat.pack .binary64 .notANumber)).isFinite =
      false := by
    rw [unpack_pack_notANumber]
    rfl
  have hinf (s : Sign) :
      (UnpackedFloat.unpack .binary64 (UnpackedFloat.pack .binary64 (.infinity s))).isFinite = false := by
    rw [unpack_pack_self (u := .infinity s) trivial (by simp)]
    rfl
  revert h
  cases x.toModel.unpack <;> cases y.toModel.unpack <;> intro h <;> simp only [UnpackedFloat.sub] at h
  all_goals first
    | exact ⟨rfl, rfl⟩
    | (rw [hnan] at h; cases h)
    | (rw [hinf] at h; cases h)
    | (split at h <;> first | (rw [hnan] at h; cases h) | (rw [hinf] at h; cases h))

/-- 刻みは、幅が有限で正なら、探し始める指数 `k₀ ≤ 309` から数えて最初に収まる候補で、その
指数は 309 以下（指数 400 の打ち切りには届かない）。幅が有限でないか正でなければ 1。 -/
theorem niceStep_first_fit (lo hi : Float) :
    ((hi - lo).isFinite = false ∨ hi - lo ≤ 0.0 → niceStep lo hi = 1.0) ∧
    ((hi - lo).isFinite = true → ¬hi - lo ≤ 0.0 →
      ∃ i, niceStartExponent (hi - lo) + (i / 3 : Nat) ≤ 309 ∧
        niceStep lo hi = niceCandidate (niceStartExponent (hi - lo)) i ∧
        IsFirstFit lo hi (niceStartExponent (hi - lo)) i) := by
  constructor
  · intro hguard
    unfold niceStep
    rw [if_pos]
    rcases hguard with h | h <;> simp [h]
  · intro hspan hpos
    obtain ⟨hhi, hlo⟩ := Float.isFinite_of_sub hspan
    have height : (maxGridLines.toFloat).isFinite = true ∧ 1.0 ≤ maxGridLines.toFloat := by decide
    have hk : niceStartExponent (hi - lo) ≤ 309 :=
      log10Num_floor_le _ (Float.isFinite_div_of_one_le hspan height.1 height.2)
    obtain ⟨i, hi, hsearch, hfirst⟩ := search_first_fit lo hi (3 * (309 - niceStartExponent (hi - lo)).toNat)
      (niceStartExponent (hi - lo)) (by omega)
      (by rw [niceCandidate_exponent_309 hk]; exact fitsGrid_exponent_309 hlo hhi)
    refine ⟨i, by omega, ?_, hfirst⟩
    unfold niceStep
    rw [if_neg (by simp [hspan, hpos])]
    exact hsearch

/-- 幅 9 の範囲では、刻みは `k₀ = 0` から数えて最初に収まる候補。 -/
theorem niceStep_first_fit_nine :
    ∃ i, niceStartExponent (9.0 - 0.0) + (i / 3 : Nat) ≤ 309 ∧
      niceStep 0.0 9.0 = niceCandidate (niceStartExponent (9.0 - 0.0)) i ∧
      IsFirstFit 0.0 9.0 (niceStartExponent (9.0 - 0.0)) i :=
  (niceStep_first_fit 0.0 9.0).2 (by decide) (by decide)

/-! ## 刻みは負でない -/

/-- `10^k` の符号のビットは 0（0 に潰れても `+0`）。 -/
theorem signPositive_powInt_ten (k : Int) : Float.SignPositive (powInt 10.0 k) :=
  Float.signPositive_powInt (Float.signPositive_of_rankOf_pos (by decide +kernel)) k

/-- 正の仮数と 10 の累乗の積は負でない。 -/
theorem rankOf_scaledPower_nonneg {m : Float} (hm : 0 < rankOf m) (k : Int) :
    0 ≤ rankOf (m * powInt 10.0 k) :=
  ((Float.signPositive_of_rankOf_pos hm).mul (signPositive_powInt_ten k)).rankOf_nonneg

theorem search_rankOf_nonneg (lo hi : Float) (k : Int) : 0 ≤ rankOf (niceStep.search lo hi k) := by
  -- 探索の再帰に沿った帰納法：どの枝でも返すのは正の仮数と 10 の累乗の積
  fun_induction niceStep.search lo hi k with
  | case1 k hk => exact (signPositive_powInt_ten k).rankOf_nonneg
  | case2 k _ m _ => exact rankOf_scaledPower_nonneg (by decide +kernel) k
  | case3 k _ m _ _ => exact rankOf_scaledPower_nonneg (by decide +kernel) k
  | case4 k _ m _ _ _ => exact rankOf_scaledPower_nonneg (by decide +kernel) k
  | case5 k _ m _ _ _ ih => exact ih

/-- 刻みは負でない（0 にはなりうる）。 -/
theorem niceStep_rankOf_nonneg (lo hi : Float) : 0 ≤ rankOf (niceStep lo hi) := by
  unfold niceStep
  dsimp only
  split
  · rw [rankOf_one]
    positivity
  · exact search_rankOf_nonneg lo hi _

/-! ## 目標の範囲を外れる刻み -/

/-- 返す刻みは正とも、格子の区間が 3 以上とも限らない。`[0, 4e-308]` では `k₀ = -309` で、
`10^(-309)` が 0 に潰れるので刻みは 0（区間は 4 の正の刻み `10^(-308)` があるのに）。
`[0, 1.7e308]` では端を合わせた格子があふれ、区間の数は 0 と数えられる。 -/
theorem niceStep_leaves_window :
    ¬(0.0 < niceStep 0.0 4e-308) ∧
      0.0 < niceCandidate (-308) 0 ∧ gridLines 0.0 4e-308 (niceCandidate (-308) 0) = 4 ∧
      gridLines 0.0 1.7e308 (niceStep 0.0 1.7e308) = 0 := by
  decide +kernel

end PlotGeometry
