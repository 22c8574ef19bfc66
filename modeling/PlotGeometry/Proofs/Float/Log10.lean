import Mathlib
import PlotGeometry.Proofs.Float.Integral
/-!
# 常用対数の上限

有限な数の常用対数は 309 を越えない（最大の有限数はおよそ `1.8 × 10^308`）。`log10Num` は下限と
上限を丸めて作るので、返す値は、ある精度 `Q` での下限 `L` を丸めた数（`refineRounding_eq`）。
上限の評価は三段に分かれる。

* 丸め `roundDyadic n P` の位置は `n × 2^1074 / 2^P` を丸めたもので、`n` について単調
  （`rankOf_roundDyadic`、`roundDyadic_le`）。`P` が 1074 を越えても同じ式で書ける。
* `atanh` の級数の下限は、比 `a/b` について項ごとに単調（`atanhBounds_fst_le`）。`y ∈ [1, 2)` の
  比 `(y − 1)/(y + 1)` は `1/3` 以下なので、`ln y` の下限は `ln 2` の下限以下。有限な数では
  `E = e + ⌊log₂ m⌋ ≤ 1023` なので、`ln (m × 2^e)` の下限は `1024 × (ln 2 の下限)` 以下
  （`lnBounds_fst_le`）。
* 使う五つの精度それぞれで `1024 × (ln 2 の下限) ≤ 309 × (ln 10 の上限)` を計算で確かめる
  （`log2_log10_margin`）。

* `log10Num_floor_le` — 有限な数の常用対数の床は、32 ビットの整数にして 309 以下
-/

namespace PlotGeometry

open Float.Model Float.Model.UnpackedFloat

/-! ## 固定小数点の丸め -/

/-- 仮数 `M`、指数 `-P` の数を丸めて詰めた数の位置は、`M × 2^1074 / 2^P` を丸めたもの。 -/
theorem valueRank_pack_round_dyadic (s : Sign) {M : Nat} (hM : 0 < M) (P : Nat) :
    valueRank (UnpackedFloat.unpack .binary64 (UnpackedFloat.pack .binary64
        (UnpackedFloat.round .binary64 s M (-(P : Int))))) =
      s.apply (saturate (roundQuot (M * 2 ^ 1074) (2 ^ P))) := by
  unfold UnpackedFloat.round decreaseExponent
  dsimp only
  set t := Format.binary64.targetExponent (totalExponent M (-(P : Int))) with ht
  set d := (-(P : Int) - t).toNat with hd
  have htotal : totalExponent (M <<< d) (-(P : Int) - d) = totalExponent M (-(P : Int)) := by
    unfold totalExponent
    rw [Nat.shiftLeft_eq, log2_mul_two_pow hM]
    push_cast
    ring
  have hE : -(P : Int) - d ≤ Format.binary64.targetExponent
      (totalExponent (M <<< d) (-(P : Int) - d)) := by
    rw [htotal, ← ht]
    omega
  have hq : roundQuot (M * 2 ^ d * 2 ^ 1074) (2 ^ (P + d)) = roundQuot (M * 2 ^ 1074) (2 ^ P) :=
    roundQuot_congr (by positivity) (by positivity) (by
      rw [pow_add, Nat.mul_right_comm M, Nat.mul_assoc (M * _), Nat.mul_comm (2 ^ d)])
  rw [valueRank_pack_roundWithAccuracy_exact s (M <<< d) hE (a := 1074) (b := P + d) (by push_cast; ring),
    Nat.shiftLeft_eq, hq]

/-- `n × 2^(-P)` を丸めた数の位置は、`n × 2^1074 / 2^P` を丸めたもの。 -/
theorem rankOf_roundDyadic (n : ℤ) (P : Nat) :
    rankOf (roundDyadic n P) = roundRankQuot (n * ((2 ^ 1074 : Nat) : ℤ)) (2 ^ P) := by
  show valueRank (UnpackedFloat.unpack .binary64 (UnpackedFloat.pack .binary64
    (UnpackedFloat.normalize .binary64 n (-(P : Int)) .positive))) = _
  unfold UnpackedFloat.normalize
  rcases lt_trichotomy n 0 with hn | rfl | hn
  · rw [Int.compare_eq_lt.mpr hn]
    dsimp only
    rw [valueRank_pack_round_dyadic .negative (by omega) P]
    have hS : n * ((2 ^ 1074 : Nat) : ℤ) = Sign.negative.apply ((-n).toNat * 2 ^ 1074 : Nat) := by
      simp only [Sign.apply]
      rw [Nat.cast_mul, Int.toNat_of_nonneg (by omega), neg_mul, neg_neg]
    rw [hS, roundRankQuot_apply]
  · simp only [Int.compare_eq_eq.mpr rfl, Int.zero_mul, roundRankQuot_zero]
    rw [UnpackedFloat.pack, unpack_packedZero]
    rfl
  · rw [Int.compare_eq_gt.mpr hn]
    dsimp only
    rw [valueRank_pack_round_dyadic .positive (by omega) P]
    have hS : n * ((2 ^ 1074 : Nat) : ℤ) = Sign.positive.apply (n.toNat * 2 ^ 1074 : Nat) := by
      simp only [Sign.apply]
      rw [Nat.cast_mul, Int.toNat_of_nonneg (by omega)]
    rw [hS, roundRankQuot_apply]

theorem roundDyadic_isNaN (n : ℤ) (P : Nat) : (roundDyadic n P).isNaN = false :=
  Float.isNaN_ofModel_pack_eq_false (UnpackedFloat.normalize_ne_notANumber _ _ _)

/-- 丸めは固定小数点の値の順序を保つ。 -/
theorem roundDyadic_le {n n' : ℤ} (h : n ≤ n') (P : Nat) : roundDyadic n P ≤ roundDyadic n' P := by
  rw [Float.le_iff_rank (roundDyadic_isNaN n P) (roundDyadic_isNaN n' P), rankOf_roundDyadic,
    rankOf_roundDyadic]
  exact roundRankQuot_mono (by positivity) (Int.mul_le_mul_of_nonneg_right h (by positivity))

/-! ## 級数の下限 -/

/-- 比 `a/b` が `a'/b'` 以下なら、級数の各項の切り捨ても小さい。 -/
theorem term_le_of_ratio {N c a b a' b' n : Nat} (hc : 0 < c) (hb : 0 < b) (hb' : 0 < b')
    (h : a * b' ≤ a' * b) : N * a ^ n / (c * b ^ n) ≤ N * a' ^ n / (c * b' ^ n) := by
  apply div_le_div_of_mul_le (by positivity) (by positivity)
  have hpow : (a * b') ^ n ≤ (a' * b) ^ n := Nat.pow_le_pow_left h n
  rw [Nat.mul_pow, Nat.mul_pow] at hpow
  calc N * a ^ n * (c * b' ^ n) = N * c * (a ^ n * b' ^ n) := by ring
    _ ≤ N * c * (a' ^ n * b ^ n) := Nat.mul_le_mul_left _ hpow
    _ = N * a' ^ n * (c * b ^ n) := by ring

/-- 項ごとに小さい和は、畳み込んでも小さい。 -/
theorem foldl_pair_fst_le (f f' g g' : Nat → Nat) (hf : ∀ j, f j ≤ g j) (xs : List Nat) :
    ∀ (p q : Nat × Nat), p.1 ≤ q.1 →
      (xs.foldl (fun (acc : Nat × Nat) j => (acc.1 + f j, acc.2 + f' j)) p).1 ≤
        (xs.foldl (fun (acc : Nat × Nat) j => (acc.1 + g j, acc.2 + g' j)) q).1 := by
  induction xs with
  | nil => exact fun p q h => h
  | cons j xs ih =>
    intro p q h
    exact ih _ _ (Nat.add_le_add h (hf j))

/-- 級数 `2 atanh(a/b)` の下限は、比 `a/b` について単調。 -/
theorem atanhBounds_fst_le (P : Nat) {a b a' b' : Nat} (hb : 0 < b) (hb' : 0 < b')
    (h : a * b' ≤ a' * b) : (atanhBounds P a b).1 ≤ (atanhBounds P a' b').1 := by
  unfold atanhBounds
  dsimp only
  apply foldl_pair_fst_le _ _ _ _ (fun j => term_le_of_ratio (by omega) hb hb' h)
  exact le_rfl

/-- 有限な数 `m × 2^e`（`0 < m`、`e + ⌊log₂ m⌋ ≤ 1023`）の自然対数の下限は、`ln 2` の下限の
1024 倍以下。 -/
theorem lnBounds_fst_le (P : Nat) {m : Nat} {e : Int} (hm : 0 < m) (hE : e + m.log2 ≤ 1023) :
    (lnBounds P m e).1 ≤ 1024 * ((atanhBounds P 1 3).1 : ℤ) := by
  -- `y = m / 2^k ∈ [1, 2)` なので、比 `(m − 2^k)/(m + 2^k)` は `1/3` 以下
  have hlow := Nat.log2_self_le (Nat.pos_iff_ne_zero.mp hm)
  have hhigh := Nat.lt_log2_self (n := m)
  rw [Nat.pow_succ] at hhigh
  have hpow : Nat.pow 2 m.log2 = 2 ^ m.log2 := rfl
  have hy : ((atanhBounds P (m - Nat.pow 2 m.log2) (m + Nat.pow 2 m.log2)).1 : ℤ) ≤
      (atanhBounds P 1 3).1 := by
    exact_mod_cast atanhBounds_fst_le P (by omega) (by norm_num) (by omega)
  have htwo : (0 : ℤ) ≤ (atanhBounds P 1 3).2 := by positivity
  unfold lnBounds
  dsimp only
  split
  · rename_i hnonneg
    have hmul : (e + m.log2) * ((atanhBounds P 1 3).1 : ℤ) ≤ 1023 * (atanhBounds P 1 3).1 :=
      Int.mul_le_mul_of_nonneg_right hE (by positivity)
    push_cast at hy ⊢
    omega
  · rename_i hneg
    have hmul : (e + m.log2) * ((atanhBounds P 1 3).2 : ℤ) ≤ 0 :=
      Int.mul_nonpos_of_nonpos_of_nonneg (by omega) htwo
    have hpos : (0 : ℤ) ≤ (atanhBounds P 1 3).1 := by positivity
    push_cast at hy ⊢
    omega

/-! ## 常用対数の下限の上界 -/

/-- `ln 10` の区間が正で、`1024 × (ln 2 の下限) ≤ 309 × (ln 10 の上限)` なら、有限な数の常用対数の
下限は `309 × 2^Q` 以下。 -/
theorem log10Bounds_fst_le (Q : Nat) {m : Nat} {e : Int} (hm : 0 < m) (hE : e + m.log2 ≤ 1023)
    (hlo : 0 < (lnBounds Q 10 0).1) (hhi : 0 < (lnBounds Q 10 0).2)
    (hmargin : 1024 * ((atanhBounds Q 1 3).1 : ℤ) ≤ 309 * (lnBounds Q 10 0).2) :
    (log10Bounds Q m e).1 ≤ 309 * ((Nat.pow 2 Q : Nat) : ℤ) := by
  have hln := lnBounds_fst_le Q hm hE
  have hscale : (0 : ℤ) ≤ ((Nat.pow 2 Q : Nat) : ℤ) := by positivity
  unfold log10Bounds
  dsimp only
  split
  · rename_i hnonneg
    apply Int.ediv_le_of_le_mul hhi
    calc (lnBounds Q m e).1 * ((Nat.pow 2 Q : Nat) : ℤ)
        ≤ (309 * (lnBounds Q 10 0).2) * ((Nat.pow 2 Q : Nat) : ℤ) :=
          Int.mul_le_mul_of_nonneg_right (hln.trans hmargin) hscale
      _ = 309 * ((Nat.pow 2 Q : Nat) : ℤ) * (lnBounds Q 10 0).2 := by ring
  · rename_i hneg
    apply Int.ediv_le_of_le_mul hlo
    have hprod : (lnBounds Q m e).1 * ((Nat.pow 2 Q : Nat) : ℤ) ≤ 0 :=
      Int.mul_nonpos_of_nonpos_of_nonneg (by omega) hscale
    have hrhs : 0 ≤ 309 * ((Nat.pow 2 Q : Nat) : ℤ) * (lnBounds Q 10 0).1 := by positivity
    omega

/-- 精度 `128, 256, …, 2048` で `ln 10` の区間は正、`ln 2` の下限の 1024 倍は `ln 10` の上限の
309 倍以下（`1024 ln 2 ≈ 709.8`、`309 ln 10 ≈ 711.5`）。 -/
theorem log2_log10_margin : ∀ i < 5,
    0 < (lnBounds (2 ^ i * 128) 10 0).1 ∧ 0 < (lnBounds (2 ^ i * 128) 10 0).2 ∧
      1024 * ((atanhBounds (2 ^ i * 128) 1 3).1 : ℤ) ≤ 309 * (lnBounds (2 ^ i * 128) 10 0).2 := by
  decide +kernel

/-- 固定小数点の値が `309` 以下なら、丸めた数も `309.0` 以下。 -/
theorem roundDyadic_le_309 {L : ℤ} {Q : Nat} (h : L ≤ 309 * ((Nat.pow 2 Q : Nat) : ℤ)) :
    roundDyadic L Q ≤ 309.0 := by
  have h309 : rankOf (roundDyadic (309 * ((Nat.pow 2 Q : Nat) : ℤ)) Q) = rankOf 309.0 := by
    rw [rankOf_roundDyadic, show (309 : ℤ) * ((Nat.pow 2 Q : Nat) : ℤ) * ((2 ^ 1074 : Nat) : ℤ) =
      (309 * ((2 ^ 1074 : Nat) : ℤ)) * ((2 ^ Q : Nat) : ℤ) by rw [show Nat.pow 2 Q = 2 ^ Q from rfl]; ring,
      roundRankQuot_mul_self _ (by positivity)]
    decide +kernel
  have hnan : (309.0 : Float).isNaN = false := by decide
  refine Float.le_trans (roundDyadic_le h Q) ?_
  rw [Float.le_iff_rank (roundDyadic_isNaN _ Q) hnan, h309]

/-- 有限な数 `m × 2^e` は `e + ⌊log₂ m⌋ ≤ 1023`。 -/
theorem exponent_le_of_canonical {m : Nat} {e : Int} (hm0 : 0 < m) (h : Canonical m e) :
    e + m.log2 ≤ 1023 := by
  have hlog : m.log2 < 53 := by
    rcases h with ⟨-, hm, -⟩ | ⟨-, hm, -⟩
    · exact (Nat.log2_lt (by omega)).mpr hm
    · exact (Nat.log2_lt (by omega)).mpr (lt_trans hm (by norm_num))
  rcases h with ⟨-, -, -, he⟩ | ⟨-, -, he⟩ <;> omega

/-- 有限な数の常用対数の床は、32 ビットの整数にして 309 以下。ゼロの対数は負の無限大、負の数の
対数は NaN で、どちらも 309 を越えない。 -/
theorem log10Num_floor_le (x : Float) (hx : x.isFinite = true) :
    toInt32Sat (floorNum (log10Num x)) ≤ 309 := by
  have hc := canonicalForm_toModel x
  rw [Float.isFinite_eq_unpack] at hx
  unfold log10Num
  cases hu : x.toModel.unpack with
  | notANumber | infinity _ => rw [hu] at hx; cases hx
  | zero _ =>
    show toInt32Sat (floorNum (-1.0 / 0.0)) ≤ 309
    decide +kernel
  | finite s m e hm =>
    cases s with
    | negative =>
      show toInt32Sat (floorNum (0.0 / 0.0)) ≤ 309
      decide +kernel
    | positive =>
      rw [hu] at hc
      show toInt32Sat (floorNum (refineRounding (fun P => log10Bounds P m e) 4 128)) ≤ 309
      obtain ⟨i, hi, hQ⟩ := refineRounding_eq (fun P => log10Bounds P m e) 4 128
      obtain ⟨hlo, hhi, hmargin⟩ := log2_log10_margin i (by omega)
      have hL := log10Bounds_fst_le _ hm (exponent_le_of_canonical hm hc) hlo hhi hmargin
      rw [hQ]
      calc toInt32Sat (floorNum (roundDyadic (log10Bounds (2 ^ i * 128) m e).1 (2 ^ i * 128)))
          ≤ toInt32Sat (floorNum 309.0) :=
            toIntSat_mono (by norm_num) (by norm_num) (by norm_num)
              (floorNum_mono (roundDyadic_le_309 hL))
        _ = 309 := by decide +kernel

end PlotGeometry
