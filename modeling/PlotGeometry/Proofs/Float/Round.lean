import Mathlib
import PlotGeometry.Proofs.Float.Rank
/-!
# 倍精度への丸め

`UnpackedFloat.round` は、仮数 `M` と指数 `E` の数を 53 ビットの仮数に丸める（最近接偶数）。
`2^-1074` 単位の大きさ `N = M × 2^(E + 1074)` で言えば、丸めは自然数の関数
`roundUnits N = rne N k × 2^k`（`k` は 53 ビットを越える桁数）で、単調で、表せる大きさを
動かさない。詰めると、大きさが `2^2098` 以上の数は無限大になる。符号を付けたこの全体を
`roundRank` とし、丸めて詰めた数の位置が `roundRank` であることを示す。

* `round_eq` — `round` の結果の閉じた形
* `roundRank_mono`、`roundRank_valueRank` — 丸めは順序を保ち、表せる数を動かさない
* `valueRank_pack_normalize` — 符号付きの仮数を丸めて詰めた数の位置
-/

namespace PlotGeometry

open Float.Model Float.Model.UnpackedFloat

/-! ## 最近接偶数への丸め -/

/-- `N / 2^k` を最も近い整数に丸める。ちょうど半分なら偶数へ。 -/
def rne (N k : Nat) : Nat :=
  if 2 * (N % 2 ^ k) < 2 ^ k then N / 2 ^ k
  else if 2 * (N % 2 ^ k) = 2 ^ k then N / 2 ^ k + N / 2 ^ k % 2
  else N / 2 ^ k + 1

theorem rne_bounds (N k : Nat) : N / 2 ^ k ≤ rne N k ∧ rne N k ≤ N / 2 ^ k + 1 := by
  unfold rne
  split_ifs <;> omega

theorem rne_zero_shift (N : Nat) : rne N 0 = N := by
  simp [rne, Nat.mod_one]

theorem rne_of_dvd {N k : Nat} (h : 2 ^ k ∣ N) : rne N k = N / 2 ^ k := by
  have hr : N % 2 ^ k = 0 := Nat.mod_eq_zero_of_dvd h
  unfold rne
  rw [hr, if_pos (by simp)]

theorem rne_mono {N N' : Nat} (k : Nat) (h : N ≤ N') : rne N k ≤ rne N' k := by
  have hd : 0 < 2 ^ k := Nat.two_pow_pos k
  have hq : N / 2 ^ k ≤ N' / 2 ^ k := Nat.div_le_div_right h
  have e1 := Nat.div_add_mod N (2 ^ k)
  have e2 := Nat.div_add_mod N' (2 ^ k)
  have r1 : N % 2 ^ k < 2 ^ k := Nat.mod_lt _ hd
  have r2 : N' % 2 ^ k < 2 ^ k := Nat.mod_lt _ hd
  rcases Nat.lt_or_ge (N / 2 ^ k) (N' / 2 ^ k) with hlt | hge
  · have b1 := (rne_bounds N k).2
    have b2 := (rne_bounds N' k).1
    omega
  · have heq : N / 2 ^ k = N' / 2 ^ k := by omega
    have hr : N % 2 ^ k ≤ N' % 2 ^ k := by
      have : 2 ^ k * (N / 2 ^ k) ≤ 2 ^ k * (N' / 2 ^ k) := by rw [heq]
      nlinarith
    unfold rne
    rw [heq]
    split_ifs <;> omega

theorem rne_mul_pow (M a b : Nat) : rne (M * 2 ^ a) (b + a) = rne M b := by
  have hdiv : M * 2 ^ a / 2 ^ (b + a) = M / 2 ^ b := by
    rw [pow_add, Nat.mul_div_mul_right _ _ (Nat.two_pow_pos a)]
  have hmod : M * 2 ^ a % 2 ^ (b + a) = M % 2 ^ b * 2 ^ a := by
    rw [pow_add, Nat.mul_mod_mul_right]
  have ha := Nat.two_pow_pos a
  unfold rne
  rw [hdiv, hmod, pow_add]
  have h1 : 2 * (M % 2 ^ b * 2 ^ a) < 2 ^ b * 2 ^ a ↔ 2 * (M % 2 ^ b) < 2 ^ b := by
    constructor
    · intro h; nlinarith
    · intro h; nlinarith
  have h2 : 2 * (M % 2 ^ b * 2 ^ a) = 2 ^ b * 2 ^ a ↔ 2 * (M % 2 ^ b) = 2 ^ b := by
    constructor
    · intro h
      have : 2 * (M % 2 ^ b) * 2 ^ a = 2 ^ b * 2 ^ a := by rw [← h]; ring
      exact Nat.eq_of_mul_eq_mul_right ha this
    · intro h
      rw [← mul_assoc, h]
  simp only [h1, h2]

/-! ## 53 ビットへの丸め -/

/-- 丸めで落とすビット数：53 ビットを越える分。 -/
def shiftOf (N : Nat) : Nat := N.log2 + 1 - 53

/-- `2^-1074` 単位の大きさ `N` を 53 ビットに丸めた大きさ。 -/
def roundUnits (N : Nat) : Nat := rne N (shiftOf N) * 2 ^ shiftOf N

theorem div_shiftOf_lt (N : Nat) : N / 2 ^ shiftOf N < 2 ^ 53 := by
  rcases Nat.eq_zero_or_pos N with rfl | hN
  · simp
  rw [Nat.div_lt_iff_lt_mul (Nat.two_pow_pos _), ← pow_add]
  calc N < 2 ^ (N.log2 + 1) := Nat.lt_log2_self
    _ ≤ 2 ^ (53 + shiftOf N) := Nat.pow_le_pow_right (by norm_num) (by unfold shiftOf; omega)

theorem le_div_shiftOf {N : Nat} (h : 0 < shiftOf N) : 2 ^ 52 ≤ N / 2 ^ shiftOf N := by
  have hN : N ≠ 0 := by
    intro h0
    simp [h0, shiftOf] at h
  rw [Nat.le_div_iff_mul_le (Nat.two_pow_pos _), ← pow_add]
  calc 2 ^ (52 + shiftOf N) ≤ 2 ^ N.log2 := Nat.pow_le_pow_right (by norm_num) (by unfold shiftOf at h ⊢; omega)
    _ ≤ N := Nat.log2_self_le hN

theorem shiftOf_mono {N N' : Nat} (h : N ≤ N') : shiftOf N ≤ shiftOf N' := by
  unfold shiftOf
  rcases Nat.eq_zero_or_pos N with rfl | hN
  · simp
  have := (Nat.le_log2 (by omega)).mpr (Nat.le_trans (Nat.log2_self_le (by omega)) h)
  omega

/-- 丸めは大きさの順序を保つ。 -/
theorem roundUnits_mono {N N' : Nat} (h : N ≤ N') : roundUnits N ≤ roundUnits N' := by
  have hk := shiftOf_mono h
  unfold roundUnits
  rcases Nat.eq_or_lt_of_le hk with heq | hlt
  · rw [← heq]
    exact Nat.mul_le_mul_right _ (rne_mono _ h)
  · -- 落とすビット数が違えば、`N'` は一つ上の桁にいる
    have hpos : 0 < shiftOf N' := by omega
    have hub : rne N (shiftOf N) * 2 ^ shiftOf N ≤ 2 ^ (53 + shiftOf N) := by
      have h1 := (rne_bounds N (shiftOf N)).2
      have h2 := div_shiftOf_lt N
      rw [pow_add]
      exact Nat.mul_le_mul_right _ (by omega)
    have hlb : 2 ^ (52 + shiftOf N') ≤ rne N' (shiftOf N') * 2 ^ shiftOf N' := by
      have h1 := (rne_bounds N' (shiftOf N')).1
      have h2 := le_div_shiftOf hpos
      rw [pow_add]
      exact Nat.mul_le_mul_right _ (by omega)
    calc rne N (shiftOf N) * 2 ^ shiftOf N ≤ 2 ^ (53 + shiftOf N) := hub
      _ ≤ 2 ^ (52 + shiftOf N') := Nat.pow_le_pow_right (by norm_num) (by omega)
      _ ≤ rne N' (shiftOf N') * 2 ^ shiftOf N' := hlb

theorem roundUnits_of_lt {N : Nat} (h : N < 2 ^ 53) : roundUnits N = N := by
  have hk : shiftOf N = 0 := by
    unfold shiftOf
    rcases Nat.eq_zero_or_pos N with rfl | hN
    · simp
    have := (Nat.log2_lt (by omega)).mpr h
    omega
  simp [roundUnits, hk, rne_zero_shift]

theorem log2_mul_two_pow {M : Nat} (hM : 0 < M) (d : Nat) : (M * 2 ^ d).log2 = M.log2 + d := by
  rw [Nat.log2_eq_iff (by positivity)]
  constructor
  · rw [pow_add]
    exact Nat.mul_le_mul_right _ (Nat.log2_self_le (by omega))
  · rw [pow_succ, pow_add, mul_assoc, mul_comm (2 ^ d) 2, ← mul_assoc]
    exact Nat.mul_lt_mul_of_pos_right (by rw [← pow_succ]; exact Nat.lt_log2_self) (Nat.two_pow_pos d)

/-- 表せる大きさは、丸めても変わらない。 -/
theorem roundUnits_units {m : Nat} {e : Int} (h : Canonical m e) : roundUnits (units m e) = units m e := by
  rcases h with ⟨h1, h2, -, -⟩ | ⟨-, h2, rfl⟩
  · have hk : shiftOf (units m e) = (e + 1074).toNat := by
      unfold shiftOf units
      rw [log2_mul_two_pow (by omega), log2_of_normal h1 h2]
      omega
    have hdvd : 2 ^ (e + 1074).toNat ∣ units m e := Dvd.intro_left m rfl
    unfold roundUnits
    rw [hk, rne_of_dvd hdvd]
    unfold units
    rw [Nat.mul_div_cancel _ (Nat.two_pow_pos _)]
  · apply roundUnits_of_lt
    simp [units]
    omega

/-! ## 仮数をずらして丸める -/

theorem shiftRight_exact_succ (M n : Nat) :
    ((⟨M, false, false⟩ : ExtendedMantissa) >>> (n + 1)) =
      ⟨M / 2 ^ (n + 1), M / 2 ^ n % 2 != 0, M % 2 ^ n != 0⟩ := by
  induction n with
  | zero =>
    show ExtendedMantissa.shiftRightOne ⟨M, false, false⟩ = _
    simp [ExtendedMantissa.shiftRightOne, Nat.mod_one]
  | succ n ih =>
    show ExtendedMantissa.shiftRightOne ((⟨M, false, false⟩ : ExtendedMantissa) >>> (n + 1)) = _
    rw [ih]
    have hmod : M % 2 ^ (n + 1) = 2 ^ n * (M / 2 ^ n % 2) + M % 2 ^ n := by
      rw [pow_succ, Nat.mod_mul]
      ring
    simp only [ExtendedMantissa.shiftRightOne]
    congr 1
    · rw [Nat.div_div_eq_div_mul, ← pow_succ]
    · have hp := Nat.two_pow_pos n
      cases h1 : M / 2 ^ n % 2 == 0 <;> cases h2 : M % 2 ^ n == 0 <;> simp_all

theorem shiftRight_exact_mantissa (M n : Nat) :
    ((⟨M, false, false⟩ : ExtendedMantissa) >>> n).mantissa = M / 2 ^ n := by
  cases n with
  | zero => simp; rfl
  | succ n => rw [shiftRight_exact_succ]

theorem shiftRight_exact_rounded (M n : Nat) :
    ((⟨M, false, false⟩ : ExtendedMantissa) >>> n).roundedMantissa = rne M n := by
  cases n with
  | zero =>
    show ExtendedMantissa.roundedMantissa ⟨M, false, false⟩ = _
    simp [ExtendedMantissa.roundedMantissa, ExtendedMantissa.accuracy, Accuracy.roundToNearestEven, rne,
      Nat.mod_one]
  | succ n =>
    rw [shiftRight_exact_succ]
    have hmod : M % 2 ^ (n + 1) = 2 ^ n * (M / 2 ^ n % 2) + M % 2 ^ n := by
      rw [pow_succ, Nat.mod_mul]
      ring
    have hp := Nat.two_pow_pos n
    have hr := Nat.mod_lt M hp
    unfold rne
    rw [hmod]
    have hd : M / 2 ^ (n + 1) = M / (2 ^ n * 2) := by rw [pow_succ]
    rw [hd, pow_succ]
    -- 最後に落ちたビット `hb` と、その下のビットが 0 でないか `hs` で四つに分かれる
    rcases Nat.mod_two_eq_zero_or_one (M / 2 ^ n) with hb | hb <;>
      rcases Nat.eq_zero_or_pos (M % 2 ^ n) with hs | hs
    · rw [hb, hs, Nat.mul_zero, if_pos (by omega)]
      simp [ExtendedMantissa.roundedMantissa, ExtendedMantissa.accuracy, Accuracy.roundToNearestEven]
    · have hs' : (M % 2 ^ n != 0) = true := by simp; omega
      rw [hb, Nat.mul_zero, if_pos (by omega)]
      simp [ExtendedMantissa.roundedMantissa, ExtendedMantissa.accuracy, Accuracy.roundToNearestEven,
        hs']
    · rw [hb, hs, Nat.mul_one, if_neg (by omega), if_pos (by omega)]
      simp [ExtendedMantissa.roundedMantissa, ExtendedMantissa.accuracy, Accuracy.roundToNearestEven]
    · have hs' : (M % 2 ^ n != 0) = true := by simp; omega
      rw [hb, Nat.mul_one, if_neg (by omega), if_neg (by omega)]
      simp [ExtendedMantissa.roundedMantissa, ExtendedMantissa.accuracy, Accuracy.roundToNearestEven,
        hs']

theorem targetExponent_binary64 (T : Int) :
    Format.binary64.targetExponent T = max (T - 53) (-1074) := by
  simp [Format.targetExponent, Format.mantissaBits, Format.minExponent]

/-- 丸めた結果の形：正規数（指数に上限なし）か、指数が最小の非正規数。 -/
def RoundShape (m : Nat) (e : Int) : Prop :=
  (2 ^ 52 ≤ m ∧ m < 2 ^ 53 ∧ -1074 ≤ e) ∨ (0 < m ∧ m < 2 ^ 52 ∧ e = -1074)

/-- 丸めた仮数 `R`（53 ビットに収まるか、繰り上がってちょうど `2^53`）を指数 `t` に置く最後の段。 -/
theorem finalize_rounded (s : Sign) {R : Nat} {t : Int} (hR0 : 0 < R) (hR : R ≤ 2 ^ 53)
    (ht : -1074 ≤ t) (hsub : R < 2 ^ 52 → t = -1074) :
    ∃ m' e' h, (if h : (shiftToTargetExponent .binary64 R t .exact).1.mantissa = 0 then
          UnpackedFloat.zero s
        else UnpackedFloat.finite s (shiftToTargetExponent .binary64 R t .exact).1.mantissa
          (shiftToTargetExponent .binary64 R t .exact).2 (Nat.pos_of_ne_zero h)) =
        .finite s m' e' h ∧ RoundShape m' e' ∧ units m' e' = R * 2 ^ (t + 1074).toNat := by
  rcases Nat.lt_or_ge R (2 ^ 53) with hlt | hge
  · have hlog : R.log2 ≤ 52 := by
      have := (Nat.log2_lt (by omega)).mpr hlt
      omega
    have hn : (Format.binary64.targetExponent (totalExponent R t) - t).toNat = 0 := by
      rw [targetExponent_binary64]
      simp only [totalExponent]
      omega
    simp only [shiftToTargetExponent, shiftToExponent, ExtendedMantissa.ofMantissaAndAccuracy, hn,
      Int.natCast_zero, Int.add_zero]
    simp only [shiftRight_exact_mantissa, pow_zero, Nat.div_one]
    rw [dif_neg (by omega)]
    refine ⟨R, t, hR0, rfl, ?_, rfl⟩
    by_cases h52 : 2 ^ 52 ≤ R
    · exact .inl ⟨h52, hlt, ht⟩
    · exact .inr ⟨hR0, by omega, hsub (by omega)⟩
  · have hR53 : R = 2 ^ 53 := by omega
    subst hR53
    have hn : (Format.binary64.targetExponent (totalExponent (2 ^ 53) t) - t).toNat = 1 := by
      rw [targetExponent_binary64]
      simp only [totalExponent, Nat.log2_two_pow]
      omega
    simp only [shiftToTargetExponent, shiftToExponent, ExtendedMantissa.ofMantissaAndAccuracy, hn]
    simp only [shiftRight_exact_mantissa]
    rw [dif_neg (by norm_num)]
    refine ⟨2 ^ 53 / 2 ^ 1, t + 1, by norm_num, rfl, .inl ⟨by norm_num, by norm_num, by omega⟩, ?_⟩
    have ha : (t + 1 + 1074).toNat = (t + 1074).toNat + 1 := by omega
    unfold units
    rw [ha, pow_succ]
    norm_num
    ring

/-- `round` の結果：正規数の形の有限数で、大きさは `roundUnits`。指数の上限はまだ見ない。 -/
theorem round_eq (s : Sign) {M : Nat} {E : Int} (hM : 0 < M) (hE : -1074 ≤ E) :
    ∃ m' e' h, UnpackedFloat.round .binary64 s M E = .finite s m' e' h ∧ RoundShape m' e' ∧
      units m' e' = roundUnits (M * 2 ^ (E + 1074).toNat) := by
  set N := M * 2 ^ (E + 1074).toNat with hN
  set t := max (M.log2 + 1 + E - 53) (-1074) with ht
  have htarget : Format.binary64.targetExponent (totalExponent M E) = t := by
    rw [targetExponent_binary64]
    rfl
  have hk : shiftOf N = (t + 1074).toNat := by
    rw [hN, shiftOf, log2_mul_two_pow hM]
    omega
  set d := (E - t).toNat with hd
  have htarget' : Format.binary64.targetExponent (totalExponent (M * 2 ^ d) (E - d)) = t := by
    rw [targetExponent_binary64, totalExponent, log2_mul_two_pow hM]
    omega
  have hfirst : shiftToTargetExponent .binary64 (M <<< d) (E - d) .exact =
      ((⟨M * 2 ^ d, false, false⟩ : ExtendedMantissa) >>> (t - (E - d)).toNat, t) := by
    simp only [shiftToTargetExponent, Nat.shiftLeft_eq, htarget', shiftToExponent,
      ExtendedMantissa.ofMantissaAndAccuracy]
    congr 1
    omega
  have hR : rne (M * 2 ^ d) (t - (E - d)).toNat = rne N (shiftOf N) := by
    rw [hk]
    by_cases hEt : t ≤ E
    · have h0 : (t - (E - d)).toNat = 0 := by omega
      have hsplit : (E + 1074).toNat = d + (t + 1074).toNat := by omega
      have hexact := rne_mul_pow (M * 2 ^ d) (t + 1074).toNat 0
      rw [Nat.zero_add, rne_zero_shift] at hexact
      rw [h0, rne_zero_shift, hN, hsplit, pow_add, ← mul_assoc, hexact]
    · have h0 : d = 0 := by omega
      have hsplit : (t + 1074).toNat = (t - (E - d)).toNat + (E + 1074).toNat := by omega
      rw [hsplit, hN, rne_mul_pow, h0, pow_zero, Nat.mul_one]
  unfold UnpackedFloat.round roundWithAccuracy
  simp only [decreaseExponent, htarget, ← hd, hfirst, shiftRight_exact_rounded, hR]
  have hNpos : 0 < N := Nat.mul_pos hM (Nat.two_pow_pos _)
  have hlo := (rne_bounds N (shiftOf N)).1
  have hhi := (rne_bounds N (shiftOf N)).2
  have hdiv := div_shiftOf_lt N
  have hnorm : 0 < shiftOf N → 2 ^ 52 ≤ rne N (shiftOf N) := fun h =>
    le_trans (le_div_shiftOf h) hlo
  have hR0 : 0 < rne N (shiftOf N) := by
    rcases Nat.eq_zero_or_pos (shiftOf N) with h0 | h0
    · rw [h0, rne_zero_shift]
      exact hNpos
    · have := hnorm h0
      omega
  have htmin : -1074 ≤ t := le_max_right _ _
  obtain ⟨m', e', h, heq, hshape, hunits⟩ :=
    finalize_rounded s hR0 (by omega) htmin (fun hlt => by
      have : ¬ 0 < shiftOf N := fun h0 => absurd (hnorm h0) (by omega)
      omega)
  refine ⟨m', e', h, heq, hshape, ?_⟩
  rw [hunits, roundUnits, hk]


/-! ## 詰めた数の位置 -/

/-- 丸めた大きさ `U` の数を詰めたときの位置。`2^2098` 以上なら指数が 971 を越え、無限大になる。 -/
def saturate (U : Nat) : ℤ := if U < 2 ^ 2098 then U else infRank

/-- 符号付きの大きさ `S`（`2^-1074` 単位）の数を丸めて詰めたときの位置。 -/
def roundRank (S : ℤ) : ℤ :=
  if 0 ≤ S then saturate (roundUnits S.toNat) else -saturate (roundUnits (-S).toNat)

theorem saturate_nonneg (U : Nat) : 0 ≤ saturate U := by
  have hI := infRank_pos
  unfold saturate
  split_ifs <;> omega

theorem saturate_of_lt {U : Nat} (h : U < 2 ^ 2098) : saturate U = U := if_pos h

theorem saturate_of_le {U : Nat} (h : 2 ^ 2098 ≤ U) : saturate U = infRank := if_neg (by omega)

theorem saturate_mono {U U' : Nat} (h : U ≤ U') : saturate U ≤ saturate U' := by
  have hI := overflow_lt_infRank
  rw [Nat.cast_pow, Nat.cast_ofNat] at hI
  unfold saturate
  split_ifs with h1 h2 h2 <;> omega

theorem roundUnits_zero : roundUnits 0 = 0 := by
  simp [roundUnits, rne]

theorem roundRank_zero : roundRank 0 = 0 := by
  rw [roundRank, if_pos le_rfl, Int.toNat_zero, roundUnits_zero, saturate_of_lt (by positivity)]
  rfl

/-- 丸めて詰めることは順序を保つ。 -/
theorem roundRank_mono {S S' : ℤ} (h : S ≤ S') : roundRank S ≤ roundRank S' := by
  unfold roundRank
  split_ifs with h1 h2 h2
  · exact saturate_mono (roundUnits_mono (by omega))
  · omega
  · have := saturate_nonneg (roundUnits (-S).toNat)
    have := saturate_nonneg (roundUnits S'.toNat)
    omega
  · have := saturate_mono (roundUnits_mono (show (-S').toNat ≤ (-S).toNat by omega))
    omega

/-- 53 ビットを越える 2 の冪は丸めても変わらない。 -/
theorem roundUnits_two_pow {k : Nat} (hk : 52 ≤ k) : roundUnits (2 ^ k) = 2 ^ k := by
  have hs : shiftOf (2 ^ k) = k - 52 := by
    unfold shiftOf
    rw [Nat.log2_two_pow]
    omega
  have hsplit : k = 52 + (k - 52) := by omega
  have hdvd : 2 ^ (k - 52) ∣ 2 ^ k := Nat.pow_dvd_pow 2 (by omega)
  unfold roundUnits
  rw [hs, rne_of_dvd hdvd, Nat.div_mul_cancel hdvd]

theorem roundRank_of_overflow {S : ℤ} (h : ((2 ^ 2098 : Nat) : ℤ) ≤ S) : roundRank S = infRank := by
  have hU : 2 ^ 2098 ≤ roundUnits S.toNat := by
    rw [← roundUnits_two_pow (by norm_num)]
    exact roundUnits_mono (by omega)
  have hS : 0 ≤ S := le_trans (by positivity) h
  rw [roundRank, if_pos hS, saturate_of_le hU]

theorem roundRank_of_neg_overflow {S : ℤ} (h : S ≤ -((2 ^ 2098 : Nat) : ℤ)) :
    roundRank S = -infRank := by
  have hU : 2 ^ 2098 ≤ roundUnits (-S).toNat := by
    rw [← roundUnits_two_pow (by norm_num)]
    exact roundUnits_mono (by omega)
  have hS : ¬0 ≤ S := by
    have : (0 : ℤ) < ((2 ^ 2098 : Nat) : ℤ) := by positivity
    omega
  rw [roundRank, if_neg hS, saturate_of_le hU]

/-- 表せる数の位置は、丸めて詰めても変わらない。 -/
theorem roundRank_valueRank {u : UnpackedFloat} (hu : CanonicalForm u) :
    roundRank (valueRank u) = valueRank u := by
  have hI := overflow_lt_infRank
  cases u with
  | notANumber => exact roundRank_zero
  | zero s => exact roundRank_zero
  | infinity s =>
    cases s
    · exact roundRank_of_neg_overflow (by simp only [valueRank, Sign.apply]; omega)
    · exact roundRank_of_overflow (by simp only [valueRank, Sign.apply]; omega)
  | finite s m e hm =>
    have hU := units_pos m e hm
    have hfix : saturate (roundUnits (units m e)) = units m e := by
      rw [roundUnits_units hu, saturate_of_lt (units_lt_overflow hu)]
    cases s
    · show roundRank (-(units m e : ℤ)) = -(units m e : ℤ)
      rw [roundRank, if_neg (by omega), Int.neg_neg, Int.toNat_natCast, hfix]
    · show roundRank (units m e : ℤ) = units m e
      rw [roundRank, if_pos (by omega), Int.toNat_natCast, hfix]

/-! ## 丸めて詰めた数 -/

theorem canonical_of_roundShape {m : Nat} {e : Int} (h : RoundShape m e) (he : e ≤ 971) :
    Canonical m e := by
  unfold RoundShape at h
  unfold Canonical
  omega

theorem overflow_le_units {m : Nat} {e : Int} (h : RoundShape m e) (he : 971 < e) :
    2 ^ 2098 ≤ units m e := by
  have hm : 2 ^ 52 ≤ m := by rcases h with h | h <;> omega
  have hk : 2046 ≤ (e + 1074).toNat := by omega
  calc 2 ^ 2098 = 2 ^ 52 * 2 ^ 2046 := by simp only [← pow_add]
    _ ≤ m * 2 ^ (e + 1074).toNat := Nat.mul_le_mul hm (Nat.pow_le_pow_right (by norm_num) hk)

/-- 丸めた形の有限数を詰めた数の位置。指数が大きすぎれば無限大。 -/
theorem valueRank_pack_roundShape (s : Sign) {m : Nat} {e : Int} (hm : 0 < m) (h : RoundShape m e) :
    valueRank (UnpackedFloat.unpack .binary64 (UnpackedFloat.pack .binary64 (.finite s m e hm))) =
      s.apply (saturate (units m e)) := by
  by_cases he : e ≤ 971
  · rw [unpack_pack_canonical s hm (canonical_of_roundShape h he),
      saturate_of_lt (units_lt_overflow (canonical_of_roundShape h he))]
    rfl
  · rw [unpack_pack_overflow s hm (by omega), saturate_of_le (overflow_le_units h (by omega))]
    rfl

/-- 正の仮数 `M`、指数 `E` の数を丸めて詰めた数の位置。 -/
theorem valueRank_pack_round (s : Sign) {M : Nat} {E : Int} (hM : 0 < M) (hE : -1074 ≤ E) :
    valueRank (UnpackedFloat.unpack .binary64 (UnpackedFloat.pack .binary64
        (UnpackedFloat.round .binary64 s M E))) =
      roundRank (s.apply (M * 2 ^ (E + 1074).toNat : Nat)) := by
  obtain ⟨m', e', hm', hr, hshape, hunits⟩ := round_eq s hM hE
  have hN : 0 < M * 2 ^ (E + 1074).toNat := Nat.mul_pos hM (Nat.two_pow_pos _)
  have hsign : roundRank (s.apply (M * 2 ^ (E + 1074).toNat : Nat)) =
      s.apply (saturate (roundUnits (M * 2 ^ (E + 1074).toNat))) := by
    cases s
    · show roundRank (-(M * 2 ^ (E + 1074).toNat : Nat)) = -saturate _
      rw [roundRank, if_neg (by omega), Int.neg_neg, Int.toNat_natCast]
    · show roundRank (M * 2 ^ (E + 1074).toNat : Nat) = saturate _
      rw [roundRank, if_pos (by omega), Int.toNat_natCast]
  rw [hr, hsign, ← hunits, valueRank_pack_roundShape s hm' hshape]

/-- 符号付きの仮数 `n`、指数 `E` の数を丸めて詰めた数の位置。ゼロは正のゼロ。 -/
theorem valueRank_pack_normalize (n : ℤ) {E : Int} (hE : -1074 ≤ E) :
    valueRank (UnpackedFloat.unpack .binary64 (UnpackedFloat.pack .binary64
        (UnpackedFloat.normalize .binary64 n E .positive))) = roundRank (n * 2 ^ (E + 1074).toNat) := by
  unfold UnpackedFloat.normalize
  rcases lt_trichotomy n 0 with hn | rfl | hn
  · rw [Int.compare_eq_lt.mpr hn]
    dsimp only
    rw [valueRank_pack_round .negative (by omega) hE]
    congr 1
    simp only [Sign.apply]
    push_cast
    rw [Int.toNat_of_nonneg (by omega)]
    ring
  · simp only [Int.compare_eq_eq.mpr rfl, Int.zero_mul, roundRank_zero]
    rw [UnpackedFloat.pack, unpack_packedZero]
    rfl
  · rw [Int.compare_eq_gt.mpr hn]
    dsimp only
    rw [valueRank_pack_round .positive (by omega) hE]
    congr 1
    simp only [Sign.apply]
    push_cast
    rw [Int.toNat_of_nonneg (by omega)]

end PlotGeometry
