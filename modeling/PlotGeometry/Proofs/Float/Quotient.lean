import Mathlib
import PlotGeometry.Proofs.Float.Zero
import PlotGeometry.Proofs.Float.Elementary
/-!
# 商の丸め

割り算の商は 2 進の有限小数とは限らない。そこで丸めを、有理数 `A / D` を最も近い整数
（ちょうど半分なら偶数）に丸める自然数の関数 `rnd A D` で述べる。`rne N k` は
`rnd N (2^k)` そのもの。`rnd` は有理数の順序を保つ（交差した積で比べる、`rnd_mono`）。

倍精度への丸めも同じく、`2^-1074` 単位の大きさが `A / B` の数を 53 ビットに丸めた
`roundQuot A B` で、落とすビット数は整数部 `A / B` のビット数で決まる。`roundQuot` も
有理数の順序を保ち、値だけで決まる（`roundQuot_mono`、`roundQuot_congr`）。

演算の中では、丸める前の数は仮数（整数部）と、落とした部分が半ulp より小さいか、ちょうど
か、大きいか（`Accuracy`）で表される。仮数の下に、丸めのビットとそれより下が 0 でないかを
付けた自然数 `sticky (2A) B` はこの二つを一つにしたもので、2 ビット以上ずらして丸めると
元の商を丸めたものと同じになる（`rnd_sticky`）。これで `roundWithAccuracy` の結果の位置が
`roundQuot` で書ける（`valueRank_pack_roundWithAccuracy`）。
-/

namespace PlotGeometry

open Float.Model Float.Model.UnpackedFloat

/-! ## 有理数の丸め -/

/-- `A / D` を最も近い整数に丸める。ちょうど半分なら偶数へ。 -/
def rnd (A D : Nat) : Nat :=
  if 2 * (A % D) < D then A / D
  else if 2 * (A % D) = D then A / D + A / D % 2
  else A / D + 1

theorem rne_eq_rnd (N k : Nat) : rne N k = rnd N (2 ^ k) := rfl

theorem rnd_bounds (A D : Nat) : A / D ≤ rnd A D ∧ rnd A D ≤ A / D + 1 := by
  unfold rnd
  split_ifs <;> omega

/-- 分子と分母に同じ数を掛けても、丸めは変わらない。 -/
theorem rnd_mul_right (A D : Nat) {c : Nat} (hc : 0 < c) : rnd (A * c) (D * c) = rnd A D := by
  have hq : A * c / (D * c) = A / D := Nat.mul_div_mul_right _ _ hc
  have hr : A * c % (D * c) = A % D * c := Nat.mul_mod_mul_right _ _ _
  have h1 : 2 * (A % D * c) < D * c ↔ 2 * (A % D) < D := by
    rw [← Nat.mul_assoc]
    exact Nat.mul_lt_mul_right hc
  have h2 : 2 * (A % D * c) = D * c ↔ 2 * (A % D) = D := by
    rw [← Nat.mul_assoc]
    exact Nat.mul_left_inj (by omega)
  unfold rnd
  rw [hq, hr]
  simp only [h1, h2]

/-- 有理数 `A / D ≤ A' / D'` なら、丸めても順序は保たれる。 -/
theorem rnd_mono {A D A' D' : Nat} (hD : 0 < D) (hD' : 0 < D') (h : A * D' ≤ A' * D) :
    rnd A D ≤ rnd A' D' := by
  have e1 := Nat.div_add_mod A D
  have e2 := Nat.div_add_mod A' D'
  have r1 := Nat.mod_lt A hD
  have r2 := Nat.mod_lt A' hD'
  have hq : A / D ≤ A' / D' := by
    rw [Nat.le_div_iff_mul_le hD']
    have : A / D * D * D' ≤ A' * D := le_trans (Nat.mul_le_mul_right _ (Nat.div_mul_le_self A D)) h
    exact Nat.le_of_mul_le_mul_right (by linarith) hD
  rcases Nat.lt_or_ge (A / D) (A' / D') with hlt | hge
  · have b1 := (rnd_bounds A D).2
    have b2 := (rnd_bounds A' D').1
    omega
  · have heq : A / D = A' / D' := by omega
    have hr : A % D * D' ≤ A' % D' * D := by
      rw [← heq] at e2
      nlinarith
    have hlt : 2 * (A' % D') < D' → 2 * (A % D) < D := fun h' => by
      by_contra hn
      have : D * D' ≤ 2 * (A % D) * D' := Nat.mul_le_mul_right _ (by omega)
      have : 2 * (A' % D') * D < D' * D := Nat.mul_lt_mul_of_pos_right h' hD
      nlinarith
    have hle : 2 * (A' % D') = D' → 2 * (A % D) ≤ D := fun h' => by
      by_contra hn
      have : D * D' < 2 * (A % D) * D' := Nat.mul_lt_mul_of_pos_right (by omega) hD'
      nlinarith
    unfold rnd
    rw [heq]
    split_ifs <;> omega


/-- `X / B` の整数部を 2 倍し、割り切れなければ 1 を足す。整数部の下に、その下が 0 でないかを
表す 1 ビットを付けた形。 -/
def sticky (X B : Nat) : Nat := 2 * (X / B) + if X % B = 0 then 0 else 1

/-- 落とす部分 `(2ρ + b) / 4h` と `(r + Bρ) / 2Bh` の、半分との比べ方は同じ（`b` は `r` が
0 でないか）。 -/
theorem half_compare_sticky {ρ h b r B : Nat} (hr : r < B) (hb : b ≤ 1) (hb0 : b = 0 ↔ r = 0) :
    (2 * (2 * ρ + b) < 2 * h * 2 ↔ 2 * (r + B * ρ) < B * (2 * h)) ∧
      (2 * (2 * ρ + b) = 2 * h * 2 ↔ 2 * (r + B * ρ) = B * (2 * h)) := by
  have hQ : B * (2 * h) = 2 * (B * h) := by ring
  rw [hQ]
  rcases lt_trichotomy ρ h with hl | rfl | hl
  · have : B * ρ + B ≤ B * h := by nlinarith
    omega
  · omega
  · have : B * h + B ≤ B * ρ := by nlinarith
    omega

/-- 下に一ビットを付けた形を 2 ビット以上ずらして丸めると、元の商を丸めたものと同じ。 -/
theorem rnd_sticky (X B : Nat) {m : Nat} (hB : 0 < B) (hm : 1 ≤ m) :
    rnd (sticky X B) (2 ^ (m + 1)) = rnd X (B * 2 ^ m) := by
  have hp : 0 < 2 ^ m := Nat.two_pow_pos m
  have hρ := Nat.mod_lt (X / B) hp
  have hb1 : (if X % B = 0 then 0 else 1) ≤ 1 := by split <;> omega
  have hb0 : (if X % B = 0 then 0 else 1) = 0 ↔ X % B = 0 := by split <;> simp_all
  -- 上の桁は `(X / B) / 2^m`、落とす部分は `2 ρ + b` と `X mod B + B ρ`（`ρ = (X / B) mod 2^m`）
  have hlt : 2 * (X / B % 2 ^ m) + (if X % B = 0 then 0 else 1) < 2 ^ (m + 1) := by
    rw [pow_succ]
    omega
  have hsplit : sticky X B =
      2 ^ (m + 1) * (X / B / 2 ^ m) + (2 * (X / B % 2 ^ m) + if X % B = 0 then 0 else 1) := by
    have := Nat.div_add_mod (X / B) (2 ^ m)
    rw [sticky, pow_succ]
    nth_rewrite 1 [← this]
    ring
  have hq₁ : sticky X B / 2 ^ (m + 1) = X / B / 2 ^ m := by
    rw [hsplit, Nat.mul_add_div (Nat.two_pow_pos _), Nat.div_eq_of_lt hlt, Nat.add_zero]
  have hr₁ : sticky X B % 2 ^ (m + 1) = 2 * (X / B % 2 ^ m) + if X % B = 0 then 0 else 1 := by
    rw [hsplit, Nat.mul_add_mod, Nat.mod_eq_of_lt hlt]
  have hq₂ : X / (B * 2 ^ m) = X / B / 2 ^ m := (Nat.div_div_eq_div_mul X B (2 ^ m)).symm
  have hr₂ : X % (B * 2 ^ m) = X % B + B * (X / B % 2 ^ m) := Nat.mod_mul
  obtain ⟨h, hh⟩ : ∃ h, 2 ^ m = 2 * h := ⟨2 ^ (m - 1), by rw [← pow_succ']; congr 1; omega⟩
  obtain ⟨c1, c2⟩ := half_compare_sticky (ρ := X / B % 2 ^ m) (h := h) (Nat.mod_lt X hB) hb1 hb0
  rw [← hh, ← pow_succ] at c1 c2
  unfold rnd
  rw [hq₁, hr₁, hq₂, hr₂]
  simp only [c1, c2]

/-! ## 商の 53 ビットへの丸め -/

/-- `2^-1074` 単位の大きさが `A / B` の数を 53 ビットに丸めた大きさ。落とすビット数は整数部
`A / B` で決まる。 -/
def roundQuot (A B : Nat) : Nat := rnd A (B * 2 ^ shiftOf (A / B)) * 2 ^ shiftOf (A / B)

theorem roundQuot_one (N : Nat) : roundQuot N 1 = roundUnits N := by
  simp only [roundQuot, roundUnits, Nat.div_one, Nat.one_mul, rne_eq_rnd]

theorem roundQuot_zero (B : Nat) : roundQuot 0 B = 0 := by
  simp [roundQuot, rnd]

theorem div_le_div_of_mul_le {A B A' B' : Nat} (hB : 0 < B) (hB' : 0 < B') (h : A * B' ≤ A' * B) :
    A / B ≤ A' / B' := by
  rw [Nat.le_div_iff_mul_le hB']
  have : A / B * B * B' ≤ A' * B := le_trans (Nat.mul_le_mul_right _ (Nat.div_mul_le_self A B)) h
  exact Nat.le_of_mul_le_mul_right (by linarith) hB

/-- 丸めは有理数の大きさの順序を保つ。 -/
theorem roundQuot_mono {A B A' B' : Nat} (hB : 0 < B) (hB' : 0 < B') (h : A * B' ≤ A' * B) :
    roundQuot A B ≤ roundQuot A' B' := by
  have hk := shiftOf_mono (div_le_div_of_mul_le hB hB' h)
  unfold roundQuot
  rcases Nat.eq_or_lt_of_le hk with heq | hlt
  · rw [← heq]
    refine Nat.mul_le_mul_right _ (rnd_mono (by positivity) (by positivity) ?_)
    calc A * (B' * 2 ^ shiftOf (A / B)) = A * B' * 2 ^ shiftOf (A / B) := by ring
      _ ≤ A' * B * 2 ^ shiftOf (A / B) := Nat.mul_le_mul_right _ h
      _ = A' * (B * 2 ^ shiftOf (A / B)) := by ring
  · -- 落とすビット数が違えば、`A' / B'` は一つ上の桁にいる
    have hpos : 0 < shiftOf (A' / B') := by omega
    have hub : rnd A (B * 2 ^ shiftOf (A / B)) * 2 ^ shiftOf (A / B) ≤ 2 ^ (53 + shiftOf (A / B)) := by
      have h1 := (rnd_bounds A (B * 2 ^ shiftOf (A / B))).2
      have h2 := div_shiftOf_lt (A / B)
      rw [← Nat.div_div_eq_div_mul] at h1
      rw [pow_add]
      exact Nat.mul_le_mul_right _ (by omega)
    have hlb : 2 ^ (52 + shiftOf (A' / B')) ≤
        rnd A' (B' * 2 ^ shiftOf (A' / B')) * 2 ^ shiftOf (A' / B') := by
      have h1 := (rnd_bounds A' (B' * 2 ^ shiftOf (A' / B'))).1
      have h2 := le_div_shiftOf hpos
      rw [← Nat.div_div_eq_div_mul] at h1
      rw [pow_add]
      exact Nat.mul_le_mul_right _ (by omega)
    calc rnd A (B * 2 ^ shiftOf (A / B)) * 2 ^ shiftOf (A / B) ≤ 2 ^ (53 + shiftOf (A / B)) := hub
      _ ≤ 2 ^ (52 + shiftOf (A' / B')) := Nat.pow_le_pow_right (by norm_num) (by omega)
      _ ≤ rnd A' (B' * 2 ^ shiftOf (A' / B')) * 2 ^ shiftOf (A' / B') := hlb

/-- 丸めは有理数の値だけで決まる。 -/
theorem roundQuot_congr {A B A' B' : Nat} (hB : 0 < B) (hB' : 0 < B') (h : A * B' = A' * B) :
    roundQuot A B = roundQuot A' B' :=
  le_antisymm (roundQuot_mono hB hB' h.le) (roundQuot_mono hB' hB h.symm.le)

/-- `2^(k+52) ≤ Q < 2^(k+53)`（`k = 0` なら上の不等式だけ）なら、落とすビット数は `k`。 -/
theorem shiftOf_eq_of_bounds {Q k : Nat} (h1 : Q < 2 ^ (k + 53)) (h2 : 0 < k → 2 ^ (k + 52) ≤ Q) :
    shiftOf Q = k := by
  unfold shiftOf
  rcases Nat.eq_zero_or_pos k with rfl | hk
  · rcases Nat.eq_zero_or_pos Q with rfl | hQ
    · simp
    · have := (Nat.log2_lt (Nat.pos_iff_ne_zero.mp hQ)).mpr h1
      omega
  · have hQ : Q ≠ 0 := Nat.pos_iff_ne_zero.mp (lt_of_lt_of_le (Nat.two_pow_pos _) (h2 hk))
    have hlog : Q.log2 = k + 52 := (Nat.log2_eq_iff hQ).mpr ⟨h2 hk, h1⟩
    rw [hlog]
    omega

/-! ## 丸めのビットと、その下のビット -/

theorem ExtendedMantissa.shiftRight_shiftRight (em : ExtendedMantissa) (a n : Nat) :
    (em >>> a) >>> n = em >>> (n + a) := by
  induction n with
  | zero => rw [Nat.zero_add]; rfl
  | succ n ih =>
    rw [Nat.add_right_comm]
    show ExtendedMantissa.shiftRightOne ((em >>> a) >>> n) = ExtendedMantissa.shiftRightOne (em >>> (n + a))
    rw [ih]

/-- 商 `A / B` と余りの位置（`accuracyOfFraction`）は、下に一ビットを付けた `2A / B` を
2 ビットずらしたものと同じ。 -/
theorem ofMantissaAndAccuracy_fraction (A : Nat) {B : Nat} (hB : 0 < B) :
    ExtendedMantissa.ofMantissaAndAccuracy (A / B) (accuracyOfFraction (A % B) B) =
      (⟨sticky (2 * A) B, false, false⟩ : ExtendedMantissa) >>> 2 := by
  rw [shiftRight_exact_succ]
  have e := Nat.div_add_mod A B
  have hr := Nat.mod_lt A hB
  unfold sticky accuracyOfFraction
  rcases Nat.lt_or_ge (2 * (A % B)) B with hlt | hge
  · obtain ⟨hq, hm⟩ := (Nat.div_mod_unique hB).mpr
      (show 2 * (A % B) + B * (2 * (A / B)) = 2 * A ∧ 2 * (A % B) < B from ⟨by linarith, hlt⟩)
    rw [hq, hm]
    by_cases h0 : A % B = 0
    · simp only [h0, if_true, ExtendedMantissa.ofMantissaAndAccuracy]
      simp
      omega
    · rw [if_neg h0, Nat.compare_eq_lt.mpr hlt, if_neg (by omega)]
      simp only [ExtendedMantissa.ofMantissaAndAccuracy]
      simp
      omega
  · obtain ⟨hq, hm⟩ := (Nat.div_mod_unique hB).mpr
      (show (2 * (A % B) - B) + B * (2 * (A / B) + 1) = 2 * A ∧ 2 * (A % B) - B < B from
        ⟨by rw [Nat.mul_add, Nat.mul_one, Nat.mul_left_comm]; omega, by omega⟩)
    rw [hq, hm, if_neg (by omega)]
    rcases Nat.eq_or_lt_of_le hge with heq | hgt
    · rw [← heq, Nat.compare_eq_eq.mpr rfl, if_pos (by omega)]
      simp only [ExtendedMantissa.ofMantissaAndAccuracy]
      simp
      omega
    · rw [Nat.compare_eq_gt.mpr hgt, if_neg (by omega)]
      simp only [ExtendedMantissa.ofMantissaAndAccuracy]
      simp
      omega

/-- 整数部 `A / B` が `n` ビットずらして 53 ビット（`k > 0` なら 53 ビットちょうど）に収まる
なら、`A × 2^a / (B × 2^b)` の丸めは、`A / B` を `n` ビットずらして丸め、`2^k` を掛けたもの
（`b + k = n + a`）。 -/
theorem roundQuot_scaled (A : Nat) {B n a b k : Nat} (hB : 0 < B) (hk : b + k = n + a)
    (hlt : A / B < 2 ^ (n + 53)) (hge : 0 < k → 2 ^ (n + 52) ≤ A / B) :
    roundQuot (A * 2 ^ a) (B * 2 ^ b) = rnd A (B * 2 ^ n) * 2 ^ k := by
  have hpow (c : Nat) : 2 ^ (k + c) * 2 ^ b = 2 ^ (n + c) * 2 ^ a := by
    rw [← pow_add, ← pow_add]
    congr 1
    omega
  have hBb : 0 < B * 2 ^ b := by positivity
  have hshift : shiftOf (A * 2 ^ a / (B * 2 ^ b)) = k := by
    apply shiftOf_eq_of_bounds
    · rw [Nat.div_lt_iff_lt_mul hBb]
      have hA : A < 2 ^ (n + 53) * B := by
        have := Nat.lt_div_mul_add (a := A) hB
        have : A / B * B + B ≤ 2 ^ (n + 53) * B := by
          rw [← Nat.succ_mul]
          exact Nat.mul_le_mul_right _ hlt
        omega
      calc A * 2 ^ a < 2 ^ (n + 53) * B * 2 ^ a := Nat.mul_lt_mul_of_pos_right hA (Nat.two_pow_pos _)
        _ = 2 ^ (k + 53) * (B * 2 ^ b) := by
          rw [show 2 ^ (k + 53) * (B * 2 ^ b) = B * (2 ^ (k + 53) * 2 ^ b) by ring, hpow]
          ring
    · intro hk0
      rw [Nat.le_div_iff_mul_le hBb]
      have hA : 2 ^ (n + 52) * B ≤ A :=
        le_trans (Nat.mul_le_mul_right _ (hge hk0)) (Nat.div_mul_le_self A B)
      calc 2 ^ (k + 52) * (B * 2 ^ b) = B * (2 ^ (k + 52) * 2 ^ b) := by ring
        _ = 2 ^ (n + 52) * B * 2 ^ a := by
          rw [hpow]
          ring
        _ ≤ A * 2 ^ a := Nat.mul_le_mul_right _ hA
  unfold roundQuot
  rw [hshift]
  congr 1
  have hD : B * 2 ^ b * 2 ^ k = B * 2 ^ n * 2 ^ a := by
    rw [Nat.mul_assoc, Nat.mul_assoc, ← pow_add, ← pow_add, hk]
  rw [hD]
  exact rnd_mul_right A _ (Nat.two_pow_pos a)

/-! ## 丸めて詰めた数の位置 -/

/-- 仮数 `A / B`、指数 `E` の数を、落とした部分の位置 `accuracyOfFraction` とともに丸めて
詰めた数の位置。`2^-1074` 単位の大きさは `A × 2^a / (B × 2^b)`（`a - b = E + 1074`）。
指数は丸めの目標を越えていないとする（そうでないと `roundWithAccuracy` は指数を下げない）。 -/
theorem valueRank_pack_roundWithAccuracy (s : Sign) (A : Nat) {B : Nat} (hB : 0 < B) {E : Int}
    (hE : E ≤ Format.binary64.targetExponent (totalExponent (A / B) E)) {a b : Nat}
    (hab : (a : Int) - b = E + 1074) :
    valueRank (UnpackedFloat.unpack .binary64 (UnpackedFloat.pack .binary64
        (roundWithAccuracy .binary64 s (A / B) E (accuracyOfFraction (A % B) B)))) =
      s.apply (saturate (roundQuot (A * 2 ^ a) (B * 2 ^ b))) := by
  set t := Format.binary64.targetExponent (totalExponent (A / B) E) with ht
  have ht' : t = max ((A / B).log2 + 1 + E - 53) (-1074) := by
    rw [ht, targetExponent_binary64]
    rfl
  set n := (t - E).toNat with hn
  have hlt : A / B < 2 ^ (n + 53) :=
    lt_of_lt_of_le Nat.lt_log2_self (Nat.pow_le_pow_right (by norm_num) (by omega))
  have hge : -1074 < t → 2 ^ (n + 52) ≤ A / B := by
    intro htmin
    have hM : A / B ≠ 0 := by
      intro h0
      rw [h0, Nat.log2_zero] at ht'
      omega
    calc 2 ^ (n + 52) = 2 ^ (A / B).log2 := by congr 1; omega
      _ ≤ A / B := Nat.log2_self_le hM
  have hR53 : rnd A (B * 2 ^ n) ≤ 2 ^ 53 := by
    have h1 := (rnd_bounds A (B * 2 ^ n)).2
    have h2 : A / B / 2 ^ n < 2 ^ 53 := by
      rw [Nat.div_lt_iff_lt_mul (Nat.two_pow_pos n), ← pow_add, Nat.add_comm 53]
      exact hlt
    rw [← Nat.div_div_eq_div_mul] at h1
    omega
  have hsub : rnd A (B * 2 ^ n) < 2 ^ 52 → t = -1074 := by
    intro hR
    by_contra htmin
    have h1 := (rnd_bounds A (B * 2 ^ n)).1
    have h2 : 2 ^ 52 ≤ A / B / 2 ^ n := by
      rw [Nat.le_div_iff_mul_le (Nat.two_pow_pos n), ← pow_add, Nat.add_comm 52]
      exact hge (by omega)
    rw [← Nat.div_div_eq_div_mul] at h1
    omega
  have hfirst : shiftToTargetExponent .binary64 (A / B) E (accuracyOfFraction (A % B) B) =
      ((⟨sticky (2 * A) B, false, false⟩ : ExtendedMantissa) >>> (n + 1 + 1), t) := by
    simp only [shiftToTargetExponent, shiftToExponent, ← ht]
    rw [ofMantissaAndAccuracy_fraction A hB, ExtendedMantissa.shiftRight_shiftRight]
    congr 1
    omega
  have hround : ((⟨sticky (2 * A) B, false, false⟩ : ExtendedMantissa) >>> (n + 1 + 1)).roundedMantissa =
      rnd A (B * 2 ^ n) := by
    rw [shiftRight_exact_rounded, rne_eq_rnd, rnd_sticky _ _ hB (by omega), pow_succ, ← Nat.mul_assoc,
      Nat.mul_comm 2 A]
    exact rnd_mul_right A _ (by norm_num)
  have hscaled := roundQuot_scaled A hB (k := (t + 1074).toNat) (a := a) (b := b) (by omega) hlt
    (fun hk => hge (by omega))
  unfold roundWithAccuracy
  simp only [hfirst, hround]
  rw [hscaled]
  rcases Nat.eq_zero_or_pos (rnd A (B * 2 ^ n)) with h0 | hR0
  · have hz : (shiftToTargetExponent .binary64 (rnd A (B * 2 ^ n)) t .exact).1.mantissa = 0 := by
      rw [h0]
      simp [shiftToTargetExponent, shiftToExponent, ExtendedMantissa.ofMantissaAndAccuracy,
        shiftRight_exact_mantissa]
    rw [dif_pos hz, valueRank_pack_zero, h0, Nat.zero_mul, saturate_of_lt (by positivity)]
    cases s <;> rfl
  · obtain ⟨m', e', h, heq, hshape, hunits⟩ :=
      finalize_rounded s (t := t) hR0 hR53 (by rw [ht']; exact le_max_right _ _) hsub
    rw [heq, valueRank_pack_roundShape s h hshape, hunits]

/-- 落とした部分のない仮数 `M`、指数 `E` の数を丸めて詰めた数の位置。 -/
theorem valueRank_pack_roundWithAccuracy_exact (s : Sign) (M : Nat) {E : Int}
    (hE : E ≤ Format.binary64.targetExponent (totalExponent M E)) {a b : Nat}
    (hab : (a : Int) - b = E + 1074) :
    valueRank (UnpackedFloat.unpack .binary64 (UnpackedFloat.pack .binary64
        (roundWithAccuracy .binary64 s M E .exact))) =
      s.apply (saturate (roundQuot (M * 2 ^ a) (2 ^ b))) := by
  have h := valueRank_pack_roundWithAccuracy s M Nat.one_pos (by rwa [Nat.div_one]) hab
  rwa [Nat.div_one, Nat.mod_one, show accuracyOfFraction 0 1 = .exact from rfl, Nat.one_mul] at h

end PlotGeometry
