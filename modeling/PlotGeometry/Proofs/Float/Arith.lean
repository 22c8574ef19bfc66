import Mathlib
import PlotGeometry.Proofs.Float.Round
/-!
# 足し算と引き算の位置

`Float` の足し算は、位置（`2^-1074` 単位の符号付きの大きさ）の整数の和を丸めて詰めたもの
になる：`rankOf (x + y) = roundRank (rankOf x + rankOf y)`（結果が NaN でなければ）。
無限大も、位置を `±infRank` に置いたのでこの式に収まる。引き算は符号を変えた数の足し算。

`roundRank` は単調で表せる数を動かさないので、負でない数を足せば小さくならず、引けば
大きくならない（`Float.le_add_of_nonneg`、`Float.sub_le_of_nonneg`）。
-/

namespace PlotGeometry

open Float.Model Float.Model.UnpackedFloat

/-! ## 開いた数と詰めた数 -/

theorem Float.rankOf_ofModel_pack (u : UnpackedFloat) :
    rankOf (.ofModel (Float.Model.pack u)) =
      valueRank (UnpackedFloat.unpack .binary64 (UnpackedFloat.pack .binary64 u)) := rfl

theorem Float.isNaN_ofModel_pack (u : UnpackedFloat) :
    (Float.ofModel (Float.Model.pack u)).isNaN =
      (UnpackedFloat.unpack .binary64 (UnpackedFloat.pack .binary64 u)).isNaN := rfl

/-- NaN でない正規形の数は、詰めて開くと元に戻る。 -/
theorem unpack_pack_self {u : UnpackedFloat} (hu : CanonicalForm u) (hn : u ≠ .notANumber) :
    UnpackedFloat.unpack .binary64 (UnpackedFloat.pack .binary64 u) = u := by
  cases u with
  | notANumber => exact absurd rfl hn
  | infinity s => exact unpack_packedInfinity s
  | zero s => exact unpack_packedZero
  | finite s m e hm => exact unpack_pack_canonical s hm hu

theorem unpack_pack_notANumber :
    UnpackedFloat.unpack .binary64 (UnpackedFloat.pack .binary64 .notANumber) = .notANumber :=
  unpack_packedNaN

theorem rankOf_of_isNaN {x : Float} (h : x.isNaN = true) : rankOf x = 0 := by
  rw [Float.isNaN_eq_unpack] at h
  unfold rankOf
  cases hx : x.toModel.unpack <;> rw [hx] at h <;> first | rfl | cases h

/-! ## 開いた数の足し算 -/

/-- 指数を `E` まで下げた仮数の大きさは、元の数の大きさ。 -/
theorem shiftLeft_units (m : Nat) {e E : Int} (hE : -1074 ≤ E) (he : E ≤ e) :
    ((m <<< (e - E).toNat : Nat) : ℤ) * 2 ^ (E + 1074).toNat = units m e := by
  have hk : (e - E).toNat + (E + 1074).toNat = (e + 1074).toNat := by omega
  have hn : (m <<< (e - E).toNat) * 2 ^ (E + 1074).toNat = units m e := by
    rw [Nat.shiftLeft_eq, Nat.mul_assoc, ← pow_add, hk]
    rfl
  exact_mod_cast hn

theorem Sign.apply_mul (s : Sign) (a b : ℤ) : s.apply a * b = s.apply (a * b) := by
  cases s <;> simp [Sign.apply]

/-- 有限数の位置は `±2^2098` の内側。 -/
theorem valueRank_finite_bounds {s : Sign} {m : Nat} {e : Int} (hm : 0 < m) (h : Canonical m e) :
    -((2 ^ 2098 : Nat) : ℤ) < valueRank (.finite s m e hm) ∧
      valueRank (.finite s m e hm) < ((2 ^ 2098 : Nat) : ℤ) := by
  have hlt : (units m e : ℤ) < ((2 ^ 2098 : Nat) : ℤ) := by exact_mod_cast units_lt_overflow h
  cases s <;> simp only [valueRank, Sign.apply] <;> omega

theorem Sign.apply_bounds (s : Sign) {r T : ℤ} (h1 : -T < r) (h2 : r < T) :
    -T ≤ s.apply r := by
  cases s <;> simp only [Sign.apply] <;> omega

/-- 無限大に、反対の側の無限大でない数を足しても無限大。 -/
theorem roundRank_infRank_add (s : Sign) (r : ℤ) (hr : -((2 ^ 2098 : Nat) : ℤ) ≤ s.apply r) :
    roundRank (s.apply infRank + r) = s.apply infRank := by
  have hI : 2 * ((2 ^ 2098 : Nat) : ℤ) ≤ infRank := by
    rw [infRank, Nat.cast_pow, Nat.cast_ofNat, show (2100 : Nat) = 2 + 2098 from rfl, pow_add]
    exact Int.mul_le_mul_of_nonneg_right (by norm_num) (by positivity)
  cases s
  · simp only [Sign.apply] at hr ⊢
    exact roundRank_of_neg_overflow (by omega)
  · simp only [Sign.apply] at hr ⊢
    exact roundRank_of_overflow (by omega)

theorem valueRank_pack_zero (s : Sign) :
    valueRank (UnpackedFloat.unpack .binary64 (UnpackedFloat.pack .binary64 (.zero s))) = 0 := by
  rw [UnpackedFloat.pack, unpack_packedZero]
  rfl

theorem valueRank_pack_infinity (s : Sign) :
    valueRank (UnpackedFloat.unpack .binary64 (UnpackedFloat.pack .binary64 (.infinity s))) =
      s.apply infRank := by
  rw [UnpackedFloat.pack, unpack_packedInfinity]
  rfl

/-- 開いた数の足し算を丸めて詰めた数の位置は、位置の和を丸めて詰めたもの。 -/
theorem valueRank_pack_add {u v : UnpackedFloat} (hu : CanonicalForm u) (hv : CanonicalForm v)
    (h : UnpackedFloat.add .binary64 u v ≠ .notANumber) :
    valueRank (UnpackedFloat.unpack .binary64 (UnpackedFloat.pack .binary64
        (UnpackedFloat.add .binary64 u v))) = roundRank (valueRank u + valueRank v) := by
  -- 無限大は `roundRank_infRank_add` で吸収し、有限数どうしだけが丸めに入る
  have hT : (0 : ℤ) < ((2 ^ 2098 : Nat) : ℤ) := by positivity
  have hinf (s : Sign) : valueRank (.infinity s) = s.apply infRank := rfl
  have hzero (s : Sign) : valueRank (.zero s) = 0 := rfl
  cases u with
  | notANumber => exact absurd rfl h
  | infinity s =>
    cases v with
    | notANumber => exact absurd rfl h
    | infinity s' =>
      by_cases hs : s = s'
      · subst hs
        simp only [UnpackedFloat.add, beq_self_eq_true, if_true, valueRank_pack_infinity]
        refine (roundRank_infRank_add s _ ?_).symm
        have := infRank_pos
        cases s <;> simp only [valueRank, Sign.apply] <;> omega
      · simp only [UnpackedFloat.add, beq_iff_eq, hs, if_false] at h
        exact absurd rfl h
    | zero s' =>
      simp only [UnpackedFloat.add, valueRank_pack_infinity]
      exact (roundRank_infRank_add s _ (Sign.apply_bounds s (by omega) hT)).symm
    | finite s' m e hm =>
      simp only [UnpackedFloat.add, valueRank_pack_infinity]
      have hb := valueRank_finite_bounds (s := s') hm hv
      exact (roundRank_infRank_add s _ (Sign.apply_bounds s hb.1 hb.2)).symm
  | zero s =>
    cases v with
    | notANumber => exact absurd rfl h
    | infinity s' =>
      have habsorb := roundRank_infRank_add s' 0 (Sign.apply_bounds s' (by omega) hT)
      rw [Int.add_zero] at habsorb
      simp only [UnpackedFloat.add, valueRank_pack_infinity]
      rw [hzero, Int.zero_add, hinf, habsorb]
    | zero s' =>
      simp only [UnpackedFloat.add]
      rw [hzero, hzero, Int.add_zero, roundRank_zero]
      split <;> exact valueRank_pack_zero _
    | finite s' m e hm =>
      simp only [UnpackedFloat.add]
      rw [unpack_pack_canonical s' hm hv, hzero, Int.zero_add, roundRank_valueRank hv]
  | finite s m e hm =>
    cases v with
    | notANumber => exact absurd rfl h
    | infinity s' =>
      simp only [UnpackedFloat.add, valueRank_pack_infinity]
      have hb := valueRank_finite_bounds (s := s) hm hu
      rw [Int.add_comm, hinf, roundRank_infRank_add s' _ (Sign.apply_bounds s' hb.1 hb.2)]
    | zero s' =>
      simp only [UnpackedFloat.add]
      rw [unpack_pack_canonical s hm hu, hzero, Int.add_zero, roundRank_valueRank hu]
    | finite s' m' e' hm' =>
      have hE : -1074 ≤ min e e' := by
        rcases hu with hu | hu <;> rcases hv with hv | hv <;> omega
      simp only [UnpackedFloat.add, decreaseExponent]
      rw [valueRank_pack_normalize _ hE, Int.add_mul, Sign.apply_mul, Sign.apply_mul,
        shiftLeft_units m hE (min_le_left _ _), shiftLeft_units m' hE (min_le_right _ _)]
      rfl


/-! ## 開いた数の引き算 -/

theorem Sign.neg_apply (s : Sign) (a : ℤ) : (-s).apply a = -s.apply a := by
  cases s <;> simp [Sign.apply]

/-- 引き算は、符号を変えた数の足し算。 -/
theorem UnpackedFloat.sub_eq_add_neg (u v : UnpackedFloat) :
    UnpackedFloat.sub .binary64 u v = UnpackedFloat.add .binary64 u v.neg := by
  cases u <;> cases v <;> simp [UnpackedFloat.sub, UnpackedFloat.add, UnpackedFloat.neg,
    Sign.neg_apply, Int.sub_eq_add_neg]

theorem valueRank_neg (u : UnpackedFloat) : valueRank u.neg = -valueRank u := by
  cases u <;> simp [UnpackedFloat.neg, valueRank, Sign.neg_apply]

theorem canonicalForm_neg {u : UnpackedFloat} (hu : CanonicalForm u) : CanonicalForm u.neg := by
  cases u <;> exact hu

/-! ## `Float` の足し算と引き算 -/

theorem Float.isNaN_eq_true_iff (x : Float) : x.isNaN = true ↔ x.toModel.unpack = .notANumber := by
  rw [Float.isNaN_eq_unpack]
  cases x.toModel.unpack <;> simp [UnpackedFloat.isNaN]

/-- 詰める前が NaN なら、NaN。 -/
theorem Float.isNaN_ofModel_pack_notANumber :
    (Float.ofModel (Float.Model.pack .notANumber)).isNaN = true := by
  rw [Float.isNaN_ofModel_pack, unpack_pack_notANumber]
  rfl

theorem UnpackedFloat.add_notANumber_right (u : UnpackedFloat) :
    UnpackedFloat.add .binary64 u .notANumber = .notANumber := by
  cases u <;> rfl

theorem Float.add_ne_notANumber {x y : Float} (h : (x + y).isNaN = false) :
    UnpackedFloat.add .binary64 x.toModel.unpack y.toModel.unpack ≠ .notANumber := by
  intro hn
  have hnan := Float.isNaN_ofModel_pack_notANumber
  rw [← hn] at hnan
  exact absurd h (by rw [show x + y = .ofModel (Float.Model.pack _) from rfl, hnan]; decide)

theorem Float.sub_ne_notANumber {x y : Float} (h : (x - y).isNaN = false) :
    UnpackedFloat.sub .binary64 x.toModel.unpack y.toModel.unpack ≠ .notANumber := by
  intro hn
  have hnan := Float.isNaN_ofModel_pack_notANumber
  rw [← hn] at hnan
  exact absurd h (by rw [show x - y = .ofModel (Float.Model.pack _) from rfl, hnan]; decide)

/-- 足し算の位置は、位置の和を丸めて詰めたもの。 -/
theorem Float.rankOf_add {x y : Float} (h : (x + y).isNaN = false) :
    rankOf (x + y) = roundRank (rankOf x + rankOf y) :=
  valueRank_pack_add (canonicalForm_toModel x) (canonicalForm_toModel y) (Float.add_ne_notANumber h)

/-- 引き算の位置は、位置の差を丸めて詰めたもの。 -/
theorem Float.rankOf_sub {x y : Float} (h : (x - y).isNaN = false) :
    rankOf (x - y) = roundRank (rankOf x - rankOf y) := by
  have hne := Float.sub_ne_notANumber h
  rw [UnpackedFloat.sub_eq_add_neg] at hne
  show valueRank (UnpackedFloat.unpack .binary64 (UnpackedFloat.pack .binary64
    (UnpackedFloat.sub .binary64 x.toModel.unpack y.toModel.unpack))) = _
  rw [UnpackedFloat.sub_eq_add_neg, valueRank_pack_add (canonicalForm_toModel x)
    (canonicalForm_neg (canonicalForm_toModel y)) hne, valueRank_neg, Int.sub_eq_add_neg]
  rfl

theorem Float.roundRank_rankOf (x : Float) : roundRank (rankOf x) = rankOf x :=
  roundRank_valueRank (canonicalForm_toModel x)

/-- NaN でない数に、負でない数を足しても小さくならない。 -/
theorem Float.le_add_of_nonneg {x d : Float} (hx : x.isNaN = false) (hd : 0 ≤ rankOf d)
    (h : (x + d).isNaN = false) : x ≤ x + d := by
  rw [Float.le_iff_rank hx h]
  calc rankOf x = roundRank (rankOf x) := (Float.roundRank_rankOf x).symm
    _ ≤ roundRank (rankOf x + rankOf d) := roundRank_mono (by omega)
    _ = rankOf (x + d) := (Float.rankOf_add h).symm

/-- NaN でない数から、負でない数を引いても大きくならない。 -/
theorem Float.sub_le_of_nonneg {x d : Float} (hx : x.isNaN = false) (hd : 0 ≤ rankOf d)
    (h : (x - d).isNaN = false) : x - d ≤ x := by
  rw [Float.le_iff_rank h hx]
  calc rankOf (x - d) = roundRank (rankOf x - rankOf d) := Float.rankOf_sub h
    _ ≤ roundRank (rankOf x) := roundRank_mono (by omega)
    _ = rankOf x := Float.roundRank_rankOf x

/-- 同じ数を足すのは単調（両方の和が NaN でなければ）。 -/
theorem Float.add_le_add_right {x y : Float} (hxy : x ≤ y) (m : Float) (hx : (x + m).isNaN = false)
    (hy : (y + m).isNaN = false) : x + m ≤ y + m := by
  obtain ⟨hx', hy'⟩ := Float.isNaN_eq_false_of_le hxy
  have hrank := (Float.le_iff_rank hx' hy').mp hxy
  rw [Float.le_iff_rank hx hy, Float.rankOf_add hx, Float.rankOf_add hy]
  exact roundRank_mono (by omega)

/-- 同じ数を引くのは単調（両方の差が NaN でなければ）。 -/
theorem Float.sub_le_sub_right {x y : Float} (hxy : x ≤ y) (m : Float) (hx : (x - m).isNaN = false)
    (hy : (y - m).isNaN = false) : x - m ≤ y - m := by
  obtain ⟨hx', hy'⟩ := Float.isNaN_eq_false_of_le hxy
  have hrank := (Float.le_iff_rank hx' hy').mp hxy
  rw [Float.le_iff_rank hx hy, Float.rankOf_sub hx, Float.rankOf_sub hy]
  exact roundRank_mono (by omega)

/-- 負でない数（NaN も位置は 0）どうしの和は負でない。 -/
theorem Float.rankOf_add_nonneg {x y : Float} (hx : 0 ≤ rankOf x) (hy : 0 ≤ rankOf y) :
    0 ≤ rankOf (x + y) := by
  cases h : (x + y).isNaN
  · rw [Float.rankOf_add h, ← roundRank_zero]
    exact roundRank_mono (by omega)
  · rw [rankOf_of_isNaN h]

/-- 和が NaN でなければ、足した数はどちらも NaN でない。 -/
theorem Float.isNaN_of_add {x y : Float} (h : (x + y).isNaN = false) :
    x.isNaN = false ∧ y.isNaN = false := by
  have hne := Float.add_ne_notANumber h
  constructor
  · cases hx : x.isNaN
    · rfl
    · rw [(Float.isNaN_eq_true_iff x).mp hx] at hne
      exact absurd rfl hne
  · cases hy : y.isNaN
    · rfl
    · rw [(Float.isNaN_eq_true_iff y).mp hy, UnpackedFloat.add_notANumber_right] at hne
      exact absurd rfl hne

/-- 差が NaN でなければ、引いた数も引かれた数も NaN でない。 -/
theorem Float.isNaN_of_sub {x y : Float} (h : (x - y).isNaN = false) :
    x.isNaN = false ∧ y.isNaN = false := by
  have hne := Float.sub_ne_notANumber h
  rw [UnpackedFloat.sub_eq_add_neg] at hne
  constructor
  · cases hx : x.isNaN
    · rfl
    · rw [(Float.isNaN_eq_true_iff x).mp hx] at hne
      exact absurd rfl hne
  · cases hy : y.isNaN
    · rfl
    · rw [(Float.isNaN_eq_true_iff y).mp hy, show UnpackedFloat.neg .notANumber = .notANumber from rfl,
        UnpackedFloat.add_notANumber_right] at hne
      exact absurd rfl hne

/-- 差 `y - x` が負でない数より大きければ `x < y`：位置の差が 0 以下なら、丸めた差も 0 以下。 -/
theorem Float.lt_of_lt_sub {d x y : Float} (hd : 0 ≤ rankOf d) (h : d < y - x) : x < y := by
  obtain ⟨hd', hsub⟩ := Float.isNaN_eq_false_of_lt h
  obtain ⟨hy, hx⟩ := Float.isNaN_of_sub hsub
  have hr := (Float.lt_iff_rank hd' hsub).mp h
  rw [Float.rankOf_sub hsub] at hr
  rw [Float.lt_iff_rank hx hy]
  by_contra hle
  have hround := roundRank_mono (show rankOf y - rankOf x ≤ 0 by omega)
  rw [roundRank_zero] at hround
  omega

/-! ## 負でない符号 -/

/-- 符号が負でない（NaN とゼロは符号を問わない）。 -/
def NonnegSign : UnpackedFloat → Prop
  | .finite s .. => s = .positive
  | .infinity s => s = .positive
  | _ => True

theorem valueRank_nonneg_of_nonnegSign {u : UnpackedFloat} (h : NonnegSign u) :
    0 ≤ valueRank u := by
  cases u with
  | finite s m e hm =>
    cases h
    exact Int.natCast_nonneg _
  | infinity s =>
    cases h
    exact le_of_lt infRank_pos
  | notANumber => exact le_refl _
  | zero s => exact le_refl _

theorem nonnegSign_of_valueRank_nonneg {u : UnpackedFloat} (h : 0 ≤ valueRank u) :
    NonnegSign u := by
  cases u with
  | finite s m e hm =>
    have hU := units_pos m e hm
    cases s
    · simp only [valueRank, Sign.apply] at h
      omega
    · rfl
  | infinity s =>
    have hI := infRank_pos
    cases s
    · simp only [valueRank, Sign.apply] at h
      omega
    · rfl
  | notANumber => trivial
  | zero s => trivial

/-- 符号のビットが 0 なら、開いた数の符号は負でない。 -/
theorem nonnegSign_unpack {b : BitVec 64}
    (h : Sign.ofBitVec (@unpackSign Format.binary64 b) = .positive) :
    NonnegSign (UnpackedFloat.unpack .binary64 b) := by
  unfold UnpackedFloat.unpack
  dsimp only
  split_ifs <;> trivial

theorem nonnegSign_unpack_pack {w : UnpackedFloat} (hw : NonnegSign w) :
    NonnegSign (UnpackedFloat.unpack .binary64 (UnpackedFloat.pack .binary64 w)) := by
  cases w with
  | notANumber => rw [unpack_pack_notANumber]; trivial
  | zero s => rw [UnpackedFloat.pack, unpack_packedZero]; trivial
  | infinity s => rw [UnpackedFloat.pack, unpack_packedInfinity]; exact hw
  | finite s m e hm =>
    cases hw
    apply nonnegSign_unpack
    unfold UnpackedFloat.pack
    dsimp only
    split_ifs <;> simp only [packedInfinity, unpackSign_packComponents, Sign.ofBitVec_toBitVec]

theorem nonnegSign_roundWithAccuracy (M : Nat) (E : Int) (acc : Accuracy) :
    NonnegSign (roundWithAccuracy .binary64 .positive M E acc) := by
  unfold roundWithAccuracy
  dsimp only
  split <;> trivial

theorem nonnegSign_normalize {n : ℤ} (hn : 0 ≤ n) (E : Int) :
    NonnegSign (UnpackedFloat.normalize .binary64 n E .positive) := by
  unfold UnpackedFloat.normalize
  rcases lt_or_eq_of_le hn with hn | rfl
  · rw [Int.compare_eq_gt.mpr hn]
    exact nonnegSign_roundWithAccuracy _ _ _
  · rw [Int.compare_eq_eq.mpr rfl]
    trivial

theorem nonnegSign_mul {u v : UnpackedFloat} (hu : NonnegSign u) (hv : NonnegSign v) :
    NonnegSign (UnpackedFloat.mul .binary64 u v) := by
  cases u <;> cases v <;> simp only [UnpackedFloat.mul] <;> first
    | trivial
    | (cases hu; cases hv; first | rfl | exact nonnegSign_roundWithAccuracy _ _ _)

/-- 負でない数（NaN も位置は 0）どうしの積は負でない。 -/
theorem Float.rankOf_mul_nonneg {x y : Float} (hx : 0 ≤ rankOf x) (hy : 0 ≤ rankOf y) :
    0 ≤ rankOf (x * y) :=
  valueRank_nonneg_of_nonnegSign (nonnegSign_unpack_pack
    (nonnegSign_mul (nonnegSign_of_valueRank_nonneg hx) (nonnegSign_of_valueRank_nonneg hy)))

theorem rankOf_powersOfTen_zero : 0 ≤ rankOf Float.exactlyRepresentablePowersOfTen[0] := by
  decide

/-- 自然数を変換した数は負でない。 -/
theorem Float.rankOf_ofNat_nonneg (n : Nat) : 0 ≤ rankOf (Float.ofNat n) := by
  show 0 ≤ rankOf (Float.ofScientific n false 0)
  unfold Float.ofScientific
  split
  · simp only [Bool.false_eq_true, if_false]
    refine Float.rankOf_mul_nonneg ?_ rankOf_powersOfTen_zero
    exact valueRank_nonneg_of_nonnegSign (nonnegSign_unpack_pack
      (nonnegSign_normalize (Int.natCast_nonneg _) 0))
  · simp only [Bool.false_eq_true, if_false, Int.ofNat_eq_natCast, Nat.cast_zero]
    apply valueRank_nonneg_of_nonnegSign
    apply nonnegSign_unpack_pack
    unfold UnpackedFloat.ofScientific
    by_cases h0 : n = 0
    · rw [dif_pos h0]
      trivial
    · have hlog : (0 : ℤ) ≤ (2 ^ Format.binary64.exponentBits : Int) + n.log2 := by positivity
      rw [dif_neg h0, if_neg (by decide), if_neg (by omega), if_pos (Int.le_refl 0)]
      refine nonnegSign_mul ?_ ?_ <;> exact (rfl : Sign.positive = Sign.positive)

end PlotGeometry
