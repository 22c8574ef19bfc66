import Mathlib
import PlotGeometry.Proofs.Float.Order
/-!
# 倍精度数の正規形

64 ビットを開いた有限数 `finite s m e` は、仮数と指数が決まった形に限られる。正規数は仮数が
ちょうど 53 ビットで指数が `[-1074, 971]`、非正規数は仮数が 52 ビット未満で指数が `-1074`。
この形 `Canonical m e` を開いた結果が持つこと、この形の数は詰めて開くと元に戻る（指数が
大きすぎれば無限大になる）ことを示す。

* `unpack_finite_canonical` — 開いた有限数は正規形
* `unpack_pack_normal`、`unpack_pack_subnormal` — 正規形の数は詰めて開くと戻る
* `unpack_pack_overflow` — 指数が 971 を越える数を詰めると無限大
-/

namespace PlotGeometry

open Float.Model Float.Model.UnpackedFloat

/-- 倍精度の有限数の仮数と指数の形。 -/
def Canonical (m : Nat) (e : Int) : Prop :=
  (2 ^ 52 ≤ m ∧ m < 2 ^ 53 ∧ -1074 ≤ e ∧ e ≤ 971) ∨ (0 < m ∧ m < 2 ^ 52 ∧ e = -1074)

/-- 開いた数が正規形である：有限数なら `Canonical`。 -/
def CanonicalForm : UnpackedFloat → Prop
  | .finite _ m e _ => Canonical m e
  | _ => True

/-! ## 開く -/

theorem toNat_one_append (v : BitVec 52) : (1#1 ++ v).toNat = 2 ^ 52 + v.toNat := by
  rw [BitVec.toNat_append]
  have hv := v.isLt
  have hone : (1#1).toNat <<< 52 = 2 ^ 52 := rfl
  rw [hone, Nat.or_comm, Nat.or_two_pow_eq_add_of_lt hv, Nat.add_comm]

theorem unpack_finite_canonical {b : BitVec 64} {s : Sign} {m : Nat} {e : Int} {hm : 0 < m}
    (h : UnpackedFloat.unpack .binary64 b = .finite s m e hm) : Canonical m e := by
  have hev := (@unpackExponent Format.binary64 b).isLt
  unfold UnpackedFloat.unpack at h
  simp only at h
  split at h
  · split at h <;> cases h
  · rename_i hinf
    split at h
    · rename_i hzero
      split at h
      · cases h
      · cases h
        right
        refine ⟨hm, BitVec.isLt _, ?_⟩
        rw [hzero]
        rfl
    · rename_i hzero
      cases h
      have h1 : (@unpackExponent Format.binary64 b).toNat ≠ 0 := fun h0 =>
        hzero (BitVec.eq_of_toNat_eq (by simpa using h0))
      have h2 : (@unpackExponent Format.binary64 b).toNat ≠ 2047 := fun h0 =>
        hinf (BitVec.eq_of_toNat_eq (by simpa using h0))
      have hmv := (@unpackMantissa Format.binary64 b).isLt
      left
      rw [toNat_one_append]
      simp only [Format.exponentBias]
      refine ⟨by omega, by simp at hmv ⊢; omega, ?_, ?_⟩ <;> simp at hev ⊢ <;> omega

theorem canonicalForm_unpack (b : BitVec 64) : CanonicalForm (UnpackedFloat.unpack .binary64 b) := by
  cases h : UnpackedFloat.unpack .binary64 b with
  | finite s m e hm => exact unpack_finite_canonical h
  | _ => trivial

/-! ## 詰めて開く -/

theorem log2_of_normal {m : Nat} (h1 : 2 ^ 52 ≤ m) (h2 : m < 2 ^ 53) : m.log2 = 52 := by
  rw [Nat.log2_eq_iff (by omega)]
  exact ⟨h1, h2⟩

theorem unpack_packedInfinity (s : Sign) :
    UnpackedFloat.unpack .binary64 (packedInfinity .binary64 s) = .infinity s := by
  unfold UnpackedFloat.unpack packedInfinity
  simp only [unpackExponent_packComponents, unpackMantissa_packComponents,
    unpackSign_packComponents, Sign.ofBitVec_toBitVec]
  rfl

theorem unpack_pack_normal (s : Sign) {m : Nat} {e : Int} (hm : 0 < m) (h1 : 2 ^ 52 ≤ m)
    (h2 : m < 2 ^ 53) (he1 : -1074 ≤ e) (he2 : e ≤ 971) :
    UnpackedFloat.unpack .binary64 (UnpackedFloat.pack .binary64 (.finite s m e hm)) =
      .finite s m e hm := by
  have hlog := log2_of_normal h1 h2
  have hb : (e + ↑Format.binary64.exponentBias +
      ↑Format.binary64.mantissaBitsWithoutImplicit).toNat = (e + 1075).toNat := by
    simp [Format.exponentBias]
    omega
  simp only [UnpackedFloat.pack, hlog, hb]
  rw [if_neg (by simp; omega), if_pos (by rfl)]
  unfold UnpackedFloat.unpack
  simp only [unpackExponent_packComponents, unpackMantissa_packComponents,
    unpackSign_packComponents, Sign.ofBitVec_toBitVec]
  have hne1 : BitVec.ofNat 11 (e + 1075).toNat ≠ -1#11 := by
    intro h
    have := congrArg BitVec.toNat h
    simp at this
    omega
  have hne0 : BitVec.ofNat 11 (e + 1075).toNat ≠ 0#11 := by
    intro h
    have := congrArg BitVec.toNat h
    simp at this
    omega
  rw [if_neg hne1, if_neg hne0]
  congr 1
  · rw [toNat_one_append]
    simp
    omega
  · simp [Format.exponentBias]
    omega

theorem unpack_pack_subnormal (s : Sign) {m : Nat} (hm : 0 < m) (h : m < 2 ^ 52) :
    UnpackedFloat.unpack .binary64 (UnpackedFloat.pack .binary64 (.finite s m (-1074) hm)) =
      .finite s m (-1074) hm := by
  have hlog : m.log2 < 52 := (Nat.log2_lt (by omega)).mpr h
  simp only [UnpackedFloat.pack]
  rw [if_neg (by simp [Format.exponentBias]), if_neg (by simp [Format.mantissaBits]; omega)]
  unfold UnpackedFloat.unpack
  simp only [unpackExponent_packComponents, unpackMantissa_packComponents,
    unpackSign_packComponents, Sign.ofBitVec_toBitVec]
  have hne : BitVec.ofNat 52 m ≠ 0#52 := by
    intro h0
    have := congrArg BitVec.toNat h0
    simp at this
    omega
  rw [if_neg (by decide), if_pos trivial, dif_neg hne]
  congr 1
  simp
  omega

/-- 正規形の数は、詰めて開くと元に戻る。 -/
theorem unpack_pack_canonical (s : Sign) {m : Nat} {e : Int} (hm : 0 < m) (h : Canonical m e) :
    UnpackedFloat.unpack .binary64 (UnpackedFloat.pack .binary64 (.finite s m e hm)) =
      .finite s m e hm := by
  rcases h with ⟨h1, h2, he1, he2⟩ | ⟨-, h2, rfl⟩
  · exact unpack_pack_normal s hm h1 h2 he1 he2
  · exact unpack_pack_subnormal s hm h2

theorem unpack_pack_overflow (s : Sign) {m : Nat} {e : Int} (hm : 0 < m) (he : 971 < e) :
    UnpackedFloat.unpack .binary64 (UnpackedFloat.pack .binary64 (.finite s m e hm)) =
      .infinity s := by
  simp only [UnpackedFloat.pack]
  rw [if_pos (by simp [Format.exponentBias]; omega)]
  exact unpack_packedInfinity s

end PlotGeometry
