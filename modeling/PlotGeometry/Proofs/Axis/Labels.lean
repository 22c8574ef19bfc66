import Mathlib
import PlotGeometry.Proofs.Axis.Overrides
import PlotGeometry.Proofs.Float.SameValue
import PlotGeometry.Proofs.Float.Integral
import PlotGeometry.Axis.Label
/-!
# Y 軸のラベルの書き方

`formatYLabel decimalScale t step system` は目盛りの値 `t` を、接頭辞の大きさ `size` で割り、
刻みから決めた小数の桁数で書く。接頭辞があれば空白を挟んで後ろに付ける。桁数を決める十進小数の
丸め `decimalScale` はどれでもよく、下の性質はその中身によらない。

* 接頭辞は、値の絶対値と刻みの両方が届くもののうち最大（`UnitSystem.LargestReached`）。表が
  大きい方から並んでいるので、条件を満たす最初のものが最大になる。
* 数の部分の文字は数字、`.`、`-` と、有限でない数の綴り（`NaN`、`inf`）だけで、空白はない。
  そこで接頭辞との境目は最初の空白。
* 負のゼロは書かない（`Decimal.denotesNegativeZero`）。負の数の表記は `-` と絶対値の表記を
  つないだもので、絶対値の表記が 0 と `.` だけなら、数の部分は正のゼロの表記に替わる。

異なる目盛りが同じラベルになることはある。桁数は刻みを小数 6 桁に丸めてから数えるので、
`10^-6` より細かい刻みでは桁が足りない（96 ビットの十進小数 `Decimal.roundedScale?` で、`1e-7` の
刻みは 0 桁になる）。

* `unitPrefix_largest` — 接頭辞は届くもののうち最大
* `formatYLabel_eq` — ラベルは、数の部分と、空白と接頭辞
* `formatYLabel_spec` — どの丸め、値、刻みでも、ラベルは最大の接頭辞で割った値の表記で、負の
  ゼロを表さない
* `yLabels_repeat_below_cap` — 刻み `1e-7` の目盛りがどれも `0` と書かれる例
-/

namespace PlotGeometry

open Float.Model

/-! ## 接頭辞 -/

/-- 値の絶対値と刻みの両方が届く接頭辞のうち最大のもの。どれも届かなければ接頭辞なし
（大きさ 1）。 -/
def UnitSystem.LargestReached (system : UnitSystem) (value step : Float) (p : String × Float) : Prop :=
  (p ∈ system.prefixes ∧ p.2 ≤ value.abs ∧ p.2 ≤ step ∧
      ∀ q ∈ system.prefixes, q.2 ≤ value.abs → q.2 ≤ step → q.2 ≤ p.2) ∨
    (p = ("", 1.0) ∧ ∀ q ∈ system.prefixes, ¬(q.2 ≤ value.abs ∧ q.2 ≤ step))

/-- 接頭辞の表は大きさの大きい方から並ぶ。 -/
theorem UnitSystem.prefixes_desc (system : UnitSystem) :
    system.prefixes.Pairwise (fun a b => b.2 < a.2) := by
  cases system <;> decide +kernel

/-- 大きさの大きい順に並んだ表で条件を満たす最初のものより、条件を満たすほかのものは小さい。 -/
theorem find?_largest {l : List (String × Float)} (hl : l.Pairwise (fun a b => b.2 < a.2))
    {P : String × Float → Bool} {p : String × Float} (hp : l.find? P = some p) :
    ∀ q ∈ l, P q = true → q = p ∨ q.2 < p.2 := by
  obtain ⟨-, as, bs, rfl, has⟩ := List.find?_eq_some_iff_append.mp hp
  intro q hq hPq
  rcases List.mem_append.mp hq with hq | hq
  · exact absurd hPq (by simpa using has q hq)
  · rcases List.mem_cons.mp hq with rfl | hq
    · exact .inl rfl
    · exact .inr (List.rel_of_pairwise_cons (List.pairwise_append.mp hl).2.1 hq)

/-- 接頭辞は、値の絶対値と刻みの両方が届くもののうち最大。 -/
theorem unitPrefix_largest (value step : Float) (system : UnitSystem) :
    system.LargestReached value step (unitPrefix value step system) := by
  unfold unitPrefix
  split
  · next p h =>
    have hPp := List.find?_some h
    have hreach : p.2 ≤ value.abs ∧ p.2 ≤ step := by simpa using hPp
    refine .inl ⟨List.mem_of_find?_eq_some h, hreach.1, hreach.2, fun q hq h1 h2 => ?_⟩
    rcases find?_largest (UnitSystem.prefixes_desc system) h q hq (by simp [h1, h2]) with rfl | hlt
    · exact Float.le_refl (Float.isNaN_eq_false_of_le h1).1
    · exact Float.le_of_lt hlt
  · next h =>
    refine .inr ⟨rfl, fun q hq hreach => ?_⟩
    have hq' := List.find?_eq_none.mp h q hq
    simp [hreach.1, hreach.2] at hq'

/-! ## 絶対値 -/

theorem canonicalForm_abs {u : UnpackedFloat} (hu : CanonicalForm u) : CanonicalForm u.abs := by
  cases u <;> exact hu

theorem UnpackedFloat.abs_ne_notANumber {u : UnpackedFloat} (h : u ≠ .notANumber) :
    u.abs ≠ .notANumber := by
  cases u <;> first | exact absurd rfl h | exact fun h' => by cases h'

/-- 絶対値は、開いた数の符号を正にしたもの。 -/
theorem Float.unpack_abs (x : Float) : x.abs.toModel.unpack = x.toModel.unpack.abs := by
  show UnpackedFloat.unpack .binary64 (UnpackedFloat.pack .binary64 x.toModel.unpack.abs) = _
  by_cases hn : x.toModel.unpack = .notANumber
  · rw [hn]
    exact unpack_pack_notANumber
  · exact unpack_pack_self (canonicalForm_abs (canonicalForm_toModel x))
      (UnpackedFloat.abs_ne_notANumber hn)

namespace Decimal

/-- 有限な数の絶対値は、符号を正にして仮数と指数はそのまま。 -/
theorem Binary.ofFloat?_abs {x : Float} {b : Binary} (hb : Binary.ofFloat? x = some b) :
    ∃ b', Binary.ofFloat? x.abs = some b' ∧ b'.neg = false ∧ b'.mant = b.mant ∧ b'.exp = b.exp := by
  have h1 := Binary.ofFloat?_fields x
  have h2 := Binary.ofFloat?_fields x.abs
  rw [hb, Option.map_some] at h1
  rw [Float.unpack_abs] at h2
  cases hu : x.toModel.unpack with
  | notANumber | infinity _ => rw [hu] at h1; cases h1
  | zero s =>
    rw [hu] at h1 h2
    obtain ⟨b', hb', hf⟩ := Option.map_eq_some_iff.mp h2
    simp only [Option.some.injEq, Prod.mk.injEq] at h1 hf
    exact ⟨b', hb', hf.1.trans rfl, hf.2.1.trans h1.2.1.symm, hf.2.2.trans h1.2.2.symm⟩
  | finite s m e hm =>
    rw [hu] at h1 h2
    obtain ⟨b', hb', hf⟩ := Option.map_eq_some_iff.mp h2
    simp only [Option.some.injEq, Prod.mk.injEq] at h1 hf
    exact ⟨b', hb', hf.1.trans rfl, hf.2.1.trans h1.2.1.symm, hf.2.2.trans h1.2.2.symm⟩

/-- 丸めた整数は仮数と指数だけで決まる。 -/
theorem Binary.scaledRound_congr {b b' : Binary} (hm : b'.mant = b.mant) (he : b'.exp = b.exp)
    (p : Nat) : b'.scaledRound p = b.scaledRound p := by
  unfold Binary.scaledRound
  rw [hm, he]

/-! ## 固定小数点表記の文字 -/

/-- 桁を並べた表記の文字は数字か `.`。 -/
theorem pointText_chars (n p : Nat) : ∀ c ∈ (pointText n p).toList, c.isDigit = true ∨ c = '.' := by
  have hpad : ∀ c ∈ List.replicate (p + 1 - (Nat.toDigits 10 n).length) '0' ++ Nat.toDigits 10 n,
      c.isDigit = true := by
    intro c hc
    rcases List.mem_append.mp hc with hc | hc
    · rw [List.eq_of_mem_replicate hc]
      rfl
    · exact Nat.isDigit_of_mem_toDigits (by decide) (by decide) hc
  unfold pointText
  dsimp only
  split
  · intro c hc
    rw [String.toList_ofList] at hc
    exact .inl (hpad c hc)
  · intro c hc
    simp only [String.toList_append, String.toList_ofList, List.mem_append] at hc
    rcases hc with (hc | hc) | hc
    · exact .inl (hpad c (List.mem_of_mem_take hc))
    · exact .inr (by simpa using hc)
    · exact .inl (hpad c (List.mem_of_mem_drop hc))

/-- 数字か `.` は空白でも `-` でもない。 -/
theorem ne_of_digit_or_point {c : Char} (h : c.isDigit = true ∨ c = '.') : c ≠ ' ' ∧ c ≠ '-' := by
  rcases h with h | rfl
  · constructor <;> · rintro rfl; simp at h
  · decide

/-- 固定小数点表記に空白はない。 -/
theorem fixedText_ne_space (p : Nat) (x : Float) : ∀ c ∈ (fixedText p x).toList, c ≠ ' ' := by
  intro c hc
  unfold fixedText at hc
  split at hc
  · simp only [String.toList_append, List.mem_append] at hc
    rcases hc with hc | hc
    · split at hc <;> simp_all
    · exact (ne_of_digit_or_point (pointText_chars _ _ c hc)).1
  · rintro rfl
    split at hc
    · simp at hc
    · split at hc <;> simp at hc

/-- 正のゼロの表記は、0 を桁に並べたもの。 -/
theorem fixedText_zero (p : Nat) : fixedText p 0.0 = pointText 0 p := by
  have h0 : Binary.ofFloat? 0.0 = some ⟨false, 0, -1074, false⟩ := by decide
  have hround (den : Nat) : roundHalfEven 0 den = 0 := by
    simp [roundHalfEven]
  rw [fixedText, h0]
  show "" ++ pointText (roundHalfEven (0 * _ * _) _) p = _
  rw [Nat.zero_mul, Nat.zero_mul, hround, String.empty_append]

/-! ## 負のゼロ -/

/-- 負のゼロを表す表記か：最初の空白までが、`-` と、一つ以上の `0` と `.` だけ。 -/
def denotesNegativeZero (s : String) : Bool :=
  match s.toList.takeWhile (· != ' ') with
  | '-' :: body => !body.isEmpty && body.all fun c => c == '0' || c == '.'
  | _ => false

example : denotesNegativeZero "-0.00 K" = true ∧ denotesNegativeZero "-0.01" = false ∧
    denotesNegativeZero "0" = false := by
  decide

/-- 数の部分：絶対値の表記が 0 と `.` だけなら正のゼロの表記、そうでなければその数の表記。 -/
def numberText (places : Nat) (x : Float) : String :=
  if allZeroDigits (fixedText places x.abs) then fixedText places 0.0 else fixedText places x

/-- 数の部分は負のゼロを表さない：`-` で始まるなら、その後は 0 と `.` だけではない。 -/
theorem numberText_not_negativeZero (places : Nat) (x : Float) {body : List Char}
    (h : (numberText places x).toList = '-' :: body) :
    (body.all fun c => c == '0' || c == '.') = false := by
  unfold numberText at h
  split at h
  · rw [fixedText_zero] at h
    have := (ne_of_digit_or_point (pointText_chars 0 places '-' (by rw [h]; exact List.mem_cons_self))).2
    exact absurd rfl this
  · rename_i hnz
    cases hb : Binary.ofFloat? x with
    | some b =>
      obtain ⟨b', hb', hneg', hm, he⟩ := Binary.ofFloat?_abs hb
      have habs : fixedText places x.abs = pointText (b.scaledRound places) places := by
        simp [fixedText, hb', hneg', Binary.scaledRound_congr hm he]
      simp only [fixedText, hb] at h
      cases hneg : b.neg
      · simp only [hneg, Bool.false_eq_true, if_false, String.empty_append] at h
        have := (ne_of_digit_or_point (pointText_chars _ places '-' (by rw [h]; exact List.mem_cons_self))).2
        exact absurd rfl this
      · simp only [hneg, if_true, String.toList_append] at h
        have hbody : (fixedText places x.abs).toList = body := by
          rw [habs]
          simpa using h
        rw [← hbody]
        simpa [allZeroDigits] using hnz
    | none =>
      simp only [fixedText, hb] at h
      split at h
      · simp at h
      · split at h
        · simp at h
        · simp only [show ("-inf" : String).toList = ['-', 'i', 'n', 'f'] by simp, List.cons.injEq] at h
          rw [← h.2]
          decide

end Decimal

/-! ## ラベル -/

/-- ラベルは数の部分と、接頭辞があれば空白と接頭辞。数の部分は、値を接頭辞の大きさで割った数を、
刻みを同じ大きさで割った数の桁数で書いたもの。 -/
theorem formatYLabel_eq (decimalScale : Float → Nat → Option Nat) (value step : Float)
    (system : UnitSystem) :
    formatYLabel decimalScale value step system =
      Decimal.numberText (stepPlaces decimalScale (step / (unitPrefix value step system).2))
          (value / (unitPrefix value step system).2) ++
        (if (unitPrefix value step system).1.isEmpty then "" else " " ++ (unitPrefix value step system).1) := by
  unfold formatYLabel Decimal.numberText
  split
  split <;> simp_all [apply_ite (Decimal.fixedText _), String.append_assoc]

/-- 数の部分に空白はない。 -/
theorem Decimal.numberText_ne_space (places : Nat) (x : Float) :
    ∀ c ∈ (Decimal.numberText places x).toList, c ≠ ' ' := by
  unfold Decimal.numberText
  split
  · exact Decimal.fixedText_ne_space places 0.0
  · exact Decimal.fixedText_ne_space places x

/-- 最初の空白までを取ると、数の部分が残る。 -/
theorem takeWhile_numberText_append (places : Nat) (x : Float) (pre : String) :
    ((Decimal.numberText places x ++ if pre.isEmpty then "" else " " ++ pre).toList.takeWhile
      (· != ' ')) = (Decimal.numberText places x).toList := by
  rw [String.toList_append, List.takeWhile_append_of_pos (fun c hc => by
    simpa using Decimal.numberText_ne_space places x c hc)]
  split <;> simp

/-- ラベルは負のゼロを表さない。 -/
theorem formatYLabel_not_negativeZero (decimalScale : Float → Nat → Option Nat) (value step : Float)
    (system : UnitSystem) :
    Decimal.denotesNegativeZero (formatYLabel decimalScale value step system) = false := by
  rw [formatYLabel_eq]
  unfold Decimal.denotesNegativeZero
  rw [takeWhile_numberText_append]
  split
  · rename_i body h
    rw [Decimal.numberText_not_negativeZero _ _ h, Bool.and_false]
  · rfl

/-- どの十進小数の丸め、値、刻みでも、ラベルは、値の絶対値と刻みの両方が届く最大の接頭辞の大きさで値と刻みを
割り、刻みの桁数で値を書いて（絶対値が 0 と `.` だけになるなら正のゼロ）、接頭辞があれば空白と
接頭辞を続けたもので、負のゼロを表さない。とくにどの Y 軸のどの目盛りのラベルもそう。 -/
theorem formatYLabel_spec (decimalScale : Float → Nat → Option Nat) (value step : Float)
    (system : UnitSystem) :
    let p := unitPrefix value step system
    system.LargestReached value step p ∧
      formatYLabel decimalScale value step system =
        Decimal.numberText (stepPlaces decimalScale (step / p.2)) (value / p.2) ++
          (if p.1.isEmpty then "" else " " ++ p.1) ∧
      Decimal.denotesNegativeZero (formatYLabel decimalScale value step system) = false :=
  ⟨unitPrefix_largest value step system, formatYLabel_eq decimalScale value step system,
    formatYLabel_not_negativeZero decimalScale value step system⟩

example : formatYLabel Decimal.roundedScale? (-1e-12) 0.5 .si = "0.0" ∧
    formatYLabel Decimal.roundedScale? 2500000.0 500000.0 .si = "2500 K" := by
  decide +kernel

/-! ## 同じラベルの目盛り -/

/-- `0` と `5e-7` の二点の系列。 -/
def tinyStepSeries : List Series :=
  [{ name := "a", startTime := 0, stopTime := 120, stepTime := 60, values := #[0.0, 5e-7],
     absent := #[false, false] }]

/-- 異なる目盛りが同じラベルになることがある。`tinyStepSeries` の Y 軸は刻み `1e-7` で目盛りが
六つあり、どれも違う値だが、刻みを小数 6 桁に丸めると 0 になるので桁数は 0 で、ラベルはどれも
`0`。 -/
theorem yLabels_repeat_below_cap :
    let s := (computeYAxis tinyStepSeries {}).1
    s.ticks.length = 6 ∧ s.ticks.Pairwise (fun a b => (a == b) = false) ∧
      ∀ t ∈ s.ticks, formatYLabel Decimal.roundedScale? t s.yStep .si = "0" := by
  decide +kernel

end PlotGeometry
