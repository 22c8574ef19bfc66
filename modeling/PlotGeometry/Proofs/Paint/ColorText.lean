import PlotGeometry.Paint.Color
/-!
# 色の書き方

`Color.parse` が読む文字は、前後の空白を除いて、名前の表の名前（ASCII の大文字と小文字を
区別しない）か、`#` を一つ付けてもよい 3 桁か 6 桁の ASCII の 16 進の数字。6 桁の `rrggbb` は
`rgb8 0xrr 0xgg 0xbb`、3 桁の `rgb` は `rrggbb` と同じ色。

* `Color.hexValue?_eq` — 一桁の読みは、小文字にして `hexDigits` での位置
* `Color.ofName?_isSome_iff`、`Color.ofName?_eq_none_of_hexBody` — 名前で引けるのは名前の
  ときだけで、16 進の書き方はどの名前にも当たらない（名前にはどれも 16 進の数字でない文字がある）
* `Color.ofHex?_isSome_iff`、`Color.ofHex?_six`、`Color.ofHex?_three` — 16 進の読み。`#` を除く
  のは一つだけで、残りは桁の数で分かれる
* `Color.parse_named_or_hex` — 読める文字とその色

ASCII の文字についての表の事実は、128 個の文字を `decide` で確かめる（`forall_ascii`）。
-/

namespace PlotGeometry

namespace Color

/-- 16 進の数字（小文字）。 -/
def hexDigits : List Char :=
  ['0', '1', '2', '3', '4', '5', '6', '7', '8', '9', 'a', 'b', 'c', 'd', 'e', 'f']

/-- ASCII の 16 進の数字：小文字にすると `hexDigits` にある。 -/
def IsHexDigit (c : Char) : Prop := c.toLower ∈ hexDigits

instance : DecidablePred IsHexDigit := fun c => inferInstanceAs (Decidable (c.toLower ∈ hexDigits))

/-- 16 進の数字の値：小文字にした数字の、`hexDigits` での位置。 -/
def hexDigitValue (c : Char) : Nat := hexDigits.idxOf c.toLower

/-- `t` は 16 進の数字の並び `ds`、またはその前に `#` を一つ付けたもの。 -/
def HexBody (ds : List Char) (t : String) : Prop :=
  (t.toList = ds ∨ t.toList = '#' :: ds) ∧ ∀ c ∈ ds, IsHexDigit c

instance (ds : List Char) (t : String) : Decidable (HexBody ds t) :=
  decidable_of_iff ((t.toList == ds || t.toList == '#' :: ds) && ds.all fun c => decide (IsHexDigit c))
    (by simp [HexBody])

/-- 16 進の色の書き方：`#` を付けてもよい、3 桁か 6 桁の 16 進の数字。 -/
def HexColorText (t : String) : Prop := ∃ ds, HexBody ds t ∧ (ds.length = 3 ∨ ds.length = 6)

/-- 名前の表の名前に、ASCII の大文字と小文字の違いを除いて等しい。 -/
def NamedColorText (t : String) : Prop :=
  ∃ name c, (name, c) ∈ named ∧ name.toList.map Char.toLower = t.toList.map Char.toLower

/-! ## ASCII の文字 -/

/-- ASCII の文字についての事実は、128 個の文字で確かめれば足りる。 -/
theorem forall_ascii {P : Char → Prop} (h : ∀ n : Fin 128, P (Char.ofNat n)) {c : Char}
    (hc : c.toNat < 128) : P c := by
  simpa using h ⟨c.toNat, hc⟩

theorem asciiLower_of_large {c : Char} (hc : 128 ≤ c.toNat) : asciiLower c = c := by
  unfold asciiLower
  rw [if_neg]
  intro ⟨_, h⟩
  have : c.toNat ≤ 90 := h
  omega

theorem toLower_of_large {c : Char} (hc : 128 ≤ c.toNat) : c.toLower = c := by
  unfold Char.toLower
  rw [dif_neg]
  intro ⟨_, h⟩
  have : c.toNat ≤ 90 := h
  omega

/-- 名前の照合に使う小文字化は、ASCII の大文字だけを小文字にする `Char.toLower`。 -/
theorem asciiLower_eq_toLower (c : Char) : asciiLower c = c.toLower := by
  by_cases hc : c.toNat < 128
  · exact forall_ascii (P := fun c => asciiLower c = c.toLower) (by decide +kernel) hc
  · rw [asciiLower_of_large (by omega), toLower_of_large (by omega)]

theorem IsHexDigit.toNat_lt {c : Char} (h : IsHexDigit c) : c.toNat < 128 := by
  have hdig : hexDigits.all (fun d => decide (d.toNat < 128)) = true := rfl
  by_cases hc : c.toNat < 128
  · exact hc
  · simpa using List.all_eq_true.mp hdig c (toLower_of_large (c := c) (by omega) ▸ h)

theorem not_isHexDigit_hash : ¬IsHexDigit '#' := by decide

theorem IsHexDigit.not_space {c : Char} (h : IsHexDigit c) : Color.isSpace c = false :=
  forall_ascii (P := fun c => IsHexDigit c → Color.isSpace c = false) (by decide +kernel) h.toNat_lt h

/-- 一桁の読みは、16 進の数字ならその値、そうでなければ読めない。 -/
theorem hexValue?_eq (c : Char) :
    hexValue? c = if IsHexDigit c then some (hexDigitValue c) else none := by
  by_cases hc : c.toNat < 128
  · exact forall_ascii
      (P := fun c => hexValue? c = if IsHexDigit c then some (hexDigitValue c) else none)
      (by decide +kernel) hc
  · -- ASCII でない文字は、どの範囲にも入らず、小文字にしても数字の表にない
    have hnot : ¬IsHexDigit c := fun h => hc h.toNat_lt
    have h9 : ¬('0' ≤ c ∧ c ≤ '9') := fun ⟨_, h⟩ => by have : c.toNat ≤ 57 := h; omega
    have hf : ¬('a' ≤ c ∧ c ≤ 'f') := fun ⟨_, h⟩ => by have : c.toNat ≤ 102 := h; omega
    have hF : ¬('A' ≤ c ∧ c ≤ 'F') := fun ⟨_, h⟩ => by have : c.toNat ≤ 70 := h; omega
    simp [hexValue?, hnot, h9, hf, hF]

/-- 桁の並びは、どの桁も 16 進の数字なら各桁の値の並びに読める。 -/
theorem mapM_hexValue?_of_forall {cs : List Char} (h : ∀ c ∈ cs, IsHexDigit c) :
    cs.mapM hexValue? = some (cs.map hexDigitValue) := by
  induction cs with
  | nil => rfl
  | cons c rest ih =>
    obtain ⟨hc, hr⟩ := List.forall_mem_cons.mp h
    rw [List.mapM_cons, hexValue?_eq, if_pos hc, ih hr]
    rfl

/-- 16 進の数字でない桁が一つでもあれば読めない。 -/
theorem mapM_hexValue?_of_not_forall {cs : List Char} (h : ¬∀ c ∈ cs, IsHexDigit c) :
    cs.mapM hexValue? = none := by
  induction cs with
  | nil => exact absurd (fun c hc => nomatch hc) h
  | cons c rest ih =>
    rw [List.mapM_cons, hexValue?_eq]
    by_cases hc : IsHexDigit c
    · have hr : ¬∀ d ∈ rest, IsHexDigit d := fun hr => h (List.forall_mem_cons.mpr ⟨hc, hr⟩)
      rw [if_pos hc, ih hr]
      rfl
    · rw [if_neg hc]
      rfl

/-! ## 名前 -/

/-- 名前の表の名前は小文字だけ。 -/
theorem named_lower : ∀ x ∈ named, x.1.toList.map Char.toLower = x.1.toList := by
  decide +kernel

/-- 名前の表のどの名前にも、`#` でも 16 進の数字でもない文字がある。 -/
theorem named_not_hex : ∀ x ∈ named, ∃ c ∈ x.1.toList, c ∉ '#' :: hexDigits := by
  have h : named.all (fun x => x.1.toList.any fun c => !(('#' :: hexDigits).contains c)) = true := by
    decide +kernel
  intro x hx
  obtain ⟨c, hc, hnot⟩ := List.any_eq_true.mp (List.all_eq_true.mp h x hx)
  exact ⟨c, hc, by simpa using hnot⟩

theorem ofName?_isSome_iff (t : String) : (ofName? t).isSome ↔ NamedColorText t := by
  have hlower : asciiLower = Char.toLower := funext asciiLower_eq_toLower
  simp only [ofName?, Option.isSome_map, List.find?_isSome, hlower, beq_iff_eq, NamedColorText]
  constructor
  · rintro ⟨⟨name, c⟩, hmem, heq⟩
    exact ⟨name, c, hmem, (named_lower _ hmem).trans heq⟩
  · rintro ⟨name, c, hmem, heq⟩
    exact ⟨⟨name, c⟩, hmem, (named_lower _ hmem).symm.trans heq⟩

/-- 16 進の書き方は、どの名前にも当たらない。 -/
theorem ofName?_eq_none_of_hexBody {ds : List Char} {t : String} (h : HexBody ds t) :
    ofName? t = none := by
  have hkey : ∀ c ∈ t.toList.map asciiLower, c ∈ '#' :: hexDigits := by
    intro c hc
    obtain ⟨d, hd, rfl⟩ := List.mem_map.mp hc
    rw [asciiLower_eq_toLower]
    have hds : ∀ e ∈ ds, e.toLower ∈ '#' :: hexDigits := fun e he =>
      List.mem_cons_of_mem _ (h.2 e he)
    rcases h.1 with ht | ht <;> rw [ht] at hd
    · exact hds d hd
    · rcases List.mem_cons.mp hd with rfl | hd
      · decide
      · exact hds d hd
  simp only [ofName?, Option.map_eq_none_iff, List.find?_eq_none, beq_iff_eq]
  rintro ⟨name, c⟩ hmem heq
  obtain ⟨e, he, hnot⟩ := named_not_hex _ hmem
  exact hnot (hkey e (heq ▸ he))

/-! ## 16 進 -/

/-- 先頭が `#` でない並びの読みは、`#` を一つ付けた並びの読みと同じ。 -/
theorem ofHex?_hash {ds : List Char} (hd : ∀ c ∈ ds.head?, c ≠ '#') :
    ofHex? (String.ofList ds) = ofHex? (String.ofList ('#' :: ds)) := by
  unfold ofHex?
  simp only [String.toList_ofList]
  congr 2
  split
  · next rest => simp at hd
  · rfl

/-- どの文字の読みも、`#` を一つ除いた本体に `#` を付けた読み。本体は、`#` で始まらない
文字そのものか、`#` の後ろ。 -/
theorem exists_body (t : String) :
    ∃ ds, ((t.toList = ds ∧ ∀ c ∈ ds.head?, c ≠ '#') ∨ t.toList = '#' :: ds) ∧
      ofHex? t = ofHex? (String.ofList ('#' :: ds)) := by
  rw [← String.ofList_toList (s := t)]
  simp only [String.toList_ofList]
  cases ht : t.toList with
  | nil => exact ⟨[], .inl ⟨rfl, by simp⟩, ofHex?_hash (by simp)⟩
  | cons c rest =>
    by_cases hc : c = '#'
    · exact ⟨rest, .inr (by rw [hc]), by rw [hc]⟩
    · have hd : ∀ d ∈ (c :: rest).head?, d ≠ '#' := by simpa using hc
      exact ⟨c :: rest, .inl ⟨rfl, hd⟩, ofHex?_hash hd⟩

/-- 16 進の数字の並びは `#` で始まらないので、本体の取り方は一つ。 -/
theorem HexBody.eq_body {ds es : List Char} {t : String} (h : HexBody es t)
    (hb : (t.toList = ds ∧ ∀ c ∈ ds.head?, c ≠ '#') ∨ t.toList = '#' :: ds) : es = ds := by
  obtain ⟨hes, hall⟩ := h
  rcases hb with ⟨hds, hhead⟩ | hds <;> rcases hes with hes | hes <;> rw [hds] at hes
  · exact hes.symm
  · exact absurd rfl (hhead '#' (by rw [hes]; rfl))
  · exact absurd (hall '#' (by rw [← hes]; exact List.mem_cons_self ..)) not_isHexDigit_hash
  · exact (List.cons.inj hes).2.symm

/-- `#` の後ろが読めるのは、どの桁も 16 進の数字で、3 桁か 6 桁のとき。 -/
theorem ofHex?_hash_isSome_iff (ds : List Char) :
    (ofHex? (String.ofList ('#' :: ds))).isSome ↔
      (∀ c ∈ ds, IsHexDigit c) ∧ (ds.length = 3 ∨ ds.length = 6) := by
  unfold ofHex?
  simp only [String.toList_ofList]
  by_cases hall : ∀ c ∈ ds, IsHexDigit c
  · rw [mapM_hexValue?_of_forall hall, and_iff_right hall]
    rcases ds with _ | ⟨_, _ | ⟨_, _ | ⟨_, _ | ⟨_, _ | ⟨_, _ | ⟨_, _ | ⟨_, _⟩⟩⟩⟩⟩⟩⟩ <;> simp
  · rw [mapM_hexValue?_of_not_forall hall]
    simp [hall]

theorem ofHex?_isSome_iff (t : String) : (ofHex? t).isSome ↔ HexColorText t := by
  obtain ⟨ds, hbody, heq⟩ := exists_body t
  rw [heq, ofHex?_hash_isSome_iff]
  constructor
  · rintro ⟨hall, hlen⟩
    refine ⟨ds, ⟨?_, hall⟩, hlen⟩
    rcases hbody with ⟨h, -⟩ | h
    · exact .inl h
    · exact .inr h
  · rintro ⟨es, hes, hlen⟩
    obtain rfl := hes.eq_body hbody
    exact ⟨hes.2, hlen⟩

/-- 6 桁の本体の読みは、2 桁ずつの値の色。 -/
theorem ofHex?_hash_six {r₁ r₂ g₁ g₂ b₁ b₂ : Char}
    (h : ∀ c ∈ [r₁, r₂, g₁, g₂, b₁, b₂], IsHexDigit c) :
    ofHex? (String.ofList ['#', r₁, r₂, g₁, g₂, b₁, b₂]) =
      some (rgb8 (16 * hexDigitValue r₁ + hexDigitValue r₂) (16 * hexDigitValue g₁ + hexDigitValue g₂)
        (16 * hexDigitValue b₁ + hexDigitValue b₂)) := by
  unfold ofHex?
  simp only [String.toList_ofList, mapM_hexValue?_of_forall h, List.map_cons, List.map_nil, byteOf,
    Nat.mul_comm _ 16]

/-- 3 桁の本体の読みは、各桁を二つ並べた値の色。 -/
theorem ofHex?_hash_three {r g b : Char} (h : ∀ c ∈ [r, g, b], IsHexDigit c) :
    ofHex? (String.ofList ['#', r, g, b]) =
      some (rgb8 (16 * hexDigitValue r + hexDigitValue r) (16 * hexDigitValue g + hexDigitValue g)
        (16 * hexDigitValue b + hexDigitValue b)) := by
  unfold ofHex?
  simp only [String.toList_ofList, mapM_hexValue?_of_forall h, List.map_cons, List.map_nil, byteOf,
    Nat.mul_comm _ 16]

/-! ## 前後の空白 -/

theorem dropWhile_space_of_hexDigits {cs : List Char} (h : ∀ c ∈ cs, IsHexDigit c) :
    cs.dropWhile isSpace = cs := by
  cases cs with
  | nil => rfl
  | cons c rest =>
    rw [List.dropWhile_cons_of_neg (by simp [(h c (List.mem_cons_self ..)).not_space])]

/-- 16 進の数字だけの文字には、除く空白がない。 -/
theorem trimSpace_of_hexDigits {cs : List Char} (h : ∀ c ∈ cs, IsHexDigit c) :
    trimSpace (String.ofList cs) = String.ofList cs := by
  have hrev : ∀ c ∈ cs.reverse, IsHexDigit c := fun c hc => h c (List.mem_reverse.mp hc)
  unfold trimSpace
  rw [String.toList_ofList, dropWhile_space_of_hexDigits h, dropWhile_space_of_hexDigits hrev,
    List.reverse_reverse]

/-! ## 読み -/

theorem parse_isSome_iff (s : String) :
    (parse s).isSome ↔ (ofName? (trimSpace s)).isSome ∨ (ofHex? (trimSpace s)).isSome := by
  unfold parse
  dsimp only
  split <;> simp_all

theorem parse_of_ofName?_eq_none {s : String} (h : ofName? (trimSpace s) = none) :
    parse s = ofHex? (trimSpace s) := by
  unfold parse
  simp only [h]

/-- 16 進の書き方の読みは、名前に当たらないので、その本体に `#` を付けた 16 進の読み。 -/
theorem parse_of_hexBody {s : String} {ds : List Char} (h : HexBody ds (trimSpace s)) :
    parse s = ofHex? (String.ofList ('#' :: ds)) := by
  rw [parse_of_ofName?_eq_none (ofName?_eq_none_of_hexBody h)]
  obtain ⟨es, hbody, heq⟩ := exists_body (trimSpace s)
  obtain rfl := h.eq_body hbody
  exact heq

theorem parse_of_six {s : String} {r₁ r₂ g₁ g₂ b₁ b₂ : Char}
    (h : HexBody [r₁, r₂, g₁, g₂, b₁, b₂] (trimSpace s)) :
    parse s = some (rgb8 (16 * hexDigitValue r₁ + hexDigitValue r₂)
      (16 * hexDigitValue g₁ + hexDigitValue g₂) (16 * hexDigitValue b₁ + hexDigitValue b₂)) := by
  rw [parse_of_hexBody h, ofHex?_hash_six h.2]

theorem parse_of_three {s : String} {r g b : Char} (h : HexBody [r, g, b] (trimSpace s)) :
    parse s = some (rgb8 (16 * hexDigitValue r + hexDigitValue r)
      (16 * hexDigitValue g + hexDigitValue g) (16 * hexDigitValue b + hexDigitValue b)) := by
  rw [parse_of_hexBody h, ofHex?_hash_three h.2]

/-- 色の読み。前後の空白を除いた文字が、名前の表の名前（ASCII の大文字と小文字を区別しない）か、
`#` を一つ付けてもよい 3 桁か 6 桁の 16 進の数字のときに限って読める。6 桁の `rrggbb` は
`rgb8 0xrr 0xgg 0xbb`、3 桁の `rgb` は `rrggbb` と同じ色。 -/
theorem parse_named_or_hex (s : String) :
    ((parse s).isSome ↔ NamedColorText (trimSpace s) ∨ HexColorText (trimSpace s)) ∧
    (∀ r₁ r₂ g₁ g₂ b₁ b₂ : Char, HexBody [r₁, r₂, g₁, g₂, b₁, b₂] (trimSpace s) →
      parse s = some (rgb8 (16 * hexDigitValue r₁ + hexDigitValue r₂)
        (16 * hexDigitValue g₁ + hexDigitValue g₂) (16 * hexDigitValue b₁ + hexDigitValue b₂))) ∧
    ∀ r g b : Char, HexBody [r, g, b] (trimSpace s) →
      parse s = parse (String.ofList [r, r, g, g, b, b]) := by
  refine ⟨by rw [parse_isSome_iff, ofName?_isSome_iff, ofHex?_isSome_iff],
    fun _ _ _ _ _ _ h => parse_of_six h, fun r g b h => ?_⟩
  have hall : ∀ c ∈ [r, r, g, g, b, b], IsHexDigit c := by
    have := h.2
    simp only [List.mem_cons, List.not_mem_nil, or_false, forall_eq_or_imp, forall_eq] at this ⊢
    exact ⟨this.1, this.1, this.2.1, this.2.1, this.2.2, this.2.2⟩
  have hbody : HexBody [r, r, g, g, b, b] (trimSpace (String.ofList [r, r, g, g, b, b])) := by
    rw [trimSpace_of_hexDigits hall]
    exact ⟨.inl (String.toList_ofList ..), hall⟩
  rw [parse_of_three h, parse_of_six hbody]

theorem parse_short_hex_doubled :
    HexBody ['0', 'a', 'F'] (trimSpace " #0aF") ∧
      parse " #0aF" = parse (String.ofList ['0', '0', 'a', 'a', 'F', 'F']) :=
  have h : HexBody ['0', 'a', 'F'] (trimSpace " #0aF") := by decide +kernel
  ⟨h, (parse_named_or_hex " #0aF").2.2 '0' 'a' 'F' h⟩

end Color

end PlotGeometry
