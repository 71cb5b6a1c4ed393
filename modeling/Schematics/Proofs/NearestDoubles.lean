import Schematics.Proofs.Rounding

namespace Schematics

namespace Decimal

open Float.Model Float.Model.UnpackedFloat

variable {q : ℚ} {x y : Float} {m m₁ m₂ : Nat} {e e₁ e₂ : ℤ}

theorem float_eq_of_unpack_eq (hx : x.isFinite = true)
    (h : x.toModel.unpack = y.toModel.unpack) : x = y := by
  obtain ⟨⟨⟨b⟩, _⟩⟩ := x
  obtain ⟨⟨⟨c⟩, _⟩⟩ := y
  have hunpack : UnpackedFloat.unpack Format.binary64 b = UnpackedFloat.unpack Format.binary64 c := h
  have hfinite : (UnpackedFloat.unpack Format.binary64 b).isFinite = true := hx
  have hbits : b = c := by rw [← pack_unpack hfinite, hunpack, pack_unpack (hunpack ▸ hfinite)]
  subst hbits
  rfl

theorem zpow_le_mul (hm : 2 ^ 52 ≤ m) (t : ℤ) : (2 : ℚ) ^ (t + 52) ≤ m * 2 ^ t := by
  have hcast : (2 : ℚ) ^ (52 : ℤ) ≤ m := by exact_mod_cast hm
  rw [add_comm, zpow_add₀ two_ne_zero]
  gcongr

theorem exponent_le_of_eq (hm : m₁ < 2 ^ 53) (he : -1074 ≤ e₁) (hn : 2 ^ 52 ≤ m₂ ∨ e₂ = -1074)
    (h : (m₁ : ℚ) * 2 ^ e₁ = m₂ * 2 ^ e₂) : e₂ ≤ e₁ := by
  obtain hn | rfl := hn
  · by_contra hlt
    have hless : (m₁ : ℚ) * 2 ^ e₁ < 2 ^ (e₂ + 52) :=
      mul_zpow_lt (by exact_mod_cast hm) (not_le.1 hlt)
    exact absurd h (hless.trans_le (zpow_le_mul hn e₂)).ne
  · exact he

theorem unpackedValue_finite_ne_zero (s : Sign) (h : 0 < m) : unpackedValue (.finite s m e h) ≠ 0 := by
  have hne : s.apply m ≠ 0 := by
    cases s <;> simp only [Sign.apply] <;> omega
  exact mul_ne_zero (by exact_mod_cast hne) (by positivity)

theorem mul_zpow_eq_of_unpackedValue_eq {s : Sign} {h₁ : 0 < m₁} {h₂ : 0 < m₂}
    (h : unpackedValue (.finite s m₁ e₁ h₁) = unpackedValue (.finite s m₂ e₂ h₂)) :
    (m₁ : ℚ) * 2 ^ e₁ = m₂ * 2 ^ e₂ := by
  cases s with
  | positive => exact_mod_cast h
  | negative =>
    simp only [unpackedValue, Sign.apply, Int.cast_neg, neg_mul, neg_inj] at h
    exact_mod_cast h

theorem unpacked_unique {f g : UnpackedFloat} (hf : Fits f) (hg : Fits g) (hff : f.isFinite = true)
    (hgf : g.isFinite = true) (hsign : unpackedSign f = unpackedSign g)
    (hvalue : unpackedValue f = unpackedValue g) : f = g := by
  cases f with
  | infinity _ | notANumber => cases hff
  | zero s =>
    cases g with
    | infinity _ | notANumber => cases hgf
    | zero _ => exact congrArg _ hsign
    | finite _ _ _ _ => exact absurd hvalue.symm (unpackedValue_finite_ne_zero _ _)
  | finite s m₁ e₁ _ =>
    cases g with
    | infinity _ | notANumber => cases hgf
    | zero _ => exact absurd hvalue (unpackedValue_finite_ne_zero _ _)
    | finite _ m₂ e₂ _ =>
      obtain rfl : s = _ := hsign
      obtain ⟨hm₁, he₁, -, hn₁⟩ := hf
      obtain ⟨hm₂, he₂, -, hn₂⟩ := hg
      have hmul := mul_zpow_eq_of_unpackedValue_eq hvalue
      obtain rfl : e₁ = e₂ := le_antisymm (exponent_le_of_eq hm₂ he₂ hn₁ hmul.symm)
        (exponent_le_of_eq hm₁ he₁ hn₂ hmul)
      obtain rfl : m₁ = m₂ := by exact_mod_cast mul_right_cancel₀ (by positivity) hmul
      rfl

theorem isNegative_eq_iff : isNegative x = isNegative y ↔
    unpackedSign x.toModel.unpack = unpackedSign y.toModel.unpack := by
  rw [isNegative, isNegative]
  generalize unpackedSign x.toModel.unpack = s
  generalize unpackedSign y.toModel.unpack = s'
  cases s <;> cases s' <;> simp

theorem eq_of_exact_eq (hx : x.isFinite = true) (hy : y.isFinite = true)
    (hsign : isNegative x = isNegative y) (h : exact x = exact y) : x = y :=
  float_eq_of_unpack_eq hx
    (unpacked_unique (fits_unpack _) (fits_unpack _) hx hy (isNegative_eq_iff.1 hsign) h)

theorem exists_exact_of_nonneg (hx : x.isFinite = true) (h : 0 ≤ exact x) :
    ∃ t : ℤ, -1074 ≤ t ∧ t ≤ 971 ∧ (2 ^ 52 ≤ significand x ∨ t = -1074) ∧ significand x < 2 ^ 53 ∧
      exact x = significand x * 2 ^ t := by
  have hfinite : x.toModel.unpack.isFinite = true := hx
  have hfits : Fits x.toModel.unpack := fits_unpack _
  rw [exact] at h
  rw [exact, significand]
  cases hu : x.toModel.unpack with
  | infinity _ | notANumber => rw [hu] at hfinite; cases hfinite
  | zero _ =>
    exact ⟨-1074, le_rfl, by decide, .inr rfl, Nat.two_pow_pos 53, by
      simp [unpackedValue, unpackedSignificand]⟩
  | finite s m e hpos =>
    rw [hu] at h hfits
    obtain ⟨hm, hlow, hhigh, hnormal⟩ := hfits
    cases s with
    | positive => exact ⟨e, hlow, hhigh, hnormal, hm, rfl⟩
    | negative =>
      have hvalue : 0 < (m : ℚ) * 2 ^ e := by positivity
      simp only [unpackedValue, Sign.apply, Int.cast_neg, neg_mul, Int.cast_natCast] at h
      linarith

theorem exists_between_of_nonneg (hx : x.isFinite = true) (hy : y.isFinite = true)
    (hxe : Even (significand x)) (hye : Even (significand y)) (hnonneg : 0 ≤ exact x)
    (h : exact x < exact y) : ∃ z : Float, z.isFinite = true ∧ exact x < exact z ∧ exact z < exact y := by
  obtain ⟨t, hlow, hhigh, hnormal, hm, hvalue⟩ := exists_exact_of_nonneg hx hnonneg
  generalize significand x = m at hxe hnormal hm hvalue
  have hpos : (0 : ℚ) < 2 ^ t := by positivity
  have hroom : m + 1 < 2 ^ 53 := by
    have hne : m + 1 ≠ 2 ^ 53 := fun heq => by
      have heven : Even (m + 1) := heq ▸ by decide
      exact Nat.even_add_one.1 heven hxe
    omega
  have hfits : Fits (.finite .positive (m + 1) t m.succ_pos) := ⟨hroom, hlow, hhigh, by omega⟩
  have hnext : unpackedValue (.finite .positive (m + 1) t m.succ_pos) = (m + 1) * 2 ^ t := by
    simp only [unpackedValue, Sign.apply]
    push_cast
    rfl
  refine ⟨_, isFinite_ofModel_pack hfits, ?_, ?_⟩ <;> rw [exact_ofModel_pack hfits, hnext]
  · linarith
  · obtain ⟨k, hk, hke⟩ | ⟨ht, hlt⟩ := exact_multiple_or_lt hy t
    · rw [hk] at h ⊢
      rw [hvalue, mul_lt_mul_iff_left₀ hpos] at h
      have hlt : (m : ℤ) < k := by exact_mod_cast h
      have heven := hke hye
      rw [Int.even_iff] at heven
      rw [Nat.even_iff] at hxe
      have hbeyond : (m : ℤ) + 1 < k := by omega
      gcongr
      exact_mod_cast hbeyond
    · have hmore := zpow_le_mul (hnormal.resolve_right ht) t
      exact absurd (h.trans hlt) (not_lt.2 (hvalue ▸ hmore))

theorem exists_between (hx : x.isFinite = true) (hy : y.isFinite = true)
    (hxe : Even (significand x)) (hye : Even (significand y)) (h : exact x < exact y) :
    ∃ z : Float, z.isFinite = true ∧ exact x < exact z ∧ exact z < exact y := by
  obtain hnonneg | hneg := le_or_gt 0 (exact x)
  · exact exists_between_of_nonneg hx hy hxe hye hnonneg h
  obtain hpos | hnonpos := lt_or_ge 0 (exact y)
  · have hfits : Fits (.zero .positive) := trivial
    have hzero := exact_ofModel_pack hfits
    exact ⟨_, isFinite_ofModel_pack hfits, hneg.trans_eq hzero.symm, hzero.trans_lt hpos⟩
  · obtain ⟨z, hz, hyz, hzx⟩ := exists_between_of_nonneg ((isFinite_neg y).trans hy)
      ((isFinite_neg x).trans hx) ((significand_neg y).symm ▸ hye) ((significand_neg x).symm ▸ hxe)
      (by rw [exact_neg]; linarith) (by rw [exact_neg, exact_neg]; linarith)
    rw [exact_neg] at hyz hzx
    exact ⟨-z, (isFinite_neg z).trans hz, by rw [exact_neg]; linarith, by rw [exact_neg]; linarith⟩

theorem Nearest.exact_le (hx : Nearest q x) (hy : Nearest q y) : exact y ≤ exact x := by
  by_contra hle
  have hlt := not_le.1 hle
  have hdist : |exact x - q| = |exact y - q| :=
    le_antisymm (hx.closest y hy.finite) (hy.closest x hx.finite)
  obtain ⟨z, hz, hxz, hzy⟩ := exists_between hx.finite hy.finite
    (hx.even y hy.finite hlt.ne' hdist.symm) (hy.even x hx.finite hlt.ne hdist) hlt
  have hmiddle : q - exact x = exact y - q := by
    obtain heq | heq := abs_eq_abs.1 hdist <;> linarith
  have hnearer : |exact z - q| < exact y - q := abs_lt.2 ⟨by linarith, by linarith⟩
  exact absurd (hy.closest z hz) (not_le.2 (hnearer.trans_le (le_abs_self _)))

theorem Nearest.unique (hx : Nearest q x) (hy : Nearest q y) (hsign : isNegative x = isNegative y) :
    x = y :=
  eq_of_exact_eq hx.finite hy.finite hsign
    (le_antisymm (hy.exact_le hx) (hx.exact_le hy))

end Decimal

end Schematics
