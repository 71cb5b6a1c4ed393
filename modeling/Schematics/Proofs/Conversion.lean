import Schematics.Proofs.Literals
import Schematics.Proofs.NearestDoubles

/-!
What is read as a decimal is the nearest double of the number that the decimal denotes. Short
decimals are worked out by one multiplication or division of doubles, which rounds once, since both
operands are exact.
-/

namespace Schematics

namespace Decimal

open Float.Model Float.Model.UnpackedFloat

variable {v : ℚ} {m m₁ m₂ : Nat} {e e₁ e₂ : ℤ}

theorem stands_exact (m : Nat) : Stands (.ofMantissaAndAccuracy m .exact) m := by
  refine ⟨le_rfl, lt_add_one _, ?_, ?_⟩
  · refine iff_of_false nofun fun hle => ?_
    change (m : ℚ) + 1 / 2 ≤ m at hle
    linarith
  · exact iff_of_false nofun fun hne => hne.1 rfl

theorem ofMantissaAndAccuracy_accuracyOfFraction (q r : Nat) {d : Nat} (hd : 0 < d) :
    ExtendedMantissa.ofMantissaAndAccuracy q (accuracyOfFraction r d) =
      ⟨q, decide (d ≤ 2 * r), decide (r ≠ 0 ∧ 2 * r ≠ d)⟩ := by
  have hextended {half rest : Bool} (hhalf : half = true ↔ d ≤ 2 * r)
      (hrest : rest = true ↔ r ≠ 0 ∧ 2 * r ≠ d) :
      (⟨q, half, rest⟩ : ExtendedMantissa) = ⟨q, decide (d ≤ 2 * r), decide (r ≠ 0 ∧ 2 * r ≠ d)⟩ := by
    rw [← Bool.decide_congr hhalf, ← Bool.decide_congr hrest, Bool.decide_eq_true, Bool.decide_eq_true]
  rw [accuracyOfFraction]
  split
  · exact hextended (by simp; omega) (by simp; omega)
  · obtain hlt | heq | hgt := lt_trichotomy (2 * r) d
    · rw [Nat.compare_eq_lt.2 hlt]
      exact hextended (by simp; omega) (by simp; omega)
    · rw [Nat.compare_eq_eq.2 heq]
      exact hextended (by simp; omega) (by simp; omega)
    · rw [Nat.compare_eq_gt.2 hgt]
      exact hextended (by simp; omega) (by simp; omega)

theorem stands_div (m : Nat) {d : Nat} (hd : 0 < d) :
    Stands (.ofMantissaAndAccuracy (m / d) (accuracyOfFraction (m % d) d)) (m / d) := by
  have hpos : (0 : ℚ) < d := by exact_mod_cast hd
  have hvalue : (m : ℚ) = d * (m / d : Nat) + (m % d : Nat) := by
    exact_mod_cast (Nat.div_add_mod m d).symm
  have hless : ((m % d : Nat) : ℚ) < d := by exact_mod_cast Nat.mod_lt m hd
  have hnonneg : (0 : ℚ) ≤ (m % d : Nat) := by positivity
  rw [ofMantissaAndAccuracy_accuracyOfFraction _ _ hd]
  generalize m % d = r at hvalue hless hnonneg
  have hhalf : (m / d : Nat) + 1 / 2 ≤ (m : ℚ) / d ↔ d ≤ 2 * r := by
    rw [le_div_iff₀ hpos, hvalue, ← Nat.cast_le (α := ℚ)]
    push_cast
    constructor <;> intro hle <;> linarith
  have hwhole : (m : ℚ) / d = (m / d : Nat) ↔ r = 0 := by
    rw [div_eq_iff hpos.ne', hvalue, ← Nat.cast_eq_zero (R := ℚ)]
    constructor <;> intro heq <;> linarith
  have htie : (m : ℚ) / d = (m / d : Nat) + 1 / 2 ↔ 2 * r = d := by
    rw [div_eq_iff hpos.ne', hvalue, ← Nat.cast_inj (R := ℚ)]
    push_cast
    constructor <;> intro heq <;> linarith
  refine ⟨?_, ?_, ?_, ?_⟩
  · rw [le_div_iff₀ hpos]
    linarith
  · rw [div_lt_iff₀ hpos]
    linarith
  · rw [decide_eq_true_iff, hhalf]
  · exact decide_eq_true_iff.trans (and_congr hwhole.not htie.not).symm

theorem rounded_mul {h₁ : 0 < m₁} {h₂ : 0 < m₂} (hlong : 2 ^ 52 ≤ m₁ * m₂) :
    Rounded (m₁ * 2 ^ e₁ * (m₂ * 2 ^ e₂))
      (mul Format.binary64 (.finite .positive m₁ e₁ h₁) (.finite .positive m₂ e₂ h₂)) := by
  have hlog : 52 ≤ (m₁ * m₂).log2 := (Nat.le_log2 (by omega)).2 hlong
  have hvalue : (m₁ : ℚ) * 2 ^ e₁ * (m₂ * 2 ^ e₂) / 2 ^ (e₁ + e₂) = (m₁ * m₂ : Nat) := by
    rw [div_eq_iff (by positivity), zpow_add₀ two_ne_zero]
    push_cast
    ring
  have htarget : e₁ + e₂ ≤ Format.binary64.targetExponent (totalExponent (m₁ * m₂) (e₁ + e₂)) := by
    rw [targetExponent_eq]
    exact le_max_of_le_left (by omega)
  exact rounded_roundWithAccuracy (hvalue ▸ stands_exact _) htarget

theorem rounded_div {h₁ : 0 < m₁} {h₂ : 0 < m₂} :
    Rounded (m₁ * 2 ^ e₁ / (m₂ * 2 ^ e₂))
      (div Format.binary64 (.finite .positive m₁ e₁ h₁) (.finite .positive m₂ e₂ h₂)) := by
  let t := min (e₁ - e₂) (Format.binary64.targetExponent (totalExponent m₁ e₁ - totalExponent m₂ e₂))
  let m := m₁ <<< (e₁ - e₂ - t).toNat
  have hm : m = m₁ * 2 ^ (e₁ - e₂ - t).toNat := Nat.shiftLeft_eq _ _
  have hvalue : (m₁ : ℚ) * 2 ^ e₁ / (m₂ * 2 ^ e₂) / 2 ^ t = m / m₂ := by
    have hexponent : (2 : ℚ) ^ (e₁ - e₂ - t).toNat = 2 ^ e₁ / 2 ^ e₂ / 2 ^ t := by
      rw [← zpow_natCast, Int.toNat_of_nonneg (by omega), zpow_sub₀ two_ne_zero,
        zpow_sub₀ two_ne_zero]
    rw [hm]
    push_cast
    rw [hexponent]
    field_simp
  have htarget : t ≤ Format.binary64.targetExponent (totalExponent (m / m₂) t) := by
    rw [targetExponent_eq]
    have ht : t ≤ max (m₁.log2 + 1 + e₁ - (m₂.log2 + 1 + e₂) - 53) (-1074) := min_le_right _ _
    obtain hnormal | hleast := le_max_iff.1 ht
    · -- The dividend is so much longer than the divisor that the quotient fills a significand.
      refine le_max_of_le_left ?_
      have hlong : 2 ^ 52 ≤ m / m₂ := by
        rw [Nat.le_div_iff_mul_le h₂, hm]
        calc 2 ^ 52 * m₂ ≤ 2 ^ 52 * 2 ^ (m₂.log2 + 1) :=
              Nat.mul_le_mul_left _ Nat.lt_log2_self.le
          _ = 2 ^ (m₂.log2 + 53) := by rw [← pow_add]; congr 1; omega
          _ ≤ 2 ^ (m₁.log2 + (e₁ - e₂ - t).toNat) := Nat.pow_le_pow_right two_pos (by omega)
          _ = 2 ^ m₁.log2 * 2 ^ (e₁ - e₂ - t).toNat := pow_add _ _ _
          _ ≤ m₁ * 2 ^ (e₁ - e₂ - t).toNat := Nat.mul_le_mul_right _ (Nat.log2_self_le h₁.ne')
      have hlog : 52 ≤ (m / m₂).log2 := (Nat.le_log2 (by omega)).2 hlong
      omega
    · exact le_max_of_le_right hleast
  have hstands : Stands (.ofMantissaAndAccuracy (m / m₂) (accuracyOfFraction (m % m₂) m₂))
      ((m₁ : ℚ) * 2 ^ e₁ / (m₂ * 2 ^ e₂) / 2 ^ t) := hvalue ▸ stands_div m h₂
  exact rounded_roundWithAccuracy hstands htarget

theorem log2_mul_two_pow (hm : m ≠ 0) (k : Nat) : (m * 2 ^ k).log2 = m.log2 + k := by
  induction k with
  | zero => simp
  | succ k ih =>
    have hne : m * 2 ^ k ≠ 0 := by positivity
    rw [pow_succ, ← mul_assoc, mul_comm _ 2, Nat.log2_two_mul hne, ih, add_assoc]

theorem rounded_round (hm : m ≠ 0) : Rounded (m * 2 ^ e) (round Format.binary64 .positive m e) := by
  let t := Format.binary64.targetExponent (totalExponent m e)
  let k := (e - t).toNat
  have hvalue : (m : ℚ) * 2 ^ e / 2 ^ (e - k) = (m <<< k : Nat) := by
    rw [div_eq_iff (by positivity), Nat.shiftLeft_eq, zpow_sub₀ two_ne_zero]
    push_cast
    rw [zpow_natCast]
    field_simp
  have htarget : e - k ≤ Format.binary64.targetExponent (totalExponent (m <<< k) (e - k)) := by
    have ht : t = max (m.log2 + 1 + e - 53) (-1074) := rfl
    rw [targetExponent_eq, Nat.shiftLeft_eq, log2_mul_two_pow hm]
    omega
  exact rounded_roundWithAccuracy (hvalue ▸ stands_exact _) htarget

theorem exists_unpack_eq {x : Float} (hx : 0 < exact x) :
    ∃ m e h, x.toModel.unpack = .finite .positive m e h ∧ exact x = m * 2 ^ e := by
  rw [exact] at hx ⊢
  cases hu : x.toModel.unpack with
  | zero _ | infinity _ | notANumber =>
    rw [hu] at hx
    exact absurd hx (lt_irrefl _)
  | finite s m e hpos =>
    rw [hu] at hx
    cases s with
    | positive => exact ⟨m, e, hpos, rfl, rfl⟩
    | negative =>
      have hnegative : unpackedValue (.finite .negative m e hpos) = -(m * 2 ^ e) := by
        simp [unpackedValue, Sign.apply]
      rw [hnegative] at hx
      have hnonneg : (0 : ℚ) ≤ m * 2 ^ e := by positivity
      linarith

theorem roundsOff_mul {x y : Float} (hx : 1 ≤ exact x) (hy : 0 < exact y) :
    RoundsOff (exact x * exact y) (x * y) := by
  obtain ⟨m₁, e₁, h₁, hunpack₁, hvalue₁⟩ := exists_unpack_eq (one_pos.trans_le hx)
  obtain ⟨m₂, e₂, h₂, hunpack₂, hvalue₂⟩ := exists_unpack_eq hy
  have hfits : Fits x.toModel.unpack := fits_unpack _
  rw [hunpack₁] at hfits
  obtain ⟨hlt, -, -, hlong | rfl⟩ := hfits
  · have hproduct : 2 ^ 52 ≤ m₁ * m₂ := hlong.trans (Nat.le_mul_of_pos_right _ h₂)
    change RoundsOff _ (.ofModel (Float.Model.pack (mul Format.binary64 x.toModel.unpack y.toModel.unpack)))
    rw [hvalue₁, hvalue₂, hunpack₁, hunpack₂]
    exact (rounded_mul hproduct).roundsOff
  · have hcast : (m₁ : ℚ) < 2 ^ (53 : ℤ) := by exact_mod_cast hlt
    have hsmall : (m₁ : ℚ) * 2 ^ (-1074 : ℤ) < 1 := by
      calc (m₁ : ℚ) * 2 ^ (-1074 : ℤ) < 2 ^ (53 : ℤ) * 2 ^ (-1074 : ℤ) := by gcongr
        _ = 2 ^ (53 + -1074 : ℤ) := (zpow_add₀ two_ne_zero _ _).symm
        _ < 1 := zpow_lt_one_of_neg₀ one_lt_two (by decide)
    rw [hvalue₁] at hx
    exact absurd hx (not_le.2 hsmall)

theorem roundsOff_div {x y : Float} (hx : 0 < exact x) (hy : 0 < exact y) :
    RoundsOff (exact x / exact y) (x / y) := by
  obtain ⟨m₁, e₁, h₁, hunpack₁, hvalue₁⟩ := exists_unpack_eq hx
  obtain ⟨m₂, e₂, h₂, hunpack₂, hvalue₂⟩ := exists_unpack_eq hy
  change RoundsOff _ (.ofModel (Float.Model.pack (div Format.binary64 x.toModel.unpack y.toModel.unpack)))
  rw [hvalue₁, hvalue₂, hunpack₁, hunpack₂]
  exact rounded_div.roundsOff

theorem exact_round {j i : Nat} (hzero : j * 2 ^ i ≠ 0) (hj : j < 2 ^ 53) (hi : i ≤ 900) :
    exact (.ofModel (Float.Model.pack (round Format.binary64 .positive (j * 2 ^ i) 0))) =
      (j * 2 ^ i : Nat) := by
  have hrounded : Rounded (j * 2 ^ i : Nat) (round Format.binary64 .positive (j * 2 ^ i) 0) := by
    have hround := rounded_round (e := 0) hzero
    rwa [zpow_zero, mul_one] at hround
  have hsmall : ((j * 2 ^ i : Nat) : ℚ) < overflow := by
    have hcast : (j : ℚ) < 2 ^ (53 : ℤ) := by exact_mod_cast hj
    calc ((j * 2 ^ i : Nat) : ℚ) = j * 2 ^ (i : ℤ) := by push_cast; rw [zpow_natCast]
      _ < 2 ^ (53 : ℤ) * 2 ^ (i : ℤ) := by gcongr
      _ = 2 ^ (53 + i : ℤ) := (zpow_add₀ two_ne_zero _ _).symm
      _ ≤ 2 ^ (1023 : ℤ) := zpow_le_zpow_right₀ one_le_two (by omega)
      _ ≤ overflow := le_overflow
  rw [exact, unpack_ofModel_pack (hrounded.fits hsmall)]
  exact hrounded.unpackedValue_eq (i := i) (by push_cast; rw [zpow_natCast]) hj (by omega)

theorem toFloat_eq {m : Nat} (hzero : m ≠ 0) (hm : m < 2 ^ 64) :
    m.toUInt64.toFloat = .ofModel (Float.Model.pack (round Format.binary64 .positive m 0)) := by
  have hnat : m.toUInt64.toNat = m := UInt64.toNat_ofNat_of_lt' hm
  have hround : UnpackedFloat.ofUInt64 Format.binary64 m.toUInt64 =
      round Format.binary64 .positive m 0 := by
    rw [UnpackedFloat.ofUInt64, hnat, UnpackedFloat.ofNat, UnpackedFloat.ofInt,
      UnpackedFloat.normalize, Int.compare_eq_gt.2 (by omega)]
    simp
  exact congrArg (fun f => Float.ofModel (Float.Model.pack f)) hround

theorem exact_toFloat {m : Nat} (hzero : m ≠ 0) (hm : m < 2 ^ 53) : exact m.toUInt64.toFloat = m := by
  have hexact := exact_round (i := 0) (by omega : m * 2 ^ 0 ≠ 0) hm (by omega)
  rw [pow_zero, mul_one] at hexact
  rw [toFloat_eq hzero (hm.trans (by decide)), hexact]

theorem powers_eq {k : Nat} (hk : k < Float.exactlyRepresentablePowersOfTen.size) :
    Float.exactlyRepresentablePowersOfTen[k] =
      .ofModel (Float.Model.pack (round Format.binary64 .positive (5 ^ k * 2 ^ k) 0)) := by
  have hlt : k < 23 := hk
  interval_cases k <;> rfl

theorem exact_powers {k : Nat} (hk : k < Float.exactlyRepresentablePowersOfTen.size) :
    exact Float.exactlyRepresentablePowersOfTen[k] = 10 ^ k := by
  have hlt : k < 23 := hk
  have hpower : 5 ^ k < 2 ^ 53 :=
    (Nat.pow_le_pow_right (by decide) (Nat.le_of_lt_succ hlt)).trans_lt (by norm_num)
  rw [powers_eq, exact_round (by positivity) hpower (by omega), ← mul_pow]
  norm_num

theorem roundsOff_infinity {x : Float} (hv : overflow ≤ v) (hx : x.isFinite = false) : RoundsOff v x :=
  ⟨fun hlt => absurd hlt (not_lt.2 hv), fun _ => hx⟩

theorem roundsOff_short (hzero : m ≠ 0) (hm : m < 2 ^ 53) {k : Nat} (hk : k ≤ 22) :
    RoundsOff (m * 10 ^ (k : ℤ)) (Float.ofScientific m false k) ∧
      RoundsOff (m * 10 ^ (-(k : ℤ))) (Float.ofScientific m true k) := by
  have hone : 1 ≤ exact m.toUInt64.toFloat := by
    rw [exact_toFloat hzero hm]
    exact_mod_cast Nat.one_le_iff_ne_zero.2 hzero
  have hsize : k < Float.exactlyRepresentablePowersOfTen.size := Nat.lt_succ_of_le hk
  have hpower : 0 < exact Float.exactlyRepresentablePowersOfTen[k] := by
    rw [exact_powers]
    positivity
  have hmul := roundsOff_mul hone hpower
  have hdiv := roundsOff_div (one_pos.trans_le hone) hpower
  rw [exact_toFloat hzero hm, exact_powers] at hmul hdiv
  have hfast : m < 2 ^ 53 ∧ k ≤ 22 := ⟨hm, hk⟩
  constructor
  · rw [Float.ofScientific, dif_pos hfast, zpow_natCast]
    exact hmul
  · rw [Float.ofScientific, dif_pos hfast, zpow_neg, zpow_natCast, ← div_eq_mul_inv]
    exact hdiv

theorem overflow_le_of_le (hzero : m ≠ 0) (he : 1024 ≤ e) : overflow ≤ m * 10 ^ e := by
  have hone : (1 : ℚ) ≤ m := by exact_mod_cast Nat.one_le_iff_ne_zero.2 hzero
  calc overflow ≤ 2 ^ (1024 : ℤ) := overflow_lt.le
    _ ≤ 2 ^ e := zpow_le_zpow_right₀ one_le_two he
    _ ≤ 10 ^ e := zpow_le_zpow_left₀ (by omega) (by norm_num) (by norm_num)
    _ ≤ m * 10 ^ e := le_mul_of_one_le_left (by positivity) hone

theorem le_of_lt_neg (he : e < -(2048 + m.log2)) : (m : ℚ) * 10 ^ e ≤ 2 ^ (-1075 : ℤ) := by
  have hlog : (m : ℚ) ≤ 2 ^ ((m.log2 : ℤ) + 1) := by exact_mod_cast (Nat.lt_log2_self (n := m)).le
  have hpower : (10 : ℚ) ^ e ≤ 2 ^ e := by
    have hfive : (5 : ℚ) ^ e ≤ 1 := zpow_le_one_of_nonpos₀ (by norm_num) (by omega)
    rw [show (10 : ℚ) = 5 * 2 by norm_num, mul_zpow]
    exact mul_le_of_le_one_left (by positivity) hfive
  calc (m : ℚ) * 10 ^ e ≤ 2 ^ ((m.log2 : ℤ) + 1) * 2 ^ e := by gcongr
    _ = 2 ^ ((m.log2 : ℤ) + 1 + e) := (zpow_add₀ two_ne_zero _ _).symm
    _ ≤ 2 ^ (-1075 : ℤ) := zpow_le_zpow_right₀ one_le_two (by omega)

theorem roundsOff_long (hzero : m ≠ 0) (e : ℤ) :
    RoundsOff (m * 10 ^ e) (.ofModel (Float.Model.ofScientific m e)) := by
  have hlimit : (2 : ℤ) ^ Format.binary64.exponentBits = 2048 := rfl
  rw [Float.Model.ofScientific, UnpackedFloat.ofScientific, dif_neg hzero, hlimit]
  split
  · exact roundsOff_infinity (overflow_le_of_le hzero (by omega)) rfl
  split
  · exact (rounded_zero (by positivity) (le_of_lt_neg (by omega))).roundsOff
  split
  · next hnonneg =>
    have hvalue : (m : ℚ) * 10 ^ e = (m <<< Format.binary64.mantissaBits : Nat) *
        2 ^ (-Format.binary64.mantissaBits : ℤ) * ((10 ^ e.toNat : Nat) * 2 ^ (0 : ℤ)) := by
      have hpower : (10 : ℚ) ^ e = 10 ^ e.toNat := by
        rw [← zpow_natCast, Int.toNat_of_nonneg hnonneg]
      rw [hpower, Nat.shiftLeft_eq, zpow_neg, zpow_natCast]
      push_cast
      field_simp
    have hlong : 2 ^ 52 ≤ m <<< Format.binary64.mantissaBits * 10 ^ e.toNat := by
      rw [Nat.shiftLeft_eq]
      calc 2 ^ 52 ≤ 2 ^ Format.binary64.mantissaBits := Nat.pow_le_pow_right two_pos (by decide)
        _ ≤ m * 2 ^ Format.binary64.mantissaBits := Nat.le_mul_of_pos_left _ (Nat.pos_of_ne_zero hzero)
        _ ≤ _ := Nat.le_mul_of_pos_right _ (by positivity)
    rw [hvalue]
    exact (rounded_mul hlong).roundsOff
  · next hnegative =>
    have hvalue : (m : ℚ) * 10 ^ e = m * 2 ^ (0 : ℤ) / ((10 ^ (-e).toNat : Nat) * 2 ^ (0 : ℤ)) := by
      have hpower : (10 : ℚ) ^ e = (10 ^ (-e).toNat)⁻¹ := by
        rw [← zpow_natCast, Int.toNat_of_nonneg (by omega), zpow_neg, inv_inv]
      rw [hpower, zpow_zero, mul_one, mul_one, div_eq_mul_inv]
      push_cast
      rfl
    rw [hvalue]
    exact rounded_div.roundsOff

theorem roundsOff_ofScientific (hzero : m ≠ 0) (e : ℤ) :
    RoundsOff (m * 10 ^ e) (.ofScientific m (e < 0) e.natAbs) := by
  by_cases hfast : m < 2 ^ 53 ∧ e.natAbs ≤ 22
  · have hshort := roundsOff_short hzero hfast.1 hfast.2
    by_cases he : e < 0
    · have habs : -(e.natAbs : ℤ) = e := by omega
      rw [decide_eq_true he, ← habs, Int.natAbs_neg, Int.natAbs_natCast]
      exact hshort.2
    · have habs : (e.natAbs : ℤ) = e := by omega
      rw [decide_eq_false he, ← habs, Int.natAbs_natCast]
      exact hshort.1
  · have hexponent : (if decide (e < 0) = true then Int.negOfNat e.natAbs else Int.ofNat e.natAbs) = e := by
      by_cases he : e < 0
      · rw [decide_eq_true he, if_pos rfl, Int.negOfNat_eq, Int.ofNat_eq_natCast]
        omega
      · rw [decide_eq_false he, if_neg nofun, Int.ofNat_eq_natCast]
        omega
    rw [Float.ofScientific, dif_neg hfast]
    dsimp only
    rw [hexponent]
    exact roundsOff_long hzero e

theorem lt_ten_pow_digitCount (m : Nat) : m < 10 ^ digitCount m :=
  (Nat.length_toDigits_le_iff (by decide) Nat.length_toDigits_pos).1 le_rfl

theorem ten_pow_le (hzero : m ≠ 0) : 10 ^ (digitCount m - 1) ≤ m := by
  have hpos : 0 < digitCount m := Nat.length_toDigits_pos
  by_contra hlt
  obtain hone | hmore := Nat.eq_zero_or_pos (digitCount m - 1)
  · rw [hone] at hlt
    omega
  · have hshorter := (Nat.length_toDigits_le_iff (by decide) hmore).2 (not_le.1 hlt)
    exact absurd hshorter (by unfold digitCount at hmore ⊢; omega)

theorem two_zpow_le_ten_zpow (k : Nat) : (2 : ℚ) ^ (43 * k : ℤ) ≤ 10 ^ (13 * k : ℤ) := by
  rw [zpow_mul, zpow_mul]
  exact zpow_le_zpow_left₀ (Int.natCast_nonneg k) (by positivity) (by norm_num)

theorem roundsOff_toFloat (m : Nat) (e : ℤ) : RoundsOff (m * 10 ^ e) (toFloat m e) := by
  have hpos : 0 < digitCount m := Nat.length_toDigits_pos
  have hupper : (m : ℚ) ≤ 10 ^ (digitCount m : ℤ) := by exact_mod_cast (lt_ten_pow_digitCount m).le
  unfold toFloat
  dsimp only
  split
  · next hsmall =>
    have htiny : (m : ℚ) * 10 ^ e ≤ 2 ^ (-1075 : ℤ) := by
      obtain rfl | hlead := hsmall
      · rw [Nat.cast_zero, zero_mul]
        positivity
      · calc (m : ℚ) * 10 ^ e ≤ 10 ^ (digitCount m : ℤ) * 10 ^ e := by gcongr
          _ = 10 ^ (digitCount m + e) := (zpow_add₀ (by norm_num) _ _).symm
          _ ≤ 10 ^ (-340 : ℤ) := zpow_le_zpow_right₀ (by norm_num) hlead.le
          _ ≤ 10 ^ (-(13 * 26) : ℤ) := zpow_le_zpow_right₀ (by norm_num) (by omega)
          _ ≤ 2 ^ (-(43 * 26) : ℤ) := by
            rw [zpow_neg, zpow_neg]
            exact inv_anti₀ (by positivity) (two_zpow_le_ten_zpow 26)
          _ ≤ 2 ^ (-1075 : ℤ) := zpow_le_zpow_right₀ one_le_two (by decide)
    exact (rounded_zero (by positivity) htiny).roundsOff
  · next hsmall =>
    obtain ⟨hzero, -⟩ := not_or.1 hsmall
    split
    · next hlarge =>
      have hlower : (10 : ℚ) ^ ((digitCount m : ℤ) - 1) ≤ m := by
        have hlength : (digitCount m : ℤ) - 1 = (digitCount m - 1 : Nat) := by omega
        rw [hlength]
        exact_mod_cast ten_pow_le hzero
      have hover : overflow ≤ m * 10 ^ e := by
        calc overflow ≤ 2 ^ (1024 : ℤ) := overflow_lt.le
          _ ≤ 2 ^ (43 * 24 : ℤ) := zpow_le_zpow_right₀ one_le_two (by decide)
          _ ≤ 10 ^ (13 * 24 : ℤ) := two_zpow_le_ten_zpow 24
          _ ≤ 10 ^ (digitCount m - 1 + e) := zpow_le_zpow_right₀ (by norm_num) (by omega)
          _ = 10 ^ ((digitCount m : ℤ) - 1) * 10 ^ e := zpow_add₀ (by norm_num) _ _
          _ ≤ m * 10 ^ e := by gcongr
      exact roundsOff_infinity hover rfl
    · exact roundsOff_ofScientific hzero e

theorem isFinite_signed (negative : Bool) (x : Float) : (signed negative x).isFinite = x.isFinite := by
  cases negative with
  | false => rfl
  | true => exact isFinite_neg x

theorem Nearest.signed {x : Float} (h : Nearest v x) (negative : Bool) :
    Nearest (signed negative v) (signed negative x) := by
  cases negative with
  | false => exact h
  | true => exact h.neg

theorem isNegative_signed {x : Float} (hfinite : x.isFinite = true) (hx : isNegative x = false)
    (negative : Bool) : isNegative (signed negative x) = negative := by
  cases negative with
  | false => exact hx
  | true => rw [signed, if_pos rfl, isNegative_neg hfinite, hx, Bool.not_false]

theorem RoundsOff.isFinite_iff {x : Float} (h : RoundsOff v x) : x.isFinite = true ↔ v < overflow := by
  constructor
  · intro hfinite
    by_contra hlarge
    exact absurd (h.large (not_lt.1 hlarge)) (by rw [hfinite]; nofun)
  · intro hsmall
    exact (h.small hsmall).1.finite

theorem readReal?_eq_some_iff_nearest {text : String} {x : Float} : readReal? text = some x ↔
    ∃ negative q, RealText text.toList negative q ∧ q < overflow ∧ Nearest (signed negative q) x ∧
      isNegative x = negative := by
  rw [readReal?_eq_some_iff]
  constructor
  · rintro ⟨m, e, hm, rfl, hfinite⟩
    have hround := roundsOff_toFloat m e
    rw [isFinite_signed] at hfinite
    have hsmall := hround.isFinite_iff.1 hfinite
    obtain ⟨hnearest, hpositive⟩ := hround.small hsmall
    exact ⟨_, _, realText_iff.2 ⟨m, e, hm, rfl, rfl⟩, hsmall, hnearest.signed _,
      isNegative_signed hfinite hpositive _⟩
  · rintro ⟨_, _, htext, hsmall, hx, hsign⟩
    obtain ⟨m, e, hm, rfl, rfl⟩ := realText_iff.1 htext
    obtain ⟨hnearest, hpositive⟩ := (roundsOff_toFloat m e).small hsmall
    have hread := isNegative_signed hnearest.finite hpositive (splitSign text.toList).1
    exact ⟨m, e, hm, hx.unique (hnearest.signed _) (hsign.trans hread.symm), hx.finite⟩

theorem isSome_readReal?_iff {text : String} : (readReal? text).isSome = true ↔
    ∃ negative q, RealText text.toList negative q ∧ q < overflow := by
  rw [Option.isSome_iff_exists]
  simp only [readReal?_eq_some_iff]
  constructor
  · rintro ⟨x, m, e, hm, rfl, hfinite⟩
    rw [isFinite_signed, (roundsOff_toFloat m e).isFinite_iff] at hfinite
    exact ⟨_, _, realText_iff.2 ⟨m, e, hm, rfl, rfl⟩, hfinite⟩
  · rintro ⟨_, _, htext, hsmall⟩
    obtain ⟨m, e, hm, rfl, rfl⟩ := realText_iff.1 htext
    rw [← (roundsOff_toFloat _ _).isFinite_iff, ← isFinite_signed (splitSign text.toList).1] at hsmall
    exact ⟨_, m, e, hm, rfl, hsmall⟩

end Decimal

end Schematics
