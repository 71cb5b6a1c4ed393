import Schematics.Proofs.NumberLiterals
import Schematics.Proofs.WrittenReals

/-!
Where the quick rule gives the nearest double. A significand of 53 bits and a power of ten up to the
22nd are doubles, so that one step rounds; zero is zero whatever its exponent is.
-/

namespace Schematics

namespace Decimal

open Float.Model Float.Model.UnpackedFloat

variable {q : ℚ} {x y : Float} {m n : Nat}

theorem Nearest.exact_eq (h : Nearest q x) (hy : y.isFinite = true) (hq : exact y = q) : exact x = q := by
  have hclosest := h.closest y hy
  rw [hq, sub_self, abs_zero] at hclosest
  exact sub_eq_zero.1 (abs_eq_zero.1 (le_antisymm hclosest (abs_nonneg _)))

theorem isFinite_of_exact_pos (hx : 0 < exact x) : x.isFinite = true := by
  obtain ⟨m, e, h, hunpack, -⟩ := exists_unpack_eq hx
  change x.toModel.unpack.isFinite = true
  rw [hunpack]
  rfl

theorem roundsOff_toUInt64 (hzero : m ≠ 0) (hm : m < 2 ^ 64) : RoundsOff m m.toUInt64.toFloat := by
  have hround := (rounded_round (e := 0) hzero).roundsOff
  rw [toFloat_eq hzero hm]
  rwa [zpow_zero, mul_one] at hround

end Decimal

namespace Json

open Decimal

variable {m n : Nat} {e : ℤ}

theorem roundsOff_powerOfTen (n : Nat) : RoundsOff (10 ^ n) (powerOfTen n) := by
  have hround := roundsOff_ofScientific one_ne_zero (n : ℤ)
  rwa [Nat.cast_one, one_mul, zpow_natCast, decide_eq_false (by omega), Int.natAbs_natCast] at hround

theorem ten_pow_lt_overflow (hn : n ≤ 308) : (10 : ℚ) ^ n < overflow := by
  have hlargest : 10 ^ 308 < 18014398509481983 * 2 ^ 970 := by decide +kernel
  calc (10 : ℚ) ^ n ≤ 10 ^ 308 := pow_le_pow_right₀ (by norm_num) hn
    _ < 18014398509481983 * 2 ^ 970 := by exact_mod_cast hlargest
    _ = overflow := by norm_num [overflow]

theorem exact_powerOfTen (hn : n ≤ 22) : exact (powerOfTen n) = 10 ^ n := by
  have hsize : n < Float.exactlyRepresentablePowersOfTen.size := Nat.lt_succ_of_le hn
  have hpower := exact_powers hsize
  have hfinite := isFinite_of_exact_pos (hpower.trans_gt (by positivity))
  obtain ⟨hnearest, -⟩ := (roundsOff_powerOfTen n).small (ten_pow_lt_overflow (by omega))
  exact hnearest.exact_eq hfinite hpower

theorem exact_powerOfTen_pos (hn : n ≤ 308) : 0 < exact (powerOfTen n) := by
  obtain ⟨hnearest, -⟩ := (roundsOff_powerOfTen n).small (ten_pow_lt_overflow hn)
  have hone : exact (powerOfTen 0) = 1 := exact_powerOfTen (Nat.zero_le _)
  have hclosest := hnearest.closest _ (isFinite_of_exact_pos (hone.trans_gt one_pos))
  have hten : (1 : ℚ) ≤ 10 ^ n := one_le_pow₀ (by norm_num)
  rw [hone, abs_sub_comm 1, abs_of_nonneg (by linarith : (0 : ℚ) ≤ 10 ^ n - 1)] at hclosest
  have hbelow := (abs_le.1 hclosest).1
  linarith

theorem short_lt_overflow (hm : m < 2 ^ 53) (he : e.natAbs ≤ 22) : (m : ℚ) * 10 ^ e < overflow := by
  have hcast : (m : ℚ) ≤ 2 ^ 53 := by exact_mod_cast hm.le
  calc (m : ℚ) * 10 ^ e ≤ 2 ^ 53 * 10 ^ (22 : ℤ) := by
        gcongr
        · norm_num
        · omega
    _ ≤ 10 ^ 38 := by norm_num
    _ < overflow := ten_pow_lt_overflow (by decide)

theorem exists_scale?_eq (hzero : m ≠ 0) (hm : m < 2 ^ 53) (he : e.natAbs ≤ 22) :
    ∃ x, scale? m e = some x ∧ Nearest (m * 10 ^ e) x ∧ isNegative x = false := by
  have hone : 1 ≤ exact m.toUInt64.toFloat := by
    rw [exact_toFloat hzero hm]
    exact_mod_cast Nat.one_le_iff_ne_zero.2 hzero
  have hpower := exact_powerOfTen he
  have hpos : 0 < exact (powerOfTen e.natAbs) := exact_powerOfTen_pos (by omega)
  have hsmall := short_lt_overflow hm he
  -- The word and the power are doubles, so that the last step is the only one that rounds.
  rw [scale?]
  dsimp only
  split
  · next hnegative =>
    have hround := roundsOff_div (one_pos.trans_le hone) hpos
    have hvalue : (m : ℚ) / 10 ^ e.natAbs = m * 10 ^ e := by
      rw [div_eq_mul_inv, ← zpow_natCast, ← zpow_neg]
      congr 2
      omega
    rw [exact_toFloat hzero hm, hpower, hvalue] at hround
    rw [divideByPower, if_pos (by omega)]
    exact ⟨_, rfl, hround.small hsmall⟩
  · next hnonneg =>
    have hround := roundsOff_mul hone hpos
    have hvalue : (m : ℚ) * 10 ^ e.natAbs = m * 10 ^ e := by
      rw [← zpow_natCast]
      congr 2
      omega
    rw [exact_toFloat hzero hm, hpower, hvalue] at hround
    obtain ⟨hnearest, hpositive⟩ := hround.small hsmall
    rw [if_neg (by omega), (isNaN_or_isInf_of_isFinite hnearest.finite).2]
    exact ⟨_, rfl, hnearest, hpositive⟩

theorem zero_div_of_exact_pos {x : Float} (hx : 0 < exact x) : 0.0 / x = 0.0 := by
  obtain ⟨m, e, h, hunpack, -⟩ := exists_unpack_eq hx
  change Float.ofModel (Float.Model.pack (.div .binary64 (0.0 : Float).toModel.unpack x.toModel.unpack)) = 0.0
  rw [hunpack]
  rfl

theorem zero_mul_of_exact_pos {x : Float} (hx : 0 < exact x) : 0.0 * x = 0.0 := by
  obtain ⟨m, e, h, hunpack, -⟩ := exists_unpack_eq hx
  change Float.ofModel (Float.Model.pack (.mul .binary64 (0.0 : Float).toModel.unpack x.toModel.unpack)) = 0.0
  rw [hunpack]
  rfl

theorem scale?_zero (e : ℤ) : scale? 0 e = some 0.0 := by
  have hzero : (Nat.toUInt64 0).toFloat = 0.0 := rfl
  rw [scale?, hzero]
  dsimp only
  split
  · rw [divideByPower]
    split
    · next hshort => rw [zero_div_of_exact_pos (exact_powerOfTen_pos hshort)]
    · rfl
  · split
    · rfl
    · rw [zero_mul_of_exact_pos (exact_powerOfTen_pos (by omega))]
      rfl

namespace Literal

variable {n : Literal} {y : Float}

theorem quick?_of_le (h : n.significand ≤ maxSignificand) :
    n.quick? = behind? n.significand (-n.fraction.length) n.mark n.exponent := by
  rw [quick?, gathered_of_le h]
  rw [significand_eq] at h ⊢
  rw [gather_of_le h]
  dsimp only
  congr 1
  omega

theorem quick?_of_short (h : n.significand ≤ maxSignificand) (he : n.exponent.natAbs ≤ maxExponent)
    (hs : n.scale.natAbs ≤ maxExponent) : n.quick? = scale? n.significand n.scale := by
  have hclamp : clampExponent (-n.fraction.length + n.exponent) = n.scale := by
    have hscale : n.scale = -n.fraction.length + n.exponent := by
      rw [scale]
      omega
    have hmin : Int32.minValue.toInt = -2147483648 := rfl
    have hmax : Int32.maxValue.toInt = 2147483647 := rfl
    have hlimit : maxExponent = 2147483647 := rfl
    rw [clampExponent]
    omega
  rw [quick?_of_le h, behind?]
  split
  · next hmark => rw [scale, exponent_eq_zero hmark, zero_sub]
  · rw [raised?, if_pos he, hclamp]

theorem quick?_of_zero (h : n.significand = 0) : n.quick? = some 0.0 := by
  rw [quick?_of_le (by omega), h, behind?]
  split
  · exact scale?_zero _
  · rw [raised?]
    split
    · exact scale?_zero _
    · rw [if_pos (.inl rfl)]

/-- The double that is taken for a number is the nearest one, and missing if there is none. -/
def TakenForNearest (n : Literal) : Prop := ∀ x : Float,
  (parse n.text = .ok (.real x) ∧ x.isFinite = true) ↔
    n.magnitude < overflow ∧ Nearest (signed n.negative n.magnitude) x ∧ isNegative x = n.negative

theorem takenForNearest (hparse : parse n.text = .ok (.real (signed n.negative y)))
    (hsmall : n.magnitude < overflow) (hy : Nearest n.magnitude y) (hsign : isNegative y = false) :
    n.TakenForNearest := by
  intro x
  have hsigned := isNegative_signed hy.finite hsign n.negative
  constructor
  · rintro ⟨hx, -⟩
    obtain rfl : signed n.negative y = x := by
      injection hparse.symm.trans hx with hreal
      injection hreal
    exact ⟨hsmall, hy.signed _, hsigned⟩
  · rintro ⟨-, hnearest, hnegative⟩
    obtain rfl := hnearest.unique (hy.signed _) (hnegative.trans hsigned.symm)
    exact ⟨hparse, hnearest.finite⟩

theorem nearest_zero : Nearest 0 0.0 := by
  have hzero : exact 0.0 = 0 := rfl
  refine ⟨rfl, fun y _ => ?_, fun _ _ _ _ => Even.zero⟩
  rw [hzero, sub_self, abs_zero]
  exact abs_nonneg _

theorem takenForNearest_of_quick? {x : Float} (h : ¬n.IsWhole) (hquick : n.quick? = some x)
    (hsmall : n.magnitude < overflow) (hx : Nearest n.magnitude x) (hsign : isNegative x = false) :
    n.TakenForNearest :=
  takenForNearest ((parse_eq_ok_iff h).2 ⟨x, hquick, rfl⟩) hsmall hx hsign

theorem exists_int_or_takenForNearest (h : n.IsWhole) :
    (∃ i, parse n.text = .ok (.int i)) ∨ n.TakenForNearest := by
  obtain ⟨-, hparse⟩ | ⟨-, -, hparse⟩ := h.parse_eq_or
  · exact .inl ⟨_, hparse⟩
  · right
    obtain ⟨-, hle, hmagnitude⟩ := h.significand_le
    have hlt : n.significand < 2 ^ 64 := Nat.lt_succ_of_le hle
    have hsmall : n.magnitude < overflow := by
      have hcast : (n.significand : ℚ) ≤ 10 ^ 20 := by
        exact_mod_cast hlt.le.trans (by norm_num)
      rw [hmagnitude]
      exact hcast.trans_lt (ten_pow_lt_overflow (by decide))
    by_cases hzero : n.significand = 0
    · rw [hzero] at hparse
      refine takenForNearest hparse hsmall ?_ rfl
      rw [hmagnitude, hzero]
      exact nearest_zero
    · have hround := roundsOff_toUInt64 hzero hlt
      rw [← hmagnitude] at hround
      obtain ⟨hnearest, hpositive⟩ := hround.small hsmall
      exact takenForNearest hparse hsmall hnearest hpositive

theorem takenForNearest_of_zero (h : ¬n.IsWhole) (hzero : n.significand = 0) : n.TakenForNearest := by
  have hmagnitude : n.magnitude = 0 := by rw [magnitude, hzero, Nat.cast_zero, zero_mul]
  refine takenForNearest_of_quick? h (quick?_of_zero hzero) ?_ (hmagnitude ▸ nearest_zero) rfl
  rw [hmagnitude]
  exact lt_of_le_of_lt zero_le_one (ten_pow_lt_overflow (n := 0) (by decide))

def IsShort (n : Literal) : Prop :=
  n.significand < 2 ^ 53 ∧ n.scale.natAbs ≤ 22 ∧ n.exponent.natAbs ≤ maxExponent

theorem takenForNearest_of_short (h : ¬n.IsWhole) (hshort : n.IsShort) : n.TakenForNearest := by
  obtain ⟨hlt, hscale, hexponent⟩ := hshort
  by_cases hzero : n.significand = 0
  · exact takenForNearest_of_zero h hzero
  · obtain ⟨x, hx, hnearest, hpositive⟩ := exists_scale?_eq hzero hlt hscale
    have hquick := quick?_of_short (hlt.le.trans (by decide)) hexponent (hscale.trans (by decide))
    exact takenForNearest_of_quick? h (hquick.trans hx) (short_lt_overflow hlt hscale) hnearest
      hpositive

end Literal

end Json

end Schematics
