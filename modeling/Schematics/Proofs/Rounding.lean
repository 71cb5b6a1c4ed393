import Schematics.Decimal.Read
import Schematics.Proofs.Doubles

/-!
Decimals are rounded to the nearest double. A mantissa is cut off with a bit for the half that it
loses and one for what is lost below that, which is all that rounding to even has to know.
-/

namespace Schematics

namespace Decimal

open Float.Model Float.Model.UnpackedFloat

structure Stands (em : ExtendedMantissa) (v : ℚ) : Prop where
  low : (em.mantissa : ℚ) ≤ v
  high : v < em.mantissa + 1
  half : em.roundBit = true ↔ (em.mantissa : ℚ) + 1 / 2 ≤ v
  rest : em.stickyBit = true ↔ v ≠ em.mantissa ∧ v ≠ em.mantissa + 1 / 2

structure RoundsTo (v : ℚ) (n : Nat) : Prop where
  near : |(n : ℚ) - v| ≤ 1 / 2
  even : |(n : ℚ) - v| = 1 / 2 → Even n

variable {em : ExtendedMantissa} {v : ℚ} {n : Nat}

theorem Stands.inexact_iff (h : Stands em v) :
    (em.roundBit || em.stickyBit) = true ↔ v ≠ em.mantissa := by
  rw [Bool.or_eq_true, h.half, h.rest]
  constructor
  · rintro (hhalf | ⟨hne, -⟩) heq
    · linarith
    · exact hne heq
  · intro hne
    by_cases hhalf : (em.mantissa : ℚ) + 1 / 2 ≤ v
    · exact .inl hhalf
    · exact .inr ⟨hne, fun heq => hhalf heq.ge⟩

theorem Stands.shiftRightOne (h : Stands em v) : Stands em.shiftRightOne (v / 2) := by
  have hlow := h.low
  have hhigh := h.high
  have hmantissa : em.shiftRightOne.mantissa = em.mantissa / 2 := rfl
  have hinexact : em.shiftRightOne.stickyBit = true ↔ v ≠ em.mantissa := h.inexact_iff
  -- An even mantissa loses nothing, an odd one the half that the round bit takes over.
  obtain hbit | hbit := Nat.mod_two_eq_zero_or_one em.mantissa
  · have hdiv : (em.mantissa : ℚ) = 2 * (em.mantissa / 2 : Nat) := by
      exact_mod_cast (Nat.two_mul_div_two_of_even (Nat.even_iff.2 hbit)).symm
    have hround : em.shiftRightOne.roundBit = false := by simp [ExtendedMantissa.shiftRightOne, hbit]
    refine ⟨?_, ?_, ?_, ?_⟩ <;> rw [hmantissa]
    · linarith
    · linarith
    · rw [hround]
      exact iff_of_false nofun fun hle => by linarith
    · rw [hinexact]
      exact ⟨fun hne => ⟨fun heq => hne (by linarith), fun heq => by linarith⟩,
        fun hne heq => hne.1 (by linarith)⟩
  · have hdiv : (em.mantissa : ℚ) = 2 * (em.mantissa / 2 : Nat) + 1 := by
      exact_mod_cast (Nat.two_mul_div_two_add_one_of_odd (Nat.odd_iff.2 hbit)).symm
    have hround : em.shiftRightOne.roundBit = true := by simp [ExtendedMantissa.shiftRightOne, hbit]
    refine ⟨?_, ?_, ?_, ?_⟩ <;> rw [hmantissa]
    · linarith
    · linarith
    · rw [hround]
      exact iff_of_true rfl (by linarith)
    · rw [hinexact]
      exact ⟨fun hne => ⟨fun heq => by linarith, fun heq => hne (by linarith)⟩,
        fun hne heq => hne.2 (by linarith)⟩

theorem Stands.shiftRight (h : Stands em v) (k : Nat) : Stands (em >>> k) (v / 2 ^ k) := by
  change Stands (k.repeat ExtendedMantissa.shiftRightOne em) _
  induction k with
  | zero => simpa [Nat.repeat] using h
  | succ k ih =>
    have hnext := ih.shiftRightOne
    rwa [div_div, ← pow_succ] at hnext

theorem Stands.roundsTo (h : Stands em v) : RoundsTo v em.roundedMantissa := by
  obtain ⟨m, half, rest⟩ := em
  obtain ⟨hlow, hhigh, hhalf, hrest⟩ := h
  dsimp only at hlow hhigh hhalf hrest
  cases half with
  | false =>
    have hbelow : v < m + 1 / 2 := not_le.1 (hhalf.not.1 nofun)
    have hrounded : (⟨m, false, rest⟩ : ExtendedMantissa).roundedMantissa = m := by cases rest <;> rfl
    rw [hrounded]
    have hdist : |(m : ℚ) - v| = v - m := by rw [abs_sub_comm, abs_of_nonneg (by linarith)]
    constructor <;> rw [hdist] <;> intros <;> linarith
  | true =>
    have habove : (m : ℚ) + 1 / 2 ≤ v := hhalf.1 rfl
    cases rest with
    | true =>
      have hne : v ≠ m + 1 / 2 := (hrest.1 rfl).2
      have hlt : (m : ℚ) + 1 / 2 < v := lt_of_le_of_ne habove hne.symm
      have hdist : |((m + 1 : Nat) : ℚ) - v| = m + 1 - v := by
        push_cast
        exact abs_of_nonneg (by linarith)
      have hrounded : (⟨m, true, true⟩ : ExtendedMantissa).roundedMantissa = m + 1 := rfl
      rw [hrounded]
      constructor <;> rw [hdist] <;> intros <;> linarith
    | false =>
      have htie : v = m + 1 / 2 := by
        by_contra hne
        exact nomatch hrest.2 ⟨fun heq => by linarith, hne⟩
      have hrounded : (⟨m, true, false⟩ : ExtendedMantissa).roundedMantissa = m + m % 2 := rfl
      have heven : Even (m + m % 2) := Nat.even_iff.2 (by omega)
      rw [hrounded, htie]
      refine ⟨?_, fun _ => heven⟩
      obtain hbit | hbit := Nat.mod_two_eq_zero_or_one m <;> rw [hbit] <;> push_cast <;>
        rw [abs_le] <;> constructor <;> linarith

namespace RoundsTo

theorem le_of_le (h : RoundsTo v n) {k : Nat} (hk : v ≤ k) : n ≤ k := by
  have hnear := (abs_le.1 h.near).2
  by_contra hlt
  have hsucc : ((k + 1 : Nat) : ℚ) ≤ n := by exact_mod_cast Nat.succ_le_of_lt (not_le.1 hlt)
  push_cast at hsucc
  linarith

theorem ge_of_ge (h : RoundsTo v n) {k : Nat} (hk : k ≤ v) : k ≤ n := by
  have hnear := (abs_le.1 h.near).1
  by_contra hlt
  have hsucc : ((n + 1 : Nat) : ℚ) ≤ k := by exact_mod_cast Nat.succ_le_of_lt (not_le.1 hlt)
  push_cast at hsucc
  linarith

theorem half_le (h : RoundsTo v n) {k : ℤ} (hne : (k : ℚ) ≠ n) : 1 / 2 ≤ |(k : ℚ) - v| := by
  have happart : (1 : ℚ) ≤ |(k : ℚ) - n| := by
    have hint : k - n ≠ 0 := fun h0 => hne (by exact_mod_cast sub_eq_zero.1 h0)
    exact_mod_cast Int.one_le_abs hint
  have htriangle := abs_sub_le (k : ℚ) v n
  have hnear := h.near
  rw [abs_sub_comm] at hnear
  linarith

theorem closest (h : RoundsTo v n) (k : ℤ) : |(n : ℚ) - v| ≤ |(k : ℚ) - v| := by
  by_cases heq : (k : ℚ) = n
  · rw [heq]
  · exact h.near.trans (h.half_le heq)

theorem even_of_tie (h : RoundsTo v n) {k : ℤ} (hne : (k : ℚ) ≠ n)
    (htie : |(k : ℚ) - v| = |(n : ℚ) - v|) : Even n :=
  h.even (le_antisymm h.near (htie ▸ h.half_le hne))

end RoundsTo

structure LastPlace (v : ℚ) (t : ℤ) : Prop where
  least : -1074 ≤ t
  below : v < 2 ^ (t + 53)
  normal : t = -1074 ∨ 2 ^ (t + 52) ≤ v

def settled (n : Nat) (t : ℤ) : UnpackedFloat :=
  if h : n = 0 then .zero .positive
  else if n < 2 ^ 53 then .finite .positive n t (Nat.pos_of_ne_zero h)
  else .finite .positive (2 ^ 52) (t + 1) (by decide)

def Rounded (v : ℚ) (f : UnpackedFloat) : Prop :=
  ∃ t n, LastPlace v t ∧ RoundsTo (v / 2 ^ t) n ∧ f = settled n t

theorem targetExponent_eq (m : Nat) (e : ℤ) :
    Format.binary64.targetExponent (totalExponent m e) = max (m.log2 + 1 + e - 53) (-1074) := rfl

theorem mantissa_ofMantissaAndAccuracy (m : Nat) (a : Accuracy) :
    (ExtendedMantissa.ofMantissaAndAccuracy m a).mantissa = m := by
  cases a with
  | exact => rfl
  | inexact o => cases o <;> rfl

theorem lastPlace_of_stands {m : Nat} {e : ℤ} {a : Accuracy}
    (h : Stands (.ofMantissaAndAccuracy m a) (v / 2 ^ e))
    (he : e ≤ Format.binary64.targetExponent (totalExponent m e)) :
    LastPlace v (Format.binary64.targetExponent (totalExponent m e)) := by
  have hpos : (0 : ℚ) < 2 ^ e := by positivity
  have hlow := h.low
  have hhigh := h.high
  rw [mantissa_ofMantissaAndAccuracy] at hlow hhigh
  rw [le_div_iff₀ hpos] at hlow
  rw [div_lt_iff₀ hpos] at hhigh
  rw [targetExponent_eq] at he ⊢
  refine ⟨le_max_right _ _, ?_, ?_⟩
  · have hlog : (m : ℚ) + 1 ≤ 2 ^ ((m.log2 : ℤ) + 1) := by
      exact_mod_cast Nat.succ_le_of_lt (Nat.lt_log2_self (n := m))
    calc v < (m + 1) * 2 ^ e := hhigh
      _ ≤ 2 ^ ((m.log2 : ℤ) + 1) * 2 ^ e := by gcongr
      _ = 2 ^ ((m.log2 : ℤ) + 1 + e) := (zpow_add₀ two_ne_zero _ _).symm
      _ ≤ _ := zpow_le_zpow_right₀ one_le_two (by omega)
  · by_cases hleast : max ((m.log2 : ℤ) + 1 + e - 53) (-1074) = -1074
    · exact .inl hleast
    · right
      have hne : m ≠ 0 := by
        rintro rfl
        simp only [Nat.log2_zero] at he hleast
        omega
      have hlog : (2 : ℚ) ^ (m.log2 : ℤ) ≤ m := by exact_mod_cast Nat.log2_self_le hne
      calc (2 : ℚ) ^ (max ((m.log2 : ℤ) + 1 + e - 53) (-1074) + 52) = 2 ^ ((m.log2 : ℤ) + e) := by
            congr 1
            omega
        _ = 2 ^ (m.log2 : ℤ) * 2 ^ e := zpow_add₀ two_ne_zero _ _
        _ ≤ m * 2 ^ e := by gcongr
        _ ≤ v := hlow

theorem shiftToTargetExponent_of_small {t : ℤ} (hn : n < 2 ^ 53) (ht : -1074 ≤ t) :
    shiftToTargetExponent Format.binary64 n t .exact = (⟨n, false, false⟩, t) := by
  have hlog : n.log2 ≤ 52 := by
    by_cases hzero : n = 0
    · simp [hzero]
    · exact Nat.lt_succ_iff.1 ((Nat.log2_lt hzero).2 hn)
  have hshift : (Format.binary64.targetExponent (totalExponent n t) - t).toNat = 0 := by
    rw [targetExponent_eq]
    omega
  rw [shiftToTargetExponent, shiftToExponent, hshift]
  exact congrArg (Prod.mk _) (add_zero t)

theorem shiftToTargetExponent_of_power {t : ℤ} (ht : -1074 ≤ t) :
    shiftToTargetExponent Format.binary64 (2 ^ 53) t .exact = (⟨2 ^ 52, false, false⟩, t + 1) := by
  have hshift : (Format.binary64.targetExponent (totalExponent (2 ^ 53) t) - t).toNat = 1 := by
    rw [targetExponent_eq, Nat.log2_two_pow]
    omega
  rw [shiftToTargetExponent, shiftToExponent, hshift]
  rfl

theorem LastPlace.le_two_pow {t : ℤ} (h : LastPlace v t) (hn : RoundsTo (v / 2 ^ t) n) :
    n ≤ 2 ^ 53 := by
  apply hn.le_of_le
  have hpos : (0 : ℚ) < 2 ^ t := by positivity
  rw [div_le_iff₀ hpos]
  refine h.below.le.trans_eq ?_
  rw [add_comm, zpow_add₀ two_ne_zero]
  norm_num

theorem rounded_roundWithAccuracy {m : Nat} {e : ℤ} {a : Accuracy}
    (h : Stands (.ofMantissaAndAccuracy m a) (v / 2 ^ e))
    (he : e ≤ Format.binary64.targetExponent (totalExponent m e)) :
    Rounded v (roundWithAccuracy Format.binary64 .positive m e a) := by
  have hplace := lastPlace_of_stands h he
  generalize ht : Format.binary64.targetExponent (totalExponent m e) = t at he hplace
  let em := ExtendedMantissa.ofMantissaAndAccuracy m a >>> (t - e).toNat
  have hstands : Stands em (v / 2 ^ t) := by
    have hshift := h.shiftRight (t - e).toNat
    rwa [div_div, ← zpow_natCast, ← zpow_add₀ two_ne_zero, Int.toNat_of_nonneg (by omega),
      add_sub_cancel] at hshift
  have hn := hstands.roundsTo
  refine ⟨t, em.roundedMantissa, hplace, hn, ?_⟩
  have hfirst : shiftToTargetExponent Format.binary64 m e a = (em, t) := by
    rw [shiftToTargetExponent, shiftToExponent, ht]
    exact congrArg (Prod.mk em) (by omega)
  rw [roundWithAccuracy, hfirst]
  obtain hsmall | hpower := (hplace.le_two_pow hn).lt_or_eq
  · simp only [shiftToTargetExponent_of_small hsmall hplace.least, settled, hsmall, if_true]
  · simp only [hpower, shiftToTargetExponent_of_power hplace.least, settled]
    rfl

theorem dist_mul_zpow (k v : ℚ) (t : ℤ) : |k * 2 ^ t - v| = 2 ^ t * |k - v / 2 ^ t| := by
  have hpos : (0 : ℚ) < 2 ^ t := by positivity
  rw [← abs_of_pos hpos, ← abs_mul, abs_of_pos hpos, mul_sub, mul_div_cancel₀ _ hpos.ne', mul_comm]

theorem mul_zpow_lt {k : ℚ} {e t : ℤ} (hk : k < 2 ^ 53) (he : e < t) : k * 2 ^ e < 2 ^ (t + 52) := by
  calc k * 2 ^ e < 2 ^ 53 * 2 ^ e := by gcongr
    _ = 2 ^ (53 + e) := by rw [zpow_add₀ two_ne_zero]; norm_num
    _ ≤ 2 ^ (t + 52) := zpow_le_zpow_right₀ one_le_two (by omega)

theorem exact_multiple_or_lt {y : Float} (hy : y.isFinite = true) (t : ℤ) :
    (∃ k : ℤ, exact y = k * 2 ^ t ∧ (Even (significand y) → Even k)) ∨
      t ≠ -1074 ∧ exact y < 2 ^ (t + 52) := by
  have hfinite : y.toModel.unpack.isFinite = true := hy
  have hfits : Fits y.toModel.unpack := fits_unpack _
  rw [exact, significand]
  cases hu : y.toModel.unpack with
  | zero s => exact .inl ⟨0, by simp [unpackedValue], fun _ => Even.zero⟩
  | infinity s | notANumber => rw [hu] at hfinite; cases hfinite
  | finite s m e hpos =>
    rw [hu] at hfits
    obtain ⟨hm, hleast, -, -⟩ := hfits
    by_cases hte : t ≤ e
    · refine .inl ⟨s.apply m * 2 ^ (e - t).toNat, ?_, fun heven => Even.mul_right ?_ _⟩
      · have hexponent : (2 : ℚ) ^ e = 2 ^ (e - t).toNat * 2 ^ t := by
          rw [← zpow_natCast, Int.toNat_of_nonneg (by omega), ← zpow_add₀ two_ne_zero,
            sub_add_cancel]
        rw [unpackedValue, hexponent]
        push_cast
        ring
      · have hm : Even (m : ℤ) := (Int.even_coe_nat m).2 heven
        cases s with
        | positive => exact hm
        | negative => exact hm.neg
    · have hlt : ((s.apply m : ℤ) : ℚ) < 2 ^ 53 := by
        have hint : s.apply m < 2 ^ 53 := by
          cases s <;> simp only [Sign.apply] <;> omega
        exact_mod_cast hint
      exact .inr ⟨by omega, mul_zpow_lt hlt (not_le.1 hte)⟩

theorem unpackedValue_settled {t : ℤ} (hn : n ≤ 2 ^ 53) :
    unpackedValue (settled n t) = n * 2 ^ t := by
  unfold settled
  split
  · next hzero => simp [hzero, unpackedValue]
  · split
    · simp [unpackedValue, Sign.apply]
    · next hnsmall =>
      obtain rfl : n = 2 ^ 53 := by omega
      simp only [unpackedValue, Sign.apply]
      rw [zpow_add₀ two_ne_zero]
      norm_num
      ring

theorem even_settled {t : ℤ} (hn : Even n) : Even (unpackedSignificand (settled n t)) := by
  unfold settled
  split
  · exact Even.zero
  · split
    · exact hn
    · exact ⟨2 ^ 51, rfl⟩

theorem isNegative_settled (n : Nat) (t : ℤ) : (unpackedSign (settled n t) == .negative) = false := by
  unfold settled
  split
  · rfl
  · split <;> rfl

theorem isFinite_settled (n : Nat) (t : ℤ) : (settled n t).isFinite = true := by
  unfold settled
  split
  · rfl
  · split <;> rfl

def overflow : ℚ := (2 ^ 54 - 1) * 2 ^ 970

structure RoundsOff (v : ℚ) (x : Float) : Prop where
  small : v < overflow → Nearest v x ∧ isNegative x = false
  large : overflow ≤ v → x.isFinite = false

theorem LastPlace.nearest {t : ℤ} (hplace : LastPlace v t) (hn : RoundsTo (v / 2 ^ t) n)
    (hfits : Fits (settled n t)) :
    Nearest v (.ofModel (Float.Model.pack (settled n t))) := by
  have hpos : (0 : ℚ) < 2 ^ t := by positivity
  have hexact : exact (.ofModel (Float.Model.pack (settled n t))) = n * 2 ^ t := by
    rw [exact_ofModel_pack hfits, unpackedValue_settled (hplace.le_two_pow hn)]
  have hbelow {y : Float} (hlt : t ≠ -1074 ∧ exact y < 2 ^ (t + 52)) :
      |(n : ℚ) * 2 ^ t - v| < |exact y - v| := by
    have hnormal := hplace.normal.resolve_left hlt.1
    have hpower : (2 : ℚ) ^ (t + 52) = ((2 ^ 52 : ℤ) : ℚ) * 2 ^ t := by
      rw [add_comm, zpow_add₀ two_ne_zero]
      norm_num
    calc |(n : ℚ) * 2 ^ t - v| ≤ |((2 ^ 52 : ℤ) : ℚ) * 2 ^ t - v| := by
          rw [dist_mul_zpow, dist_mul_zpow]
          exact mul_le_mul_of_nonneg_left (hn.closest _) hpos.le
      _ = v - 2 ^ (t + 52) := by
          rw [← hpower, abs_sub_comm, abs_of_nonneg (by linarith)]
      _ < v - exact y := by linarith
      _ ≤ |exact y - v| := by
          rw [abs_sub_comm]
          exact le_abs_self _
  refine ⟨?_, fun y hy => ?_, fun y hy hne htie => ?_⟩
  · rw [isFinite_ofModel_pack hfits, isFinite_settled]
  · rw [hexact]
    obtain ⟨k, hk, -⟩ | hlt := exact_multiple_or_lt hy t
    · rw [hk, dist_mul_zpow, dist_mul_zpow]
      exact mul_le_mul_of_nonneg_left (hn.closest k) hpos.le
    · exact (hbelow hlt).le
  · rw [hexact] at hne htie
    obtain ⟨k, hk, -⟩ | hlt := exact_multiple_or_lt hy t
    · rw [hk, dist_mul_zpow, dist_mul_zpow] at htie
      rw [significand, unpack_ofModel_pack hfits]
      refine even_settled (hn.even_of_tie (k := k) (fun heq => hne ?_)
        (mul_left_cancel₀ hpos.ne' htie))
      rw [hk, heq]
    · exact absurd htie (hbelow hlt).ne'

theorem overflow_eq (k : ℤ) : overflow = (2 ^ 54 - 1) * 2 ^ (970 - k) * 2 ^ k := by
  rw [mul_assoc, ← zpow_add₀ two_ne_zero, sub_add_cancel]
  rfl

theorem overflow_lt : overflow < 2 ^ (1024 : ℤ) := by
  rw [overflow_eq 1024]
  exact mul_lt_of_lt_one_left (by positivity) (by norm_num)

theorem le_overflow : 2 ^ (1023 : ℤ) ≤ overflow := by
  rw [overflow_eq 1023]
  exact le_mul_of_one_le_left (by positivity) (by norm_num)

theorem LastPlace.le_of_lt_overflow {t : ℤ} (hplace : LastPlace v t) (hv : v < overflow) : t ≤ 971 := by
  by_contra ht
  have hnormal := hplace.normal.resolve_left (by omega)
  have hpow : (2 : ℚ) ^ (1024 : ℤ) ≤ 2 ^ (t + 52) := zpow_le_zpow_right₀ one_le_two (by omega)
  exact absurd (hv.trans overflow_lt) (not_lt.2 (hpow.trans hnormal))

theorem LastPlace.le_of_overflow_le {t : ℤ} (hplace : LastPlace v t) (hv : overflow ≤ v) : 971 ≤ t := by
  by_contra ht
  have hpow : (2 : ℚ) ^ (t + 53) ≤ 2 ^ (1023 : ℤ) := zpow_le_zpow_right₀ one_le_two (by omega)
  exact absurd hplace.below (not_lt.2 (hpow.trans (le_overflow.trans hv)))

theorem LastPlace.normal_le {t : ℤ} (hplace : LastPlace v t) (hn : RoundsTo (v / 2 ^ t) n) :
    2 ^ 52 ≤ n ∨ t = -1074 := by
  refine hplace.normal.symm.imp_left fun hnormal => hn.ge_of_ge ?_
  have hpos : (0 : ℚ) < 2 ^ t := by positivity
  rw [le_div_iff₀ hpos]
  refine Eq.trans_le ?_ hnormal
  rw [add_comm, zpow_add₀ two_ne_zero]
  norm_num

theorem fits_settled {t : ℤ} (hleast : -1074 ≤ t) (hnormal : 2 ^ 52 ≤ n ∨ t = -1074)
    (h : t < 971 ∨ t = 971 ∧ n < 2 ^ 53) : Fits (settled n t) := by
  unfold settled
  split
  · trivial
  · split
    · next hsmall => exact ⟨hsmall, hleast, by omega, hnormal⟩
    · exact ⟨by decide, by omega, by omega, .inl le_rfl⟩

theorem infinite_settled {t : ℤ} (hn : n ≠ 0) (h : 971 < t ∨ t = 971 ∧ 2 ^ 53 ≤ n) :
    (Float.ofModel (Float.Model.pack (settled n t))).toModel.unpack = .infinity .positive := by
  unfold settled
  rw [dif_neg hn]
  split
  · next hsmall => exact unpack_pack_of_large (Nat.pos_of_ne_zero hn) (by omega)
  · exact unpack_pack_of_large (by decide) (by omega)

theorem lt_overflow_iff : v < overflow ↔ v / 2 ^ (971 : ℤ) < 2 ^ 53 - 1 / 2 := by
  have hpos : (0 : ℚ) < 2 ^ (971 : ℤ) := by positivity
  have hhalf : ((2 : ℚ) ^ 54 - 1) * 2 ^ ((970 : ℤ) - 971) = 2 ^ 53 - 1 / 2 := by norm_num
  rw [overflow_eq 971, hhalf, div_lt_iff₀ hpos]

theorem LastPlace.fits_iff {t : ℤ} (hplace : LastPlace v t) (hn : RoundsTo (v / 2 ^ t) n) :
    v < overflow ↔ t < 971 ∨ t = 971 ∧ n < 2 ^ 53 := by
  obtain hlt | rfl | hlt := lt_trichotomy t 971
  · refine iff_of_true ?_ (.inl hlt)
    by_contra hge
    exact absurd (hplace.le_of_overflow_le (not_lt.1 hge)) (by omega)
  · rw [lt_overflow_iff]
    generalize v / 2 ^ (971 : ℤ) = w at hn
    constructor
    · intro hw
      have hcast : (n : ℚ) < (2 ^ 53 : Nat) := by
        have hnear := (abs_le.1 hn.near).2
        push_cast
        linarith
      exact .inr ⟨rfl, by exact_mod_cast hcast⟩
    · rintro (hlt | ⟨-, hsmall⟩)
      · exact absurd hlt (lt_irrefl _)
      · -- Half way between an odd number and a power of two, the odd one is not taken.
        have hcast : (n : ℚ) + 1 ≤ (2 ^ 53 : Nat) := by exact_mod_cast hsmall
        have hnear := (abs_le.1 hn.near).1
        push_cast at hcast
        refine lt_of_le_of_ne (by linarith) fun heq => ?_
        have hmax : n = 2 ^ 53 - 1 := by
          have hge : 2 ^ 53 - 1 ≤ n := hn.ge_of_ge (by rw [heq]; norm_num)
          omega
        have heven : Even n := hn.even (by rw [heq, hmax]; norm_num [abs_of_neg])
        rw [hmax] at heven
        exact absurd heven (by decide)
  · refine iff_of_false (fun hv => ?_) (by omega)
    exact absurd (hplace.le_of_lt_overflow hv) (by omega)

theorem Rounded.fits {f : UnpackedFloat} (h : Rounded v f) (hv : v < overflow) : Fits f := by
  obtain ⟨t, n, hplace, hn, rfl⟩ := h
  exact fits_settled hplace.least (hplace.normal_le hn) ((hplace.fits_iff hn).1 hv)

theorem Rounded.roundsOff {f : UnpackedFloat} (h : Rounded v f) :
    RoundsOff v (.ofModel (Float.Model.pack f)) := by
  have hfits := h.fits
  obtain ⟨t, n, hplace, hn, rfl⟩ := h
  constructor
  · intro hv
    refine ⟨hplace.nearest hn (hfits hv), ?_⟩
    rw [isNegative, unpack_ofModel_pack (hfits hv), isNegative_settled]
  · intro hv
    have hnormal := hplace.normal_le hn
    have hlarge := (hplace.fits_iff hn).not.1 (not_lt.2 hv)
    change (Float.ofModel (Float.Model.pack (settled n t))).toModel.unpack.isFinite = false
    rw [infinite_settled (by omega) (by omega)]
    rfl

theorem Rounded.unpackedValue_eq {f : UnpackedFloat} (h : Rounded v f) {j : Nat} {i : ℤ}
    (hv : v = j * 2 ^ i) (hj : j < 2 ^ 53) (hi : -1074 ≤ i) : unpackedValue f = v := by
  obtain ⟨t, n, hplace, hn, rfl⟩ := h
  have hpos : (0 : ℚ) < 2 ^ t := by positivity
  have hti : t ≤ i := by
    obtain rfl | hnormal := hplace.normal
    · exact hi
    · have hcast : (j : ℚ) < 2 ^ 53 := by exact_mod_cast hj
      by_contra hlt
      exact absurd (hv ▸ hnormal) (not_le.2 (mul_zpow_lt hcast (not_le.1 hlt)))
  have hwhole : v / 2 ^ t = ((j * 2 ^ (i - t).toNat : ℤ) : ℚ) := by
    rw [hv, mul_div_assoc, ← zpow_sub₀ two_ne_zero]
    push_cast
    rw [← zpow_natCast, Int.toNat_of_nonneg (by omega)]
  have hsame : (n : ℚ) = v / 2 ^ t := by
    have hclosest := hn.closest (j * 2 ^ (i - t).toNat)
    rw [← hwhole, sub_self, abs_zero] at hclosest
    exact sub_eq_zero.1 (abs_eq_zero.1 (le_antisymm hclosest (abs_nonneg _)))
  rw [unpackedValue_settled (hplace.le_two_pow hn), hsame, div_mul_cancel₀ _ hpos.ne']

theorem rounded_zero (hv : 0 ≤ v) (htiny : v ≤ 2 ^ (-1075 : ℤ)) : Rounded v (.zero .positive) := by
  have hhalf : v / 2 ^ (-1074 : ℤ) ≤ 1 / 2 := by
    rw [div_le_iff₀ (by positivity), one_div, ← zpow_neg_one, ← zpow_add₀ two_ne_zero]
    exact htiny
  have hnonneg : 0 ≤ v / 2 ^ (-1074 : ℤ) := by positivity
  refine ⟨-1074, 0, ⟨le_rfl, ?_, .inl rfl⟩, ⟨?_, fun _ => Even.zero⟩, rfl⟩
  · exact htiny.trans_lt (zpow_lt_zpow_right₀ one_lt_two (by decide))
  · rw [Nat.cast_zero, zero_sub, abs_neg, abs_of_nonneg hnonneg]
    exact hhalf

end Decimal

end Schematics
