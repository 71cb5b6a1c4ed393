import Schematics.Decimal.Layout
import Schematics.Proofs.Conversion

/-!
The digits that a double is written with. They stand for a number no farther from the double than
half way to the next ones, and a number that close has no other nearest double.
-/

namespace Schematics

namespace Decimal

open Float.Model Float.Model.UnpackedFloat

theorem toNat_exponentBits (bits : UInt64) : ((bits >>> 52) &&& 0x7FF).toNat =
    (@unpackExponent Format.binary64 bits.toBitVec).toNat := by
  simp only [unpackExponent, BitVec.toNat_cast, BitVec.extractLsb_toNat, UInt64.toNat_and,
    UInt64.toNat_shiftRight]
  exact Nat.and_two_pow_sub_one_eq_mod _ 11

theorem toNat_significandBits (bits : UInt64) : (bits &&& 0xFFFFFFFFFFFFF).toNat =
    (@unpackMantissa Format.binary64 bits.toBitVec).toNat := by
  simp only [unpackMantissa, BitVec.toNat_cast, BitVec.extractLsb_toNat, UInt64.toNat_and]
  exact Nat.and_two_pow_sub_one_eq_mod _ 52

theorem toNat_signBit (bits : UInt64) : (bits >>> 63).toNat =
    (@unpackSign Format.binary64 bits.toBitVec).toNat := by
  have hlt : bits.toNat < 2 ^ 64 := bits.toBitVec.isLt
  simp only [unpackSign, BitVec.toNat_cast, BitVec.extractLsb_toNat, UInt64.toNat_shiftRight]
  change bits.toNat >>> 63 = bits.toNat >>> 63 % 2 ^ 1
  rw [Nat.shiftRight_eq_div_pow]
  omega

theorem ofBits_eq (bits : UInt64) {e m : Nat}
    (he : (@unpackExponent Format.binary64 bits.toBitVec).toNat = e)
    (hm : (@unpackMantissa Format.binary64 bits.toBitVec).toNat = m) :
    Binary.ofBits bits = if e = 0 then ⟨m, -1074, false⟩
      else ⟨2 ^ 52 + m, e - 1075, m = 0 && 1 < e⟩ := by
  subst he hm
  simp only [Binary.ofBits, toNat_exponentBits, toNat_significandBits]
  rfl

theorem unpack_eq_of_isFinite {x : Float} (hx : x.isFinite = true) :
    ((Binary.ofBits x.toBits).significand = 0 ∧
        x.toModel.unpack = .zero (.ofBitVec (@unpackSign Format.binary64 x.toBits.toBitVec))) ∨
      ∃ h, x.toModel.unpack = .finite (.ofBitVec (@unpackSign Format.binary64 x.toBits.toBitVec))
        (Binary.ofBits x.toBits).significand (Binary.ofBits x.toBits).exponent h := by
  have hfinite : x.toModel.unpack.isFinite = true := hx
  have hunpack := unpack_packComponents
    (Sign.ofBitVec (@unpackSign Format.binary64 x.toBits.toBitVec))
    (@unpackExponent Format.binary64 x.toBits.toBitVec)
    (@unpackMantissa Format.binary64 x.toBits.toBitVec)
  rw [packComponents_unpack] at hunpack
  have heq : x.toModel.unpack = _ := hunpack
  rw [heq] at hfinite ⊢
  have hbits := ofBits_eq x.toBits rfl rfl
  generalize Sign.ofBitVec (@unpackSign Format.binary64 x.toBits.toBitVec) = s at hfinite hbits ⊢
  generalize @unpackExponent Format.binary64 x.toBits.toBitVec = e at hfinite hbits ⊢
  generalize @unpackMantissa Format.binary64 x.toBits.toBitVec = m at hfinite hbits ⊢
  rw [hbits]
  split at hfinite
  · split at hfinite <;> cases hfinite
  · next hne =>
    rw [if_neg hne]
    by_cases hzero : e = 0#11
    · subst hzero
      by_cases hfraction : m = 0#52
      · subst hfraction
        exact .inl ⟨rfl, rfl⟩
      · have hpos : 0 < m.toNat := Nat.pos_of_ne_zero fun h => hfraction (BitVec.eq_of_toNat_eq h)
        refine .inr ⟨hpos, ?_⟩
        rw [if_pos rfl, dif_neg hfraction]
        rfl
    · have hpos : e.toNat ≠ 0 := fun h => hzero (BitVec.eq_of_toNat_eq h)
      simp only [if_neg hzero, if_neg hpos, toNat_implicit]
      exact .inr ⟨by omega, trivial⟩

theorem isNegative_eq {x : Float} (hx : x.isFinite = true) : Layout.isNegative x = isNegative x := by
  have hsign : unpackedSign x.toModel.unpack =
      .ofBitVec (@unpackSign Format.binary64 x.toBits.toBitVec) := by
    obtain ⟨-, h⟩ | ⟨_, h⟩ := unpack_eq_of_isFinite hx <;> rw [h] <;> rfl
  rw [isNegative, hsign, Layout.isNegative]
  rw [Bool.eq_iff_iff, decide_eq_true_iff, ← UInt64.toNat_inj, toNat_signBit]
  generalize @unpackSign Format.binary64 x.toBits.toBitVec = s
  revert s
  decide

structure Describes (b : Binary) (x : Float) : Prop where
  significand : b.significand = significand x
  value : |exact x| = b.significand * 2 ^ b.exponent
  low : -1074 ≤ b.exponent
  high : b.exponent ≤ 971
  room : b.significand < 2 ^ 53
  normal : 2 ^ 52 ≤ b.significand ∨ b.exponent = -1074
  narrow : b.narrowBelow = true ↔ b.significand = 2 ^ 52 ∧ b.exponent ≠ -1074

variable {b : Binary} {x : Float} {q : ℚ} {k : ℤ} {c : Nat}

theorem narrowBelow_ofBits (bits : UInt64) : (Binary.ofBits bits).narrowBelow = true ↔
    (Binary.ofBits bits).significand = 2 ^ 52 ∧ (Binary.ofBits bits).exponent ≠ -1074 := by
  have hm : (@unpackMantissa Format.binary64 bits.toBitVec).toNat < 2 ^ 52 := BitVec.isLt _
  rw [ofBits_eq bits rfl rfl]
  split
  · exact iff_of_false nofun fun h => absurd h.1 hm.ne
  · simp only [Bool.and_eq_true, decide_eq_true_eq]
    omega

theorem exponent_ofBits {bits : UInt64} (h : (Binary.ofBits bits).significand = 0) :
    (Binary.ofBits bits).exponent = -1074 := by
  revert h
  rw [ofBits_eq bits rfl rfl]
  split
  · exact fun _ => rfl
  · intro h
    dsimp only at h
    omega

theorem describes_ofBits (hx : x.isFinite = true) : Describes (.ofBits x.toBits) x := by
  have hfits : Fits x.toModel.unpack := fits_unpack _
  obtain ⟨hzero, hunpack⟩ | ⟨hpos, hunpack⟩ := unpack_eq_of_isFinite hx
  · have hexponent := exponent_ofBits hzero
    refine ⟨?_, ?_, by omega, by omega, by omega, .inr hexponent, narrowBelow_ofBits _⟩
    · rw [significand, hunpack]
      exact hzero
    · rw [exact, hunpack, hzero]
      simp [unpackedValue]
  · rw [hunpack] at hfits
    obtain ⟨hroom, hlow, hhigh, hnormal⟩ := hfits
    refine ⟨?_, ?_, hlow, hhigh, hroom, hnormal, narrowBelow_ofBits _⟩
    · rw [significand, hunpack]
      rfl
    · rw [exact, hunpack, unpackedValue, abs_mul, abs_zpow, abs_two]
      congr 1
      cases Sign.ofBitVec (@unpackSign Format.binary64 x.toBits.toBitVec) <;> simp [Sign.apply]

theorem Describes.neg (h : Describes b x) : Describes b (-x) :=
  ⟨h.significand.trans (significand_neg x).symm, by rw [exact_neg, abs_neg, h.value], h.low, h.high,
    h.room, h.normal, h.narrow⟩

def reach (b : Binary) : ℚ := if b.narrowBelow then 1 / 4 else 1 / 2

structure Within (b : Binary) (q : ℚ) : Prop where
  low : (b.significand - reach b) * 2 ^ b.exponent ≤ q
  high : q ≤ (b.significand + 1 / 2) * 2 ^ b.exponent
  strict : ¬Even b.significand → (b.significand - reach b) * 2 ^ b.exponent < q ∧
    q < (b.significand + 1 / 2) * 2 ^ b.exponent

theorem reach_pos (b : Binary) : 0 < reach b := by
  unfold reach
  split <;> norm_num

theorem reach_le (b : Binary) : reach b ≤ 1 / 2 := by
  unfold reach
  split <;> norm_num

theorem Describes.le_of_lt_power (h : Describes b x) (hexponent : b.exponent ≠ -1074) {y : Float}
    (hy : y.isFinite = true) (hlt : exact y < 2 ^ (b.exponent + 52)) :
    exact y ≤ (b.significand - 2 * reach b) * 2 ^ b.exponent := by
  have hpower : (2 : ℚ) ^ (b.exponent + 52) = 2 ^ 52 * 2 ^ b.exponent := by
    rw [add_comm, zpow_add₀ two_ne_zero]
    norm_num
  rw [hpower] at hlt
  by_cases hnarrow : b.narrowBelow = true
  · have hm : (b.significand : ℚ) = 2 ^ 52 := by exact_mod_cast (h.narrow.1 hnarrow).1
    have hhalf : (2 : ℚ) ^ b.exponent = 2 * 2 ^ (b.exponent - 1) := by
      rw [← zpow_one_add₀ two_ne_zero, add_sub_cancel]
    have hpos : (0 : ℚ) < 2 ^ (b.exponent - 1) := by positivity
    rw [hm, reach, if_pos hnarrow]
    rw [hhalf] at hlt ⊢
    obtain ⟨k, hk, -⟩ | ⟨-, hless⟩ := exact_multiple_or_lt hy (b.exponent - 1)
    · rw [hk, ← mul_assoc, mul_lt_mul_iff_left₀ hpos] at hlt
      have hcast : (k : ℚ) ≤ 2 ^ 53 - 1 := by
        have hint : k < 2 ^ 52 * 2 := by exact_mod_cast hlt
        have hle : k ≤ 2 ^ 53 - 1 := by omega
        exact_mod_cast hle
      rw [hk, ← mul_assoc]
      gcongr
      linarith
    · have hless' : exact y < 2 ^ 52 * 2 ^ (b.exponent - 1) := by
        refine hless.trans_eq ?_
        rw [add_comm, zpow_add₀ two_ne_zero]
        norm_num
      linarith
  · have hmore : 2 ^ 52 + 1 ≤ b.significand := by
      have hfull := h.normal.resolve_right hexponent
      have hne := mt (fun hm => h.narrow.2 ⟨hm, hexponent⟩) hnarrow
      omega
    have hcast : (2 : ℚ) ^ 52 + 1 ≤ b.significand := by exact_mod_cast hmore
    rw [reach, if_neg hnarrow]
    refine hlt.le.trans ?_
    gcongr
    linarith

theorem Describes.le_or_le (h : Describes b x) (hx : 0 ≤ exact x) {y : Float}
    (hy : y.isFinite = true) (hne : exact y ≠ exact x) :
    exact y ≤ (b.significand - 2 * reach b) * 2 ^ b.exponent ∨
      (b.significand + 1) * 2 ^ b.exponent ≤ exact y := by
  have hpos : (0 : ℚ) < 2 ^ b.exponent := by positivity
  have hreach := reach_le b
  have hvalue := h.value
  rw [abs_of_nonneg hx] at hvalue
  obtain ⟨k, hk, -⟩ | ⟨hexponent, hlt⟩ := exact_multiple_or_lt hy b.exponent
  · have hother : k ≠ b.significand := by
      rintro rfl
      exact hne (by rw [hk, hvalue, Int.cast_natCast])
    rw [hk]
    obtain hless | hmore := lt_or_gt_of_ne hother
    · left
      have hcast : (k : ℚ) + 1 ≤ b.significand := by exact_mod_cast hless
      gcongr
      linarith
    · right
      have hcast : (b.significand : ℚ) + 1 ≤ k := by exact_mod_cast hmore
      gcongr
  · exact .inl (h.le_of_lt_power hexponent hy hlt)

theorem Describes.nearest (h : Describes b x) (hfinite : x.isFinite = true) (hx : 0 ≤ exact x)
    (hq : Within b q) : Nearest q x := by
  have hpos : (0 : ℚ) < 2 ^ b.exponent := by positivity
  have hreach : 0 < reach b * 2 ^ b.exponent := mul_pos (reach_pos b) hpos
  have hvalue := h.value
  rw [abs_of_nonneg hx] at hvalue
  obtain ⟨hlow, hhigh, hstrict⟩ := hq
  rw [sub_mul] at hlow hstrict
  rw [add_mul] at hhigh hstrict
  rw [← hvalue] at hlow hhigh hstrict
  have hother {y : Float} (hy : y.isFinite = true) (hne : exact y ≠ exact x) :
      |exact x - q| ≤ |exact y - q| ∧ (|exact y - q| = |exact x - q| → Even b.significand) := by
    obtain hbelow | habove := h.le_or_le hx hy hne
    · rw [sub_mul, ← hvalue, mul_assoc] at hbelow
      rw [abs_sub_comm (exact y), abs_of_nonneg (by linarith : 0 ≤ q - exact y)]
      refine ⟨abs_le.2 ⟨by linarith, by linarith⟩, fun htie => ?_⟩
      by_contra hodd
      obtain ⟨hlow', -⟩ := hstrict hodd
      exact absurd htie (abs_lt.2 ⟨by linarith, by linarith⟩ : |exact x - q| < q - exact y).ne'
    · rw [add_mul, one_mul, ← hvalue] at habove
      rw [abs_of_nonneg (by linarith : 0 ≤ exact y - q)]
      refine ⟨abs_le.2 ⟨by linarith, by linarith⟩, fun htie => ?_⟩
      by_contra hodd
      obtain ⟨-, hhigh'⟩ := hstrict hodd
      exact absurd htie (abs_lt.2 ⟨by linarith, by linarith⟩ : |exact x - q| < exact y - q).ne'
  refine ⟨hfinite, fun y hy => ?_, fun y hy hne htie => h.significand ▸ (hother hy hne).2 htie⟩
  by_cases hsame : exact y = exact x
  · rw [hsame]
  · exact (hother hy hsame).1

theorem Describes.lt_overflow (h : Describes b x) (hq : Within b q) : q < overflow := by
  have hroom := h.room
  have hplace : (2 : ℚ) ^ b.exponent ≤ 2 ^ (971 : ℤ) := zpow_le_zpow_right₀ one_le_two h.high
  have hpos : (0 : ℚ) < 2 ^ b.exponent := by positivity
  rw [lt_overflow_iff, div_lt_iff₀ (by positivity)]
  generalize (2 : ℚ) ^ (971 : ℤ) = top at hplace ⊢
  by_cases heven : Even b.significand
  · have hcast : (b.significand : ℚ) + 2 ≤ 2 ^ 53 := by
      have hnat : b.significand + 2 ≤ 2 ^ 53 := by
        rw [Nat.even_iff] at heven
        omega
      exact_mod_cast hnat
    calc q ≤ (b.significand + 1 / 2) * 2 ^ b.exponent := hq.high
      _ ≤ (b.significand + 1 / 2) * top := by gcongr
      _ < (2 ^ 53 - 1 / 2) * top := by
        have htop : 0 < top := hpos.trans_le hplace
        gcongr
        linarith
  · have hcast : (b.significand : ℚ) + 1 ≤ 2 ^ 53 := by exact_mod_cast hroom
    calc q < (b.significand + 1 / 2) * 2 ^ b.exponent := (hq.strict heven).2
      _ ≤ (b.significand + 1 / 2) * top := by gcongr
      _ ≤ (2 ^ 53 - 1 / 2) * top := by
        have htop : 0 < top := hpos.trans_le hplace
        gcongr
        linarith

theorem zpow_mul_pow_toNat {a : ℚ} (ha : a ≠ 0) (n : ℤ) : a ^ n * a ^ (-n).toNat = a ^ n.toNat := by
  rw [← zpow_natCast, ← zpow_natCast, ← zpow_add₀ ha]
  congr 1
  omega

theorem unit_spec (b : Binary) (k : ℤ) : (0 : ℚ) < (b.unit k).2 ∧
    2 ^ b.exponent * ((b.unit k).2 : ℚ) = (b.unit k).1 * 10 ^ k := by
  have htwo := zpow_mul_pow_toNat (a := 2) two_ne_zero b.exponent
  have hten := zpow_mul_pow_toNat (a := 10) (by norm_num) k
  simp only [Binary.unit, Nat.pow_eq]
  push_cast
  refine ⟨by positivity, ?_⟩
  rw [← mul_assoc, htwo, ← hten]
  ring

theorem unit_mul_le_iff {k : ℤ} {a w : ℚ} :
    a * (b.unit k).1 ≤ w * (b.unit k).2 ↔ a * 2 ^ b.exponent ≤ w * 10 ^ k := by
  obtain ⟨hpos, hunit⟩ := unit_spec b k
  have hten : (0 : ℚ) < 10 ^ k := by positivity
  rw [← mul_le_mul_iff_left₀ hten, ← mul_le_mul_iff_left₀ hpos (b := a * 2 ^ b.exponent), mul_assoc,
    ← hunit, mul_right_comm w, mul_assoc a]

theorem unit_mul_lt_iff {k : ℤ} {a w : ℚ} :
    a * (b.unit k).1 < w * (b.unit k).2 ↔ a * 2 ^ b.exponent < w * 10 ^ k := by
  obtain ⟨hpos, hunit⟩ := unit_spec b k
  have hten : (0 : ℚ) < 10 ^ k := by positivity
  rw [← mul_lt_mul_iff_left₀ hten, ← mul_lt_mul_iff_left₀ hpos (b := a * 2 ^ b.exponent), mul_assoc,
    ← hunit, mul_right_comm w, mul_assoc a]

theorem within_of_readsBack (hpos : 0 < b.significand) (h : b.readsBack k c = true) :
    Within b (c * 10 ^ k) := by
  have hlow : ((4 * b.significand - if b.narrowBelow then 1 else 2 : Nat) : ℚ) =
      4 * (b.significand - reach b) := by
    rw [reach]
    split
    · rw [Nat.cast_sub (by omega)]
      push_cast
      ring
    · rw [Nat.cast_sub (by omega)]
      push_cast
      ring
  have hhigh : ((4 * b.significand + 2 : Nat) : ℚ) = 4 * (b.significand + 1 / 2) := by
    push_cast
    ring
  have hle {m n : Nat} : m * (b.unit k).1 ≤ n * (b.unit k).2 ↔
      (m : ℚ) * 2 ^ b.exponent ≤ n * 10 ^ k := by
    rw [← unit_mul_le_iff]
    exact_mod_cast Iff.rfl
  have hlt {m n : Nat} : m * (b.unit k).1 < n * (b.unit k).2 ↔
      (m : ℚ) * 2 ^ b.exponent < n * 10 ^ k := by
    rw [← unit_mul_lt_iff]
    exact_mod_cast Iff.rfl
  have hge {m n : Nat} : n * (b.unit k).2 ≤ m * (b.unit k).1 ↔
      (n : ℚ) * 10 ^ k ≤ m * 2 ^ b.exponent := by rw [← not_lt, ← not_lt, hlt]
  have hgt {m n : Nat} : n * (b.unit k).2 < m * (b.unit k).1 ↔
      (n : ℚ) * 10 ^ k < m * 2 ^ b.exponent := by rw [← not_le, ← not_le, hle]
  have hcount : ((4 * c : Nat) : ℚ) = 4 * c := by push_cast; rfl
  rw [Binary.readsBack] at h
  dsimp only at h
  split at h
  · next heven =>
    simp only [Bool.and_eq_true, decide_eq_true_eq, hle, hge, hlow, hhigh, hcount] at h
    exact ⟨by linarith, by linarith, fun hodd => absurd (Nat.even_iff.2 heven) hodd⟩
  · simp only [Bool.and_eq_true, decide_eq_true_eq, hlt, hgt, hlow, hhigh, hcount] at h
    exact ⟨by linarith, by linarith, fun _ => ⟨by linarith, by linarith⟩⟩

theorem readsBack_of_nearest? {tie : Tie} (h : b.nearest? tie k = some c) : b.readsBack k c = true := by
  rw [Binary.nearest?] at h
  dsimp only at h
  split at h
  · exact nomatch h
  · next hlow _ => exact Option.some.inj h ▸ hlow
  · next _ hhigh => exact Option.some.inj h ▸ hhigh
  · next hlow hhigh =>
    split at h
    · exact Option.some.inj h ▸ hlow
    · exact Option.some.inj h ▸ hhigh
    · obtain rfl := Option.some.inj h
      cases tie with
      | up => exact hhigh
      | toEven =>
        dsimp only
        obtain heven | hodd := Nat.mod_two_eq_zero_or_one (b.significand * (b.unit k).1 / (b.unit k).2)
        · rw [heven]
          exact hlow
        · rw [hodd]
          exact hhigh

theorem exact_within (b : Binary) : Within b (b.significand * 2 ^ b.exponent) := by
  have hpos : (0 : ℚ) < 2 ^ b.exponent := by positivity
  have hreach := mul_pos (reach_pos b) hpos
  refine ⟨?_, ?_, fun _ => ⟨?_, ?_⟩⟩ <;> linarith

theorem exact_spec (b : Binary) :
    (b.exact.1 : ℚ) * 10 ^ b.exact.2 = b.significand * 2 ^ b.exponent := by
  rw [Binary.exact]
  split
  · next hnonneg =>
    have hpower : (2 : ℚ) ^ b.exponent = 2 ^ b.exponent.toNat := by
      rw [← zpow_natCast, Int.toNat_of_nonneg hnonneg]
    rw [hpower, zpow_zero, mul_one, Nat.pow_eq]
    push_cast
    rfl
  · next hnegative =>
    have hfive : (5 : ℚ) ^ (-b.exponent).toNat = (5 ^ b.exponent)⁻¹ := by
      rw [← zpow_natCast, Int.toNat_of_nonneg (by omega), zpow_neg]
    have hten : (10 : ℚ) ^ b.exponent = 5 ^ b.exponent * 2 ^ b.exponent := by
      rw [← mul_zpow]
      norm_num
    rw [hten, Nat.pow_eq]
    push_cast
    rw [hfive]
    field_simp

theorem Within.pos (h : Within b q) (hpos : 0 < b.significand) : 0 < q := by
  have hone : (1 : ℚ) ≤ b.significand := by exact_mod_cast hpos
  have hreach := reach_le b
  refine lt_of_lt_of_le ?_ h.low
  have hless : 0 < b.significand - reach b := by linarith
  positivity

theorem exists_shortest_eq (hpos : 0 < b.significand) (tie : Tie) :
    ∃ (c : Nat) (k : ℤ), 0 < c ∧ Within b (c * 10 ^ k) ∧ shortest tie b = ofNat c k := by
  have hcount {c : Nat} {k : ℤ} (h : Within b (c * 10 ^ k)) : 0 < c := by
    have hq := h.pos hpos
    by_contra hzero
    obtain rfl : c = 0 := by omega
    simp at hq
  rw [shortest]
  dsimp only
  generalize hfound : (List.range 24).findSome? _ = found
  cases found with
  | none =>
    have hwithin := exact_within b
    rw [← exact_spec] at hwithin
    exact ⟨_, _, hcount hwithin, hwithin, rfl⟩
  | some r =>
    obtain ⟨c, k⟩ := r
    obtain ⟨i, -, hi⟩ := List.exists_of_findSome?_eq_some hfound
    obtain ⟨c', hnearest, heq⟩ := Option.map_eq_some_iff.1 hi
    obtain ⟨rfl, rfl⟩ := Prod.mk.inj heq
    have hwithin := within_of_readsBack hpos (readsBack_of_nearest? hnearest)
    exact ⟨_, _, hcount hwithin, hwithin, rfl⟩

end Decimal

end Schematics
