import Mathlib

/-!
Doubles as the numbers that they are. A finite double is a whole number of at most 53 bits times a
power of two, and the bits that it is packed into are those that it is unpacked from.
-/

namespace Schematics

namespace Decimal

open Float.Model Float.Model.UnpackedFloat

def Fits : UnpackedFloat → Prop
  | .finite _ m e _ => m < 2 ^ 53 ∧ -1074 ≤ e ∧ e ≤ 971 ∧ (2 ^ 52 ≤ m ∨ e = -1074)
  | _ => True

theorem ofBitVec_unpackSign (s : Sign) (e : BitVec 11) (m : BitVec 52) :
    Sign.ofBitVec (@unpackSign Format.binary64
      (packComponents Format.binary64 s e m)) = s := by
  have hsign : @unpackSign Format.binary64 (packComponents Format.binary64 s e m) =
      s.toBitVec := by
    apply BitVec.eq_of_getLsbD_eq
    intro i hi
    obtain rfl : i = 0 := by omega
    simp only [unpackSign, packComponents, BitVec.getLsbD_cast, BitVec.getLsbD_extractLsb,
      BitVec.getLsbD_append]
    cases s <;> simp [Sign.toBitVec]
  rw [hsign]
  cases s <;> rfl

theorem toNat_implicit (m : BitVec 52) : (1#1 ++ m).toNat = 2 ^ 52 + m.toNat := by
  rw [BitVec.toNat_append, ← Nat.shiftLeft_add_eq_or_of_lt m.isLt]
  rfl

theorem fits_unpack (b : BitVec 64) : Fits (UnpackedFloat.unpack Format.binary64 b) := by
  have hm : (@unpackMantissa Format.binary64 b).toNat < 2 ^ 52 := BitVec.isLt _
  have he : (@unpackExponent Format.binary64 b).toNat < 2 ^ 11 := BitVec.isLt _
  unfold UnpackedFloat.unpack
  dsimp only
  split
  · split <;> trivial
  · next hfinite =>
    split
    · next hzero =>
      split
      · trivial
      · refine ⟨Nat.lt_of_lt_of_le hm (by decide), ?_, ?_, .inr ?_⟩ <;> rw [hzero] <;> decide
    · next hnormal =>
      have hne : (@unpackExponent Format.binary64 b).toNat ≠ 2047 := fun h =>
        hfinite (BitVec.eq_of_toNat_eq h)
      have hpos : (@unpackExponent Format.binary64 b).toNat ≠ 0 := fun h =>
        hnormal (BitVec.eq_of_toNat_eq h)
      simp only [Fits, toNat_implicit, Format.exponentBias]
      omega

theorem unpack_packComponents (s : Sign) (e : BitVec 11) (m : BitVec 52) :
    UnpackedFloat.unpack Format.binary64 (packComponents Format.binary64 s e m) =
      if e = -1#11 then if m = 0#52 then .infinity s else .notANumber
      else if e = 0#11 then
        if h : m = 0#52 then .zero s
        else .finite s m.toNat (e.toNat - 1075 + 1) (by simpa [BitVec.toNat_pos, BitVec.pos_iff_ne_zero])
      else .finite s (1#1 ++ m).toNat (e.toNat - 1075) (by rw [toNat_implicit]; omega) := by
  simp only [UnpackedFloat.unpack, unpackMantissa_packComponents, unpackExponent_packComponents,
    ofBitVec_unpackSign]
  rfl

theorem log2_succ_eq_iff {m : Nat} (hpos : 0 < m) (hm : m < 2 ^ 53) :
    m.log2 + 1 = 53 ↔ 2 ^ 52 ≤ m := by
  have hlt : m.log2 < 53 := (Nat.log2_lt hpos.ne').2 hm
  rw [← Nat.le_log2 hpos.ne']
  omega

theorem pack_finite {s : Sign} {m : Nat} {e : Int} (hpos : 0 < m) (hm : m < 2 ^ 53) (he : e ≤ 971) :
    UnpackedFloat.pack Format.binary64 (.finite s m e hpos) = packComponents Format.binary64 s
      (if 2 ^ 52 ≤ m then .ofNat 11 (e + 1075).toNat else 0#11) (.ofNat 52 m) := by
  have hexponent : e + (1023 : Nat) + (52 : Nat) = e + 1075 := by omega
  have hsmall : ¬2 ^ 11 ≤ (e + (1023 : Nat) + (52 : Nat)).toNat + 1 := by omega
  have hpack : UnpackedFloat.pack Format.binary64 (.finite s m e hpos) = if m.log2 + 1 = 53 then
      packComponents Format.binary64 s (.ofNat 11 (e + (1023 : Nat) + (52 : Nat)).toNat) (.ofNat 52 m)
      else packComponents Format.binary64 s 0#11 (.ofNat 52 m) := if_neg hsmall
  rw [hpack, hexponent]
  by_cases hnormal : 2 ^ 52 ≤ m
  · rw [if_pos hnormal, if_pos ((log2_succ_eq_iff hpos hm).2 hnormal)]
  · rw [if_neg hnormal, if_neg (mt (log2_succ_eq_iff hpos hm).1 hnormal)]

theorem unpack_pack {f : UnpackedFloat} (h : Fits f) :
    UnpackedFloat.unpack Format.binary64 (UnpackedFloat.pack Format.binary64 f) = f := by
  cases f with
  | infinity s | zero s => cases s <;> rfl
  | notANumber => rfl
  | finite s m e hpos =>
    obtain ⟨hm, hlow, hhigh, hcanonical⟩ := h
    have hones : (-1#11 : BitVec 11).toNat = 2047 := by decide
    rw [pack_finite hpos hm hhigh, unpack_packComponents]
    by_cases hnormal : 2 ^ 52 ≤ m
    · have hexponent : (BitVec.ofNat 11 (e + 1075).toNat).toNat = (e + 1075).toNat := by
        rw [BitVec.toNat_ofNat]
        omega
      have hinfinite : BitVec.ofNat 11 (e + 1075).toNat ≠ -1#11 := by
        rw [ne_eq, ← BitVec.toNat_inj, hexponent, hones]
        omega
      have hzero : BitVec.ofNat 11 (e + 1075).toNat ≠ 0#11 := by
        rw [ne_eq, ← BitVec.toNat_inj, hexponent, BitVec.toNat_zero]
        omega
      rw [if_pos hnormal, if_neg hinfinite, if_neg hzero]
      congr 1
      · rw [toNat_implicit, BitVec.toNat_ofNat]
        omega
      · rw [hexponent]
        omega
    · obtain rfl := hcanonical.resolve_left hnormal
      have hfraction : (BitVec.ofNat 52 m).toNat = m := by
        rw [BitVec.toNat_ofNat]
        omega
      have hne : BitVec.ofNat 52 m ≠ 0#52 := by
        rw [ne_eq, ← BitVec.toNat_inj, hfraction, BitVec.toNat_zero]
        omega
      rw [if_neg hnormal, if_neg (by decide), if_pos rfl, dif_neg hne]
      congr 1

theorem packComponents_unpack (b : BitVec 64) :
    packComponents Format.binary64 (Sign.ofBitVec (@unpackSign Format.binary64 b))
      (@unpackExponent Format.binary64 b) (@unpackMantissa Format.binary64 b) = b := by
  have hsign : (Sign.ofBitVec (@unpackSign Format.binary64 b)).toBitVec =
      @unpackSign Format.binary64 b := by
    generalize @unpackSign Format.binary64 b = c
    revert c
    decide
  apply BitVec.eq_of_getLsbD_eq
  intro i hi
  rw [packComponents, hsign]
  simp only [unpackSign, unpackExponent, unpackMantissa, BitVec.getLsbD_append, BitVec.getLsbD_cast,
    BitVec.getLsbD_extractLsb]
  grind

theorem pack_unpack {b : BitVec 64} (h : (UnpackedFloat.unpack Format.binary64 b).isFinite = true) :
    UnpackedFloat.pack Format.binary64 (UnpackedFloat.unpack Format.binary64 b) = b := by
  rw [← packComponents_unpack b] at h ⊢
  generalize Sign.ofBitVec (@unpackSign Format.binary64 b) = s at h ⊢
  generalize @unpackExponent Format.binary64 b = e at h ⊢
  generalize @unpackMantissa Format.binary64 b = m at h ⊢
  have hm : m.toNat < 2 ^ 52 := m.isLt
  have he : e.toNat < 2 ^ 11 := e.isLt
  rw [unpack_packComponents] at h ⊢
  split at h
  · split at h <;> cases h
  · next hfinite =>
    rw [if_neg hfinite]
    split
    · next hzero =>
      subst hzero
      split
      · next hfraction =>
        rw [hfraction]
        rfl
      · rw [pack_finite _ (by omega) (by decide), if_neg (by omega), BitVec.ofNat_toNat,
          BitVec.setWidth_eq]
    · have hinfinite : e.toNat ≠ 2047 := fun heq => hfinite (BitVec.eq_of_toNat_eq heq)
      rw [pack_finite _ (by rw [toNat_implicit]; omega) (by omega), toNat_implicit,
        if_pos (by omega)]
      congr 1
      · apply BitVec.eq_of_toNat_eq
        rw [BitVec.toNat_ofNat]
        omega
      · apply BitVec.eq_of_toNat_eq
        rw [BitVec.toNat_ofNat]
        omega

theorem unpack_pack_of_large {s : Sign} {m : Nat} {e : Int} (hpos : 0 < m) (he : 971 < e) :
    UnpackedFloat.unpack Format.binary64 (UnpackedFloat.pack Format.binary64 (.finite s m e hpos)) =
      .infinity s := by
  have hlarge : 2 ^ 11 ≤ (e + (1023 : Nat) + (52 : Nat)).toNat + 1 := by omega
  have hpack : UnpackedFloat.pack Format.binary64 (.finite s m e hpos) =
      packedInfinity Format.binary64 s := if_pos hlarge
  rw [hpack]
  cases s <;> rfl

def unpackedValue : UnpackedFloat → ℚ
  | .finite s m e _ => (s.apply m : ℤ) * 2 ^ e
  | _ => 0

def unpackedSign : UnpackedFloat → Sign
  | .finite s _ _ _ | .zero s | .infinity s => s
  | .notANumber => .positive

def unpackedSignificand : UnpackedFloat → Nat
  | .finite _ m _ _ => m
  | _ => 0

def exact (x : Float) : ℚ := unpackedValue x.toModel.unpack

def isNegative (x : Float) : Bool := unpackedSign x.toModel.unpack == .negative

def significand (x : Float) : Nat := unpackedSignificand x.toModel.unpack

/--
The double is finite, and no finite one is nearer to the number. If another one is as near, this one
has an even significand.
-/
structure Nearest (q : ℚ) (x : Float) : Prop where
  finite : x.isFinite = true
  closest : ∀ y : Float, y.isFinite = true → |exact x - q| ≤ |exact y - q|
  even : ∀ y : Float, y.isFinite = true → exact y ≠ exact x → |exact y - q| = |exact x - q| →
    Even (significand x)

theorem unpack_ofModel_pack {f : UnpackedFloat} (h : Fits f) :
    (Float.ofModel (Float.Model.pack f)).toModel.unpack = f := unpack_pack h

theorem exact_ofModel_pack {f : UnpackedFloat} (h : Fits f) :
    exact (.ofModel (Float.Model.pack f)) = unpackedValue f := congrArg unpackedValue (unpack_pack h)

theorem isFinite_ofModel_pack {f : UnpackedFloat} (h : Fits f) :
    (Float.ofModel (Float.Model.pack f)).isFinite = f.isFinite :=
  congrArg UnpackedFloat.isFinite (unpack_pack h)

theorem unpack_neg (x : Float) : (-x).toModel.unpack = x.toModel.unpack.neg := by
  apply unpack_ofModel_pack
  have hfits : Fits x.toModel.unpack := fits_unpack _
  revert hfits
  cases x.toModel.unpack <;> exact id

theorem unpackedValue_neg (f : UnpackedFloat) : unpackedValue f.neg = -unpackedValue f := by
  cases f with
  | finite s m e _ =>
    cases s
    · change ((m : ℤ) : ℚ) * 2 ^ e = -(((-m : ℤ) : ℚ) * 2 ^ e)
      push_cast
      ring
    · change ((-m : ℤ) : ℚ) * 2 ^ e = -(((m : ℤ) : ℚ) * 2 ^ e)
      push_cast
      ring
  | infinity _ | zero _ | notANumber => exact neg_zero.symm

theorem exact_neg (x : Float) : exact (-x) = -exact x := by
  rw [exact, exact, unpack_neg, unpackedValue_neg]

theorem isFinite_neg (x : Float) : (-x).isFinite = x.isFinite := by
  change (-x).toModel.unpack.isFinite = x.toModel.unpack.isFinite
  rw [unpack_neg]
  cases x.toModel.unpack <;> rfl

theorem significand_neg (x : Float) : significand (-x) = significand x := by
  rw [significand, significand, unpack_neg]
  cases x.toModel.unpack <;> rfl

theorem isNegative_neg {x : Float} (h : x.isFinite = true) : isNegative (-x) = !isNegative x := by
  have hfinite : x.toModel.unpack.isFinite = true := h
  rw [isNegative, isNegative, unpack_neg]
  cases hx : x.toModel.unpack with
  | finite s | zero s => cases s <;> rfl
  | infinity _ | notANumber => rw [hx] at hfinite; cases hfinite

theorem exact_neg_sub_neg (x : Float) (q : ℚ) : |exact (-x) - -q| = |exact x - q| := by
  rw [exact_neg, neg_sub_neg, abs_sub_comm]

theorem Nearest.neg {q : ℚ} {x : Float} (h : Nearest q x) : Nearest (-q) (-x) := by
  have hback (y : Float) : |exact (-y) - q| = |exact y - -q| := by
    rw [exact_neg, ← abs_neg]
    congr 1
    ring
  refine ⟨(isFinite_neg x).trans h.finite, fun y hy => ?_, fun y hy hne heq => ?_⟩
  · rw [exact_neg_sub_neg, ← hback]
    exact h.closest (-y) ((isFinite_neg y).trans hy)
  · rw [exact_neg_sub_neg, ← hback] at heq
    rw [significand_neg]
    refine h.even (-y) ((isFinite_neg y).trans hy) (fun hsame => hne ?_) heq
    rw [exact_neg, ← hsame, exact_neg, neg_neg]

end Decimal

end Schematics
