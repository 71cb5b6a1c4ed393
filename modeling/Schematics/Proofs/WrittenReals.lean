import Schematics.Proofs.ShortestDigits
import Schematics.Proofs.ListedValues

namespace Schematics

namespace Decimal

variable {d : Decimal} {l : Layout} {x : Float} {c : Nat} {k : ℤ}

def number (d : Decimal) : ℚ :=
  Nat.ofDigitChars 10 d.digits 0 * 10 ^ (d.lead + 1 - d.digits.length)

theorem ofDigitChars_append_replicate (digits : List Char) (n : Nat) :
    Nat.ofDigitChars 10 (digits ++ List.replicate n '0') 0 = Nat.ofDigitChars 10 digits 0 * 10 ^ n := by
  rw [Nat.ofDigitChars_append, Nat.ofDigitChars_eq_ofDigitChars_zero, List.length_replicate,
    Nat.ofDigitChars_replicate_zero, mul_zero, add_zero, mul_comm]

theorem exists_toDigits_eq (c : Nat) (k : ℤ) :
    ∃ zeros, Nat.toDigits 10 c = (ofNat c k).digits ++ List.replicate zeros '0' := by
  let reversed := (Nat.toDigits 10 c).reverse
  have hzeros : reversed.takeWhile (· == '0') =
      List.replicate (reversed.takeWhile (· == '0')).length '0' := by
    refine List.eq_replicate_iff.2 ⟨rfl, fun z hz => ?_⟩
    have htaken := List.all_eq_true.1 (List.all_takeWhile (l := reversed)) z hz
    exact eq_of_beq htaken
  refine ⟨(reversed.takeWhile (· == '0')).length, ?_⟩
  calc Nat.toDigits 10 c = (reversed.takeWhile (· == '0') ++ reversed.dropWhile (· == '0')).reverse := by
        rw [List.takeWhile_append_dropWhile, List.reverse_reverse]
    _ = (ofNat c k).digits ++ (reversed.takeWhile (· == '0')).reverse := List.reverse_append
    _ = _ := by rw [hzeros, List.reverse_replicate, List.length_replicate]

theorem number_ofNat (c : Nat) (k : ℤ) : (ofNat c k).number = c * 10 ^ k := by
  obtain ⟨zeros, hdigits⟩ := exists_toDigits_eq c k
  have hvalue : c = Nat.ofDigitChars 10 (ofNat c k).digits 0 * 10 ^ zeros := by
    rw [← ofDigitChars_append_replicate, ← hdigits, Nat.ofDigitChars_ten_toDigits]
  have hlead : (ofNat c k).lead + 1 - (ofNat c k).digits.length = k + zeros := by
    have hlength := congrArg List.length hdigits
    rw [List.length_append, List.length_replicate] at hlength
    have hof : (ofNat c k).lead = k + (Nat.toDigits 10 c).length - 1 := rfl
    omega
  rw [number, hlead, zpow_add₀ (by norm_num)]
  conv_rhs => rw [hvalue]
  push_cast
  rw [zpow_natCast]
  ring

theorem digits_toDigits (n : Nat) : Digits (Nat.toDigits 10 n) := fun _ hc =>
  Nat.isDigit_of_mem_toDigits (by decide) (by decide) hc

theorem digits_ofNat (c : Nat) (k : ℤ) : Digits (ofNat c k).digits := by
  obtain ⟨zeros, hdigits⟩ := exists_toDigits_eq c k
  intro d hd
  exact digits_toDigits c d (hdigits ▸ List.mem_append_left _ hd)

theorem digits_ofNat_ne_nil (hc : 0 < c) (k : ℤ) : (ofNat c k).digits ≠ [] := by
  intro hnil
  have hnumber := number_ofNat c k
  rw [number, hnil, Nat.ofDigitChars_nil, Nat.cast_zero, zero_mul] at hnumber
  have hpos : (0 : ℚ) < c * 10 ^ k := by positivity
  exact absurd hnumber hpos.ne

def Spells (cs : List Char) (d : Decimal) : Prop :=
  ∃ (m : Nat) (e : ℤ), MagnitudeText cs m e ∧ (m : ℚ) * 10 ^ e = d.number

theorem spells_mk {whole point fraction mark : List Char} {e : ℤ} (zeros : Nat) (hw : Digits whole)
    (hf : FractionText point fraction) (hne : whole ++ fraction ≠ []) (he : ExponentText mark e)
    (hdigits : Nat.ofDigitChars 10 (whole ++ fraction) 0 = Nat.ofDigitChars 10 d.digits 0 * 10 ^ zeros)
    (hplace : e - fraction.length = d.lead + 1 - d.digits.length - zeros) :
    Spells (whole ++ point ++ mark) d := by
  refine ⟨_, _, .mk hw hf hne he, ?_⟩
  rw [hdigits, hplace, number, zpow_sub₀ (by norm_num : (10 : ℚ) ≠ 0) _ (zeros : ℤ), zpow_natCast]
  push_cast
  field_simp

theorem digits_append {cs ds : List Char} (hc : Digits cs) (hd : Digits ds) : Digits (cs ++ ds) :=
  fun c h => (List.mem_append.1 h).elim (hc c) (hd c)

theorem digits_zeros (n : Nat) : Digits (List.replicate n '0') := fun _ h =>
  (List.eq_of_mem_replicate h).symm ▸ rfl

theorem spells_plain (hd : Digits d.digits) (hne : d.digits ≠ []) : Spells (Layout.plain d).toList d := by
  rw [Layout.plain]
  split
  · next hlow =>
    let zeros := List.replicate (-d.lead - 1).toNat '0'
    have hspells : Spells (['0'] ++ '.' :: (zeros ++ d.digits) ++ []) d := by
      refine spells_mk 0 (digits_zeros 1) (.point (digits_append (digits_zeros _) hd))
        (List.cons_ne_nil _ _) .none ?_ ?_
      · have hlead : Nat.ofDigitChars 10 (['0'] ++ zeros) 0 = 0 :=
          (Nat.ofDigitChars_replicate_zero (n := (-d.lead - 1).toNat + 1)).trans (mul_zero _)
        rw [← List.append_assoc, Nat.ofDigitChars_append, hlead, pow_zero, mul_one]
      · rw [List.length_append, List.length_replicate]
        omega
    rwa [List.append_nil, ← String.toList_ofList (l := _ ++ _)] at hspells
  · next hlead =>
    dsimp only
    rw [String.toList_ofList]
    let k := d.lead.toNat + 1
    by_cases hlong : d.digits.length ≤ k
    · let zeros := List.replicate (k - d.digits.length) '0'
      have hspells : Spells ((d.digits ++ zeros) ++ '.' :: ['0'] ++ []) d := by
        refine spells_mk (k - d.digits.length + 1) (digits_append hd (digits_zeros _))
          (.point (digits_zeros 1)) (by simp) .none ?_ ?_
        · rw [List.append_assoc, ← ofDigitChars_append_replicate]
          rw [List.replicate_succ']
        · simp only [List.length_cons, List.length_nil]
          omega
      rw [List.take_of_length_le hlong, if_pos hlong]
      rwa [List.append_nil] at hspells
    · have hspells : Spells (d.digits.take k ++ '.' :: d.digits.drop k ++ []) d := by
        refine spells_mk 0 (fun c hc => hd c (List.mem_of_mem_take hc))
          (.point fun c hc => hd c (List.mem_of_mem_drop hc)) ?_ .none ?_ ?_
        · rwa [List.take_append_drop]
        · rw [List.take_append_drop, pow_zero, mul_one]
        · rw [List.length_drop]
          omega
      rw [if_neg hlong, Nat.sub_eq_zero_of_le (not_le.1 hlong).le, List.replicate_zero, List.append_nil]
      rwa [List.append_nil] at hspells

theorem intText_exponent (l : Layout) (i : ℤ) :
    IntText ((if i < 0 then "-" else if l.plusSign then "+" else "").toList ++
      Nat.toDigits 10 i.natAbs) i := by
  have htext {negative : Bool} {sign : List Char} (hs : SignText negative sign)
      (hi : signed negative (i.natAbs : ℤ) = i) : IntText (sign ++ Nat.toDigits 10 i.natAbs) i := by
    have htext := IntText.mk hs (digits_toDigits i.natAbs) Nat.toDigits_ne_nil
    rwa [Nat.ofDigitChars_ten_toDigits, hi] at htext
  split
  · next hi => exact htext .minus (by rw [signed, if_pos rfl]; omega)
  · next hi =>
    have hnat : signed false (i.natAbs : ℤ) = i := by
      rw [signed, if_neg Bool.false_ne_true]
      omega
    split
    · exact htext .plus hnat
    · exact htext .none hnat

theorem toList_scientific (l : Layout) (d : Decimal) : (l.scientific d).toList =
    d.digits.take 1 ++ (if d.digits.length ≤ 1 then [] else '.' :: d.digits.drop 1) ++ 'e' ::
      ((if d.lead < 0 then "-" else if l.plusSign then "+" else "").toList ++
        Nat.toDigits 10 d.lead.natAbs) := by
  rw [Layout.scientific]
  change (String.ofList _ ++ "e" ++ _ ++ Nat.repr _).toList = _
  simp only [String.toList_append, String.toList_ofList, Nat.repr_eq_ofList_toDigits,
    List.append_assoc]
  rfl

theorem spells_scientific (l : Layout) (hd : Digits d.digits) (hne : d.digits ≠ []) :
    Spells (l.scientific d).toList d := by
  have hparts {point fraction : List Char} (hf : FractionText point fraction)
      (hsplit : d.digits.take 1 ++ fraction = d.digits) :
      Spells (d.digits.take 1 ++ point ++ 'e' ::
        ((if d.lead < 0 then "-" else if l.plusSign then "+" else "").toList ++
          Nat.toDigits 10 d.lead.natAbs)) d := by
    refine spells_mk 0 (fun c hc => hd c (List.mem_of_mem_take hc)) hf (hsplit.symm ▸ hne)
      (.marked (.inl rfl) (intText_exponent l d.lead)) ?_ ?_
    · rw [hsplit, pow_zero, mul_one]
    · have hlength := congrArg List.length hsplit
      have hfirst := List.length_pos_iff.2 hne
      rw [List.length_append, List.length_take] at hlength
      omega
  rw [toList_scientific]
  by_cases hshort : d.digits.length ≤ 1
  · rw [if_pos hshort]
    exact hparts .none (by rw [List.append_nil, List.take_of_length_le hshort])
  · rw [if_neg hshort]
    exact hparts (.point fun c hc => hd c (List.mem_of_mem_drop hc)) (List.take_append_drop 1 _)

theorem spells_decimal (l : Layout) (hd : Digits d.digits) (hne : d.digits ≠ []) :
    Spells (l.decimal d).toList d := by
  rw [Layout.decimal]
  split
  · exact spells_plain hd hne
  · exact spells_scientific l hd hne

theorem isNaN_or_isInf_of_isFinite (hx : x.isFinite = true) : x.isNaN = false ∧ x.isInf = false := by
  have hfinite : x.toModel.unpack.isFinite = true := hx
  change x.toModel.unpack.isNaN = false ∧ x.toModel.unpack.isInf = false
  cases hu : x.toModel.unpack with
  | finite _ _ _ _ | zero _ => exact ⟨rfl, rfl⟩
  | infinity _ | notANumber => rw [hu] at hfinite; cases hfinite

theorem signed_signed (hx : x.isFinite = true) (negative : Bool) :
    signed negative (signed negative x) = x := by
  cases negative with
  | false => rfl
  | true =>
    refine (float_eq_of_unpack_eq hx ?_).symm
    rw [signed, if_pos rfl, signed, if_pos rfl, unpack_neg, unpack_neg]
    cases x.toModel.unpack with
    | finite s | zero s | infinity s => cases s <;> rfl
    | notANumber => rfl

theorem exact_nonneg (h : isNegative x = false) : 0 ≤ exact x := by
  rw [isNegative] at h
  rw [exact]
  cases hu : x.toModel.unpack with
  | finite s m e _ =>
    rw [hu] at h
    cases s with
    | positive => exact mul_nonneg (Int.cast_nonneg (Int.natCast_nonneg m)) (by positivity)
    | negative => cases h
  | zero _ | infinity _ | notANumber => exact le_rfl

theorem exact_signed_nonneg (hx : x.isFinite = true) : 0 ≤ exact (signed (isNegative x) x) := by
  refine exact_nonneg ?_
  cases hsign : isNegative x with
  | false => exact hsign
  | true => rw [signed, if_pos rfl, isNegative_neg hx, hsign, Bool.not_true]

theorem Describes.signed {b : Binary} (h : Describes b x) (negative : Bool) :
    Describes b (signed negative x) := by
  cases negative with
  | false => exact h
  | true => exact h.neg

theorem toList_write (l : Layout) (hx : x.isFinite = true) : (l.write x).toList =
    (if isNegative x then "-" else "").toList ++ (if (Binary.ofBits x.toBits).significand = 0 then
      "0.0" else l.decimal (.shortest l.tie (.ofBits x.toBits))).toList := by
  obtain ⟨hnumber, hbounded⟩ := isNaN_or_isInf_of_isFinite hx
  rw [Layout.write, hnumber, if_neg Bool.false_ne_true, isNegative_eq hx]
  dsimp only
  rw [hbounded, if_neg Bool.false_ne_true, String.toList_append]

theorem exists_realText_write (l : Layout) (hx : x.isFinite = true) :
    ∃ q, Within (.ofBits x.toBits) q ∧ RealText (l.write x).toList (isNegative x) q := by
  have hsign : SignText (isNegative x) (if isNegative x then "-" else "").toList := by
    cases isNegative x with
    | false => exact .none
    | true => exact .minus
  rw [toList_write l hx]
  by_cases hzero : (Binary.ofBits x.toBits).significand = 0
  · have hwithin := exact_within (.ofBits x.toBits)
    rw [hzero, Nat.cast_zero, zero_mul] at hwithin
    have htext : MagnitudeText "0.0".toList 0 (-1) :=
      .mk (digits_zeros 1) (.point (digits_zeros 1)) (List.cons_ne_nil _ _) .none
    rw [if_pos hzero]
    refine ⟨0, hwithin, ?_⟩
    have hreal := RealText.mk hsign htext
    rwa [Nat.cast_zero, zero_mul] at hreal
  · obtain ⟨c, k, hc, hwithin, hshortest⟩ := exists_shortest_eq (Nat.pos_of_ne_zero hzero) l.tie
    obtain ⟨m, e, htext, hvalue⟩ :=
      spells_decimal l (digits_ofNat c k) (digits_ofNat_ne_nil hc k)
    have hreal := RealText.mk hsign htext
    rw [hvalue, number_ofNat] at hreal
    rw [if_neg hzero, hshortest]
    exact ⟨_, hwithin, hreal⟩

theorem readReal?_write (l : Layout) (hx : x.isFinite = true) : readReal? (l.write x) = some x := by
  obtain ⟨q, hwithin, htext⟩ := exists_realText_write l hx
  have hdescribes := (describes_ofBits hx).signed (isNegative x)
  have hnearest := hdescribes.nearest ((isFinite_signed _ x).trans hx) (exact_signed_nonneg hx) hwithin
  have hback := hnearest.signed (isNegative x)
  rw [signed_signed hx] at hback
  exact readReal?_eq_some_iff_nearest.2
    ⟨_, _, htext, (describes_ofBits hx).lt_overflow hwithin, hback, rfl⟩

end Decimal

theorem readsBack_of_isFinite {x : Float} (hx : x.isFinite = true) : ReadsBack x := by
  rw [ReadsBack, Json.realText, if_pos hx]
  exact Decimal.readReal?_write Layout.document hx

end Schematics
