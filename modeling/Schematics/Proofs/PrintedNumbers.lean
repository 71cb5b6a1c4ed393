import Schematics.Proofs.QuickDoubles

/-!
Numbers that stand bare in a document, and strings of the same text. A bare number is parsed first and
printed again before it is read. An integer gets its own text back; any other number is printed as the
double that it was taken for.
-/

namespace Schematics

namespace Decimal

variable {digits cs : List Char} {i : ℤ}

theorem digitChar_sub {d : Char} (h : d.isDigit = true) :
    d.toNat - '0'.toNat < 10 ∧ Nat.digitChar (d.toNat - '0'.toNat) = d := by
  have hzero : '0'.toNat = 48 := rfl
  obtain ⟨hlow, hhigh⟩ : 48 ≤ d.toNat ∧ d.toNat ≤ 57 := by
    simpa [Char.isDigit, UInt32.le_iff_toNat_le] using h
  have hlt : d.toNat - '0'.toNat < 10 := by omega
  refine ⟨hlt, Char.toNat_inj.1 ?_⟩
  rw [Nat.toNat_digitChar_of_lt_ten hlt]
  omega

theorem toDigits_append {n : Nat} (hd : Digits digits) (hn : 0 < n) :
    Nat.toDigits 10 n ++ digits = Nat.toDigits 10 (Nat.ofDigitChars 10 digits n) := by
  induction digits generalizing n with
  | nil => rw [List.append_nil, Nat.ofDigitChars_nil]
  | cons d rest ih =>
    obtain ⟨hlt, hchar⟩ := digitChar_sub (hd d List.mem_cons_self)
    have hlast := Nat.toDigits_append_toDigits (by decide : 1 < 10) hn hlt
    rw [Nat.toDigits_of_lt_base hlt, hchar] at hlast
    rw [Nat.ofDigitChars_cons, ← ih (fun c hc => hd c (List.mem_cons_of_mem _ hc)) (by omega), ← hlast,
      List.append_assoc, List.singleton_append]

theorem toDigits_ofDigitChars (hd : Digits digits) (hne : digits ≠ [])
    (hlead : digits.head? = some '0' → digits = ['0']) :
    Nat.toDigits 10 (Nat.ofDigitChars 10 digits 0) = digits := by
  obtain ⟨d, rest, rfl⟩ := List.exists_cons_of_ne_nil hne
  obtain ⟨hlt, hchar⟩ := digitChar_sub (hd d List.mem_cons_self)
  by_cases hzero : d = '0'
  · rw [hlead (congrArg some hzero)]
    rfl
  · have hpos : 0 < d.toNat - '0'.toNat := by
      by_contra hnone
      rw [Nat.eq_zero_of_not_pos hnone] at hchar
      exact hzero hchar.symm
    rw [Nat.ofDigitChars_cons, mul_zero, zero_add,
      ← toDigits_append (fun c hc => hd c (List.mem_cons_of_mem _ hc)) hpos,
      Nat.toDigits_of_lt_base hlt, hchar, List.singleton_append]

theorem SignText.eq_of_mem {negative : Bool} (h : SignText negative cs) {c : Char} (hc : c ∈ cs) :
    c = '-' ∨ c = '+' := by
  cases h with
  | none => exact nomatch hc
  | plus => exact .inr (List.mem_singleton.1 hc)
  | minus => exact .inl (List.mem_singleton.1 hc)

theorem IntText.digit_or_sign (h : IntText cs i) {c : Char} (hc : c ∈ cs) :
    c.isDigit = true ∨ c = '-' ∨ c = '+' := by
  obtain ⟨hs, hd, -⟩ := h
  obtain hc | hc := List.mem_append.1 hc
  · exact .inr (hs.eq_of_mem hc)
  · exact .inl (hd c hc)

theorem not_intText_of_mem {c : Char} (hc : c ∈ cs) (hdigit : c.isDigit = false) (hminus : c ≠ '-')
    (hplus : c ≠ '+') : ¬IntText cs i := by
  intro h
  obtain hd | rfl | rfl := h.digit_or_sign hc
  · rw [hdigit] at hd
    cases hd
  · exact hminus rfl
  · exact hplus rfl

theorem IntText.unique {i' : ℤ} (h : IntText cs i) (h' : IntText cs i') : i = i' := by
  obtain ⟨-, -, rfl⟩ := intText_iff.1 h
  obtain ⟨-, -, rfl⟩ := intText_iff.1 h'
  rfl

theorem exists_mem_decimal (l : Layout) (d : Decimal) :
    ∃ c ∈ (l.decimal d).toList, c = '.' ∨ c = 'e' := by
  rw [Layout.decimal]
  split
  · refine ⟨'.', ?_, .inl rfl⟩
    rw [Layout.plain]
    split <;> simp
  · refine ⟨'e', ?_, .inr rfl⟩
    rw [toList_scientific]
    simp

theorem exists_mem_realText (x : Float) :
    ∃ c ∈ (Json.realText x).toList, c.isDigit = false ∧ c ≠ '-' ∧ c ≠ '+' := by
  rw [Json.realText]
  split
  · next hx =>
    rw [toList_write _ hx]
    by_cases hzero : (Binary.ofBits x.toBits).significand = 0
    · rw [if_pos hzero]
      exact ⟨'.', List.mem_append_right _ (by decide), by decide⟩
    · rw [if_neg hzero]
      obtain ⟨c, hc, h⟩ := exists_mem_decimal .document (.shortest Layout.document.tie (.ofBits x.toBits))
      refine ⟨c, List.mem_append_right _ hc, ?_⟩
      obtain rfl | rfl := h <;> decide
  · exact ⟨'n', by decide, by decide⟩

theorem readReal?_realText_iff {x y : Float} :
    readReal? (Json.realText x) = some y ↔ x.isFinite = true ∧ x = y := by
  by_cases hx : x.isFinite = true
  · have hback : readReal? (Json.realText x) = some x := readsBack_of_isFinite hx
    rw [hback, Option.some.injEq, and_iff_right hx]
  · have hnone : readReal? "null" = none := rfl
    rw [Json.realText, if_neg hx, hnone]
    exact iff_of_false (Option.some_ne_none y).symm fun h => hx h.1

theorem not_intText_realText (x : Float) : ¬IntText (Json.realText x).toList i := by
  intro h
  obtain ⟨c, hc, hdigit, hminus, hplus⟩ := exists_mem_realText x
  exact not_intText_of_mem hc hdigit hminus hplus h

end Decimal

namespace Json

open Decimal

namespace Literal

variable {n : Literal}

theorem text_of_isWhole (h : n.IsWhole) :
    n.text = String.ofList (n.sign ++ Nat.toDigits 10 n.significand) := by
  have hwhole : n.unsigned = n.whole := by
    rw [unsigned, h.1, h.2.1, List.append_nil, List.append_nil]
  have hsignificand : n.significand = Nat.ofDigitChars 10 n.whole 0 := by
    rw [significand_eq, fraction_eq_nil h.1, Nat.ofDigitChars_nil]
  rw [text, hwhole, hsignificand, toDigits_ofDigitChars n.digits n.nonempty n.leading]

theorem int_or_real_of_parse {j : Json} (h : parse n.text = .ok j) :
    (∃ i, j = .int i) ∨ ∃ x, j = .real x := by
  by_cases hwhole : n.IsWhole
  · obtain ⟨-, hparse⟩ | ⟨-, -, hparse⟩ := hwhole.parse_eq_or
    · exact .inl ⟨_, Except.ok.inj (h.symm.trans hparse)⟩
    · exact .inr ⟨_, Except.ok.inj (h.symm.trans hparse)⟩
  · obtain ⟨x, -, rfl⟩ := (parse_eq_ok_iff hwhole).1 h
    exact .inr ⟨_, rfl⟩

theorem toString_signed {negative : Bool} {m : Nat} (h : negative = true → m ≠ 0) :
    toString (signed negative (m : ℤ)) =
      String.ofList ((if negative then ['-'] else []) ++ Nat.toDigits 10 m) := by
  rw [Int.toString_eq_repr, Int.repr_eq_if]
  cases negative with
  | false =>
    rw [signed, if_neg Bool.false_ne_true, if_pos (by omega), Int.toNat_natCast,
      Nat.repr_eq_ofList_toDigits]
    rfl
  | true =>
    have hpos := h rfl
    rw [signed, if_pos rfl, if_neg (by omega), neg_neg, Int.toNat_natCast, Nat.repr_eq_ofList_toDigits,
      if_pos rfl, String.ofList_append]

theorem toString_eq_text {i : ℤ} (h : parse n.text = .ok (.int i)) : toString i = n.text := by
  by_cases hwhole : n.IsWhole
  · obtain ⟨hzero, hparse⟩ | ⟨-, -, hparse⟩ := hwhole.parse_eq_or
    · obtain rfl := Json.int.inj (Except.ok.inj (h.symm.trans hparse))
      rw [toString_signed hzero, text_of_isWhole hwhole, sign]
    · cases h.symm.trans hparse
  · obtain ⟨x, -, hreal⟩ := (parse_eq_ok_iff hwhole).1 h
    cases hreal

theorem intText_of_isWhole (h : n.IsWhole) :
    IntText n.text.toList (signed n.negative (n.significand : ℤ)) := by
  have htext := IntText.mk n.signText (digits_toDigits n.significand) Nat.toDigits_ne_nil
  rw [Nat.ofDigitChars_ten_toDigits] at htext
  rwa [text_of_isWhole h, String.toList_ofList]

theorem not_intText_of_not_isWhole (h : ¬n.IsWhole) (i : Int64) : ¬IntText n.text.toList i.toInt := by
  have htext : n.text.toList = n.sign ++ (n.whole ++ n.point ++ n.mark) := String.toList_ofList
  have hbehind := n.behind
  have hmarked := n.marked
  rw [htext]
  cases hpoint : n.point with
  | cons c digits =>
    rw [hpoint] at hbehind
    cases hbehind
    exact not_intText_of_mem (c := '.') (by simp) (by decide) (by decide) (by decide)
  | nil =>
    cases hmark : n.mark with
    | cons c rest =>
      rw [hmark] at hmarked
      generalize n.exponent = e at hmarked
      cases hmarked with
      | marked hm =>
        obtain rfl | rfl := hm
        · exact not_intText_of_mem (c := 'e') (by simp) (by decide) (by decide) (by decide)
        · exact not_intText_of_mem (c := 'E') (by simp) (by decide) (by decide) (by decide)
    | nil =>
      intro hint
      have hwhole := IntText.mk n.signText n.digits n.nonempty
      rw [List.append_nil, List.append_nil] at hint
      have hvalue := hint.unique hwhole
      have hleft : n.gathered.2 ≠ 0 := fun hzero => h ⟨hpoint, hmark, hzero⟩
      have hlarge := mt (gather_snd_eq_zero_iff (Nat.zero_le maxSignificand)).2 hleft
      have hlow := i.minValue_le_toInt
      have hhigh := i.toInt_le
      have hlimit : (maxSignificand : ℤ) = 2 ^ 64 - 1 := rfl
      have hmin : Int64.minValue.toInt = -2 ^ 63 := rfl
      have hmax : Int64.maxValue.toInt = 2 ^ 63 - 1 := rfl
      cases hsign : n.negative with
      | false =>
        rw [hsign, signed, if_neg Bool.false_ne_true] at hvalue
        omega
      | true =>
        rw [hsign, signed, if_pos rfl] at hvalue
        omega

theorem not_intText_of_not_int (h : ¬∃ k, parse n.text = .ok (.int k)) (hzero : n.text ≠ "-0")
    (i : Int64) : ¬IntText n.text.toList i.toInt := by
  by_cases hwhole : n.IsWhole
  · obtain ⟨-, hparse⟩ | ⟨hsign, hlost, -⟩ := hwhole.parse_eq_or
    · exact absurd ⟨_, hparse⟩ h
    · intro hi
      have hvalue := hi.unique (intText_of_isWhole hwhole)
      have hlow := i.minValue_le_toInt
      have hmin : Int64.minValue.toInt = -2 ^ 63 := rfl
      obtain hnone | hlarge := hlost
      · rw [text_of_isWhole hwhole, sign, hsign, hnone] at hzero
        exact hzero rfl
      · rw [hsign, signed, if_pos rfl] at hvalue
        omega
  · exact not_intText_of_not_isWhole hwhole i

theorem minus_zero_parsed : parse "-0" = .ok (.real (-0.0)) := by rfl

theorem printed_intText_iff : (∀ i : Int64, (∃ j, parse n.text = .ok j ∧
    IntText j.scalarText.toList i.toInt) ↔ IntText n.text.toList i.toInt) ↔ n.text ≠ "-0" := by
  by_cases hint : ∃ k, parse n.text = .ok (.int k)
  · obtain ⟨k, hk⟩ := hint
    have htext : (Json.int k).scalarText = n.text := toString_eq_text hk
    refine iff_of_true (fun i => ?_) fun hzero => ?_
    · simp only [hk, Except.ok.injEq, exists_eq_left', htext]
    · rw [hzero, minus_zero_parsed] at hk
      cases hk
  · have hbare (i : Int64) : ¬∃ j, parse n.text = .ok j ∧ IntText j.scalarText.toList i.toInt := by
      rintro ⟨j, hj, htext⟩
      obtain ⟨k, rfl⟩ | ⟨x, rfl⟩ := int_or_real_of_parse hj
      · exact hint ⟨k, hj⟩
      · exact not_intText_realText x htext
    simp only [hbare, false_iff]
    constructor
    · intro hnone hzero
      refine hnone 0 ?_
      rw [hzero]
      exact IntText.mk .minus (digits_zeros 1) (List.cons_ne_nil _ _)
    · exact not_intText_of_not_int hint

theorem printed_readReal?_iff : (∀ x, (∃ j, parse n.text = .ok j ∧
    readReal? j.scalarText = some x) ↔ readReal? n.text = some x) ↔
      (∃ i, parse n.text = .ok (.int i)) ∨ n.TakenForNearest := by
  by_cases hint : ∃ k, parse n.text = .ok (.int k)
  · obtain ⟨k, hk⟩ := hint
    have htext : (Json.int k).scalarText = n.text := toString_eq_text hk
    refine iff_of_true (fun x => ?_) (.inl ⟨k, hk⟩)
    simp only [hk, Except.ok.injEq, exists_eq_left', htext]
  · rw [or_iff_right hint, TakenForNearest]
    refine forall_congr' fun x => iff_congr ?_ ?_
    · constructor
      · rintro ⟨j, hj, htext⟩
        obtain ⟨k, rfl⟩ | ⟨y, rfl⟩ := int_or_real_of_parse hj
        · exact absurd ⟨k, hj⟩ hint
        · obtain ⟨hfinite, rfl⟩ := readReal?_realText_iff.1 htext
          exact ⟨hj, hfinite⟩
      · rintro ⟨hx, hfinite⟩
        exact ⟨_, hx, readReal?_realText_iff.2 ⟨hfinite, rfl⟩⟩
    · rw [readReal?_eq_some_iff_nearest]
      constructor
      · rintro ⟨negative, q, htext, hsmall, hnearest, hsign⟩
        obtain ⟨rfl, rfl⟩ := htext.unique n.realText
        exact ⟨hsmall, hnearest, hsign⟩
      · rintro ⟨hsmall, hnearest, hsign⟩
        exact ⟨_, _, n.realText, hsmall, hnearest, hsign⟩

def minusZero : Literal where
  negative := true
  whole := ['0']
  point := []
  fraction := []
  mark := []
  exponent := 0
  digits := all_isDigit_iff.1 rfl
  nonempty := by decide
  leading := fun _ => rfl
  behind := .none
  pointed := by decide
  marked := .none

/-- `3e23`, which the quick rule rounds in both its steps. -/
def roundedTwice : Literal where
  negative := false
  whole := ['3']
  point := []
  fraction := []
  mark := ['e', '2', '3']
  exponent := 23
  digits := all_isDigit_iff.1 rfl
  nonempty := by decide
  leading := by decide
  behind := .none
  pointed := by decide
  marked := .marked (.inl rfl) (.mk .none (all_isDigit_iff.1 rfl : Digits ['2', '3']) (by decide))

theorem parse_roundedTwice :
    parse roundedTwice.text = .ok (.real ((3 : Nat).toUInt64.toFloat * powerOfTen 23)) := by
  have hquick : roundedTwice.quick? = scale? 3 23 :=
    quick?_of_short (by decide) (by decide) (by decide)
  have hfinite : ((3 : Nat).toUInt64.toFloat * powerOfTen 23).isInf = false := by decide +kernel
  have hscale : scale? 3 23 = some ((3 : Nat).toUInt64.toFloat * powerOfTen 23) := by
    rw [scale?]
    dsimp only
    rw [if_neg (by decide), if_neg (by decide)]
    exact if_neg (ne_true_of_eq_false hfinite)
  exact (parse_eq_ok_iff fun h => absurd h.2.1 (by decide)).2 ⟨_, hquick.trans hscale, rfl⟩

theorem not_takenForNearest_roundedTwice : ¬roundedTwice.TakenForNearest := by
  intro h
  have hquoted : readReal? roundedTwice.text = some 3e23 := by rfl
  obtain ⟨j, hj, hbare⟩ := (printed_readReal?_iff.2 (.inr h) 3e23).2 hquoted
  obtain rfl := Except.ok.inj (parse_roundedTwice.symm.trans hj)
  obtain ⟨-, hsame⟩ := readReal?_realText_iff.1 hbare
  exact absurd (congrArg Float.toBits hsame) (by decide +kernel)

end Literal

end Json

end Schematics
