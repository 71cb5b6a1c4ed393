import Schematics.Json.Parser
import Schematics.Proofs.Conversion

namespace Schematics

namespace Json

open Decimal

structure Literal where
  negative : Bool
  whole : List Char
  point : List Char
  fraction : List Char
  mark : List Char
  exponent : ℤ
  digits : Digits whole
  nonempty : whole ≠ []
  leading : whole.head? = some '0' → whole = ['0']
  behind : FractionText point fraction
  pointed : point ≠ ['.']
  marked : ExponentText mark exponent

namespace Literal

def sign (n : Literal) : List Char := if n.negative then ['-'] else []

def unsigned (n : Literal) : List Char := n.whole ++ n.point ++ n.mark

def text (n : Literal) : String := String.ofList (n.sign ++ n.unsigned)

def significand (n : Literal) : Nat := Nat.ofDigitChars 10 (n.whole ++ n.fraction) 0

def scale (n : Literal) : ℤ := n.exponent - n.fraction.length

def magnitude (n : Literal) : ℚ := n.significand * 10 ^ n.scale

theorem signText (n : Literal) : SignText n.negative n.sign := by
  rw [sign]
  cases n.negative with
  | false => exact .none
  | true => exact .minus

theorem realText (n : Literal) : RealText n.text.toList n.negative n.magnitude := by
  have hmagnitude : MagnitudeText n.unsigned n.significand n.scale :=
    .mk n.digits n.behind (List.append_ne_nil_of_left_ne_nil n.nonempty _) n.marked
  rw [text, String.toList_ofList]
  exact .mk n.signText hmagnitude

end Literal

variable {digits : List Char}

section Gather

variable {n limit : Nat}

theorem le_ofDigitChars (digits : List Char) (n : Nat) : n ≤ Nat.ofDigitChars 10 digits n := by
  induction digits generalizing n with
  | nil => exact Nat.le_refl n
  | cons d rest ih =>
    rw [Nat.ofDigitChars_cons]
    exact Nat.le_trans (by omega) (ih _)

theorem gather_of_le (h : Nat.ofDigitChars 10 digits n ≤ limit) :
    gather limit n digits = (Nat.ofDigitChars 10 digits n, 0) := by
  induction digits generalizing n with
  | nil => rfl
  | cons d rest ih =>
    rw [Nat.ofDigitChars_cons] at h ⊢
    rw [gather, if_pos (Nat.le_trans (le_ofDigitChars rest _) h)]
    exact ih h

theorem gather_snd_eq_zero_iff (hn : n ≤ limit) :
    (gather limit n digits).2 = 0 ↔ Nat.ofDigitChars 10 digits n ≤ limit := by
  induction digits generalizing n with
  | nil => exact iff_of_true rfl hn
  | cons d rest ih =>
    rw [gather, Nat.ofDigitChars_cons]
    split
    · next hnext => exact ih hnext
    · next hnext =>
      have hmore := le_ofDigitChars rest (10 * n + (d.toNat - '0'.toNat))
      exact iff_of_false (Nat.succ_ne_zero _) (by omega)

end Gather

def Yields (r : Except Error (Json × Cursor)) (negative : Bool) : Option Float → Prop
  | some x => ∃ p, r = .ok (.real (signed negative x), ⟨[], p⟩)
  | none => ∃ p, r = .error ⟨.numberOutOfRange, p⟩

def raised? (significand : Nat) (start e : ℤ) : Option Float :=
  if e.natAbs ≤ maxExponent then scale? significand (clampExponent (start + e))
  else if significand = 0 ∨ e < 0 then some 0.0 else none

variable {negative : Bool} {significand : Nat} {start e : ℤ} {cs mark : List Char} (p : Position)

theorem scaled_yields :
    Yields (scaled ⟨[], p⟩ negative significand e) negative (scale? significand e) := by
  rw [scaled]
  cases scale? significand e with
  | none => exact ⟨_, rfl⟩
  | some x => exact ⟨p, rfl⟩

def signAhead (c : Cursor) : Bool × Cursor :=
  match c.rest with
  | '-' :: _ => (true, c.skip 1)
  | '+' :: _ => (false, c.skip 1)
  | _ => (false, c)

theorem signAhead_eq {down : Bool} {sign : List Char} (hs : SignText down sign) (hu : Unsigned cs) :
    ∃ q, signAhead ⟨sign ++ cs, p⟩ = (down, ⟨cs, q⟩) := by
  cases hs with
  | plus | minus => exact ⟨_, rfl⟩
  | none =>
    refine ⟨p, ?_⟩
    rw [List.nil_append]
    unfold signAhead
    split
    · next heq => exact absurd rfl (hu '-' (congrArg List.head? heq)).1
    · next heq => exact absurd rfl (hu '+' (congrArg List.head? heq)).2
    · rfl

def exponentDigits (c : Cursor) (negative down : Bool) (significand : Nat) (start : ℤ) :
    Except Error (Json × Cursor) :=
  let digits := c.rest.takeWhile Char.isDigit
  if digits.isEmpty then .error (c.aheadOr .endInValue .invalidNumber)
  else
    let (e, left) := gather maxExponent 0 digits
    let behind := c.skip digits.length
    if left = 0 then
      scaled behind negative significand (clampExponent (if down then start - e else start + e))
    else if significand = 0 ∨ down then .ok (.real (if negative then -0.0 else 0.0), behind)
    else .error ((c.skip (digits.length - left + 1)).here .numberOutOfRange)

theorem exponent_eq (c : Cursor) : exponent c negative significand start =
    exponentDigits (signAhead c).2 negative (signAhead c).1 significand start := rfl

theorem natAbs_signed (negative : Bool) (n : Nat) : (signed negative (n : ℤ)).natAbs = n := by
  cases negative with
  | false => exact Int.natAbs_natCast n
  | true => exact (Int.natAbs_neg _).trans (Int.natAbs_natCast n)

theorem exponent_yields (h : IntText cs e) :
    Yields (exponent ⟨cs, p⟩ negative significand start) negative (raised? significand start e) := by
  obtain ⟨hs, hd, hne⟩ := h
  rename_i down sign digits
  have hunsigned : Unsigned (digits ++ []) := hd.unsigned hne
  rw [List.append_nil] at hunsigned
  obtain ⟨q, hsign⟩ := signAhead_eq p hs hunsigned
  have htake : digits.takeWhile Char.isDigit = digits := List.takeWhile_eq_self_iff.2 hd
  have hempty : digits.isEmpty = false := List.isEmpty_eq_false_iff.2 hne
  have hdrop : digits.drop digits.length = [] := List.drop_length
  have hfits : (gather maxExponent 0 digits).2 = 0 ↔ Nat.ofDigitChars 10 digits 0 ≤ maxExponent :=
    gather_snd_eq_zero_iff (Nat.zero_le maxExponent)
  rw [exponent_eq, hsign, exponentDigits]
  dsimp only
  rw [htake, hempty, Cursor.skip, hdrop, if_neg Bool.false_ne_true, raised?, natAbs_signed]
  by_cases hle : Nat.ofDigitChars 10 digits 0 ≤ maxExponent
  · have hsum : (if down then start - (Nat.ofDigitChars 10 digits 0 : ℤ)
        else start + Nat.ofDigitChars 10 digits 0) = start + signed down (Nat.ofDigitChars 10 digits 0 : ℤ) := by
      cases down with
      | false => rfl
      | true => exact sub_eq_add_neg _ _
    rw [if_pos (hfits.2 hle), if_pos hle, gather_of_le hle, hsum]
    exact scaled_yields _
  · have hdown : down = true ↔ signed down (Nat.ofDigitChars 10 digits 0 : ℤ) < 0 := by
      cases down with
      | false => simp [signed]
      | true => simp [signed]; omega
    rw [if_neg (mt hfits.1 hle), if_neg hle]
    by_cases hleft : significand = 0 ∨ down = true
    · rw [if_pos hleft, if_pos (hleft.imp_right hdown.1)]
      exact ⟨_, rfl⟩
    · rw [if_neg hleft, if_neg (mt (Or.imp_right hdown.2) hleft)]
      exact ⟨_, rfl⟩

def behind? (significand : Nat) (start : ℤ) (mark : List Char) (e : ℤ) : Option Float :=
  if mark = [] then scale? significand start else raised? significand start e

theorem exponentOrEnd_yields (h : ExponentText mark e) :
    Yields (exponentOrEnd ⟨mark, p⟩ negative significand start) negative
      (behind? significand start mark e) := by
  cases h with
  | none => exact scaled_yields p
  | @marked m cs _ hm h =>
    rw [behind?, if_neg (List.cons_ne_nil _ _)]
    obtain rfl | rfl := hm
    · exact exponent_yields _ h
    · exact exponent_yields _ h

theorem fraction_yields (hd : Digits digits) (hne : digits ≠ []) (h : ExponentText mark e) :
    Yields (fraction ⟨digits ++ mark, p⟩ negative significand start) negative
      (behind? (gather maxSignificand significand digits).1
        (start - (digits.length - (gather maxSignificand significand digits).2 : Nat)) mark e) := by
  obtain ⟨htake, -⟩ := span_digits hd fun c hc => (h.head_not_digit c hc).1
  have hempty : digits.isEmpty = false := List.isEmpty_eq_false_iff.2 hne
  have hdrop : (digits ++ mark).drop digits.length = mark := List.drop_left
  rw [fraction]
  dsimp only
  rw [htake, hempty, Cursor.skip, hdrop, if_neg Bool.false_ne_true]
  exact exponentOrEnd_yields _ h

def minusAhead (c : Cursor) : Bool × Cursor :=
  match c.rest with
  | '-' :: _ => (true, c.skip 1)
  | _ => (false, c)

def numberDigits (c : Cursor) (negative : Bool) : Except Error (Json × Cursor) :=
  let digits := c.rest.takeWhile Char.isDigit
  match digits with
  | [] => .error (c.aheadOr .endInValue .invalidNumber)
  | '0' :: _ :: _ => .error ((c.skip 1).ahead .invalidNumber)
  | _ =>
    let (n, left) := gather maxSignificand 0 digits
    numberEnd (c.skip digits.length) negative n left

theorem number_eq (c : Cursor) : number c = numberDigits (minusAhead c).2 (minusAhead c).1 := rfl

theorem minusAhead_of_unsigned (h : Unsigned cs) : minusAhead ⟨cs, p⟩ = (false, ⟨cs, p⟩) := by
  unfold minusAhead
  split
  · next heq => exact absurd rfl (h '-' (congrArg List.head? heq)).1
  · rfl

theorem numberDigits_append (hd : Digits digits) (hne : digits ≠ [])
    (hlead : digits.head? = some '0' → digits = ['0'])
    (hcs : ∀ c, cs.head? = some c → c.isDigit = false) (negative : Bool) :
    numberDigits ⟨digits ++ cs, p⟩ negative = numberEnd ⟨cs, p.right digits.length⟩ negative
      (gather maxSignificand 0 digits).1 (gather maxSignificand 0 digits).2 := by
  obtain ⟨htake, -⟩ := span_digits hd hcs
  have hdrop : (digits ++ cs).drop digits.length = cs := List.drop_left
  rw [numberDigits]
  dsimp only
  rw [htake]
  split
  · next hnil => exact absurd rfl hne
  · next hzero => exact absurd (hlead rfl) (by simp)
  · rw [Cursor.skip, hdrop]

namespace Literal

def gathered (n : Literal) : Nat × Nat := gather maxSignificand 0 n.whole

theorem minusAhead_eq (n : Literal) :
    ∃ q, minusAhead ⟨n.sign ++ n.unsigned, p⟩ = (n.negative, ⟨n.unsigned, q⟩) := by
  rw [sign]
  cases n.negative with
  | true => exact ⟨_, rfl⟩
  | false =>
    have hunsigned : Unsigned n.unsigned := by
      rw [unsigned, List.append_assoc]
      exact n.digits.unsigned n.nonempty
    exact ⟨p, minusAhead_of_unsigned p hunsigned⟩

theorem number_eq (n : Literal) : ∃ q, number ⟨n.sign ++ n.unsigned, p⟩ =
    numberEnd ⟨n.point ++ n.mark, q⟩ n.negative n.gathered.1 n.gathered.2 := by
  obtain ⟨q, hminus⟩ := n.minusAhead_eq p
  refine ⟨q.right n.whole.length, ?_⟩
  rw [Json.number_eq, hminus, unsigned, List.append_assoc]
  exact numberDigits_append q n.digits n.nonempty n.leading
    (n.behind.head_not_digit n.marked) n.negative

def IsWhole (n : Literal) : Prop := n.point = [] ∧ n.mark = [] ∧ n.gathered.2 = 0

def quick? (n : Literal) : Option Float :=
  let (m, left) := gather maxSignificand n.gathered.1 n.fraction
  behind? m (n.gathered.2 - (n.fraction.length - left : Nat)) n.mark n.exponent

variable {n : Literal}

theorem significand_eq (n : Literal) :
    n.significand = Nat.ofDigitChars 10 n.fraction (Nat.ofDigitChars 10 n.whole 0) :=
  Nat.ofDigitChars_append 0

theorem gathered_of_le (h : n.significand ≤ maxSignificand) :
    n.gathered = (Nat.ofDigitChars 10 n.whole 0, 0) := by
  rw [significand_eq] at h
  exact gather_of_le (Nat.le_trans (le_ofDigitChars _ _) h)

theorem exponent_eq_zero (h : n.mark = []) : n.exponent = 0 := by
  have hmarked := n.marked
  generalize n.exponent = e at hmarked
  rw [h] at hmarked
  cases hmarked
  rfl

theorem fraction_eq_nil (h : n.point = []) : n.fraction = [] := by
  have hbehind := n.behind
  generalize n.fraction = fraction at hbehind ⊢
  rw [h] at hbehind
  cases hbehind
  rfl

theorem IsWhole.significand_le (h : n.IsWhole) :
    n.gathered.1 = n.significand ∧ n.significand ≤ maxSignificand ∧ n.magnitude = n.significand := by
  obtain ⟨hpoint, hmark, hleft⟩ := h
  have hfraction := fraction_eq_nil hpoint
  have hle : n.significand ≤ maxSignificand := by
    rw [significand_eq, hfraction]
    exact (gather_snd_eq_zero_iff (Nat.zero_le _)).1 hleft
  refine ⟨?_, hle, ?_⟩
  · rw [gathered_of_le hle, significand_eq, hfraction]
    rfl
  · rw [magnitude, scale, exponent_eq_zero hmark, hfraction, List.length_nil, Nat.cast_zero, sub_zero,
      zpow_zero, mul_one]

theorem number_of_isWhole (h : n.IsWhole) :
    ∃ q, number ⟨n.sign ++ n.unsigned, p⟩ = .ok (integer n.negative n.gathered.1, ⟨[], q⟩) := by
  obtain ⟨hpoint, hmark, hleft⟩ := h
  obtain ⟨q, hnumber⟩ := n.number_eq p
  refine ⟨q, ?_⟩
  rw [hnumber, hpoint, hmark, hleft]
  rfl

theorem number_yields (h : ¬n.IsWhole) :
    Yields (number ⟨n.sign ++ n.unsigned, p⟩) n.negative n.quick? := by
  obtain ⟨q, hnumber⟩ := n.number_eq p
  -- The parts of the number are made variables, so that their grammar can be taken by cases.
  have hf := n.behind
  have hpoint := n.pointed
  have he := n.marked
  rw [IsWhole] at h
  rw [hnumber, quick?]
  generalize n.gathered = start at h ⊢
  generalize n.point = point at h hf hpoint ⊢
  generalize n.fraction = fraction at hf ⊢
  generalize n.mark = mark at h he ⊢
  generalize n.exponent = e at he ⊢
  cases hf with
  | none =>
    cases he with
    | none =>
      have hleft : start.2 ≠ 0 := fun hzero => h ⟨rfl, rfl, hzero⟩
      rw [List.append_nil, numberEnd]
      dsimp only
      rw [if_neg hleft]
      exact scaled_yields _
    | @marked c cs _ hm he =>
      obtain rfl | rfl := hm
      · exact exponent_yields _ he
      · exact exponent_yields _ he
  | point hd =>
    have hne : fraction ≠ [] := fun hnil => hpoint (hnil ▸ rfl)
    exact fraction_yields _ hd hne he

end Literal

theorem value_eq_number {fuel depth : Nat} {x : Char} {rest : List Char}
    (hx : x = '-' ∨ x.isDigit = true) :
    value (fuel + 1) depth ⟨x :: rest, p⟩ = number ⟨x :: rest, p⟩ := by
  have hother (c : Char) (hminus : '-' ≠ c) (hdigit : c.isDigit = false) : x ≠ c := by
    rintro rfl
    obtain rfl | hx := hx
    · exact hminus rfl
    · rw [hx] at hdigit
      cases hdigit
  have hblank : Cursor.skipBlank ⟨x :: rest, p⟩ = ⟨x :: rest, p⟩ := by
    have hsolid : Cursor.isBlank x = false := by
      simp [Cursor.isBlank, hother]
    rw [Cursor.skipBlank, Cursor.skipBlankFrom, hsolid]
    rfl
  rw [value, hblank]
  dsimp only
  rw [if_neg (hother 'n' (by decide) (by decide)), if_neg (hother 't' (by decide) (by decide)),
    if_neg (hother 'f' (by decide) (by decide)), if_pos (by simpa using hx)]

theorem spelled_eq_number {text : String} {x : Char} {rest : List Char} (htext : text.toList = x :: rest)
    (hx : x = '-' ∨ x.isDigit = true) : spelled text = (do
      let (j, c) ← number ⟨text.toList, {}⟩
      let c := c.skipBlank
      if c.rest.isEmpty then pure j else throw (c.ahead .trailingCharacters)) := by
  rw [spelled]
  dsimp only
  rw [htext, value_eq_number _ hx]

namespace Literal

variable {n : Literal}

theorem exists_text_eq (n : Literal) :
    ∃ x rest, n.text.toList = x :: rest ∧ (x = '-' ∨ x.isDigit = true) := by
  obtain ⟨d, digits, hwhole⟩ := List.exists_cons_of_ne_nil n.nonempty
  rw [text, String.toList_ofList, sign, unsigned, hwhole]
  cases n.negative with
  | true => exact ⟨_, _, rfl, .inl rfl⟩
  | false => exact ⟨_, _, rfl, .inr (n.digits d (hwhole ▸ List.mem_cons_self))⟩

theorem parse_eq (n : Literal) : parse n.text = (do
    let (j, c) ← number ⟨n.sign ++ n.unsigned, {}⟩
    let c := c.skipBlank
    if c.rest.isEmpty then pure j.collapse else throw (c.ahead .trailingCharacters)) := by
  obtain ⟨x, rest, htext, hx⟩ := n.exists_text_eq
  rw [parse, spelled_eq_number htext hx, text, String.toList_ofList]
  cases number ⟨n.sign ++ n.unsigned, {}⟩ with
  | error e => rfl
  | ok r =>
    dsimp only [bind, Except.bind]
    split <;> rfl

theorem IsWhole.parse_eq_or (h : n.IsWhole) :
    ((n.negative = true → n.significand ≠ 0) ∧
        parse n.text = .ok (.int (signed n.negative (n.significand : ℤ)))) ∨
      n.negative = true ∧ (n.significand = 0 ∨ 2 ^ 63 < n.significand) ∧
        parse n.text = .ok (.real (signed n.negative n.significand.toUInt64.toFloat)) := by
  obtain ⟨q, hnumber⟩ := number_of_isWhole {} h
  rw [parse_eq, hnumber, h.significand_le.1]
  cases n.negative with
  | false => exact .inl ⟨nofun, rfl⟩
  | true =>
    rw [integer, if_neg (by decide)]
    have hmax : Int64.maxValue.toInt + 1 = 2 ^ 63 := rfl
    split
    · next hlost => exact .inr ⟨rfl, hlost.imp_right fun hlarge => by omega, rfl⟩
    · next hkept => exact .inl ⟨fun _ hzero => hkept (.inl hzero), rfl⟩

theorem parse_eq_ok_iff (h : ¬n.IsWhole) {j : Json} :
    parse n.text = .ok j ↔ ∃ x, n.quick? = some x ∧ j = .real (signed n.negative x) := by
  have hyields := number_yields {} h
  rw [parse_eq]
  cases hq : n.quick? with
  | none =>
    rw [hq] at hyields
    obtain ⟨q, herror⟩ := hyields
    rw [herror]
    exact iff_of_false nofun nofun
  | some x =>
    rw [hq] at hyields
    obtain ⟨q, hok⟩ := hyields
    rw [hok]
    have hparsed : (Except.ok (.real (signed n.negative x)) : Except Error Json) = .ok j ↔
        ∃ y, some x = some y ∧ j = .real (signed n.negative y) := by
      simp [eq_comm]
    exact hparsed

end Literal

end Json

end Schematics
