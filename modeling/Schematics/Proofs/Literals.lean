import Mathlib.Data.Rat.Defs
import Mathlib.Algebra.Order.Ring.Rat
import Mathlib.Algebra.Order.Field.Basic
import Schematics.Decimal.Read

namespace Schematics

namespace Decimal

inductive SignText : Bool → List Char → Prop
  | none : SignText false []
  | plus : SignText false ['+']
  | minus : SignText true ['-']

def Digits (cs : List Char) : Prop := ∀ c ∈ cs, c.isDigit = true

def signed {α : Type} [Neg α] (negative : Bool) (a : α) : α := if negative then -a else a

inductive IntText : List Char → Int → Prop
  | mk {negative : Bool} {sign digits : List Char} (hs : SignText negative sign) (hd : Digits digits)
    (hne : digits ≠ []) :
    IntText (sign ++ digits) (signed negative (Nat.ofDigitChars 10 digits 0 : Int))

inductive FractionText : List Char → List Char → Prop
  | none : FractionText [] []
  | point {digits : List Char} (hd : Digits digits) : FractionText ('.' :: digits) digits

inductive ExponentText : List Char → Int → Prop
  | none : ExponentText [] 0
  | marked {mark : Char} {cs : List Char} {e : Int} (hm : mark = 'e' ∨ mark = 'E')
    (h : IntText cs e) : ExponentText (mark :: cs) e

inductive MagnitudeText : List Char → Nat → Int → Prop
  | mk {whole point fraction mark : List Char} {e : Int} (hw : Digits whole)
    (hf : FractionText point fraction) (hne : whole ++ fraction ≠ []) (he : ExponentText mark e) :
    MagnitudeText (whole ++ point ++ mark) (Nat.ofDigitChars 10 (whole ++ fraction) 0)
      (e - fraction.length)

inductive RealText : List Char → Bool → ℚ → Prop
  | mk {negative : Bool} {sign cs : List Char} {m : Nat} {e : Int} (hs : SignText negative sign)
    (hm : MagnitudeText cs m e) : RealText (sign ++ cs) negative (m * 10 ^ e)

variable {cs digits rest : List Char}

theorem value_eq (digits : List Char) : value digits = Nat.ofDigitChars 10 digits 0 := by
  rw [value, ← Nat.ofDigitChars_eq_foldl]

def Unsigned (cs : List Char) : Prop := ∀ c, cs.head? = some c → c ≠ '-' ∧ c ≠ '+'

theorem splitSign_spec (cs : List Char) :
    ∃ sign, SignText (splitSign cs).1 sign ∧ cs = sign ++ (splitSign cs).2 := by
  unfold splitSign
  split
  · exact ⟨_, .minus, rfl⟩
  · exact ⟨_, .plus, rfl⟩
  · exact ⟨_, .none, rfl⟩

theorem splitSign_append {negative : Bool} {sign : List Char} (hs : SignText negative sign)
    (hu : Unsigned cs) : splitSign (sign ++ cs) = (negative, cs) := by
  cases hs with
  | plus | minus => rfl
  | none =>
    rw [List.nil_append]
    unfold splitSign
    split
    · exact absurd rfl (hu _ rfl).1
    · exact absurd rfl (hu _ rfl).2
    · rfl

theorem Digits.unsigned (h : Digits digits) (hne : digits ≠ []) : Unsigned (digits ++ rest) := by
  intro c hc
  obtain ⟨d, digits, rfl⟩ := List.exists_cons_of_ne_nil hne
  obtain rfl := Option.some.inj hc
  have hd : d.isDigit = true := h d List.mem_cons_self
  constructor <;> rintro rfl <;> exact nomatch hd

theorem intText_iff {i : Int} : IntText cs i ↔ (splitSign cs).2 ≠ [] ∧ Digits (splitSign cs).2 ∧
    i = signed (splitSign cs).1 (value (splitSign cs).2 : Int) := by
  constructor
  · rintro ⟨hs, hd, hne⟩
    have hsplit := splitSign_append hs (hd.unsigned hne : Unsigned (_ ++ []))
    rw [List.append_nil] at hsplit
    rw [hsplit, value_eq]
    exact ⟨hne, hd, rfl⟩
  · rintro ⟨hne, hd, rfl⟩
    obtain ⟨sign, hs, hcs⟩ := splitSign_spec cs
    have htext := IntText.mk hs hd hne
    rwa [← hcs, ← value_eq] at htext

theorem all_isDigit_iff : digits.all Char.isDigit = true ↔ Digits digits := List.all_eq_true

theorem readInt?_eq_some_iff {text : String} {i : Int} :
    readInt? text = some i ↔ IntText text.toList i := by
  rw [intText_iff, ← all_isDigit_iff, ← and_assoc, readInt?, Option.ite_none_left_eq_some,
    Option.some.injEq, eq_comm (a := i)]
  exact and_congr_left fun _ => by simp

theorem readInt64?_eq_some_iff {text : String} {i : Int64} :
    readInt64? text = some i ↔ IntText text.toList i.toInt := by
  rw [readInt64?, Option.bind_eq_some_iff]
  simp only [readInt?_eq_some_iff, toInt64?, Option.ite_none_right_eq_some, Option.some.injEq]
  constructor
  · rintro ⟨n, hn, hrange, rfl⟩
    rwa [Int64.toInt_ofInt_of_le hrange.1 (Int.lt_add_one_of_le hrange.2)]
  · intro h
    exact ⟨i.toInt, h, ⟨i.minValue_le_toInt, i.toInt_le⟩, Int64.ofInt_toInt i⟩

theorem isSome_readInt64?_iff {text : String} : (readInt64? text).isSome = true ↔
    ∃ i, IntText text.toList i ∧ -2 ^ 63 ≤ i ∧ i < 2 ^ 63 := by
  rw [Option.isSome_iff_exists]
  constructor
  · rintro ⟨i, hi⟩
    exact ⟨i.toInt, readInt64?_eq_some_iff.1 hi, i.minValue_le_toInt, Int.lt_of_le_sub_one i.toInt_le⟩
  · rintro ⟨i, hi, hle, hlt⟩
    refine ⟨.ofInt i, readInt64?_eq_some_iff.2 ?_⟩
    rwa [Int64.toInt_ofInt_of_le hle hlt]

theorem readExponent?_eq_some_iff {e : Int} : readExponent? cs = some e ↔ ExponentText cs e := by
  cases cs with
  | nil =>
    constructor
    · intro h
      obtain rfl := Option.some.inj h
      exact .none
    · rintro ⟨⟩
      rfl
  | cons mark rest =>
    have htext : ExponentText (mark :: rest) e ↔ (mark = 'e' ∨ mark = 'E') ∧ IntText rest e := by
      constructor
      · rintro (_ | ⟨hm, h⟩)
        exact ⟨hm, h⟩
      · rintro ⟨hm, h⟩
        exact .marked hm h
    rw [htext, intText_iff, ← all_isDigit_iff, readExponent?, Option.ite_none_right_eq_some,
      Option.some.injEq, eq_comm (a := e), and_assoc, and_assoc]
    rfl

theorem span_digits (hd : Digits digits) (hr : ∀ c, rest.head? = some c → c.isDigit = false) :
    (digits ++ rest).takeWhile Char.isDigit = digits ∧
      (digits ++ rest).dropWhile Char.isDigit = rest := by
  rw [List.takeWhile_append_of_pos hd, List.dropWhile_append_of_pos hd]
  cases rest with
  | nil => simp
  | cons c rest => simp [hr c rfl]

theorem ExponentText.head_not_digit {e : Int} (h : ExponentText cs e) :
    ∀ c, cs.head? = some c → c.isDigit = false ∧ c ≠ '.' ∧ c ≠ '-' ∧ c ≠ '+' := by
  intro c hc
  cases h with
  | none => exact nomatch hc
  | marked hm =>
    obtain rfl := Option.some.inj hc
    obtain rfl | rfl := hm <;> decide

theorem FractionText.head_not_digit {point fraction mark : List Char} {e : Int}
    (hf : FractionText point fraction) (he : ExponentText mark e) :
    ∀ c, (point ++ mark).head? = some c → c.isDigit = false := by
  intro c hc
  cases hf with
  | none => exact (he.head_not_digit c hc).1
  | point =>
    obtain rfl := Option.some.inj hc
    decide

theorem MagnitudeText.unsigned {m : Nat} {e : Int} (h : MagnitudeText cs m e) : Unsigned cs := by
  obtain ⟨hw, hf, hne, he⟩ := h
  rename_i whole point fraction mark e
  intro c hc
  cases whole with
  | cons d whole =>
    obtain rfl := Option.some.inj hc
    have hd := hw d List.mem_cons_self
    constructor <;> rintro rfl <;> exact nomatch hd
  | nil =>
    cases hf with
    | none => exact absurd rfl hne
    | point =>
      obtain rfl := Option.some.inj hc
      decide

def splitFraction : List Char → List Char × List Char
  | '.' :: rest => (rest.takeWhile Char.isDigit, rest.dropWhile Char.isDigit)
  | rest => ([], rest)

theorem splitFraction_spec (cs : List Char) :
    ∃ point, FractionText point (splitFraction cs).1 ∧ cs = point ++ (splitFraction cs).2 := by
  unfold splitFraction
  split
  · next rest =>
    refine ⟨_, .point (List.all_eq_true.1 (List.all_takeWhile (l := rest))), ?_⟩
    rw [List.cons_append, List.takeWhile_append_dropWhile]
  · exact ⟨_, .none, rfl⟩

theorem splitFraction_append {point fraction mark : List Char} {e : Int}
    (hf : FractionText point fraction) (he : ExponentText mark e) :
    splitFraction (point ++ mark) = (fraction, mark) := by
  cases hf with
  | point hd =>
    have hspan := span_digits hd fun c hc => (he.head_not_digit c hc).1
    rw [List.cons_append, splitFraction, hspan.1, hspan.2]
  | none =>
    rw [List.nil_append]
    unfold splitFraction
    split
    · exact absurd rfl (he.head_not_digit _ rfl).2.1
    · rfl

def splitMagnitude? (cs : List Char) : Option (Nat × Int) :=
  let whole := cs.takeWhile Char.isDigit
  let (fraction, rest) := splitFraction (cs.dropWhile Char.isDigit)
  if whole ++ fraction = [] then none
  else (readExponent? rest).map fun e => (value (whole ++ fraction), e - fraction.length)

theorem splitMagnitude?_eq_some_iff {m : Nat} {e : Int} :
    splitMagnitude? cs = some (m, e) ↔ MagnitudeText cs m e := by
  rw [splitMagnitude?, Option.ite_none_left_eq_some, Option.map_eq_some_iff]
  constructor
  · rintro ⟨hne, e, he, heq⟩
    obtain ⟨rfl, rfl⟩ := Prod.mk.inj heq
    obtain ⟨point, hf, hrest⟩ := splitFraction_spec (cs.dropWhile Char.isDigit)
    have htext := MagnitudeText.mk (List.all_eq_true.1 (List.all_takeWhile (l := cs))) hf hne
      (readExponent?_eq_some_iff.1 he)
    rwa [List.append_assoc, ← hrest, List.takeWhile_append_dropWhile, ← value_eq] at htext
  · rintro ⟨hw, hf, hne, he⟩
    have hspan := span_digits hw (hf.head_not_digit he)
    rw [List.append_assoc, hspan.1, hspan.2, splitFraction_append hf he, ← value_eq]
    exact ⟨hne, _, readExponent?_eq_some_iff.2 he, rfl⟩

theorem MagnitudeText.unique {m₁ m₂ : Nat} {e₁ e₂ : Int} (h₁ : MagnitudeText cs m₁ e₁)
    (h₂ : MagnitudeText cs m₂ e₂) : m₁ = m₂ ∧ e₁ = e₂ := by
  rw [← splitMagnitude?_eq_some_iff] at h₁ h₂
  exact Prod.mk.inj (Option.some.inj (h₁.symm.trans h₂))

theorem realText_iff {negative : Bool} {q : ℚ} : RealText cs negative q ↔ ∃ m e,
    MagnitudeText (splitSign cs).2 m e ∧ negative = (splitSign cs).1 ∧ q = m * 10 ^ e := by
  constructor
  · rintro ⟨hs, hm⟩
    rw [splitSign_append hs hm.unsigned]
    exact ⟨_, _, hm, rfl, rfl⟩
  · rintro ⟨m, e, hm, rfl, rfl⟩
    obtain ⟨sign, hs, hcs⟩ := splitSign_spec cs
    have htext := RealText.mk hs hm
    rwa [← hcs] at htext

theorem RealText.unique {negative₁ negative₂ : Bool} {q₁ q₂ : ℚ} (h₁ : RealText cs negative₁ q₁)
    (h₂ : RealText cs negative₂ q₂) : negative₁ = negative₂ ∧ q₁ = q₂ := by
  obtain ⟨m₁, e₁, hm₁, rfl, rfl⟩ := realText_iff.1 h₁
  obtain ⟨m₂, e₂, hm₂, rfl, rfl⟩ := realText_iff.1 h₂
  obtain ⟨rfl, rfl⟩ := hm₁.unique hm₂
  exact ⟨rfl, rfl⟩

theorem readMagnitude?_eq (cs : List Char) :
    readMagnitude? cs = (splitMagnitude? cs).map fun p => toFloat p.1 p.2 := by
  have hempty (whole fraction : List Char) :
      (whole.isEmpty && fraction.isEmpty) = true ↔ whole ++ fraction = [] := by simp
  rw [splitMagnitude?, apply_ite (Option.map _), Option.map_map]
  exact if_congr (hempty _ _) rfl rfl

theorem readMagnitude?_eq_some_iff {x : Float} :
    readMagnitude? cs = some x ↔ ∃ m e, MagnitudeText cs m e ∧ x = toFloat m e := by
  simp only [readMagnitude?_eq, Option.map_eq_some_iff, Prod.exists, splitMagnitude?_eq_some_iff,
    eq_comm (a := x)]

theorem readReal?_eq_some_iff {text : String} {x : Float} : readReal? text = some x ↔
    ∃ m e, MagnitudeText (splitSign text.toList).2 m e ∧
      x = signed (splitSign text.toList).1 (toFloat m e) ∧ x.isFinite = true := by
  rw [readReal?, Option.filter_eq_some_iff, Option.map_eq_some_iff]
  simp only [readMagnitude?_eq_some_iff]
  constructor
  · rintro ⟨⟨y, ⟨m, e, hm, rfl⟩, rfl⟩, hfinite⟩
    exact ⟨m, e, hm, rfl, hfinite⟩
  · rintro ⟨m, e, hm, rfl, hfinite⟩
    exact ⟨⟨_, ⟨m, e, hm, rfl⟩, rfl⟩, hfinite⟩

end Decimal

end Schematics
