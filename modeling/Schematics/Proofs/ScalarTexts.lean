import Schematics.Document.AttributeValue
import Schematics.Proofs.Conversion
import Schematics.Proofs.Success

namespace Schematics

variable {shape : Shape} {name text : String} {v : Value} {raw : Json}

namespace Json

def isScalar : Json → Bool
  | .bool _ | .int _ | .real _ | .string _ => true
  | _ => false

inductive HasText : Json → String → Prop
  | string (s : String) : HasText (.string s) s
  | boolTrue : HasText (.bool true) "true"
  | boolFalse : HasText (.bool false) "false"
  | int (i : Int) : HasText (.int i) (toString i)
  | finite {x : Float} (hx : x.isFinite = true) : HasText (.real x) (Layout.document.write x)
  | other {x : Float} (hx : x.isFinite = false) : HasText (.real x) "null"

theorem hasText_iff : raw.HasText text ↔ raw.isScalar = true ∧ raw.scalarText = text := by
  constructor
  · intro h
    cases h with
    | string | boolTrue | boolFalse | int => exact ⟨rfl, rfl⟩
    | finite hx => exact ⟨rfl, if_pos hx⟩
    | other hx => exact ⟨rfl, if_neg (Bool.eq_false_iff.1 hx)⟩
  · rintro ⟨hraw, rfl⟩
    cases raw with
    | string s => exact .string s
    | bool b =>
      cases b with
      | true => exact .boolTrue
      | false => exact .boolFalse
    | int i => exact .int i
    | real x =>
      rw [scalarText, realText]
      split
      · next hx => exact .finite hx
      · next hx => exact .other (Bool.eq_false_iff.2 hx)
    | null | array _ | object _ => exact absurd hraw Bool.false_ne_true

theorem hasText_scalarText (h : raw.isScalar = true) : raw.HasText raw.scalarText :=
  hasText_iff.2 ⟨h, rfl⟩

theorem HasText.isScalar (h : raw.HasText text) : raw.isScalar = true := (hasText_iff.1 h).1

theorem HasText.eq (h : raw.HasText text) : raw.scalarText = text := (hasText_iff.1 h).2

end Json

inductive BaseType.Called : String → Shape → Prop
  | bool : Called "Bool" .bool
  | int : Called "Int" .int
  | string : Called "String" .string
  | real : Called "Real" .real

theorem BaseType.called_iff : Called name shape ↔ (name, shape) ∈ all := by
  constructor
  · rintro ⟨⟩ <;> simp [all]
  · intro h
    simp only [all, List.mem_cons, Prod.mk.injEq, List.not_mem_nil, or_false] at h
    obtain ⟨rfl, rfl⟩ | ⟨rfl, rfl⟩ | ⟨rfl, rfl⟩ | ⟨rfl, rfl⟩ := h
    · exact .bool
    · exact .int
    · exact .string
    · exact .real

theorem BaseType.Called.unique {shape' : Shape} (h : Called name shape) (h' : Called name shape') :
    shape = shape' := by
  rw [called_iff] at h h'
  simp only [all, List.mem_cons, Prod.mk.injEq, List.not_mem_nil, or_false] at h
  obtain ⟨rfl, rfl⟩ | ⟨rfl, rfl⟩ | ⟨rfl, rfl⟩ | ⟨rfl, rfl⟩ := h <;> simpa [all, eq_comm] using h'

def Shape.Takes : Shape → String → Prop
  | .bool, text => text = "true" ∨ text = "false"
  | .int, text => ∃ i, Decimal.IntText text.toList i ∧ -2 ^ 63 ≤ i ∧ i < 2 ^ 63
  | .string, _ => True
  | .real, text => ∃ negative q, Decimal.RealText text.toList negative q ∧ q < Decimal.overflow
  | _, _ => False

inductive Shape.Writes : Shape → String → Value → Prop
  | true : Writes .bool "true" (.bool true)
  | false : Writes .bool "false" (.bool false)
  | int {text : String} {i : Int64} (h : Decimal.IntText text.toList i.toInt) : Writes .int text (.int i)
  | string {text : String} : Writes .string text (.string text)
  | real {text : String} {x : Float} {negative : Bool} {q : ℚ}
    (h : Decimal.RealText text.toList negative q) (hq : q < Decimal.overflow)
    (hx : Decimal.Nearest (Decimal.signed negative q) x) (hs : Decimal.isNegative x = negative) :
    Writes .real text (.real x)

namespace AttributeValue

theorem exists_readScalar_iff :
    (∃ v, readScalar shape name text = .ok v) ↔ shape.Takes text := by
  cases shape with
  | bool =>
    rw [Shape.Takes, readScalar]
    split
    · next htrue => exact iff_of_true ⟨_, rfl⟩ (.inl htrue)
    · next htrue =>
      split
      · next hfalse => exact iff_of_true ⟨_, rfl⟩ (.inr hfalse)
      · next hfalse => exact iff_of_false nofun (not_or.2 ⟨htrue, hfalse⟩)
  | int =>
    rw [Shape.Takes, ← Decimal.isSome_readInt64?_iff, readScalar]
    cases Decimal.readInt64? text with
    | none => exact iff_of_false nofun nofun
    | some i => exact iff_of_true ⟨_, rfl⟩ rfl
  | string => exact iff_of_true ⟨_, rfl⟩ trivial
  | real =>
    rw [Shape.Takes, ← Decimal.isSome_readReal?_iff, readScalar]
    cases Decimal.readReal? text with
    | none => exact iff_of_false nofun nofun
    | some x => exact iff_of_true ⟨_, rfl⟩ rfl
  | array _ | port _ | node _ | connection _ | constraint _ => exact iff_of_false nofun nofun

theorem readScalar_eq_ok_iff : readScalar shape name text = .ok v ↔ shape.Writes text v := by
  constructor
  · intro h
    cases shape with
    | bool =>
      rw [readScalar] at h
      split at h
      · next htrue =>
        obtain rfl := Except.ok.inj h
        exact htrue ▸ .true
      · split at h
        · next hfalse =>
          obtain rfl := Except.ok.inj h
          exact hfalse ▸ .false
        · exact nomatch h
    | int =>
      rw [readScalar] at h
      split at h
      · next i hi =>
        obtain rfl := Except.ok.inj h
        exact .int (Decimal.readInt64?_eq_some_iff.1 hi)
      · exact nomatch h
    | string =>
      obtain rfl := Except.ok.inj h
      exact .string
    | real =>
      rw [readScalar] at h
      split at h
      · next x hx =>
        obtain rfl := Except.ok.inj h
        obtain ⟨negative, q, htext, hq, hnearest, hsign⟩ :=
          Decimal.readReal?_eq_some_iff_nearest.1 hx
        exact .real htext hq hnearest hsign
      · exact nomatch h
    | array _ | port _ | node _ | connection _ | constraint _ => exact nomatch h
  · intro h
    cases h with
    | true | false | string => rfl
    | int h => rw [readScalar, Decimal.readInt64?_eq_some_iff.2 h]
    | real h hq hx hs =>
      rw [readScalar, Decimal.readReal?_eq_some_iff_nearest.2 ⟨_, _, h, hq, hx, hs⟩]

end AttributeValue

theorem Shape.exists_writes_iff : (∃ v, shape.Writes text v) ↔ shape.Takes text := by
  have hread : (∃ v, AttributeValue.readScalar shape "" text = .ok v) ↔ shape.Takes text :=
    AttributeValue.exists_readScalar_iff
  simpa only [AttributeValue.readScalar_eq_ok_iff] using hread

theorem Shape.Writes.unique {w : Value} (h : shape.Writes text v) (h' : shape.Writes text w) :
    v = w := by
  have hread : AttributeValue.readScalar shape "" text = .ok v :=
    AttributeValue.readScalar_eq_ok_iff.2 h
  exact Except.ok.inj (hread.symm.trans (AttributeValue.readScalar_eq_ok_iff.2 h'))

end Schematics
