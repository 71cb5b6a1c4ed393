import Schematics.Proofs.ItemFaults
import Schematics.Proofs.PrintedNumbers

namespace Schematics

open Decimal Json

def Json.within (j : Json) : List (List Json × List Json) → Json
  | [] => j
  | (before, after) :: places => .array (before ++ j.within places :: after)

/--
Wherever in so many arrays within each other the number stands, the bare number and the string of
its text are read as the same value, or neither is read. What is not parsed is not read.
-/
def Schematic.ReadsAlike (s : Schematic) (t : TypeId) (depth : Nat) (n : Literal) : Prop :=
  ∀ places, places.length = depth → ∀ name v,
    (∃ j, parse n.text = .ok j ∧
        AttributeValue.readDeclared s (some t) name (j.within places) = .ok v) ↔
      AttributeValue.readDeclared s (some t) name ((Json.string n.text).within places) = .ok v

variable {s : Schematic} {t u element : TypeId} {d : TypeDef} {n : Literal} {depth : Nat} {v : Value}
  {raw : Json} {before after : List Json}

theorem forall₂_append_left_iff {α β : Type} {R : α → β → Prop} {l l' : List α} {bs : List β} :
    List.Forall₂ R (l ++ l') bs ↔
      ∃ cs cs', List.Forall₂ R l cs ∧ List.Forall₂ R l' cs' ∧ bs = cs ++ cs' := by
  induction l generalizing bs with
  | nil => simp
  | cons a l ih =>
    simp only [List.cons_append, List.forall₂_cons_left_iff, ih]
    constructor
    · rintro ⟨b, _, hb, ⟨cs, cs', hcs, hcs', rfl⟩, rfl⟩
      exact ⟨b :: cs, cs', ⟨b, cs, hb, hcs, rfl⟩, hcs', rfl⟩
    · rintro ⟨_, cs', ⟨b, cs, hb, hcs, rfl⟩, hcs', rfl⟩
      exact ⟨b, cs ++ cs', hb, ⟨cs, cs', hcs, hcs', rfl⟩, rfl⟩

theorem Shape.writes_int_iff {text : String} : Shape.Writes .int text v ↔
    ∃ i : Int64, v = .int i ∧ IntText text.toList i.toInt := by
  constructor
  · intro h
    cases h with
    | int h => exact ⟨_, rfl, h⟩
  · rintro ⟨i, rfl, h⟩
    exact .int h

theorem Shape.writes_real_iff {text : String} : Shape.Writes .real text v ↔
    ∃ x, v = .real x ∧ readReal? text = some x := by
  simp only [readReal?_eq_some_iff_nearest]
  constructor
  · intro h
    cases h with
    | real h hq hx hs => exact ⟨_, rfl, _, _, h, hq, hx, hs⟩
  · rintro ⟨x, rfl, negative, q, h, hq, hx, hs⟩
    exact .real h hq hx hs

namespace Schematic

theorem writes_between_iff (hd : s.typeDefinition t = .ok d) (he : d.shape.element? = some element) :
    s.Writes t (.array (before ++ raw :: after)) v ↔
      ∃ vs w vs', List.Forall₂ (s.Writes element) before vs ∧ s.Writes element raw w ∧
        List.Forall₂ (s.Writes element) after vs' ∧ .array t element (vs ++ w :: vs') = v := by
  rw [Shape.element?_eq_some_iff] at he
  rw [writes_array_iff]
  simp only [forall₂_append_left_iff, List.forall₂_cons_left_iff]
  constructor
  · rintro ⟨d', hd', element', he', _, ⟨vs, _, hvs, ⟨w, vs', hw, hvs', rfl⟩, rfl⟩, rfl⟩
    obtain rfl : d = d' := Except.ok.inj (hd.symm.trans hd')
    obtain rfl : element = element' := Shape.array.inj (he.symm.trans he')
    exact ⟨vs, w, vs', hvs, hw, hvs', rfl⟩
  · rintro ⟨vs, w, vs', hvs, hw, hvs', rfl⟩
    exact ⟨d, hd, element, he, _, ⟨vs, _, hvs, ⟨w, vs', hw, hvs', rfl⟩, rfl⟩, rfl⟩

theorem readsAlike_iff : s.ReadsAlike t depth n ↔ ∀ places, places.length = depth → ∀ v,
    (∃ j, parse n.text = .ok j ∧ s.Writes t (j.within places) v) ↔
      s.Writes t ((Json.string n.text).within places) v := by
  have hread (name : String) (raw : Json) (v : Value) :
      AttributeValue.readDeclared s (some t) name raw = .ok v ↔ s.Writes t raw v :=
    AttributeValue.read_eq_ok_iff s t name raw
  simp only [ReadsAlike, hread, forall_const]

theorem readsAlike_succ (hd : s.typeDefinition t = .ok d) (he : d.shape.element? = some element) :
    s.ReadsAlike t (depth + 1) n ↔ s.ReadsAlike element depth n := by
  rw [readsAlike_iff, readsAlike_iff]
  constructor
  · intro h places hplaces v
    have hsingle (j : Json) :
        s.Writes t (j.within (([], []) :: places)) (.array t element [v]) ↔
          s.Writes element (j.within places) v := by
      rw [Json.within, writes_between_iff hd he]
      simp
    simpa only [hsingle] using h (([], []) :: places) (congrArg Nat.succ hplaces) (.array t element [v])
  · rintro h (_ | ⟨⟨before, after⟩, places⟩) hplaces v
    · exact nomatch hplaces
    · have hitem := h places (Nat.succ.inj hplaces)
      simp only [Json.within, writes_between_iff hd he]
      constructor
      · rintro ⟨j, hj, vs, w, vs', hvs, hw, hvs', rfl⟩
        exact ⟨vs, w, vs', hvs, (hitem w).1 ⟨j, hj, hw⟩, hvs', rfl⟩
      · rintro ⟨vs, w, vs', hvs, hw, hvs', rfl⟩
        obtain ⟨j, hj, hwj⟩ := (hitem w).2 hw
        exact ⟨j, hj, vs, w, vs', hvs, hwj, hvs', rfl⟩

theorem readsAlike_of_elementAfter? (h : s.elementAfter? t depth = some u) :
    s.ReadsAlike t depth n ↔ s.ReadsAlike u 0 n := by
  induction depth generalizing t with
  | zero =>
    obtain rfl : t = u := Option.some.inj h
    exact Iff.rfl
  | succ depth ih =>
    obtain ⟨d, hd, element, he, h⟩ := elementAfter?_succ.1 h
    rw [readsAlike_succ hd he, ih h]

theorem readsAlike_zero_iff (hd : s.typeDefinition u = .ok d) : s.ReadsAlike u 0 n ↔
    ∀ v, (∃ j, parse n.text = .ok j ∧ d.shape.Writes j.scalarText v) ↔ d.shape.Writes n.text v := by
  have hwrites {j : Json} (hj : j.isScalar = true) (v : Value) :
      s.Writes u j v ↔ d.shape.Writes j.scalarText v := by
    rw [writes_scalar_iff hj]
    simp only [hd, Except.ok.injEq, exists_eq_left']
  have hscalar {j : Json} (h : parse n.text = .ok j) : j.isScalar = true := by
    obtain ⟨i, rfl⟩ | ⟨x, rfl⟩ := Literal.int_or_real_of_parse h
    · rfl
    · rfl
  have hsame (v : Value) : ((∃ j, parse n.text = .ok j ∧ s.Writes u (j.within []) v) ↔
      s.Writes u ((Json.string n.text).within []) v) ↔
      ((∃ j, parse n.text = .ok j ∧ d.shape.Writes j.scalarText v) ↔ d.shape.Writes n.text v) :=
    iff_congr (exists_congr fun j => and_congr_right fun hj => hwrites (hscalar hj) v) (hwrites rfl v)
  rw [readsAlike_iff]
  constructor
  · intro h v
    exact (hsame v).1 (h [] rfl v)
  · intro h places hplaces v
    obtain rfl := List.eq_nil_of_length_eq_zero hplaces
    exact (hsame v).2 (h v)

theorem forall_value_iff {α : Type} {f : α → Value} (hf : Function.Injective f)
    {P : String → α → Prop} {Q : String → Value → Prop}
    (hQ : ∀ text v, Q text v ↔ ∃ a, v = f a ∧ P text a) :
    (∀ v, (∃ j, parse n.text = .ok j ∧ Q j.scalarText v) ↔ Q n.text v) ↔
      ∀ a, (∃ j, parse n.text = .ok j ∧ P j.scalarText a) ↔ P n.text a := by
  have hvalue (text : String) (a : α) : Q text (f a) ↔ P text a := by
    rw [hQ]
    constructor
    · rintro ⟨b, hb, h⟩
      exact hf hb ▸ h
    · exact fun h => ⟨a, rfl, h⟩
  constructor
  · intro h a
    simpa only [hvalue] using h (f a)
  · intro h v
    simp only [hQ]
    constructor
    · rintro ⟨j, hj, a, rfl, ha⟩
      exact ⟨a, rfl, (h a).1 ⟨j, hj, ha⟩⟩
    · rintro ⟨a, rfl, ha⟩
      obtain ⟨j, hj, hja⟩ := (h a).2 ha
      exact ⟨j, hj, a, rfl, hja⟩

theorem readsAlike_int_iff (hu : s.elementAfter? t depth = some u) (hd : s.typeDefinition u = .ok d)
    (hshape : d.shape = .int) : s.ReadsAlike t depth n ↔ n.text ≠ "-0" := by
  rw [readsAlike_of_elementAfter? hu, readsAlike_zero_iff hd, hshape]
  have hvalues := forall_value_iff (n := n) (P := fun text i => IntText text.toList i.toInt)
    (Q := Shape.int.Writes) (fun _ _ => Value.int.inj) fun _ _ => Shape.writes_int_iff
  exact hvalues.trans Literal.printed_intText_iff

theorem readsAlike_real_iff (hu : s.elementAfter? t depth = some u) (hd : s.typeDefinition u = .ok d)
    (hshape : d.shape = .real) : s.ReadsAlike t depth n ↔
      (∃ i, parse n.text = .ok (.int i)) ∨ n.TakenForNearest := by
  rw [readsAlike_of_elementAfter? hu, readsAlike_zero_iff hd, hshape]
  have hvalues := forall_value_iff (n := n) (P := fun text x => readReal? text = some x)
    (Q := Shape.real.Writes) (fun _ _ => Value.real.inj) fun _ _ => Shape.writes_real_iff
  exact hvalues.trans Literal.printed_readReal?_iff

/--
A bare number is read as an integer like the string of its text, unless it is zero with a minus sign.
As a real it is read alike exactly when it is parsed as an integer or taken for the nearest double. So
are all numbers that fit a machine word, zeros, and numbers of few digits and a small power of ten.
-/
theorem readsAlike_exactly (s : Schematic) (t u : TypeId) (depth : Nat) (d : TypeDef) (n : Literal)
    (hu : s.elementAfter? t depth = some u) (hd : s.typeDefinition u = .ok d) :
    (d.shape = .int → (s.ReadsAlike t depth n ↔ n.text ≠ "-0")) ∧
      (d.shape = .real →
        (s.ReadsAlike t depth n ↔ (∃ i, parse n.text = .ok (.int i)) ∨ n.TakenForNearest) ∧
          (n.IsWhole ∨ n.significand = 0 ∨ n.IsShort → s.ReadsAlike t depth n)) := by
  refine ⟨fun hshape => readsAlike_int_iff hu hd hshape, fun hshape => ?_⟩
  have hreal := readsAlike_real_iff (n := n) hu hd hshape
  refine ⟨hreal, fun h => hreal.2 ?_⟩
  by_cases hwhole : n.IsWhole
  · exact Literal.exists_int_or_takenForNearest hwhole
  · obtain hzero | hshort := h.resolve_left hwhole
    · exact .inr (Literal.takenForNearest_of_zero hwhole hzero)
    · exact .inr (Literal.takenForNearest_of_short hwhole hshort)

theorem readsAlike_exactly_charts : charts.elementAfter? ⟨6⟩ 2 = some BaseType.real ∧
    charts.typeDefinition BaseType.real = .ok ⟨some BaseType.real, .real⟩ ∧
    charts.ReadsAlike ⟨6⟩ 2 .minusZero := by
  have hu : charts.elementAfter? ⟨6⟩ 2 = some BaseType.real := rfl
  have hd : charts.typeDefinition BaseType.real = .ok ⟨some BaseType.real, .real⟩ := rfl
  exact ⟨hu, hd, ((readsAlike_exactly _ _ _ _ _ _ hu hd).2 rfl).2 (.inr (.inl rfl))⟩

theorem numbers_read_apart : ¬(new "scales").ReadsAlike BaseType.int 0 .minusZero ∧
    parse "-0" = .ok (.real (-0.0)) ∧
    AttributeValue.readDeclared (new "scales") (some BaseType.int) "a" (.real (-0.0)) =
      .error (.invalidValue "a" "-0.0" "a signed 64-bit integer") ∧
    AttributeValue.readDeclared (new "scales") (some BaseType.int) "a" (.string "-0") = .ok (.int 0) ∧
    ¬(new "scales").ReadsAlike BaseType.real 0 .roundedTwice := by
  refine ⟨fun h => ?_, Literal.minus_zero_parsed, by rfl, by rfl, fun h => ?_⟩
  · exact (readsAlike_int_iff (u := BaseType.int) rfl rfl rfl).1 h rfl
  · obtain ⟨i, hi⟩ | hnearest := (readsAlike_real_iff (u := BaseType.real) rfl rfl rfl).1 h
    · exact nomatch Literal.parse_roundedTwice.symm.trans hi
    · exact Literal.not_takenForNearest_roundedTwice hnearest

end Schematic

end Schematics
