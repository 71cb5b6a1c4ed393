import Schematics.Proofs.Locality
import Schematics.Proofs.TypeRefusals

namespace Schematics

inductive Registration.TypeRefused (s : Schematic) (r : Registration) (name : String)
    (shape : Shape) : Fault → Prop where
  | kind (hk : ¬r.WellKinded) : TypeRefused s r name shape
      (.typeMismatch s!"user-defined type `{name}`" "scalar or array type" shape.category.text)
  | type {f : Fault} (hk : r.WellKinded) (h : shape.Refused s name f) : TypeRefused s r name shape f

namespace Schematic

variable {s : Schematic} {r : Registration} {name : String} {shape : Shape}

theorem addType_eq_error_iff {f : Fault} :
    s.addType name shape = .error f ↔ s.checkType name shape = .error f := by
  rw [addType, bind_eq_error_iff]
  apply or_iff_left
  rintro ⟨_, _, h⟩
  cases h

theorem addUserDefinedType_eq_error_iff {f : Fault} : s.addUserDefinedType name shape = .error f ↔
    (shape.category ≠ .userDefined ∧ f = .typeMismatch s!"user-defined type `{name}`"
      "scalar or array type" shape.category.text) ∨
    (shape.category = .userDefined ∧ s.checkType name shape = .error f) := by
  by_cases hc : shape.category = .userDefined
  · rw [addUserDefinedType, if_pos hc, addType_eq_error_iff]
    simp only [hc, ne_eq, not_true, false_and, true_and, false_or]
  · rw [addUserDefinedType, if_neg hc, Except.error.injEq]
    simp only [hc, ne_eq, not_false_eq_true, true_and, false_and, or_false, eq_comm]

theorem Grounded.typeRefused (h : s.Grounded) (hr : r.item = .type name shape) {f : Fault}
    (hf : s.register r = .error f) : r.TypeRefused s name shape f := by
  cases r with
  | userDefinedType _ _ =>
    obtain ⟨rfl, rfl⟩ := Item.type.inj hr
    obtain ⟨hk, rfl⟩ | ⟨hk, hf⟩ := addUserDefinedType_eq_error_iff.1 (map_eq_error_iff.1 hf)
    · exact .kind hk
    · exact .type hk (h.refused_of_checkType hf)
  | portType _ _ | nodeType _ _ | connectionType _ _ | constraintType _ _ =>
    obtain ⟨rfl, rfl⟩ := Item.type.inj hr
    have hcheck := addType_eq_error_iff.1 (map_eq_error_iff.1 hf)
    exact .type trivial (h.refused_of_checkType hcheck)
  | node _ _ | connection _ _ | constraint _ _ => exact nomatch hr

/--
A type is registered exactly when it is of a kind that is asked for, its name is new, each type that
it mentions is registered in the category of its place, and what it declares again is as inherited.
It then has the next handle, and nothing that does not concern it is answered differently. Otherwise
the fault is that of the first of these conditions that does not hold.
-/
theorem Reachable.register_type (h : s.Reachable) (hr : r.item = .type name shape) :
    ((∃ made s', s.register r = .ok (made, s')) ↔ r.WellKinded ∧ (∀ id, s.typeId name ≠ .ok id) ∧
      (∀ t c, shape.Mentions t c → s.IsType c t) ∧
      ∀ parent, shape.supertype = some parent → s.Extends shape parent) ∧
    (∀ made s', s.register r = .ok (made, s') →
      made = ⟨.type, ⟨s.typeCount + 1⟩⟩ ∧ s.Adds s' (.type name shape) made) ∧
    ∀ f, s.register r = .error f → r.TypeRefused s name shape f := by
  have hb := h.built
  refine ⟨?_, fun made s' hok => ?_, fun f => hb.grounded.typeRefused hr⟩
  · have hcheck : s.check r.item = .ok () ↔ (∀ id, s.typeId name ≠ .ok id) ∧
        (∀ t c, shape.Mentions t c → s.IsType c t) ∧
        ∀ parent, shape.supertype = some parent → s.Extends shape parent := by
      simp only [hr, check, checkType_eq_ok_iff, requireCategory_eq_ok_iff_isType,
        forall_typeId_ne_iff]
    rw [← hcheck]
    constructor
    · rintro ⟨made, s', hok⟩
      obtain ⟨hk, hi, -, -⟩ := register_eq_ok_iff.1 hok
      exact ⟨hk, hi⟩
    · rintro ⟨hk, hi⟩
      exact ⟨_, _, register_eq_ok_iff.2 ⟨hk, hi, rfl, rfl⟩⟩
  · have hmade := (register_eq_ok_iff.1 hok).2.2.1
    rw [hr] at hmade
    exact ⟨hmade, hr ▸ hb.adds_of_register hok⟩

def kilns : Schematic :=
  (new "kilns").run
    [.userDefinedType "Curve" (.array BaseType.real),
      .portType "Flue" {},
      .nodeType "Kiln" { attributes := .ofList [("curve", ⟨5⟩)], ports := .ofList [("out", ⟨6⟩)] }]

theorem register_type_kilns :
    let g : NodeSignature := { supertype := some ⟨7⟩, ports := .ofList [("out", ⟨6⟩)] }
    let bad : NodeSignature := { supertype := some ⟨6⟩ }
    kilns.Reachable ∧
    kilns.Adds (kilns.recordType "Oven" (.node g)) (.type "Oven" (.node g)) ⟨.type, ⟨8⟩⟩ ∧
    Registration.TypeRefused kilns (.nodeType "Kiln" bad) "Kiln" (.node bad)
      (.multipleDefinition "Kiln") ∧
    Registration.TypeRefused kilns (.nodeType "Oven" bad) "Oven" (.node bad)
      (.undeclared .nodeType "#6") := by
  intro g bad
  have h : kilns.Reachable := ⟨_, _, rfl⟩
  have hok : kilns.register (.nodeType "Oven" g) =
      .ok (⟨.type, ⟨8⟩⟩, kilns.recordType "Oven" (.node g)) := rfl
  have htaken : kilns.register (.nodeType "Kiln" bad) = .error (.multipleDefinition "Kiln") := rfl
  have hflue : kilns.register (.nodeType "Oven" bad) = .error (.undeclared .nodeType "#6") := rfl
  obtain ⟨-, hadds, -⟩ := Reachable.register_type h (r := .nodeType "Oven" g) rfl
  obtain ⟨-, -, hkiln⟩ := Reachable.register_type h (r := .nodeType "Kiln" bad) rfl
  obtain ⟨-, -, hoven⟩ := Reachable.register_type h (r := .nodeType "Oven" bad) rfl
  exact ⟨h, (hadds _ _ hok).2, hkiln _ htaken, hoven _ hflue⟩

end Schematic

end Schematics
