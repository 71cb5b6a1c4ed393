import Schematics.Proofs.Success
import Schematics.Schematic.Verify

namespace Schematics

theorem itemDefect?_eq_none_iff {element : TypeId} {items : List Value} {index : Nat} :
    itemDefect? element index items = none ↔
      ∀ v ∈ items, v.type? = some element ∧ v.defect? = none := by
  induction items generalizing index with
  | nil => simp [itemDefect?]
  | cons v rest ih =>
    rw [itemDefect?, List.forall_mem_cons]
    by_cases ht : v.type? = some element
    · rw [if_pos ht, Option.or_eq_none_iff, ih, and_iff_right ht]
    · simp [ht]

theorem attributeDefect?_eq_none_iff (owner : String) {entries : List (String × Value)} :
    attributeDefect? owner entries = none ↔ ∀ e ∈ entries, e.2.defect? = none := by
  induction entries with
  | nil => simp [attributeDefect?]
  | cons e rest ih =>
    rw [attributeDefect?, Option.or_eq_none_iff, Option.map_eq_none_iff, ih, List.forall_mem_cons]

theorem Port.defect?_eq_none_iff {p : Port} :
    p.defect? = none ↔ ∀ e ∈ p.attributes.entries, e.2.defect? = none :=
  attributeDefect?_eq_none_iff "port"

theorem portDefect?_eq_none_iff {entries : List (String × Port)} :
    portDefect? entries = none ↔ ∀ e ∈ entries, Port.defect? e.2 = none := by
  induction entries with
  | nil => simp [portDefect?]
  | cons e rest ih =>
    rw [portDefect?, Option.or_eq_none_iff, Option.map_eq_none_iff, ih, List.forall_mem_cons]
    rfl

theorem Node.defect?_eq_none_iff {n : Node} : n.defect? = none ↔
    (∀ e ∈ n.attributes.entries, e.2.defect? = none) ∧
      ∀ e ∈ n.ports.entries, Port.defect? e.2 = none := by
  rw [← attributeDefect?_eq_none_iff "node", ← portDefect?_eq_none_iff]
  exact Option.or_eq_none_iff

theorem Connection.defect?_eq_none_iff {k : Connection} : k.defect? = none ↔
    k.source ≠ k.target ∧ ∀ e ∈ k.attributes.entries, e.2.defect? = none := by
  have hunfold : k.defect? = if k.source = k.target then some (.selfConnection k.source)
      else attributeDefect? "connection" k.attributes.entries := rfl
  rw [hunfold]
  by_cases h : k.source = k.target
  · simp [h]
  · rw [if_neg h, attributeDefect?_eq_none_iff]
    simp [h]

theorem Constraint.defect?_eq_none_iff {k : Constraint} :
    k.defect? = none ↔ ∀ e ∈ k.attributes.entries, e.2.defect? = none :=
  attributeDefect?_eq_none_iff "constraint"

theorem Defect.check_eq_ok_iff {d : Option Defect} : Defect.check d = .ok () ↔ d = none := by
  cases d <;> simp [Defect.check]

namespace Schematic

universe u

variable {s : Schematic}

theorem instanceDefect?_eq_none_iff {κ : Kind} {α : Type u} {t : InstanceTable κ α} {what : String}
    {defect? : α → Option Defect} :
    s.instanceDefect? t what defect? = none ↔ ∀ e ∈ t.items.values, defect? e.value = none := by
  simp only [instanceDefect?, List.findSome?_eq_none_iff, Option.map_eq_none_iff]

theorem verify_eq_ok_iff : s.verify = .ok () ↔
    (∀ e ∈ s.nodes.items.values, e.value.defect? = none) ∧
      (∀ e ∈ s.connections.items.values, e.value.defect? = none) ∧
        ∀ e ∈ s.constraints.items.values, e.value.defect? = none := by
  rw [verify, Defect.check_eq_ok_iff, defect?, Option.or_eq_none_iff, Option.or_eq_none_iff,
    instanceDefect?_eq_none_iff, instanceDefect?_eq_none_iff, instanceDefect?_eq_none_iff, and_assoc]

end Schematic

end Schematics
