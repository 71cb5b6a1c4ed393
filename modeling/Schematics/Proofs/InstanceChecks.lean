import Schematics.Proofs.Registration

namespace Schematics

namespace Schematic

variable {s : Schematic}

theorem forall_instanceId_ne_iff {κ : Kind} {α : Type} {t : InstanceTable κ α} {space : Namespace}
    {name : String} :
    (∀ id, s.instanceId t space name ≠ .ok id) ↔ s.find? t.byName name = none := by
  unfold instanceId
  cases s.find? t.byName name <;> simp

theorem checkAttributes_eq_ok_iff {owner : TypeId} {values : Attributes} :
    s.checkAttributes owner values = .ok () ↔ ∃ declared,
      s.effectiveAttributes owner = .ok declared ∧ ∀ e ∈ values.entries, ∃ t,
        declared.get? e.1 = some t ∧ e.2.type? = some t := by
  simp only [checkAttributes, bind_eq_ok_iff, forM_eq_ok_iff]
  refine exists_congr fun declared => and_congr_right fun _ => forall₂_congr fun e _ => ?_
  cases declared.get? e.1 with
  | none => simp
  | some expected => by_cases ht : e.2.type? = some expected <;> simp [ht]

theorem checkPorts_eq_ok_iff {name : String} {declared : NameMap TypeId} {ports : NameMap Port} :
    s.checkPorts name declared ports = .ok () ↔ ∀ e ∈ ports.entries,
      declared.get? e.1 = some e.2.type ∧ s.checkAttributes e.2.type e.2.attributes = .ok () := by
  rw [checkPorts, forM_eq_ok_iff]
  apply forall₂_congr
  intro e _
  cases declared.get? e.1 with
  | none => simp
  | some expected =>
    by_cases ht : e.2.type = expected
    · simp [ht]
    · simp [ht, Ne.symm ht]

theorem checkNode_eq_ok_iff {name : String} {n : Node} : s.checkNode name n = .ok () ↔
    s.find? s.nodes.byName name = none ∧ s.requireCategory .node n.type = .ok () ∧
      s.checkAttributes n.type n.attributes = .ok () ∧ ∃ declared,
        s.effectivePorts n.type = .ok declared ∧ s.checkPorts name declared n.ports = .ok () := by
  simp only [checkNode, guard_eq_ok_iff, Option.not_isSome_iff_eq_none, bind_eq_ok_iff,
    exists_unit_iff]

theorem portOf_eq_ok_iff {n : Node} {port : String} {p : Port} :
    portOf n port = .ok p ↔ n.ports.get? port = some p := by
  unfold portOf
  cases n.ports.get? port <;> simp

theorem checkConnection_eq_ok_iff {name : String} {k : Connection} :
    s.checkConnection name k = .ok () ↔ s.find? s.connections.byName name = none ∧
      s.requireCategory .connection k.type = .ok () ∧
        s.checkAttributes k.type k.attributes = .ok () ∧ (∃ p, s.resolvePort k.source = .ok p) ∧
          (∃ p, s.resolvePort k.target = .ok p) ∧ k.defect? = none := by
  have hdefect : Defect.check (k.defect?.map (.inside s!"connection `{name}`")) = .ok () ↔
      k.defect? = none := by
    cases k.defect? <;> simp [Defect.check]
  simp only [checkConnection, guard_eq_ok_iff, Option.not_isSome_iff_eq_none, bind_eq_ok_iff,
    exists_unit_iff, hdefect]
  constructor
  · rintro ⟨hnew, hc, ha, p, hp, q, hq, hd⟩
    exact ⟨hnew, hc, ha, ⟨p, hp⟩, ⟨q, hq⟩, hd⟩
  · rintro ⟨hnew, hc, ha, ⟨p, hp⟩, ⟨q, hq⟩, hd⟩
    exact ⟨hnew, hc, ha, p, hp, q, hq, hd⟩

theorem checkConstraint_eq_ok_iff {name : String} {k : Constraint} :
    s.checkConstraint name k = .ok () ↔ s.find? s.constraints.byName name = none ∧
      s.requireCategory .constraint k.type = .ok () ∧
        s.checkAttributes k.type k.attributes = .ok () := by
  simp only [checkConstraint, guard_eq_ok_iff, Option.not_isSome_iff_eq_none, bind_eq_ok_iff,
    exists_unit_iff]

end Schematic

end Schematics
