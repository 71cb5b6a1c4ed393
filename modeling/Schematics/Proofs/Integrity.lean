import Schematics.Proofs.Defects
import Schematics.Proofs.Growth
import Schematics.Proofs.InstanceChecks

namespace Schematics

namespace Schematic

variable {s s' : Schematic}

def Fits (s : Schematic) (owner : TypeId) (values : Attributes) : Prop :=
  ∃ declared, s.effectiveAttributes owner = .ok declared ∧ ∀ e ∈ values.entries, ∃ t,
    declared.get? e.1 = some t ∧ e.2.type? = some t

structure NodeFits (s : Schematic) (n : Node) : Prop where
  type : ∃ d, s.typeDefinition n.type = .ok d ∧ d.category = .node
  attributes : s.Fits n.type n.attributes
  ports : ∃ declared, s.effectivePorts n.type = .ok declared ∧ ∀ e ∈ n.ports.entries,
    declared.get? e.1 = some e.2.type ∧ s.Fits e.2.type e.2.attributes

structure ConnectionFits (s : Schematic) (k : Connection) : Prop where
  type : ∃ d, s.typeDefinition k.type = .ok d ∧ d.category = .connection
  attributes : s.Fits k.type k.attributes
  source : ∃ p, s.resolvePort k.source = .ok p
  target : ∃ p, s.resolvePort k.target = .ok p
  apart : k.source ≠ k.target
  verified : Defect.check k.defect? = .ok ()

structure ConstraintFits (s : Schematic) (k : Constraint) : Prop where
  type : ∃ d, s.typeDefinition k.type = .ok d ∧ d.category = .constraint
  attributes : s.Fits k.type k.attributes

structure Intact (s : Schematic) : Prop where
  nodes : ∀ id n, s.nodeById id = .ok n → s.NodeFits n
  connections : ∀ id k, s.connectionById id = .ok k → s.ConnectionFits k
  constraints : ∀ id k, s.constraintById id = .ok k → s.ConstraintFits k

theorem exists_typeDefinition_of_requireCategory {c : Category} {id : TypeId}
    (h : s.requireCategory c id = .ok ()) : ∃ d, s.typeDefinition id = .ok d ∧ d.category = c := by
  obtain ⟨d, hd, hc⟩ := requireCategory_eq_ok_iff.1 h
  exact ⟨d, typeDefinition_of_type? hd, hc⟩

theorem nodeFits_of_check {name : String} {n : Node} (h : s.checkNode name n = .ok ()) :
    s.NodeFits n := by
  obtain ⟨-, hc, ha, declared, hdeclared, hports⟩ := checkNode_eq_ok_iff.1 h
  refine ⟨exists_typeDefinition_of_requireCategory hc, checkAttributes_eq_ok_iff.1 ha, declared,
    hdeclared, fun e he => ?_⟩
  obtain ⟨hport, hvalues⟩ := checkPorts_eq_ok_iff.1 hports e he
  exact ⟨hport, checkAttributes_eq_ok_iff.1 hvalues⟩

theorem connectionFits_of_check {name : String} {k : Connection}
    (h : s.checkConnection name k = .ok ()) : s.ConnectionFits k := by
  obtain ⟨-, hc, ha, hsource, htarget, hd⟩ := checkConnection_eq_ok_iff.1 h
  obtain ⟨hapart, -⟩ := Connection.defect?_eq_none_iff.1 hd
  exact ⟨exists_typeDefinition_of_requireCategory hc, checkAttributes_eq_ok_iff.1 ha, hsource,
    htarget, hapart, Defect.check_eq_ok_iff.2 hd⟩

theorem constraintFits_of_check {name : String} {k : Constraint}
    (h : s.checkConstraint name k = .ok ()) : s.ConstraintFits k := by
  obtain ⟨-, hc, ha⟩ := checkConstraint_eq_ok_iff.1 h
  exact ⟨exists_typeDefinition_of_requireCategory hc, checkAttributes_eq_ok_iff.1 ha⟩

namespace Grows

theorem typeDefinition (h : s.Grows s') {c : Category} {id : TypeId}
    (hd : ∃ d, s.typeDefinition id = .ok d ∧ d.category = c) :
    ∃ d, s'.typeDefinition id = .ok d ∧ d.category = c := by
  obtain ⟨d, hd, hc⟩ := hd
  exact ⟨d, typeDefinition_of_type? (h.types id d (typeDefinition_eq_ok_iff.1 hd)), hc⟩

theorem fits (h : s.Grows s') (hs : s.Grounded) (hs' : s'.Grounded) {owner : TypeId}
    {values : Attributes} (hf : s.Fits owner values) : s'.Fits owner values := by
  obtain ⟨declared, hdeclared, hvalues⟩ := hf
  exact ⟨declared, h.toKeepsTypes.effectiveAttributes hs hs' hdeclared, hvalues⟩

theorem nodeFits (h : s.Grows s') (hs : s.Grounded) (hs' : s'.Grounded) {n : Node}
    (hn : s.NodeFits n) : s'.NodeFits n := by
  obtain ⟨declared, hdeclared, hports⟩ := hn.ports
  refine ⟨h.typeDefinition hn.type, h.fits hs hs' hn.attributes, declared,
    h.toKeepsTypes.effectivePorts hs hs' hdeclared, fun e he => ?_⟩
  exact ⟨(hports e he).1, h.fits hs hs' (hports e he).2⟩

theorem connectionFits (h : s.Grows s') (hs : s.Grounded) (hs' : s'.Grounded) {k : Connection}
    (hk : s.ConnectionFits k) : s'.ConnectionFits k := by
  have hresolves {r : PortRef} (hr : ∃ p, s.resolvePort r = .ok p) :
      ∃ p, s'.resolvePort r = .ok p := by
    obtain ⟨p, hp⟩ := hr
    exact ⟨p, h.resolvePort hp⟩
  exact ⟨h.typeDefinition hk.type, h.fits hs hs' hk.attributes, hresolves hk.source,
    hresolves hk.target, hk.apart, hk.verified⟩

theorem constraintFits (h : s.Grows s') (hs : s.Grounded) (hs' : s'.Grounded) {k : Constraint}
    (hk : s.ConstraintFits k) : s'.ConstraintFits k :=
  ⟨h.typeDefinition hk.type, h.fits hs hs' hk.attributes⟩

end Grows

theorem Intact.record (h : s.Intact) {i : Item} (hs : s.Grounded) (hs' : (s.record i).Grounded)
    (hi : s.check i = .ok ()) : (s.record i).Intact := by
  have hg := s.grows_record i
  have hnode {n : Node} := hg.nodeFits (n := n) hs hs'
  have hconnection {k : Connection} := hg.connectionFits (k := k) hs hs'
  have hconstraint {k : Constraint} := hg.constraintFits (k := k) hs hs'
  refine ⟨fun id n hn => ?_, fun id k hk => ?_, fun id k hk => ?_⟩
  · cases i with
    | type name shape => exact hnode (h.nodes id n hn)
    | connection name k => exact hnode (h.nodes id n hn)
    | constraint name k => exact hnode (h.nodes id n hn)
    | node name new =>
      obtain hn | ⟨-, rfl⟩ := value_insert_eq_ok_iff.1 hn
      · exact hnode (h.nodes id n hn)
      · exact hnode (nodeFits_of_check hi)
  · cases i with
    | type name shape => exact hconnection (h.connections id k hk)
    | node name n => exact hconnection (h.connections id k hk)
    | constraint name k => exact hconnection (h.connections id _ hk)
    | connection name new =>
      obtain hk | ⟨-, rfl⟩ := value_insert_eq_ok_iff.1 hk
      · exact hconnection (h.connections id k hk)
      · exact hconnection (connectionFits_of_check hi)
  · cases i with
    | type name shape => exact hconstraint (h.constraints id k hk)
    | node name n => exact hconstraint (h.constraints id k hk)
    | connection name k => exact hconstraint (h.constraints id _ hk)
    | constraint name new =>
      obtain hk | ⟨-, rfl⟩ := value_insert_eq_ok_iff.1 hk
      · exact hconstraint (h.constraints id k hk)
      · exact hconstraint (constraintFits_of_check hi)

theorem Built.intact (h : s.Built) : s.Intact := by
  induction h with
  | blank name =>
    refine ⟨fun id n hn => ?_, fun id k hk => ?_, fun id k hk => ?_⟩
    · obtain ⟨symbol, he⟩ := value_eq_ok_iff.1 hn
      exact nomatch (Arena.get?_empty id).symm.trans he
    · obtain ⟨symbol, he⟩ := value_eq_ok_iff.1 hk
      exact nomatch (Arena.get?_empty id).symm.trans he
    · obtain ⟨symbol, he⟩ := value_eq_ok_iff.1 hk
      exact nomatch (Arena.get?_empty id).symm.trans he
  | record hb hi ih => exact ih.record hb.grounded (hb.record hi).grounded hi

end Schematic

end Schematics
