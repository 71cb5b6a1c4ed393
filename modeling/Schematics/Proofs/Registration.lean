import Schematics.Proofs.Success
import Schematics.Schematic.Register

namespace Schematics

inductive Item where
  | type (name : String) (shape : Shape)
  | node (name : String) (n : Node)
  | connection (name : String) (c : Connection)
  | constraint (name : String) (c : Constraint)

inductive Registration where
  | userDefinedType (name : String) (shape : Shape)
  | portType (name : String) (g : Signature)
  | nodeType (name : String) (g : NodeSignature)
  | connectionType (name : String) (g : Signature)
  | constraintType (name : String) (g : Signature)
  | node (name : String) (n : Node)
  | connection (name : String) (c : Connection)
  | constraint (name : String) (c : Constraint)

namespace Registration

def item : Registration → Item
  | .userDefinedType name shape => .type name shape
  | .portType name g => .type name (.port g)
  | .nodeType name g => .type name (.node g)
  | .connectionType name g => .type name (.connection g)
  | .constraintType name g => .type name (.constraint g)
  | .node name n => .node name n
  | .connection name c => .connection name c
  | .constraint name c => .constraint name c

def WellKinded : Registration → Prop
  | .userDefinedType _ shape => shape.category = .userDefined
  | _ => True

end Registration

abbrev Issued := (κ : Kind) × Handle κ

namespace Schematic

def check (s : Schematic) : Item → Except Fault Unit
  | .type name shape => s.checkType name shape
  | .node name n => s.checkNode name n
  | .connection name c => s.checkConnection name c
  | .constraint name c => s.checkConstraint name c

def record (s : Schematic) : Item → Schematic
  | .type name shape => s.recordType name shape
  | .node name n => s.recordNode name n
  | .connection name c => s.recordConnection name c
  | .constraint name c => s.recordConstraint name c

def nextFor (s : Schematic) : Item → Issued
  | .type _ _ => ⟨.type, s.types.next⟩
  | .node _ _ => ⟨.node, s.nodes.items.next⟩
  | .connection _ _ => ⟨.connection, s.connections.items.next⟩
  | .constraint _ _ => ⟨.constraint, s.constraints.items.next⟩

def issued (κ : Kind) (r : Handle κ × Schematic) : Issued × Schematic := (⟨κ, r.1⟩, r.2)

def register (s : Schematic) : Registration → Except Fault (Issued × Schematic)
  | .userDefinedType name shape => issued .type <$> s.addUserDefinedType name shape
  | .portType name g => issued .type <$> s.addPortType name g
  | .nodeType name g => issued .type <$> s.addNodeType name g
  | .connectionType name g => issued .type <$> s.addConnectionType name g
  | .constraintType name g => issued .type <$> s.addConstraintType name g
  | .node name n => issued .node <$> s.addNode name n
  | .connection name c => issued .connection <$> s.addConnection name c
  | .constraint name c => issued .constraint <$> s.addConstraint name c

theorem addType_eq_ok_iff {s s' : Schematic} {name : String} {shape : Shape} {id : TypeId} :
    s.addType name shape = .ok (id, s') ↔
      s.checkType name shape = .ok () ∧ id = s.types.next ∧ s' = s.recordType name shape := by
  simp only [addType, bind_eq_ok_iff, pure_eq_ok, Except.ok.injEq, Prod.mk.injEq]
  exact ⟨fun ⟨_, h, hid, hs⟩ => ⟨h, hid.symm, hs.symm⟩, fun ⟨h, hid, hs⟩ => ⟨_, h, hid.symm, hs.symm⟩⟩

theorem addUserDefinedType_eq_ok_iff {s s' : Schematic} {name : String} {shape : Shape}
    {id : TypeId} : s.addUserDefinedType name shape = .ok (id, s') ↔
      shape.category = .userDefined ∧ s.addType name shape = .ok (id, s') := by
  by_cases h : shape.category = .userDefined <;> simp [addUserDefinedType, h]

def addShape (s : Schematic) (name : String) (shape : Shape) : Except Fault (TypeId × Schematic) :=
  match shape with
  | .port g => s.addPortType name g
  | .node g => s.addNodeType name g
  | .connection g => s.addConnectionType name g
  | .constraint g => s.addConstraintType name g
  | shape => s.addUserDefinedType name shape

theorem addShape_eq (s : Schematic) (name : String) (shape : Shape) :
    s.addShape name shape = s.addType name shape := by
  cases shape <;> rfl

theorem addNode_eq_ok_iff {s s' : Schematic} {name : String} {n : Node} {id : NodeId} :
    s.addNode name n = .ok (id, s') ↔
      s.checkNode name n = .ok () ∧ id = s.nodes.items.next ∧ s' = s.recordNode name n := by
  simp only [addNode, bind_eq_ok_iff, pure_eq_ok, Except.ok.injEq, Prod.mk.injEq]
  exact ⟨fun ⟨_, h, hid, hs⟩ => ⟨h, hid.symm, hs.symm⟩, fun ⟨h, hid, hs⟩ => ⟨_, h, hid.symm, hs.symm⟩⟩

theorem addConnection_eq_ok_iff {s s' : Schematic} {name : String} {c : Connection}
    {id : ConnectionId} : s.addConnection name c = .ok (id, s') ↔
      s.checkConnection name c = .ok () ∧ id = s.connections.items.next ∧
        s' = s.recordConnection name c := by
  simp only [addConnection, bind_eq_ok_iff, pure_eq_ok, Except.ok.injEq, Prod.mk.injEq]
  exact ⟨fun ⟨_, h, hid, hs⟩ => ⟨h, hid.symm, hs.symm⟩, fun ⟨h, hid, hs⟩ => ⟨_, h, hid.symm, hs.symm⟩⟩

theorem addConstraint_eq_ok_iff {s s' : Schematic} {name : String} {c : Constraint}
    {id : ConstraintId} : s.addConstraint name c = .ok (id, s') ↔
      s.checkConstraint name c = .ok () ∧ id = s.constraints.items.next ∧
        s' = s.recordConstraint name c := by
  simp only [addConstraint, bind_eq_ok_iff, pure_eq_ok, Except.ok.injEq, Prod.mk.injEq]
  exact ⟨fun ⟨_, h, hid, hs⟩ => ⟨h, hid.symm, hs.symm⟩, fun ⟨h, hid, hs⟩ => ⟨_, h, hid.symm, hs.symm⟩⟩

theorem register_eq_ok_iff {s s' : Schematic} {r : Registration} {h : Issued} :
    s.register r = .ok (h, s') ↔
      r.WellKinded ∧ s.check r.item = .ok () ∧ h = s.nextFor r.item ∧ s' = s.record r.item := by
  have hmap {κ : Kind} {x : Except Fault (Handle κ × Schematic)} :
      issued κ <$> x = .ok (h, s') ↔ ∃ id, x = .ok (id, s') ∧ h = ⟨κ, id⟩ := by
    rw [map_eq_ok_iff]
    constructor
    · rintro ⟨⟨id, t⟩, hx, he⟩
      obtain ⟨rfl, rfl⟩ := Prod.mk.inj he
      exact ⟨id, hx, rfl⟩
    · rintro ⟨id, hx, rfl⟩
      exact ⟨(id, s'), hx, rfl⟩
  cases r <;>
    simp only [register, hmap, addUserDefinedType_eq_ok_iff, addPortType, addNodeType,
      addConnectionType, addConstraintType, addType_eq_ok_iff, addNode_eq_ok_iff,
      addConnection_eq_ok_iff, addConstraint_eq_ok_iff, Registration.WellKinded,
      Registration.item, check, nextFor, record, and_assoc, exists_and_left, exists_eq_left,
      true_and, and_comm (a := h = _)]

def attempt (s : Schematic) (r : Registration) : Schematic :=
  match s.register r with
  | .ok (_, s') => s'
  | .error _ => s

def run (s : Schematic) (rs : List Registration) : Schematic := rs.foldl attempt s

def accepted (s : Schematic) : List Registration → List Item
  | [] => []
  | r :: rest =>
    match s.register r with
    | .ok (_, s') => r.item :: s'.accepted rest
    | .error _ => s.accepted rest

def Reachable (s : Schematic) : Prop := ∃ name rs, s = (new name).run rs

inductive Built : Schematic → Prop where
  | blank (name : String) : Built { name := name }
  | record {s : Schematic} {i : Item} (h : Built s) (hi : s.check i = .ok ()) : Built (s.record i)

theorem find?_of_checkType {s : Schematic} {name : String} {shape : Shape}
    (h : s.checkType name shape = .ok ()) : s.find? s.typeNames name = none := by
  simp only [checkType, guard_eq_ok_iff] at h
  simpa using h.1

theorem find?_of_checkNode {s : Schematic} {name : String} {n : Node}
    (h : s.checkNode name n = .ok ()) : s.find? s.nodes.byName name = none := by
  simp only [checkNode, guard_eq_ok_iff] at h
  simpa using h.1

theorem find?_of_checkConnection {s : Schematic} {name : String} {c : Connection}
    (h : s.checkConnection name c = .ok ()) : s.find? s.connections.byName name = none := by
  simp only [checkConnection, guard_eq_ok_iff] at h
  simpa using h.1

theorem find?_of_checkConstraint {s : Schematic} {name : String} {c : Constraint}
    (h : s.checkConstraint name c = .ok ()) : s.find? s.constraints.byName name = none := by
  simp only [checkConstraint, guard_eq_ok_iff] at h
  simpa using h.1

theorem checkType_scalar {s : Schematic} {name : String} {shape : Shape} (hs : shape.isScalar = true)
    (h : s.find? s.typeNames name = none) : s.checkType name shape = .ok () := by
  cases shape with
  | bool | int | string | real =>
    simp only [checkType, h]
    rfl
  | _ => exact absurd hs Bool.false_ne_true

theorem built_new (name : String) : (new name).Built := by
  have hstep {s : Schematic} (hs : s.Built) (other : String) (shape : Shape)
      (hshape : shape.isScalar = true) (hnew : s.find? s.typeNames other = none) :
      (s.recordType other shape).Built :=
    hs.record (i := .type other shape) (checkType_scalar hshape hnew)
  have hbool := hstep (.blank name) "Bool" .bool rfl rfl
  have hint := hstep hbool "Int" .int rfl rfl
  have hstring := hstep hint "String" .string rfl rfl
  exact hstep hstring "Real" .real rfl rfl

theorem Built.run {s : Schematic} (h : s.Built) (rs : List Registration) : (s.run rs).Built := by
  induction rs generalizing s with
  | nil => exact h
  | cons r rest ih =>
    refine ih ?_
    rw [attempt]
    split
    · next issued s' hr =>
      obtain ⟨-, hi, -, rfl⟩ := register_eq_ok_iff.1 hr
      exact h.record hi
    · exact h

theorem Reachable.built {s : Schematic} (h : s.Reachable) : s.Built := by
  obtain ⟨name, rs, rfl⟩ := h
  exact (built_new name).run rs

end Schematic

end Schematics
